import RecordComparison.Comparable
import RecordComparison.Complex
import RecordComparison.Text.Quoted

/-!
The leaf types: truth values, characters, texts, integers of every width, floating-point
and complex numbers.
-/
namespace RecordComparison

def truthText (b : Bool) : String := if b then "true" else "false"

instance : Leaf Bool := ⟨truthText⟩
instance : Leaf Char := ⟨quotedChar⟩
instance : Leaf String := ⟨quotedText⟩

instance : Leaf Int8 := ⟨fun n => toString n.toInt⟩
instance : Leaf Int16 := ⟨fun n => toString n.toInt⟩
instance : Leaf Int32 := ⟨fun n => toString n.toInt⟩
instance : Leaf Int64 := ⟨fun n => toString n.toInt⟩
instance : Leaf UInt8 := ⟨fun n => toString n.toNat⟩
instance : Leaf UInt16 := ⟨fun n => toString n.toNat⟩
instance : Leaf UInt32 := ⟨fun n => toString n.toNat⟩
instance : Leaf UInt64 := ⟨fun n => toString n.toNat⟩

instance {f : BinaryFormat} : Leaf (Binary f) := ⟨Binary.text .report⟩
instance : Leaf Complex := ⟨Complex.reportText⟩

end RecordComparison
