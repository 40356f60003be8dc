import RecordComparison.Container
import RecordComparison.Description
import RecordComparison.Leaves

/-!
Two records with a fixed layout, and the descriptions of their layouts. One holds a single
integer; the other has a truth field of every rank and storage.
-/
namespace RecordComparison

structure IntegerRecord where
  a : Int32
deriving DecidableEq

namespace IntegerRecord

def initial : IntegerRecord := ⟨0⟩

def fields : List (Comparable.Field IntegerRecord) := [{ name := "a", get := (·.a) }]

instance : Comparable IntegerRecord := Comparable.ofFields fields

instance : BEq IntegerRecord := ⟨Comparable.equal⟩

def description : Description := ⟨"my", [⟨"a", .int, 0, .value⟩]⟩

end IntegerRecord

structure TruthRecord where
  i0 : Bool
  ip0 : Option Bool
  ia0 : Option Bool
  i1 : List Bool
  ip1 : Option (List Bool)
  ia1 : Option (List Bool)
  i2 : Matrix Bool
  ip2 : Option (Matrix Bool)
  ia2 : Option (Matrix Bool)
  i3 : Tensor Bool
  ip3 : Option (Tensor Bool)
  ia3 : Option (Tensor Bool)
deriving DecidableEq

namespace TruthRecord

/-- Everything false; the fields that may be absent are. -/
def initial : TruthRecord where
  i0 := false
  ip0 := none
  ia0 := none
  i1 := filledArray false 3
  ip1 := none
  ia1 := none
  i2 := filledMatrix false 3 2
  ip2 := none
  ia2 := none
  i3 := filledTensor false 3 2 1
  ip3 := none
  ia3 := none

def fields : List (Comparable.Field TruthRecord) := [
  { name := "i0", get := (·.i0) },
  { name := "ip0", get := (·.ip0) },
  { name := "ia0", get := (·.ia0) },
  { name := "i1", get := (·.i1) },
  { name := "ip1", get := (·.ip1) },
  { name := "ia1", get := (·.ia1) },
  { name := "i2", get := (·.i2) },
  { name := "ip2", get := (·.ip2) },
  { name := "ia2", get := (·.ia2) },
  { name := "i3", get := (·.i3) },
  { name := "ip3", get := (·.ip3) },
  { name := "ia3", get := (·.ia3) }]

instance : Comparable TruthRecord := Comparable.ofFields fields

instance : BEq TruthRecord := ⟨Comparable.equal⟩

def description : Description where
  name := "ttt"
  fields := [
    ⟨"i0", .bool, 0, .value⟩,
    ⟨"ip0", .bool, 0, .pointer⟩,
    ⟨"ia0", .bool, 0, .allocatable⟩,
    ⟨"i1", .bool, 1, .value⟩,
    ⟨"ip1", .bool, 1, .pointer⟩,
    ⟨"ia1", .bool, 1, .allocatable⟩,
    ⟨"i2", .bool, 2, .value⟩,
    ⟨"ip2", .bool, 2, .pointer⟩,
    ⟨"ia2", .bool, 2, .allocatable⟩,
    ⟨"i3", .bool, 3, .value⟩,
    ⟨"ip3", .bool, 3, .pointer⟩,
    ⟨"ia3", .bool, 3, .allocatable⟩]

end TruthRecord

end RecordComparison
