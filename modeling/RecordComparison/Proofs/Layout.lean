import RecordComparison.Record
import RecordComparison.Reference

/-!
How the comparable types are built. A `Layout α` derives the comparison of `α` from leaves,
lists, fixed arrays, optional values and records, the ones with a fixed layout and the ones
whose slots are known only when the program runs. What holds of every comparison is shown by
induction on it.
-/
namespace RecordComparison

inductive LeafType : (α : Type) → [BEq α] → [Leaf α] → Type where
  | bool : LeafType Bool
  | char : LeafType Char
  | text : LeafType String
  | int8 : LeafType Int8
  | int16 : LeafType Int16
  | int32 : LeafType Int32
  | int64 : LeafType Int64
  | uint8 : LeafType UInt8
  | uint16 : LeafType UInt16
  | uint32 : LeafType UInt32
  | uint64 : LeafType UInt64
  | single : LeafType Single
  | double : LeafType Double
  | complex : LeafType Complex

/-- A box or a slice compares as what it holds, so these have no rule of their own. -/
inductive Layout : (α : Type) → [Comparable α] → Type 1 where
  | leaf {α : Type} {_ : BEq α} {_ : Leaf α} (type : LeafType α) : Layout α
  | list {α : Type} {_ : Comparable α} (item : Layout α) : Layout (List α)
  | fixed {α : Type} {_ : Comparable α} (item : Layout α) (n : Nat) : Layout (Vector α n)
  | option {α : Type} {_ : Comparable α} (item : Layout α) : Layout (Option α)
  | record {R : Type} (fields : List (Comparable.Field R))
      (part : (i : Fin fields.length) → Layout (fields.get i).Part) : @Layout R (.ofFields fields)
  | scalar : Layout Scalar
  | fieldValue : Layout FieldValue
  | slots : Layout Record

def LeafType.isNaN : {α : Type} → {_ : BEq α} → {_ : Leaf α} → LeafType α → α → Bool
  | _, _, _, .single, x => Binary.isNaN x
  | _, _, _, .double, x => Binary.isNaN x
  | _, _, _, .complex, z => Complex.isNaN z
  | _, _, _, _, _ => false

namespace Scalar

def NaNFree : Scalar → Prop
  | real x => x.isNaN = false
  | complex z => z.isNaN = false
  | _ => True

end Scalar

namespace FieldValue

def scalars : FieldValue → List Scalar
  | scalar a => [a]
  | array items => items
  | matrix rows => rows.flatten
  | tensor planes => planes.flatten.flatten

end FieldValue

namespace Layout

def NaNFree : {α : Type} → {_ : Comparable α} → Layout α → α → Prop
  | _, _, .leaf type, a => type.isNaN a = false
  | _, _, .list item, as => ∀ a ∈ as, item.NaNFree a
  | _, _, .fixed item _, as => ∀ a ∈ as.toList, item.NaNFree a
  | _, _, .option item, a? => ∀ a ∈ a?, item.NaNFree a
  | _, _, .record fields part, r => ∀ i : Fin fields.length, (part i).NaNFree ((fields.get i).get r)
  | _, _, .scalar, a => a.NaNFree
  | _, _, .fieldValue, v => ∀ a ∈ v.scalars, a.NaNFree
  | _, _, .slots, r => ∀ s ∈ r.slots, ∀ v ∈ s.value, ∀ a ∈ v.scalars, a.NaNFree

end Layout

def IntegerRecord.layout : Layout IntegerRecord :=
  .record IntegerRecord.fields fun | ⟨0, _⟩ => .leaf .int32

def TruthRecord.layout : Layout TruthRecord :=
  .record TruthRecord.fields fun
    | ⟨0, _⟩ => .leaf .bool
    | ⟨1, _⟩ => .option (.leaf .bool)
    | ⟨2, _⟩ => .option (.leaf .bool)
    | ⟨3, _⟩ => .list (.leaf .bool)
    | ⟨4, _⟩ => .option (.list (.leaf .bool))
    | ⟨5, _⟩ => .option (.list (.leaf .bool))
    | ⟨6, _⟩ => .list (.list (.leaf .bool))
    | ⟨7, _⟩ => .option (.list (.list (.leaf .bool)))
    | ⟨8, _⟩ => .option (.list (.list (.leaf .bool)))
    | ⟨9, _⟩ => .list (.list (.list (.leaf .bool)))
    | ⟨10, _⟩ => .option (.list (.list (.list (.leaf .bool))))
    | ⟨11, _⟩ => .option (.list (.list (.list (.leaf .bool))))

end RecordComparison
