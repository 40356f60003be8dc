import RecordComparison.Proofs.Layout

/-!
Values that equal themselves. Equality of leaves is reflexive but for NaN, and larger values are
compared by their leaves: a value equals itself exactly if it holds no NaN.
-/
namespace RecordComparison
open Comparable (equal)

theorem LeafType.equal_self {α : Type} {_ : BEq α} {_ : Leaf α} (type : LeafType α) (a : α) :
    (a == a) = !type.isNaN a := by
  cases type
  case single => exact Binary.equal_self a
  case double => exact Binary.equal_self a
  case complex => exact Complex.equal_self a
  all_goals simp [isNaN]

namespace Comparable

@[simp] theorem option_self_iff {α : Type} [Comparable α] (a? : Option α) :
    equal a? a? = true ↔ ∀ a ∈ a?, equal a a = true := by
  cases a? with
  | none => simp [equal, equalOption]
  | some a => show equal a a = true ↔ _; simp

@[simp] theorem list_self_iff {α : Type} [Comparable α] (as : List α) :
    equal as as = true ↔ ∀ a ∈ as, equal a a = true := by
  show equalList as as = true ↔ _
  induction as with
  | nil => simp [equalList]
  | cons a as ih => simp [equalList, ih]

theorem record_self_iff {R : Type} (fields : List (Comparable.Field R)) (r : R) :
    equalRecord fields r r = true ↔ ∀ f ∈ fields, equal (f.get r) (f.get r) = true :=
  List.all_eq_true

@[simp] theorem scalar_self_iff (a : Scalar) : equal a a = true ↔ a.NaNFree := by
  cases a with
  | bool b => simp [equal, Scalar.equal, Scalar.NaNFree]
  | int n => simp [equal, Scalar.equal, Scalar.NaNFree]
  | real x => simp [equal, Scalar.equal, Scalar.NaNFree, Binary.equal_self]
  | complex z => simp [equal, Scalar.equal, Scalar.NaNFree, Complex.equal_self]
  | text t => simp [equal, Scalar.equal, Scalar.NaNFree]

@[simp] theorem field_value_self_iff (v : FieldValue) :
    equal v v = true ↔ ∀ a ∈ v.scalars, a.NaNFree := by
  cases v with
  | scalar a =>
    show equal a a = true ↔ _
    simp [FieldValue.scalars]
  | array items =>
    show equal items items = true ↔ _
    simp [FieldValue.scalars]
  | matrix rows =>
    show equal rows rows = true ↔ _
    simp only [list_self_iff, scalar_self_iff, FieldValue.scalars, List.forall_mem_flatten]
  | tensor planes =>
    show equal planes planes = true ↔ _
    simp only [list_self_iff, scalar_self_iff, FieldValue.scalars, List.forall_mem_flatten]

@[simp] theorem slots_self_iff (slots : List Slot) :
    Record.equalSlots slots slots = true ↔ ∀ s ∈ slots, equal s.value s.value = true := by
  induction slots with
  | nil => simp [Record.equalSlots]
  | cons s slots ih => simp [Record.equalSlots, ih]

@[simp] theorem slotted_record_self_iff (r : Record) :
    equal r r = true ↔ ∀ s ∈ r.slots, equal s.value s.value = true := by
  show Record.equal r r = true ↔ _
  simp [Record.equal]

end Comparable

namespace Layout
open Comparable

theorem equal_self_iff {α : Type} {_ : Comparable α} (layout : Layout α) (a : α) :
    equal a a = true ↔ layout.NaNFree a := by
  induction layout with
  | leaf type =>
    show (a == a) = true ↔ type.isNaN a = false
    rw [type.equal_self, Bool.not_eq_true']
  | list item ih => simp [ih, NaNFree]
  | fixed item n ih =>
    show equal a.toList a.toList = true ↔ _
    simp [ih, NaNFree]
  | option item ih => simp [ih, NaNFree]
  | record fields part ih =>
    show equalRecord fields a a = true ↔ _
    rw [record_self_iff, List.forall_mem_iff_forall_getElem]
    simp only [NaNFree, Fin.forall_iff]
    exact forall₂_congr fun i h => ih ⟨i, h⟩ _
  | scalar => exact scalar_self_iff a
  | fieldValue => exact field_value_self_iff a
  | slots => simp [NaNFree]

end Layout

end RecordComparison
