import RecordComparison.Proofs.Layout

/-!
The comparison beside the equality that types have anyway: the one of the leaves, which the library
carries through containers and which is derived for the types of records with slots. A comparison
has rules of its own for every constructor, but where all of them are asked they say the same. Main
statement: `equality_as_derived`.
-/
namespace RecordComparison

/-- Types with an equality that no comparison had a part in. As in a layout, a box or a slice has no
rule of its own. -/
inductive Standard : (α : Type) → [Comparable α] → [BEq α] → Type 1 where
  | leaf {α : Type} {_ : BEq α} {_ : Leaf α} (type : LeafType α) : Standard α
  | list {α : Type} {_ : Comparable α} {_ : BEq α} (item : Standard α) : Standard (List α)
  | fixed {α : Type} {_ : Comparable α} {_ : BEq α} (item : Standard α) (n : Nat) :
      Standard (Vector α n)
  | option {α : Type} {_ : Comparable α} {_ : BEq α} (item : Standard α) : Standard (Option α)
  | scalar : Standard Scalar
  | fieldValue : Standard FieldValue
  | slots : Standard Record

namespace Comparable

def Coincides (α : Type) [Comparable α] [BEq α] : Prop := ∀ a b : α, equal a b = (a == b)

section Containers

variable {α : Type} [Comparable α] [BEq α]

theorem list_coincides (item : Coincides α) : Coincides (List α) := by
  intro as bs
  show equalList as bs = (as == bs)
  induction as generalizing bs with
  | nil => cases bs <;> rfl
  | cons a as ih =>
    cases bs with
    | nil => rfl
    | cons b bs => rw [equalList, List.cons_beq_cons, item a b, ih bs]

theorem fixed_coincides (item : Coincides α) (n : Nat) : Coincides (Vector α n) := by
  intro as bs
  calc equal as bs
    _ = equal as.toList bs.toList := rfl
    _ = (as.toList == bs.toList) := list_coincides item as.toList bs.toList
    _ = (as == bs) := Vector.toList_beq_toList

theorem option_coincides (item : Coincides α) : Coincides (Option α) := by
  intro a b
  cases a <;> cases b
  case some.some a b => exact item a b
  all_goals rfl

end Containers

theorem scalar_coincides : Coincides Scalar := by
  intro a b
  cases a <;> cases b <;> rfl

theorem field_value_coincides : Coincides FieldValue := by
  intro v w
  have array := list_coincides scalar_coincides
  have matrix := list_coincides array
  cases v <;> cases w
  case scalar.scalar a b => exact scalar_coincides a b
  case array.array as bs => exact array as bs
  case matrix.matrix as bs => exact matrix as bs
  case tensor.tensor as bs => exact list_coincides matrix as bs
  all_goals rfl

theorem slots_coincide (ss ts : List Slot) :
    (decide (ss.length = ts.length) && Record.equalSlots ss ts) = (ss == ts) := by
  induction ss generalizing ts with
  | nil => cases ts <;> rfl
  | cons s ss ih =>
    cases ts with
    | nil => rfl
    | cons t ts =>
      have value := option_coincides field_value_coincides s.value t.value
      have derived : (s == t) = (decide (s.name = t.name) && equal s.value t.value) := by
        rw [value]
        rfl
      rw [List.cons_beq_cons, derived, ← ih ts]
      simp only [List.length_cons, Nat.add_right_cancel_iff, Record.equalSlots]
      exact Bool.and_left_comm _ _ _

theorem slotted_record_coincides : Coincides Record := by
  intro a b
  calc equal a b
    _ = (decide (a.name = b.name) && decide (a.slots.length = b.slots.length) &&
          Record.equalSlots a.slots b.slots) := rfl
    _ = (decide (a.name = b.name) && a.slots == b.slots) := by
      rw [Bool.and_assoc, slots_coincide]
    _ = (a == b) := rfl

end Comparable

open Comparable

theorem Standard.coincides {α : Type} {_ : Comparable α} {_ : BEq α} (standard : Standard α) :
    Coincides α := by
  induction standard with
  | leaf type => exact fun _ _ => rfl
  | list item ih => exact list_coincides ih
  | fixed item n ih => exact fixed_coincides ih n
  | option item ih => exact option_coincides ih
  | scalar => exact scalar_coincides
  | fieldValue => exact field_value_coincides
  | slots => exact slotted_record_coincides

theorem IntegerRecord.equal_fieldwise (r s : IntegerRecord) : (r == s) = (r.a == s.a) := by
  calc (r == s)
    _ = equalRecord IntegerRecord.fields r s := rfl
    _ = (equal r.a s.a && true) := rfl
    _ = (r.a == s.a) := Bool.and_true _

theorem TruthRecord.equal_fieldwise (r s : TruthRecord) :
    (r == s) = (r.i0 == s.i0 && r.ip0 == s.ip0 && r.ia0 == s.ia0 &&
      r.i1 == s.i1 && r.ip1 == s.ip1 && r.ia1 == s.ia1 &&
      r.i2 == s.i2 && r.ip2 == s.ip2 && r.ia2 == s.ia2 &&
      r.i3 == s.i3 && r.ip3 == s.ip3 && r.ia3 == s.ia3) := by
  have truth : Coincides Bool := fun _ _ => rfl
  have array := list_coincides truth
  have matrix := list_coincides array
  have tensor := list_coincides matrix
  show equalRecord TruthRecord.fields r s = _
  simp only [equalRecord, TruthRecord.fields, List.all_cons, List.all_nil, truth _ _, array _ _,
    matrix _ _, tensor _ _, option_coincides truth _ _, option_coincides array _ _,
    option_coincides matrix _ _, option_coincides tensor _ _, Bool.and_true, Bool.and_assoc]

theorem TruthRecord.equal_iff_same (r s : TruthRecord) : (r == s) = true ↔ r = s := by
  rw [equal_fieldwise]
  simp only [Bool.and_eq_true, beq_iff_eq, and_assoc]
  cases r
  cases s
  simp only [TruthRecord.mk.injEq]

/-- On records with slots, whatever they hold, on their values and on their scalars the comparison
says what their derived equality says; on leaves, lists, fixed arrays and optional values it says
what the equality of the library says; and the two records with a fixed layout are equal just if
all of their fields are. -/
theorem equality_as_derived :
    (∀ a b : Record, equal a b = (a == b)) ∧
    (∀ v w : FieldValue, equal v w = (v == w)) ∧
    (∀ a b : Scalar, equal a b = (a == b)) ∧
    (∀ {α : Type} {_ : Comparable α} {_ : BEq α}, Standard α → ∀ a b : α,
      equal a b = (a == b)) ∧
    (∀ r s : IntegerRecord, (r == s) = (r.a == s.a)) ∧
    (∀ r s : TruthRecord,
      (r == s) = (r.i0 == s.i0 && r.ip0 == s.ip0 && r.ia0 == s.ia0 &&
        r.i1 == s.i1 && r.ip1 == s.ip1 && r.ia1 == s.ia1 &&
        r.i2 == s.i2 && r.ip2 == s.ip2 && r.ia2 == s.ia2 &&
        r.i3 == s.i3 && r.ip3 == s.ip3 && r.ia3 == s.ia3)) ∧
    ∀ r s : TruthRecord, (r == s) = true ↔ r = s := by
  refine ⟨?_, ?_, ?_, ?_, ?_, ?_, ?_⟩
  · exact slotted_record_coincides
  · exact field_value_coincides
  · exact scalar_coincides
  · exact fun standard => standard.coincides
  · exact IntegerRecord.equal_fieldwise
  · exact TruthRecord.equal_fieldwise
  · exact TruthRecord.equal_iff_same

end RecordComparison
