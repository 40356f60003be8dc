import RecordComparison.Proofs.Replay

/-!
The predicate and the report agree. The predicate stops at the first disagreement and checks
lengths, presences, kinds and names on its own; still a pair is equal exactly if its report is
empty, which is to say that a walk never calls its sink.
-/
namespace RecordComparison
open Comparable (differences equal)

namespace Comparable

/-- A pair of this type is equal exactly if it has no differences. -/
def Agrees (α : Type) [Comparable α] : Prop :=
  ∀ a b : α, equal a b = true ↔ differences a b = []

section Closure

variable {α : Type}

theorem leaf_agrees [BEq α] [Leaf α] : Agrees α := by
  intro a b
  simp [equal, differences]

variable [Comparable α]

theorem option_agrees (item : Agrees α) : Agrees (Option α) := by
  intro a b
  cases a <;> cases b
  case some.some a b => exact item a b
  all_goals simp [equal, equalOption, differences, optionDifferences]

theorem equal_list_iff (item : Agrees α) (i : Nat) (as bs : List α) :
    equalList as bs = true ↔ as.length = bs.length ∧ itemDifferences i as bs = [] := by
  induction as generalizing i bs with
  | nil => cases bs <;> simp [equalList, itemDifferences]
  | cons a as ih =>
    cases bs with
    | nil => simp [equalList]
    | cons b bs =>
      have here := item a b
      have later := ih (i + 1) bs
      simp only [equalList, Bool.and_eq_true, here, later, itemDifferences, List.length_cons,
        List.append_eq_nil_iff, List.map_eq_nil_iff, Nat.add_right_cancel_iff]
      exact and_left_comm

theorem list_agrees (item : Agrees α) : Agrees (List α) := by
  intro as bs
  show equalList as bs = true ↔ listDifferences as bs = []
  rw [equal_list_iff item 0, listDifferences]
  split <;> simp [*]

theorem fixed_agrees (item : Agrees α) (n : Nat) : Agrees (Vector α n) := by
  intro as bs
  exact list_agrees item as.toList bs.toList

end Closure

theorem record_agrees {R : Type} (fields : List (Comparable.Field R))
    (parts : ∀ f ∈ fields, Agrees f.Part) : @Agrees R (.ofFields fields) := by
  intro a b
  show equalRecord fields a b = true ↔ recordDifferences fields a b = []
  simp only [equalRecord, recordDifferences, List.all_eq_true, List.flatMap_eq_nil_iff,
    List.map_eq_nil_iff]
  exact forall₂_congr fun f member => parts f member (f.get a) (f.get b)

theorem scalar_agrees : Agrees Scalar := by
  intro a b
  cases a <;> cases b
  case bool.bool a b => exact leaf_agrees a b
  case int.int a b => exact leaf_agrees a b
  case real.real a b => exact leaf_agrees a b
  case complex.complex a b => exact leaf_agrees a b
  case text.text a b => exact leaf_agrees a b
  all_goals simp [equal, Scalar.equal, differences, Scalar.differences]

theorem field_value_agrees : Agrees FieldValue := by
  intro a b
  cases a <;> cases b
  case scalar.scalar a b => exact scalar_agrees a b
  case array.array a b => exact list_agrees scalar_agrees a b
  case matrix.matrix a b => exact list_agrees (list_agrees scalar_agrees) a b
  case tensor.tensor a b => exact list_agrees (list_agrees (list_agrees scalar_agrees)) a b
  all_goals simp [equal, FieldValue.equal, differences, FieldValue.differences]

theorem equal_slots_iff (as bs : List Slot) :
    Record.equalSlots as bs = true ↔ Record.slotDifferences as bs = [] := by
  induction as generalizing bs with
  | nil => cases bs <;> simp [Record.equalSlots, Record.slotDifferences]
  | cons a as ih =>
    cases bs with
    | nil => simp [Record.equalSlots, Record.slotDifferences]
    | cons b bs =>
      have value := option_agrees field_value_agrees a.value b.value
      by_cases name : a.name = b.name <;>
        simp [Record.equalSlots, Record.slotDifferences, name, value, ih]

theorem slotted_record_agrees : Agrees Record := by
  intro a b
  show Record.equal a b = true ↔ Record.differences a b = []
  by_cases name : a.name = b.name <;> by_cases count : a.slots.length = b.slots.length <;>
    simp [Record.equal, Record.differences, name, count, equal_slots_iff]

end Comparable

namespace Layout
open Comparable

variable {α : Type} {_ : Comparable α}

theorem agrees (layout : Layout α) : Agrees α := by
  induction layout with
  | leaf type => exact leaf_agrees
  | list item ih => exact list_agrees ih
  | fixed item n ih => exact fixed_agrees ih n
  | option item ih => exact option_agrees ih
  | record fields part ih =>
    exact record_agrees fields (List.forall_mem_iff_forall_getElem.mpr fun i h => ih ⟨i, h⟩)
  | scalar => exact scalar_agrees
  | fieldValue => exact field_value_agrees
  | slots => exact slotted_record_agrees

theorem equal_iff_nothing_found (layout : Layout α) (a b : α) :
    equal a b = true ↔ firstDifference a b = none := by
  rw [layout.agrees a b, layout.first_is_head, List.head?_eq_none_iff]

theorem equal_iff_nothing_collected (layout : Layout α) (a b : α) :
    equal a b = true ↔ collect none a b = [] := by
  rw [layout.agrees a b, layout.collect_everything]

/-- A pair is equal exactly if a walk over it calls no sink, wherever it starts. -/
theorem equal_iff_silent (layout : Layout α) (a b : α) :
    (∀ (start : Path) {σ : Type} (sink : Sink σ) (state : σ),
      equal a b = true ↔ calls sink a b ⟨start, state⟩ = []) ∧
    (equal a b = true ↔ firstDifference a b = none) ∧
    (equal a b = true ↔ collect none a b = []) := by
  refine ⟨?_, layout.equal_iff_nothing_found a b, layout.equal_iff_nothing_collected a b⟩
  intro start σ sink state
  rw [layout.agrees a b, layout.calls_are_heard, Sink.heard_nil_iff, List.map_eq_nil_iff]

end Layout

end RecordComparison
