import Mathlib.Data.List.Zip
import RecordComparison.Proofs.Pairing
import RecordComparison.Proofs.PartialEquivalence
import RecordComparison.Proofs.Replay

/-!
Comparisons with the sides exchanged. The report is the same one seen from the other side: the same
paths in the same order, with left and right exchanged in each mismatch. Only where two records
have different names for a slot at the same position does a path depend on which of them is the left
one. Main statement: `exchanged_sides_mirror`.
-/
namespace RecordComparison
open Comparable (PartialEquivalence collect differences)

def Difference.swap (d : Difference) : Difference := { d with mismatch := d.mismatch.swap }

theorem swap_below (step : Segment) (ds : List Difference) :
    (ds.map (Difference.below step)).map Difference.swap =
      (ds.map Difference.swap).map (Difference.below step) := by
  rw [List.map_map, List.map_map]
  rfl

namespace Comparable

def Mirrors (α : Type) [Comparable α] : Prop :=
  ∀ a b : α, differences b a = (differences a b).map .swap

section Closure

variable {α : Type}

theorem leaf_mirrors {_ : BEq α} {_ : Leaf α} (type : LeafType α) : Mirrors α := by
  intro a b
  have related := PartialEquivalence.leaf type
  by_cases same : (a == b) = true
  · have back : (b == a) = true := related.symm same
    simp only [differences, if_pos same, if_pos back, List.map_nil]
  · have back : ¬ (b == a) = true := fun other => same (related.symm other)
    simp only [differences, if_neg same, if_neg back]
    rfl

variable [Comparable α]

theorem option_mirrors (item : Mirrors α) : Mirrors (Option α) := by
  intro a b
  cases a <;> cases b
  case some.some a b => exact item a b
  all_goals rfl

theorem items_mirror (item : Mirrors α) (i : Nat) (as bs : List α) :
    itemDifferences i bs as = (itemDifferences i as bs).map .swap := by
  induction as generalizing i bs with
  | nil => cases bs <;> rfl
  | cons a as ih =>
    cases bs with
    | nil => rfl
    | cons b bs =>
      simp only [itemDifferences, List.map_append, swap_below, item a b, ih (i + 1) bs]

theorem list_mirrors (item : Mirrors α) : Mirrors (List α) := by
  intro as bs
  show listDifferences bs as = (listDifferences as bs).map .swap
  unfold listDifferences
  by_cases same : as.length = bs.length
  · rw [if_pos same, if_pos same.symm]
    exact items_mirror item 0 as bs
  · rw [if_neg same, if_neg (Ne.symm same)]
    rfl

theorem fixed_mirrors (item : Mirrors α) (n : Nat) : Mirrors (Vector α n) := by
  intro as bs
  exact list_mirrors item as.toList bs.toList

end Closure

theorem record_mirrors {R : Type} (fields : List (Comparable.Field R))
    (parts : ∀ f ∈ fields, Mirrors f.Part) : @Mirrors R (.ofFields fields) := by
  intro a b
  show recordDifferences fields b a = (recordDifferences fields a b).map .swap
  unfold recordDifferences
  rw [List.map_flatMap]
  apply List.flatMap_congr
  intro f member
  rw [swap_below, parts f member (f.get a) (f.get b)]

theorem scalar_mirrors : Mirrors Scalar := by
  intro a b
  cases a <;> cases b
  case bool.bool a b => exact leaf_mirrors .bool a b
  case int.int a b => exact leaf_mirrors .int64 a b
  case real.real a b => exact leaf_mirrors .double a b
  case complex.complex a b => exact leaf_mirrors .complex a b
  case text.text a b => exact leaf_mirrors .text a b
  all_goals rfl

theorem field_value_mirrors : Mirrors FieldValue := by
  intro a b
  have array := list_mirrors scalar_mirrors
  cases a <;> cases b
  case scalar.scalar a b => exact scalar_mirrors a b
  case array.array a b => exact array a b
  case matrix.matrix a b => exact list_mirrors array a b
  case tensor.tensor a b => exact list_mirrors (list_mirrors array) a b
  all_goals rfl

end Comparable

namespace Layout
open Comparable

/-- No part of the type is a record whose slots are known only when the program runs. -/
def Static : {α : Type} → {_ : Comparable α} → Layout α → Prop
  | _, _, .leaf _ => True
  | _, _, .list item => item.Static
  | _, _, .fixed item _ => item.Static
  | _, _, .option item => item.Static
  | _, _, .record fields part => ∀ i : Fin fields.length, (part i).Static
  | _, _, .scalar => True
  | _, _, .fieldValue => True
  | _, _, .slots => False

theorem static_mirrors {α : Type} {_ : Comparable α} (layout : Layout α)
    (static : layout.Static) : Mirrors α := by
  induction layout with
  | leaf type => exact leaf_mirrors type
  | list item ih => exact list_mirrors (ih static)
  | fixed item n ih => exact fixed_mirrors (ih static) n
  | option item ih => exact option_mirrors (ih static)
  | record fields part ih =>
    have parts (f : Comparable.Field _) (member : f ∈ fields) : Mirrors f.Part := by
      obtain ⟨i, h, rfl⟩ := List.mem_iff_getElem.mp member
      exact ih ⟨i, h⟩ (static ⟨i, h⟩)
    exact record_mirrors fields parts
  | scalar => exact scalar_mirrors
  | fieldValue => exact field_value_mirrors
  | slots => contradiction

end Layout

namespace Slot

def report (s t : Slot) : List Difference := (s.differences t).map (.below (.field s.name))

theorem report_in_field (s t : Slot) :
    ∀ d ∈ s.report t, ∀ name, d.inField name = decide (s.name = name) := by
  intro d member name
  obtain ⟨d, _, rfl⟩ := List.mem_map.mp member
  exact d.below_in_field s.name name

/-- What is reported of two slots when their records change sides. A clash of names is then
reported under the other name. -/
def mirrored (s t : Slot) : List Difference :=
  if s.name = t.name then (s.report t).map .swap else [⟨[.field t.name], .kind t.name s.name⟩]

theorem report_mirrored (s t : Slot) : t.report s = s.mirrored t := by
  have values := Comparable.option_mirrors Comparable.field_value_mirrors s.value t.value
  unfold report mirrored
  by_cases same : s.name = t.name
  · rw [if_pos same, report, swap_below, differences, differences, if_pos same, if_pos same.symm,
      values, same]
  · rw [if_neg same, differences, if_neg (Ne.symm same)]
    rfl

end Slot

namespace Record

theorem slot_differences_by_position (as bs : List Slot) :
    slotDifferences as bs = (as.zip bs).flatMap fun (s, t) => s.report t := by
  induction as generalizing bs with
  | nil => rfl
  | cons a as ih =>
    cases bs with
    | nil => rfl
    | cons b bs =>
      rw [slotDifferences, ih bs]
      rfl

theorem slot_differences_mirrored (as bs : List Slot) :
    slotDifferences bs as = (as.zip bs).flatMap fun (s, t) => s.mirrored t := by
  rw [slot_differences_by_position, ← List.zip_swap, List.flatMap_map]
  apply List.flatMap_congr
  intro pair _
  exact pair.1.report_mirrored pair.2

/-- The slots of the two records are compared, and two of them that stand at the same position have
different names. -/
def NamesClash (a b : Record) : Prop :=
  a.name = b.name ∧ a.slots.length = b.slots.length ∧
    ∃ pair ∈ a.slots.zip b.slots, pair.1.name ≠ pair.2.name

theorem differences_of_slots {a b : Record} (name : a.name = b.name)
    (count : a.slots.length = b.slots.length) :
    differences a b = slotDifferences a.slots b.slots := by
  show Record.differences a b = _
  rw [Record.differences, if_neg (not_not_intro name), if_neg (not_not_intro count)]

theorem mirrors_without_clash {a b : Record} (agree : ¬ a.NamesClash b) :
    differences b a = (differences a b).map .swap := by
  by_cases name : a.name = b.name
  · by_cases count : a.slots.length = b.slots.length
    · rw [differences_of_slots name count, differences_of_slots name.symm count.symm,
        slot_differences_mirrored, slot_differences_by_position, List.map_flatMap]
      apply List.flatMap_congr
      intro pair member
      have same : pair.1.name = pair.2.name := by
        by_contra other
        exact agree ⟨name, count, pair, member, other⟩
      exact if_pos same
    · show Record.differences b a = (Record.differences a b).map .swap
      rw [Record.differences, Record.differences, if_neg (not_not_intro name),
        if_neg (not_not_intro name.symm), if_pos count, if_pos (Ne.symm count)]
      rfl
  · show Record.differences b a = (Record.differences a b).map .swap
    rw [Record.differences, Record.differences, if_pos name, if_pos (Ne.symm name)]
    rfl

end Record

/-- If the sides are exchanged, then the same paths are reported in the same order, with left and
right exchanged. Records whose slots are known only when the program runs are no exception unless
names clash; a position where they do is reported in each direction under the name in the record
that is then the left one, and all others as ever. -/
theorem exchanged_sides_mirror :
    (∀ {α : Type} {_ : Comparable α} (layout : Layout α), layout.Static → ∀ a b : α,
      collect none b a = (collect none a b).map .swap) ∧
    (∀ a b : Record, ¬ a.NamesClash b → collect none b a = (collect none a b).map .swap) ∧
    ∀ a b : Record, a.name = b.name → a.slots.length = b.slots.length →
      collect none a b = ((a.slots.zip b.slots).flatMap fun (s, t) => s.report t) ∧
        collect none b a = (a.slots.zip b.slots).flatMap fun (s, t) => s.mirrored t := by
  refine ⟨?_, ?_, ?_⟩
  · intro α _ layout static a b
    rw [layout.collect_everything, layout.collect_everything]
    exact layout.static_mirrors static a b
  · intro a b agree
    rw [Layout.slots.collect_everything, Layout.slots.collect_everything]
    exact Record.mirrors_without_clash agree
  · intro a b name count
    rw [Layout.slots.collect_everything, Layout.slots.collect_everything,
      Record.differences_of_slots name count, Record.differences_of_slots name.symm count.symm]
    constructor
    · exact Record.slot_differences_by_position a.slots b.slots
    · exact Record.slot_differences_mirrored a.slots b.slots

theorem clash_seen_from_both_sides :
    let a : Record := ⟨"beam", [⟨"n", some (.scalar (.int 1))⟩, ⟨"tag", none⟩,
      ⟨"orbit", some (.array [])⟩]⟩
    let b : Record := ⟨"beam", [⟨"n", some (.scalar (.int 2))⟩, ⟨"note", none⟩,
      ⟨"orbit", some (.array [.int 5])⟩]⟩
    let c : Record := ⟨"beam", [⟨"n", some (.scalar (.text "1"))⟩, ⟨"tag", some (.array [])⟩,
      ⟨"orbit", none⟩]⟩
    let rows : List (Option (List Int8)) := [some [7], some [], some [3]]
    let others : List (Option (List Int8)) := [some [], none, some [4]]
    let layout : Layout (List (Option (List Int8))) := .list (.option (.list (.leaf .int8)))
    layout.Static ∧ ¬ a.NamesClash c ∧ a.name = b.name ∧ a.slots.length = b.slots.length ∧
      collect none others rows =
        [⟨[.index 0], .length 0 1⟩, ⟨[.index 1], .presence false true⟩,
          ⟨[.index 2, .index 0], .value "4" "3"⟩] ∧
      collect none c a = [⟨[.field "n"], .kind "text" "int"⟩,
        ⟨[.field "tag"], .presence true false⟩, ⟨[.field "orbit"], .presence false true⟩] ∧
      collect none a b = [⟨[.field "n"], .value "1" "2"⟩, ⟨[.field "tag"], .kind "tag" "note"⟩,
        ⟨[.field "orbit"], .length 0 1⟩] ∧
      collect none b a = [⟨[.field "n"], .value "2" "1"⟩, ⟨[.field "note"], .kind "note" "tag"⟩,
        ⟨[.field "orbit"], .length 1 0⟩] := by
  intro a b c rows others layout
  obtain ⟨values, records, positions⟩ := exchanged_sides_mirror
  have agree : ¬ a.NamesClash c := by
    rintro ⟨_, _, pair, member, clash⟩
    simp only [a, c, List.zip_cons_cons, List.zip_nil_right, List.mem_cons, List.not_mem_nil,
      or_false] at member
    rcases member with rfl | rfl | rfl <;> exact clash rfl
  obtain ⟨straight, turned⟩ := positions a b rfl rfl
  refine ⟨trivial, agree, rfl, rfl, ?_, ?_, ?_, ?_⟩
  · rw [values layout trivial rows others]
    decide +kernel
  · rw [records a c agree]
    decide +kernel
  · rw [straight]
    decide +kernel
  · rw [turned]
    decide +kernel

end RecordComparison
