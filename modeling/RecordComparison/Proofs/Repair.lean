import RecordComparison.Proofs.LeafChange
import RecordComparison.Proofs.Mirror
import RecordComparison.Proofs.Mismatched

/-!
Records that are made equal field by field. The slot is found by its name and compared by its
position. If two records have the same distinct names, then both lead to the same field, and taking
over its value removes what was reported in this field and nothing else. Main statement:
`Record.repairing_removes_differences`.
-/
namespace RecordComparison
open Comparable (collect differences equal)

namespace Record

section Assignment

variable {name other : String} {value : Option FieldValue}

theorem has_slot_iff (r : Record) (name : String) :
    r.hasSlot name = true ↔ name ∈ r.slots.map (·.name) := by
  simp [hasSlot]

theorem set_slot_names (slots : List Slot) :
    (setSlot name value slots).map (·.name) = slots.map (·.name) := by
  induction slots with
  | nil => rfl
  | cons s slots ih =>
    rw [setSlot]
    split
    · rfl
    · rw [List.map_cons, List.map_cons, ih]

theorem set_slot_undeclared {slots : List Slot} (undeclared : name ∉ slots.map (·.name)) :
    setSlot name value slots = slots := by
  induction slots with
  | nil => rfl
  | cons s slots ih =>
    rw [List.map_cons, List.mem_cons, not_or] at undeclared
    rw [setSlot, if_neg (Ne.symm undeclared.1), ih undeclared.2]

theorem get_set_self {r : Record} (declared : name ∈ r.slots.map (·.name)) :
    (r.set name value).get? name = value := by
  obtain ⟨record, slots⟩ := r
  show get? ⟨record, setSlot name value slots⟩ name = value
  induction slots with
  | nil => contradiction
  | cons s slots ih =>
    rw [setSlot]
    split
    next here => exact get_of_head here
    next elsewhere =>
      rw [get_of_tail elsewhere]
      exact ih ((List.mem_cons.mp declared).resolve_left (Ne.symm elsewhere))

theorem get_set_other (r : Record) (apart : other ≠ name) :
    (r.set name value).get? other = r.get? other := by
  obtain ⟨record, slots⟩ := r
  show get? ⟨record, setSlot name value slots⟩ other = get? ⟨record, slots⟩ other
  induction slots with
  | nil => rfl
  | cons s slots ih =>
    rw [setSlot]
    split
    next here =>
      have missed : s.name ≠ other := fun same => apart (same.symm.trans here)
      rw [get_of_tail missed]
      exact get_of_tail missed
    next =>
      by_cases this : s.name = other
      · rw [get_of_head this, get_of_head this]
      · rw [get_of_tail this, get_of_tail this, ih]

end Assignment

/-- The records have the same name and the same fields in the same order. -/
structure Aligned (a b : Record) : Prop where
  name : a.name = b.name
  names : a.slots.map (·.name) = b.slots.map (·.name)
  distinct : (a.slots.map (·.name)).Nodup

/-- The record with the values that another one has in some fields, taken over one after the
other. -/
def repair (a b : Record) (order : List String) : Record :=
  order.foldl (fun r name => r.set name (b.get? name)) a

section Slots

variable {name : String} {as : List Slot}

theorem difference_in_field {bs : List Slot} {d : Difference}
    (reported : d ∈ slotDifferences as bs) :
    ∃ s ∈ as, ∀ other, d.inField other = decide (s.name = other) := by
  rw [slot_differences_by_position, List.mem_flatMap] at reported
  obtain ⟨⟨s, t⟩, paired, inside⟩ := reported
  exact ⟨s, (List.of_mem_zip paired).1, s.report_in_field t d inside⟩

theorem differences_outside (undeclared : name ∉ as.map (·.name)) (bs : List Slot) :
    (slotDifferences as bs).filter (!·.inField name) = slotDifferences as bs := by
  refine List.filter_eq_self.mpr fun d reported => ?_
  obtain ⟨s, held, inside⟩ := difference_in_field reported
  have apart : s.name ≠ name := fun same => undeclared (List.mem_map.mpr ⟨s, held, same⟩)
  rw [inside, decide_eq_false apart, Bool.not_false]

theorem slot_differences_set {bs : List Slot} (names : as.map (·.name) = bs.map (·.name))
    (distinct : (as.map (·.name)).Nodup) {value : Option FieldValue}
    (silent : ∀ t ∈ bs, t.name = name → differences value t.value = []) :
    slotDifferences (setSlot name value as) bs =
      (slotDifferences as bs).filter (!·.inField name) := by
  -- By induction on the slots. The slot that is set reports nothing any more, and since its name
  -- does not occur again, the slots behind it had nothing to report in this field.
  have cons (s t : Slot) (ss ts : List Slot) :
      slotDifferences (s :: ss) (t :: ts) = s.report t ++ slotDifferences ss ts := rfl
  induction as generalizing bs with
  | nil => rfl
  | cons s as ih =>
    obtain _ | ⟨t, bs⟩ := bs
    · contradiction
    obtain ⟨this, names⟩ := List.cons_eq_cons.mp names
    obtain ⟨fresh, distinct⟩ := List.nodup_cons.mp distinct
    rw [setSlot, cons, List.filter_append]
    split
    next here =>
      have before : (s.report t).filter (!·.inField name) = [] := by
        refine List.filter_eq_nil_iff.mpr fun d inside => ?_
        rw [s.report_in_field t d inside, decide_eq_true here]
        exact Bool.false_ne_true
      have after : Slot.report { s with value } t = [] := by
        rw [Slot.report, Slot.differences, if_pos this, silent t (by simp) (this.symm.trans here)]
        rfl
      rw [cons, before, after, differences_outside (here ▸ fresh)]
    next elsewhere =>
      have kept : (s.report t).filter (!·.inField name) = s.report t := by
        refine List.filter_eq_self.mpr fun d inside => ?_
        rw [s.report_in_field t d inside, decide_eq_false elsewhere, Bool.not_false]
      rw [cons, kept, ih names distinct fun t later => silent t (List.mem_cons_of_mem _ later)]

end Slots

namespace Aligned

variable {a b : Record} {name : String} {order : List String} (aligned : a.Aligned b)

include aligned

theorem set (name : String) (value : Option FieldValue) : (a.set name value).Aligned b := by
  have kept := @set_slot_names name value a.slots
  exact ⟨aligned.name, kept.trans aligned.names, kept ▸ aligned.distinct⟩

theorem differences_of_slots : differences a b = slotDifferences a.slots b.slots := by
  have count := congrArg List.length aligned.names
  rw [List.length_map, List.length_map] at count
  exact Record.differences_of_slots aligned.name count

theorem differences_set (free : (Layout.option .fieldValue).NaNFree (b.get? name)) :
    differences (a.set name (b.get? name)) b = (differences a b).filter (!·.inField name) := by
  rw [(aligned.set name _).differences_of_slots, aligned.differences_of_slots]
  refine slot_differences_set aligned.names aligned.distinct fun t held here => ?_
  have value : b.get? name = t.value := by
    rw [← here]
    exact get_of_member (aligned.names ▸ aligned.distinct) held
  rw [value] at free ⊢
  exact (Layout.option .fieldValue).silent_self free

theorem differences_repair
    (free : ∀ name ∈ order, (Layout.option .fieldValue).NaNFree (b.get? name)) :
    differences (a.repair b order) b =
      (differences a b).filter fun d => order.all fun name => !d.inField name := by
  -- By induction on the fields that are taken over: the records stay aligned, so each of them
  -- removes its differences from those that are left.
  induction order generalizing a with
  | nil => exact (List.filter_eq_self.mpr fun _ _ => rfl).symm
  | cons name order ih =>
    obtain ⟨here, later⟩ := List.forall_mem_cons.mp free
    calc differences (a.repair b (name :: order)) b
      _ = differences ((a.set name (b.get? name)).repair b order) b := rfl
      _ = _ := by
        rw [ih (aligned.set name _) later, aligned.differences_set here, List.filter_filter]
        exact List.filter_congr fun d _ => Bool.and_comm _ _

theorem equal_repair (free : Layout.slots.NaNFree b)
    (covered : ∀ name ∈ b.slots.map (·.name), name ∈ order) :
    equal (a.repair b order) b = true := by
  have values (name : String) : (Layout.option .fieldValue).NaNFree (b.get? name) := by
    intro v found
    obtain ⟨s, searched, held⟩ := Option.bind_eq_some_iff.mp found
    exact free s (List.mem_of_find?_eq_some searched) v held
  rw [Layout.slots.agrees, aligned.differences_repair fun name _ => values name,
    aligned.differences_of_slots, List.filter_eq_nil_iff]
  intro d reported untouched
  obtain ⟨s, held, inside⟩ := difference_in_field reported
  have taken : s.name ∈ order := covered s.name (aligned.names ▸ List.mem_map_of_mem held)
  have outside := List.all_eq_true.mp untouched s.name taken
  rw [inside, decide_eq_true rfl] at outside
  contradiction

end Aligned

/-- If two records have the same fields, then a field of the left one can be set to the value that
it has in the right one. Unless there is a NaN in this value, the differences that are left are
those in the other fields, in the same order. So it is for several fields, whatever their order,
and a record that takes over all fields of a record without NaN equals it. A name that no slot has
changes nothing in any record. -/
theorem repairing_removes_differences :
    (∀ a b : Record, a.Aligned b →
      (∀ name ∈ a.slots.map (·.name), (Layout.option .fieldValue).NaNFree (b.get? name) →
        let repaired := a.set name (b.get? name)
        a.hasSlot name = true ∧ repaired.get? name = b.get? name ∧
          (∀ other, other ≠ name → repaired.get? other = a.get? other) ∧
          repaired.name = a.name ∧ repaired.slots.map (·.name) = a.slots.map (·.name) ∧
          collect none repaired b = (collect none a b).filter (!·.inField name)) ∧
      (∀ order, (∀ name ∈ order, (Layout.option .fieldValue).NaNFree (b.get? name)) →
        collect none (a.repair b order) b =
          (collect none a b).filter fun d => order.all fun name => !d.inField name) ∧
      (Layout.slots.NaNFree b → ∀ order, (∀ name ∈ b.slots.map (·.name), name ∈ order) →
        equal (a.repair b order) b = true)) ∧
    ∀ (r : Record) (name : String), name ∉ r.slots.map (·.name) →
      r.hasSlot name = false ∧ ∀ value, r.set name value = r := by
  refine ⟨fun a b aligned => ⟨?_, ?_, ?_⟩, ?_⟩
  · intro name declared free repaired
    refine ⟨(a.has_slot_iff name).mpr declared, get_set_self declared,
      fun other apart => a.get_set_other apart, rfl, set_slot_names a.slots, ?_⟩
    rw [Layout.slots.collect_everything, Layout.slots.collect_everything]
    exact aligned.differences_set free
  · intro order free
    rw [Layout.slots.collect_everything, Layout.slots.collect_everything]
    exact aligned.differences_repair free
  · intro free order covered
    exact aligned.equal_repair free covered
  · intro r name undeclared
    refine ⟨Bool.eq_false_iff.mpr ((r.has_slot_iff name).not.mpr undeclared), fun value => ?_⟩
    rw [Record.set, set_slot_undeclared undeclared]

theorem beam_repaired :
    let a : Record := ⟨"beam", [⟨"n", some (.scalar (.int 3))⟩,
      ⟨"orbit", some (.array [.real .nan, .int 1])⟩, ⟨"tag", none⟩]⟩
    let b : Record := ⟨"beam", [⟨"n", some (.scalar (.int 4))⟩,
      ⟨"orbit", some (.array [.real .nan, .int 2])⟩, ⟨"tag", some (.scalar (.text "x"))⟩]⟩
    let c : Record := ⟨"beam", [⟨"n", some (.array [])⟩, ⟨"orbit", none⟩,
      ⟨"tag", some (.scalar (.text "x"))⟩]⟩
    let inNumber : Difference := ⟨[.field "n"], .value "3" "4"⟩
    let inOrbit : List Difference := [⟨[.field "orbit", .index 0], .value "NaN" "NaN"⟩,
      ⟨[.field "orbit", .index 1], .value "1" "2"⟩]
    let inTag : Difference := ⟨[.field "tag"], .presence false true⟩
    a.Aligned b ∧ a.Aligned c ∧ collect none a b = inNumber :: (inOrbit ++ [inTag]) ∧
      (a.set "n" (b.get? "n")).get? "n" = some (.scalar (.int 4)) ∧
      collect none (a.set "n" (b.get? "n")) b = inOrbit ++ [inTag] ∧
      collect none (a.repair b ["tag", "n"]) b = inOrbit ∧
      equal a c = false ∧ equal (a.repair c ["tag", "n", "orbit"]) c = true ∧
      a.hasSlot "m" = false ∧ a.set "m" none = a := by
  intro a b c inNumber inOrbit inTag
  have toNaN : a.Aligned b := ⟨rfl, rfl, by decide⟩
  have toOther : a.Aligned c := ⟨rfl, rfl, by decide⟩
  have number : (Layout.option .fieldValue).NaNFree (b.get? "n") :=
    ((Layout.option .fieldValue).equal_self_iff _).mp (by decide +kernel)
  have tag : (Layout.option .fieldValue).NaNFree (b.get? "tag") :=
    ((Layout.option .fieldValue).equal_self_iff _).mp (by decide +kernel)
  have free : Layout.slots.NaNFree c := (Layout.slots.equal_self_iff c).mp (by decide +kernel)
  have before : collect none a b = inNumber :: (inOrbit ++ [inTag]) := by decide +kernel
  obtain ⟨records, undeclared⟩ := repairing_removes_differences
  obtain ⟨single, several, _⟩ := records a b toNaN
  obtain ⟨_, taken, _, _, _, left⟩ := single "n" (by decide) number
  obtain ⟨missing, unchanged⟩ := undeclared a "m" (by decide)
  refine ⟨toNaN, toOther, before, taken, ?_, ?_, by decide +kernel, ?_, missing, unchanged none⟩
  · rw [left, before]
    decide +kernel
  · rw [several ["tag", "n"] (List.forall_mem_cons.mpr ⟨tag, List.forall_mem_singleton.mpr number⟩),
      before]
    decide +kernel
  · exact (records a c toOther).2.2 free ["tag", "n", "orbit"] (by decide)

end Record

end RecordComparison
