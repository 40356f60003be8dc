import RecordComparison.Proofs.Agreement
import RecordComparison.Proofs.PartialEquivalence
import RecordComparison.Proofs.Typing

/-!
Records of different descriptions. A record holds the values of its fields and not what has been
declared of them, so two descriptions can be told apart where there is a value that tells them
apart: by its rank, or by the kind of a leaf in it. Names are part of every record. Main statement:
`mismatched_records_differ`.
-/
namespace RecordComparison
open Comparable (PartialEquivalence equal firstDifference)

namespace Comparable

theorem kind_of_equal {a b : Scalar} (same : equal a b = true) : a.kind = b.kind := by
  cases a <;> cases b
  case bool.bool | int.int | real.real | complex.complex | text.text => rfl
  all_goals cases same

theorem rank_of_equal {v w : FieldValue} (same : equal v w = true) : v.rank = w.rank := by
  cases v <;> cases w
  case scalar.scalar | array.array | matrix.matrix | tensor.tensor => rfl
  all_goals cases same

theorem identical_items {α : Type} [Comparable α] {P : α → Prop} {as bs : List α}
    (items : ∀ a ∈ as, ∀ b ∈ bs, equal a b = true → a = b ∧ P a) (same : equal as bs = true) :
    as = bs ∧ ∀ a ∈ as, P a := by
  rw [PartialEquivalence.list_equal_iff] at same
  induction same with
  | nil => exact ⟨rfl, by simp⟩
  | @cons a b as bs here _ ih =>
    obtain ⟨rfl, first⟩ := items a (by simp) b (by simp) here
    obtain ⟨rfl, later⟩ := ih fun c left d right => items c (by simp [left]) d (by simp [right])
    exact ⟨rfl, List.forall_mem_cons.mpr ⟨first, later⟩⟩

section Apart

def Apart (as bs : List Scalar) : Prop := ∀ a ∈ as, ∀ b ∈ bs, equal a b = false

theorem apart_arrays {as bs : List Scalar} (apart : Apart as bs) (same : equal as bs = true) :
    as = bs ∧ as = [] := by
  have items : ∀ a ∈ as, ∀ b ∈ bs, equal a b = true → a = b ∧ False := by
    intro a left b right equal
    rw [apart a left b right] at equal
    contradiction
  obtain ⟨identical, never⟩ := identical_items items same
  exact ⟨identical, List.eq_nil_iff_forall_not_mem.mpr never⟩

theorem apart_matrices {as bs : Matrix Scalar} (apart : Apart as.flatten bs.flatten)
    (same : equal as bs = true) : as = bs ∧ ∀ row ∈ as, row = [] := by
  refine identical_items (fun row left other right => apart_arrays ?_) same
  intro a inside b below
  exact apart a (List.mem_flatten_of_mem left inside) b (List.mem_flatten_of_mem right below)

theorem apart_tensors {as bs : Tensor Scalar} (apart : Apart as.flatten.flatten bs.flatten.flatten)
    (same : equal as bs = true) : as = bs ∧ ∀ plane ∈ as, ∀ row ∈ plane, row = [] := by
  refine identical_items (fun plane left other right => apart_matrices ?_) same
  intro a inside b below
  obtain ⟨row, first, inside⟩ := List.mem_flatten.mp inside
  obtain ⟨line, second, below⟩ := List.mem_flatten.mp below
  exact apart a (List.mem_flatten_of_mem (List.mem_flatten_of_mem left first) inside) b
    (List.mem_flatten_of_mem (List.mem_flatten_of_mem right second) below)

theorem apart_values {v w : FieldValue} (apart : Apart v.scalars w.scalars)
    (same : equal v w = true) : v = w ∧ v.scalars = [] := by
  cases v <;> cases w
  case scalar.scalar a b =>
    have unequal : equal a b = false := apart a (by simp [FieldValue.scalars]) b
      (by simp [FieldValue.scalars])
    change equal a b = true at same
    rw [unequal] at same
    contradiction
  case array.array as bs =>
    obtain ⟨rfl, empty⟩ := apart_arrays apart same
    exact ⟨rfl, empty⟩
  case matrix.matrix as bs =>
    obtain ⟨rfl, rows⟩ := apart_matrices apart same
    exact ⟨rfl, List.flatten_eq_nil_iff.mpr rows⟩
  case tensor.tensor as bs =>
    obtain ⟨rfl, planes⟩ := apart_tensors apart same
    have rows : ∀ row ∈ as.flatten, row = [] := List.forall_mem_flatten.mpr planes
    exact ⟨rfl, List.flatten_eq_nil_iff.mpr rows⟩
  all_goals cases same

end Apart

theorem mismatched_values_equal_iff {k l : Kind} {m n : Nat} {v w : FieldValue}
    (left : v.HasType k m) (right : w.HasType l n) (mismatch : k ≠ l ∨ m ≠ n) :
    equal v w = true ↔ v = w ∧ v.scalars = [] := by
  constructor
  · intro same
    -- Values of different ranks are never equal, so it is the kinds that differ.
    have ranks : m = n := by rw [← left.rank, ← right.rank, rank_of_equal same]
    have kinds : k ≠ l := mismatch.resolve_right (not_not_intro ranks)
    refine apart_values ?_ same
    intro a inside b below
    refine Bool.eq_false_iff.mpr fun equal => kinds ?_
    rw [← left.kinds a inside, ← right.kinds b below, kind_of_equal equal]
  · rintro ⟨rfl, hollow⟩
    rw [field_value_self_iff, hollow]
    exact fun a member => nomatch member

end Comparable

namespace Record

section Lookup

variable {name record : String} {s : Slot} {slots : List Slot}

theorem get_of_head (here : s.name = name) : get? ⟨record, s :: slots⟩ name = s.value := by
  rw [get?, List.find?_cons_of_pos (by simpa using here), Option.bind_some]

theorem get_of_tail (other : s.name ≠ name) :
    get? ⟨record, s :: slots⟩ name = get? ⟨record, slots⟩ name := by
  rw [get?, get?, List.find?_cons_of_neg (by simpa using other)]

theorem get_of_member {r : Record} (distinct : (r.slots.map (·.name)).Nodup) (held : s ∈ r.slots) :
    r.get? s.name = s.value := by
  obtain ⟨n, slots⟩ := r
  induction slots with
  | nil => contradiction
  | cons t slots ih =>
    obtain ⟨fresh, distinct⟩ := List.nodup_cons.mp distinct
    rcases List.mem_cons.mp held with rfl | later
    · exact get_of_head rfl
    · have other : t.name ≠ s.name := fun same => fresh (List.mem_map.mpr ⟨s, later, same.symm⟩)
      rw [get_of_tail other]
      exact ih distinct later

end Lookup

theorem equal_get {r s : Record} (same : equal r s = true) (name : String) :
    equal (r.get? name) (s.get? name) = true := by
  obtain ⟨-, slots⟩ := (PartialEquivalence.slotted_record_equal_iff r s).mp same
  obtain ⟨n, ss⟩ := r
  obtain ⟨m, ts⟩ := s
  change List.Forall₂ _ ss ts at slots
  clear same
  -- Equal slots have equal names, so the search ends at the same position on both sides.
  induction slots with
  | nil => rfl
  | @cons s t ss ts here _ ih =>
    by_cases this : s.name = name
    · rw [get_of_head this, get_of_head (here.1 ▸ this)]
      exact here.2
    · rw [get_of_tail this, get_of_tail (here.1 ▸ this)]
      exact ih

theorem slot_names_of_equal {r s : Record} (same : equal r s = true) :
    r.slots.map (·.name) = s.slots.map (·.name) := by
  obtain ⟨-, slots⟩ := (PartialEquivalence.slotted_record_equal_iff r s).mp same
  rw [← List.forall₂_eq_eq_eq, List.forall₂_map_left_iff, List.forall₂_map_right_iff]
  exact slots.imp fun _ _ here => here.1

namespace OfDescription

variable {description : Description} {r : Record}

theorem slot_names (typed : r.OfDescription description) :
    r.slots.map (·.name) = description.fields.map (·.name) := by
  rw [← List.forall₂_eq_eq_eq, List.forall₂_map_left_iff, List.forall₂_map_right_iff]
  exact typed.slots.flip.imp fun _ _ here => here.name

theorem typed_get (typed : r.OfDescription description)
    (distinct : (description.fields.map (·.name)).Nodup) {f : Declaration}
    (declared : f ∈ description.fields) : ∀ v ∈ r.get? f.name, v.HasType f.kind f.rank := by
  obtain ⟨k, inside, rfl⟩ := List.getElem_of_mem declared
  have bound : k < r.slots.length := typed.slots.length_eq ▸ inside
  have here := typed.slots.get inside bound
  have found : r.get? r.slots[k].name = r.slots[k].value :=
    get_of_member (typed.slot_names ▸ distinct) (List.getElem_mem bound)
  rw [List.get_eq_getElem, List.get_eq_getElem] at here
  rw [← here.name, found]
  exact here.value

end OfDescription

end Record

/-- Records of descriptions that differ in the record's name or in the names of the fields, or in
the kind or rank of a field, are unequal, and a difference is reported. A field counts unless it is
absent on both sides or has no leaf on either and the same shape. -/
theorem mismatched_records_differ {S T : Description} (first : S.flaw? = none)
    (second : T.flaw? = none) {d e : Json} {a b : Record} (left : S.decodeRecord d = .ok a)
    (right : T.decodeRecord e = .ok b)
    (mismatch : S.name ≠ T.name ∨ S.fields.map (·.name) ≠ T.fields.map (·.name) ∨
      ∃ f ∈ S.fields, ∃ g ∈ T.fields, f.name = g.name ∧ (f.kind ≠ g.kind ∨ f.rank ≠ g.rank) ∧
        ¬ (a.get? f.name = b.get? f.name ∧ ∀ v ∈ a.get? f.name, v.scalars = [])) :
    equal a b = false ∧ (firstDifference a b).isSome = true := by
  have typed := S.decoded_of_description first left
  have other := T.decoded_of_description second right
  have unequal : ¬ equal a b = true := by
    intro same
    rcases mismatch with name | names | ⟨f, declared, g, paired, named, types, told⟩
    · refine name ?_
      rw [← typed.name, ← other.name]
      exact ((PartialEquivalence.slotted_record_equal_iff a b).mp same).1
    · refine names ?_
      rw [← typed.slot_names, ← other.slot_names]
      exact Record.slot_names_of_equal same
    · have values : equal (a.get? f.name) (b.get? f.name) = true := Record.equal_get same f.name
      have mine := typed.typed_get (S.valid_names first) declared
      have others := other.typed_get (T.valid_names second) paired
      rw [← named] at others
      refine told ?_
      cases here : a.get? f.name <;> cases there : b.get? f.name <;> rw [here, there] at values
      case none.none => exact ⟨rfl, by simp⟩
      case some.some v w =>
        obtain ⟨identical, hollow⟩ :=
          (Comparable.mismatched_values_equal_iff (mine v here) (others w there) types).mp values
        exact ⟨congrArg some identical, by simpa using hollow⟩
      all_goals cases values
  have reported : firstDifference a b ≠ none :=
    fun silent => unequal ((Layout.slots.equal_iff_nothing_found a b).mpr silent)
  exact ⟨Bool.eq_false_iff.mpr unequal, Option.isSome_iff_ne_none.mpr reported⟩

/-- The kind and rank of an absent field and the kind of an empty array are not told apart: the
records of these two descriptions are equal, and nothing is reported. -/
theorem data_free_records_equal :
    let S : Description := ⟨"r", [⟨"x", .int, 0, .pointer⟩, ⟨"y", .int, 1, .value⟩]⟩
    let T : Description := ⟨"r", [⟨"x", .text, 1, .pointer⟩, ⟨"y", .real, 1, .value⟩]⟩
    let document : Json := .object [("y", .array [])]
    S.flaw? = none ∧ T.flaw? = none ∧ S.fields.map (·.kind) ≠ T.fields.map (·.kind) ∧
      S.fields.map (·.rank) ≠ T.fields.map (·.rank) ∧
      ∃ a b, S.decodeRecord document = .ok a ∧ T.decodeRecord document = .ok b ∧
        equal a b = true ∧ firstDifference a b = none := by
  intro S T document
  refine ⟨by decide, by decide, by decide, by decide, ?_⟩
  exact ⟨⟨"r", [⟨"x", none⟩, ⟨"y", some (.array [])⟩]⟩,
    ⟨"r", [⟨"x", none⟩, ⟨"y", some (.array [])⟩]⟩, rfl, rfl, by decide, by decide⟩

theorem empty_ranks_differ :
    let S : Description := ⟨"r", [⟨"y", .int, 1, .value⟩]⟩
    let T : Description := ⟨"r", [⟨"y", .int, 2, .value⟩]⟩
    let document : Json := .object [("y", .array [])]
    let a : Record := ⟨"r", [⟨"y", some (.array [])⟩]⟩
    let b : Record := ⟨"r", [⟨"y", some (.matrix [])⟩]⟩
    S.flaw? = none ∧ T.flaw? = none ∧
      S.decodeRecord document = .ok a ∧ T.decodeRecord document = .ok b ∧
      ¬ (a.get? "y" = b.get? "y" ∧ ∀ v ∈ a.get? "y", v.scalars = []) ∧
      equal a b = false ∧ (firstDifference a b).isSome = true := by
  intro S T document a b
  have first : S.flaw? = none := by decide
  have second : T.flaw? = none := by decide
  have left : S.decodeRecord document = .ok a := rfl
  have right : T.decodeRecord document = .ok b := rfl
  have told : ¬ (a.get? "y" = b.get? "y" ∧ ∀ v ∈ a.get? "y", v.scalars = []) := by
    rintro ⟨same, _⟩
    simp [a, b, Record.get?] at same
  refine ⟨first, second, left, right, told, ?_⟩
  refine mismatched_records_differ first second left right (.inr (.inr ?_))
  exact ⟨_, List.mem_singleton_self _, _, List.mem_singleton_self _, rfl, .inr (by decide), told⟩

end RecordComparison
