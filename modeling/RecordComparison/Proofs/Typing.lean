import RecordComparison.Proofs.Acceptance
import RecordComparison.Proofs.Layout

/-!
The records of a description: they have its name and one slot for each declared field, in the
same order, with a value of the declared rank and kind, or with none if the field may be absent.
Decoding gives such records only.
-/
namespace RecordComparison
open Json

structure FieldValue.HasType (kind : Kind) (rank : Nat) (v : FieldValue) : Prop where
  rank : v.rank = rank
  kinds : ∀ a ∈ v.scalars, a.kind = kind

structure Slot.OfField (d : Declaration) (s : Slot) : Prop where
  name : s.name = d.name
  absent : s.value = none → d.storage ≠ .value
  value : ∀ v ∈ s.value, v.HasType d.kind d.rank

structure Record.OfDescription (description : Description) (r : Record) : Prop where
  name : r.name = description.name
  slots : List.Forall₂ Slot.OfField description.fields r.slots

theorem Record.OfDescription.slot_at {description : Description} {r : Record}
    (typed : r.OfDescription description) {k : Nat} {s : Slot} (found : r.slots[k]? = some s) :
    ∃ f, description.fields[k]? = some f ∧ s.OfField f := by
  obtain ⟨inside, rfl⟩ := List.getElem?_eq_some_iff.mp found
  have bound : k < description.fields.length := typed.slots.length_eq ▸ inside
  exact ⟨description.fields[k], List.getElem?_eq_getElem bound, typed.slots.get bound inside⟩

section Values

variable {kind : Kind}

theorem leaf_reads_kind {j : Json} {a : Scalar} (reads : LeafReads kind j a) : a.kind = kind := by
  cases reads <;> rfl

/-- What holds of all that an item can be related to holds of all items of a related list. -/
theorem related_all {α β : Type} {related : α → β → Prop} {P : β → Prop}
    (items : ∀ a b, related a b → P b) {as : List α} {bs : List β}
    (lists : List.Forall₂ related as bs) : ∀ b ∈ bs, P b := by
  induction lists with
  | nil => simp
  | cons here _ ih => exact List.forall_mem_cons.mpr ⟨items _ _ here, ih⟩

theorem list_reads_all {α : Type} {item : Json → α → Prop} {P : α → Prop}
    (items : ∀ j a, item j a → P a) {j : Json} {as : List α} (reads : ListReads item j as) :
    ∀ a ∈ as, P a := by
  obtain ⟨js, rfl, related⟩ := reads
  exact related_all items related

theorem scalars_all {P : Scalar → Prop} (leaf : ∀ j a, LeafReads kind j a → P a) {j : Json}
    {v : FieldValue} (reads : v.Reads kind j) : ∀ a ∈ v.scalars, P a := by
  have row (j : Json) (as : List Scalar) :
      ListReads (LeafReads kind) j as → ∀ a ∈ as, P a := list_reads_all leaf
  have plane (j : Json) (rows : Matrix Scalar) :
      ListReads (ListReads (LeafReads kind)) j rows → ∀ as ∈ rows, ∀ a ∈ as, P a :=
    list_reads_all row
  cases v with
  | scalar a => simpa [FieldValue.scalars] using leaf j a reads
  | array items => exact row j items reads
  | matrix rows =>
    rw [FieldValue.scalars, List.forall_mem_flatten]
    exact plane j rows reads
  | tensor planes =>
    rw [FieldValue.scalars, List.forall_mem_flatten, List.forall_mem_flatten]
    exact list_reads_all plane reads

theorem reads_kinds {j : Json} {v : FieldValue} (reads : v.Reads kind j) :
    ∀ a ∈ v.scalars, a.kind = kind :=
  scalars_all (fun _ _ => leaf_reads_kind) reads

end Values

theorem Declaration.decoded_of_field (d : Declaration) (low : d.rank ≤ maximalRank)
    {j? : Option Json} {s : Slot} (decoded : d.decode j? = .ok s) : s.OfField d := by
  rcases absent_or_present j? with absent | ⟨j, rfl, present⟩
  · obtain ⟨optional, rfl⟩ := (d.decode_absent_iff absent s).mp decoded
    exact ⟨rfl, fun _ => optional, by simp⟩
  · obtain ⟨v, ⟨rank, reads⟩, rfl⟩ := (d.decode_present_iff low present s).mp decoded
    refine ⟨rfl, by simp, ?_⟩
    intro w member
    obtain rfl := Option.some.inj member
    exact ⟨rank, reads_kinds reads⟩

namespace Description

theorem decoded_by_fields (description : Description) (valid : description.flaw? = none)
    {document : Json} {r : Record} (decoded : description.decodeRecord document = .ok r) :
    r.name = description.name ∧ ∃ members, List.Forall₂
      (fun d s => d.rank ≤ maximalRank ∧ d.decode (member? members d.name) = .ok s)
      description.fields r.slots := by
  rw [decode_record_ok_iff] at decoded
  obtain ⟨members, rfl⟩ := description.decode_object decoded
  obtain ⟨slots, _, name⟩ := (description.decode_object_iff members r).mp decoded
  have low := description.valid_ranks valid
  exact ⟨name, members, (List.forall₂_and_left _ _).mpr ⟨low, slots⟩⟩

theorem decoded_of_description (description : Description) (valid : description.flaw? = none)
    {document : Json} {r : Record} (decoded : description.decodeRecord document = .ok r) :
    r.OfDescription description := by
  obtain ⟨name, members, slots⟩ := description.decoded_by_fields valid decoded
  exact ⟨name, slots.imp fun d _ here => d.decoded_of_field here.1 here.2⟩

end Description

end RecordComparison
