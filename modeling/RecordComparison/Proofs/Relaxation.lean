import RecordComparison.Proofs.Mismatched

/-!
Fields that are held in another way. Storage has a say only where a document has no value for a
field, and there it matters only whether the field must have one. So a description that asks for
fewer values takes the same documents as before with the same records, and more of them. Main
statement: `Description.relaxing_is_conservative`.
-/
namespace RecordComparison
open Json

def Declaration.heldAs (d : Declaration) (storage : Storage) : Declaration := { d with storage }

/-- The same fields, each of them held in the way that is chosen for it. -/
def Description.heldAs (description : Description) (choice : Declaration → Storage) : Description :=
  { description with fields := description.fields.map fun d => d.heldAs (choice d) }

namespace Declaration

variable (d : Declaration) {storage : Storage} {j? : Option Json} {s : Slot}

theorem decode_held_present {j : Json} (present : j ≠ .null) :
    (d.heldAs storage).decode (some j) = d.decode (some j) := by
  rw [decode_present _ present, decode_present _ present]
  rfl

theorem decode_relaxed (relaxed : storage = .value → d.storage = .value)
    (decoded : d.decode j? = .ok s) : (d.heldAs storage).decode j? = .ok s := by
  rcases absent_or_present j? with absent | ⟨j, rfl, present⟩
  · obtain ⟨optional, rfl⟩ := (d.decode_absent_iff absent s).mp decoded
    exact ((d.heldAs storage).decode_absent_iff absent _).mpr ⟨optional ∘ relaxed, rfl⟩
  · rw [d.decode_held_present present]
    exact decoded

theorem decode_restored (filled : d.storage = .value → storage ≠ .value → s.value.isSome = true)
    (decoded : (d.heldAs storage).decode j? = .ok s) : d.decode j? = .ok s := by
  rcases absent_or_present j? with absent | ⟨j, rfl, present⟩
  · obtain ⟨optional, rfl⟩ := ((d.heldAs storage).decode_absent_iff absent s).mp decoded
    refine (d.decode_absent_iff absent _).mpr ⟨fun required => ?_, rfl⟩
    -- A field that had to have a value would have one now.
    exact Bool.false_ne_true (filled required optional)
  · rw [d.decode_held_present present] at decoded
    exact decoded

theorem decode_exchanged (exchanged : storage = .value ↔ d.storage = .value) (j? : Option Json) :
    (d.heldAs storage).decode j? = d.decode j? := by
  by_cases required : d.storage = .value
  · obtain rfl : storage = d.storage := (exchanged.mpr required).trans required.symm
    rfl
  · rcases absent_or_present j? with absent | ⟨j, rfl, present⟩
    · have before := (d.decode_absent_iff absent _).mpr ⟨required, rfl⟩
      have optional : storage ≠ .value := required ∘ exchanged.mp
      rw [before]
      exact ((d.heldAs storage).decode_absent_iff absent _).mpr ⟨optional, rfl⟩
    · exact d.decode_held_present present

end Declaration

namespace Description

variable (description : Description) (choice : Declaration → Storage)

@[simp] theorem held_names :
    (description.heldAs choice).fields.map (·.name) = description.fields.map (·.name) := by
  rw [heldAs, List.map_map]
  rfl

theorem held_declares_iff (key : String) :
    (∃ d ∈ (description.heldAs choice).fields, d.name = key) ↔
      ∃ d ∈ description.fields, d.name = key := by
  rw [← List.mem_map, ← List.mem_map, held_names]

theorem held_unknown_keys (members : List (String × Json)) :
    (description.heldAs choice).unknownKeys members = description.unknownKeys members := by
  have declared (key : String) : ((description.heldAs choice).field? key).isNone =
      (description.field? key).isNone := by
    rw [Bool.eq_iff_iff, Option.isNone_iff_eq_none, Option.isNone_iff_eq_none, field_none_iff,
      field_none_iff, held_declares_iff]
  simp only [unknownKeys, declared]
  rfl

theorem held_decode_object_iff (members : List (String × Json)) (r : Record) :
    (description.heldAs choice).decode (object members) = .ok r ↔
      List.Forall₂ (fun d s => (d.heldAs (choice d)).decode (member? members d.name) = .ok s)
        description.fields r.slots ∧
      (∀ m ∈ members, ∃ d ∈ description.fields, d.name = m.1) ∧ r.name = description.name := by
  rw [decode_object_iff]
  simp only [held_declares_iff]
  rw [heldAs, List.forall₂_map_left_iff]
  rfl

variable {description choice}

theorem held_valid (valid : description.flaw? = none) :
    (description.heldAs choice).flaw? = none := by
  obtain ⟨name, nonempty, each, distinct⟩ := description.flaw_none_iff.mp valid
  refine (flaw_none_iff _).mpr ⟨name, ?_, ?_, held_names description choice ▸ distinct⟩
  · exact fun empty => nonempty (List.map_eq_nil_iff.mp empty)
  · exact List.forall_mem_map.mpr each

theorem decode_relaxed (relaxed : ∀ d ∈ description.fields, choice d = .value → d.storage = .value)
    {document : Json} {r : Record} (decoded : description.decodeRecord document = .ok r) :
    (description.heldAs choice).decodeRecord document = .ok r := by
  rw [decode_record_ok_iff] at decoded ⊢
  obtain ⟨members, rfl⟩ := description.decode_object decoded
  obtain ⟨slots, rest⟩ := (description.decode_object_iff members r).mp decoded
  refine (description.held_decode_object_iff choice members r).mpr ⟨?_, rest⟩
  refine ((List.forall₂_and_left _ _).mpr ⟨relaxed, slots⟩).imp fun d s here => ?_
  exact d.decode_relaxed here.1 here.2

theorem decode_restored (valid : description.flaw? = none) {document : Json} {r : Record}
    (filled : ∀ d ∈ description.fields, d.storage = .value → choice d ≠ .value →
      (r.get? d.name).isSome = true)
    (decoded : (description.heldAs choice).decodeRecord document = .ok r) :
    description.decodeRecord document = .ok r := by
  have typed := (description.heldAs choice).decoded_of_description (held_valid valid) decoded
  have distinct : (r.slots.map (·.name)).Nodup := by
    rw [typed.slot_names, held_names]
    exact description.valid_names valid
  rw [decode_record_ok_iff] at decoded ⊢
  obtain ⟨members, rfl⟩ := (description.heldAs choice).decode_object decoded
  obtain ⟨slots, rest⟩ := (description.held_decode_object_iff choice members r).mp decoded
  refine (description.decode_object_iff members r).mpr ⟨?_, rest⟩
  obtain ⟨count, each⟩ := List.forall₂_iff_zip.mp slots
  refine List.forall₂_iff_zip.mpr ⟨count, fun {d s} pair => ?_⟩
  obtain ⟨declared, held⟩ := List.of_mem_zip pair
  have here := each pair
  have name : s.name = d.name :=
    ((d.heldAs (choice d)).decoded_of_field (description.valid_ranks valid d declared) here).name
  have value : r.get? d.name = s.value := name ▸ Record.get_of_member distinct held
  exact d.decode_restored (value ▸ filled d declared) here

theorem decode_exchanged
    (exchanged : ∀ d ∈ description.fields, choice d = .value ↔ d.storage = .value)
    (document : Json) :
    (description.heldAs choice).decodeRecord document = description.decodeRecord document := by
  have same : (description.heldAs choice).decode document = description.decode document := by
    cases document
    case object members =>
      have fields : decodeFields members (description.heldAs choice).fields =
          decodeFields members description.fields := by
        apply decode_fields_alike
        rw [heldAs, List.forall₂_map_left_iff, List.forall₂_same]
        exact fun d declared => d.decode_exchanged (exchanged d declared) _
      rw [decode, decode, fields, held_unknown_keys]
      rfl
    all_goals rfl
  rw [decodeRecord, decodeRecord, same]
  rfl

/-- If some fields that had to have a value need not have one any more, and whether other optional
fields are pointers or allocatable changes as well, then all documents that could be decoded give
the records they gave; and a document decodes as it did before if its record has a value in each of
the former fields. Where pointers and allocatable fields only change places, nothing changes. -/
theorem relaxing_is_conservative (description : Description) (valid : description.flaw? = none)
    (choice : Declaration → Storage) :
    let other := description.heldAs choice
    other.flaw? = none ∧
    ((∀ d ∈ description.fields, choice d = .value → d.storage = .value) → ∀ document r,
      (description.decodeRecord document = .ok r → other.decodeRecord document = .ok r) ∧
      (other.decodeRecord document = .ok r →
        (∀ d ∈ description.fields, d.storage = .value → choice d ≠ .value →
          (r.get? d.name).isSome = true) →
        description.decodeRecord document = .ok r)) ∧
    ((∀ d ∈ description.fields, choice d = .value ↔ d.storage = .value) → ∀ document,
      other.decodeRecord document = description.decodeRecord document) := by
  refine ⟨held_valid valid, ?_, decode_exchanged⟩
  intro relaxed document r
  exact ⟨decode_relaxed relaxed, fun decoded filled => decode_restored valid filled decoded⟩

/-- A field is relaxed and a pointer is allocatable now. A document that has both decodes as before,
one that has neither decodes only now, and one with a wrong leaf is refused as before if no more
than the pointer is changed. -/
theorem relaxed_count_and_grid :
    let description : Description := ⟨"lattice",
      [⟨"n", .int, 0, .value⟩, ⟨"tag", .text, 0, .value⟩, ⟨"grid", .bool, 2, .pointer⟩]⟩
    let choice (d : Declaration) : Storage := if d.name = "tag" then .value else .allocatable
    let swap (d : Declaration) : Storage := if d.name = "grid" then .allocatable else .value
    let full := object [("grid", array [array [], array [bool true]]), ("n", integer 1),
      ("tag", string "a")]
    let bare := object [("n", null), ("tag", string "a")]
    let wrong := object [("grid", array [array [], bool true]), ("n", null)]
    let r : Record := ⟨"lattice", [⟨"n", some (.scalar (.int 1))⟩,
      ⟨"tag", some (.scalar (.text "a"))⟩, ⟨"grid", some (.matrix [[], [.bool true]])⟩]⟩
    let failure : DecodeFailure := ⟨"lattice", 3, [⟨[.field "n"], .notNullable .value⟩,
      ⟨[.field "tag"], .missing⟩, ⟨[.field "grid", .index 1], .notAnArray "bool"⟩]⟩
    description.flaw? = none ∧
      (∀ d ∈ description.fields, choice d = .value → d.storage = .value) ∧
      (∀ d ∈ description.fields, swap d = .value ↔ d.storage = .value) ∧
      (∀ d ∈ description.fields, d.storage = .value → choice d ≠ .value →
        (r.get? d.name).isSome = true) ∧
      description.decodeRecord full = .ok r ∧
      (description.heldAs choice).decodeRecord full = .ok r ∧
      (∀ s, description.decodeRecord bare ≠ .ok s) ∧
      (description.heldAs choice).decodeRecord bare =
        .ok ⟨"lattice", [⟨"n", none⟩, ⟨"tag", some (.scalar (.text "a"))⟩, ⟨"grid", none⟩]⟩ ∧
      description.decodeRecord wrong = .error failure ∧
      (description.heldAs swap).decodeRecord wrong = .error failure := by
  intro description choice swap full bare wrong r failure
  have valid : description.flaw? = none := by decide +kernel
  have relaxed : ∀ d ∈ description.fields, choice d = .value → d.storage = .value := by decide
  have exchanged : ∀ d ∈ description.fields, swap d = .value ↔ d.storage = .value := by decide
  have filled : ∀ d ∈ description.fields, d.storage = .value → choice d ≠ .value →
      (r.get? d.name).isSome = true := by decide +kernel
  have decoded : description.decodeRecord full = .ok r := by decide +kernel
  have failed : description.decodeRecord wrong = .error failure := by decide +kernel
  have refused (s : Record) : description.decodeRecord bare ≠ .ok s := by
    have fails : (description.decodeRecord bare).isOk = false := by decide +kernel
    intro decodes
    rw [decodes] at fails
    cases fails
  obtain ⟨_, documents, _⟩ := description.relaxing_is_conservative valid choice
  obtain ⟨_, _, same⟩ := description.relaxing_is_conservative valid swap
  obtain ⟨keeps, restores⟩ := documents relaxed full r
  have again := restores (keeps decoded) filled
  exact ⟨valid, relaxed, exchanged, filled, again, keeps again, refused, by decide +kernel, failed,
    (same exchanged wrong).trans failed⟩

end Description

end RecordComparison
