import Mathlib.Data.List.Permutation
import RecordComparison.Proofs.Conformance
import RecordComparison.Proofs.Validity
import RecordComparison.Record.Decoding

/-!
Decoding accepts the documents that conform and loses nothing of them: one lemma for each
function of the decoder says which documents it takes and what it gives for them. Main
statement: `Description.decode_exact`.
-/
namespace RecordComparison

open Json

section Leaves

theorem number_iff (j : Json) (x : Double) : j.asDouble? = some x ↔ j.Number x := by
  constructor
  · intro found
    cases j <;> simp only [asDouble?, Option.some.injEq, reduceCtorEq] at found
    · exact .integer ((Binary.double_of_int_iff _ x).mp found)
    · exact found ▸ .real _
  · rintro (@⟨n, x, rounds⟩ | x)
    · exact congrArg some ((Binary.double_of_int_iff n x).mpr rounds)
    · rfl

theorem parts_iff (members : List (String × Json)) (x y : Json) :
    members.length = 2 ∧ member? members "re" = some x ∧ member? members "im" = some y ↔
      members.Perm [("re", x), ("im", y)] := by
  rw [List.perm_pair]
  constructor
  · rintro ⟨two, re, im⟩
    obtain ⟨⟨k, v⟩, ⟨l, w⟩, rfl⟩ := List.length_eq_two.mp two
    simp only [member_cons, member_nil] at re im
    by_cases first : k = "re"
    · subst first
      by_cases second : l = "im" <;> simp_all
    · by_cases second : l = "re" <;> by_cases other : k = "im" <;> simp_all
  · rintro (rfl | rfl) <;> exact ⟨rfl, rfl, rfl⟩

theorem decode_complex_iff (j : Json) (z : Complex) :
    decodeComplex? j = some z ↔ LeafReads .complex j (.complex z) := by
  constructor
  · intro found
    unfold decodeComplex? at found
    split at found
    next x y =>
      split at found
      next re im first second =>
        obtain rfl := Option.some.inj found
        exact .pair ((number_iff x re).mp first) ((number_iff y im).mp second)
      next => simp at found
    next members =>
      split at found
      next two =>
        split at found
        next re im first second =>
          obtain rfl := Option.some.inj found
          obtain ⟨x, atRe, first⟩ := Option.bind_eq_some_iff.mp first
          obtain ⟨y, atIm, second⟩ := Option.bind_eq_some_iff.mp second
          exact .parts ((number_iff x re).mp first) ((number_iff y im).mp second)
            ((parts_iff members x y).mp ⟨two, atRe, atIm⟩)
        next => simp at found
      next => simp at found
    next => simp at found
  · rintro (_ | _ | _ | ⟨re, im⟩ | ⟨re, im, parts⟩ | _)
    · simp [decodeComplex?, (number_iff _ _).mpr re, (number_iff _ _).mpr im]
    · obtain ⟨two, atRe, atIm⟩ := (parts_iff _ _ _).mpr parts
      simp [decodeComplex?, two, atRe, atIm, (number_iff _ _).mpr re, (number_iff _ _).mpr im]

theorem decode_scalar_iff (kind : Kind) (path : Path) (j : Json) (a : Scalar) :
    decodeScalar kind path j = .ok a ↔ LeafReads kind j a := by
  cases kind with
  | bool =>
    constructor
    · intro decoded
      cases j <;> simp [decodeScalar, Checked.fail] at decoded
      exact decoded ▸ .bool _
    · rintro (b | _)
      rfl
  | int =>
    constructor
    · intro decoded
      cases j <;> simp only [decodeScalar, Checked.fail, reduceCtorEq] at decoded
      case integer n =>
        split at decoded
        next inside =>
          obtain ⟨low, high⟩ := of_decide_eq_true inside
          obtain rfl := Except.ok.inj decoded
          have reads := LeafReads.int (Int64.ofInt n)
          rwa [int64_exact low high] at reads
        next => simp at decoded
    · rintro (_ | n)
      have inside : int64Range n.toInt = true :=
        decide_eq_true ⟨n.minValue_le_toInt, n.toInt_le⟩
      simp [decodeScalar, inside]
  | real =>
    constructor
    · intro decoded
      simp only [decodeScalar] at decoded
      split at decoded
      next x found => exact Except.ok.inj decoded ▸ .real ((number_iff j x).mp found)
      next => simp [Checked.fail] at decoded
    · rintro (_ | _ | number)
      simp [decodeScalar, (number_iff _ _).mpr number]
  | complex =>
    constructor
    · intro decoded
      simp only [decodeScalar] at decoded
      split at decoded
      next z found => exact Except.ok.inj decoded ▸ (decode_complex_iff j z).mp found
      next => simp [Checked.fail] at decoded
    · intro reads
      obtain ⟨z, rfl⟩ : ∃ z, a = .complex z := by cases reads <;> exact ⟨_, rfl⟩
      simp [decodeScalar, (decode_complex_iff j z).mpr reads]
  | text =>
    constructor
    · intro decoded
      cases j <;> simp [decodeScalar, Checked.fail] at decoded
      exact decoded ▸ .text _
    · rintro (_ | _ | _ | _ | _ | t)
      rfl

end Leaves

namespace Checked

variable {α β γ : Type}

@[simp] theorem combine_ok_iff (f : α → β → γ) (x : Checked α) (y : Checked β) (c : γ) :
    combine f x y = .ok c ↔ ∃ a b, x = .ok a ∧ y = .ok b ∧ f a b = c := by
  cases x <;> cases y <;> simp [combine]

@[simp] theorem map_ok_iff (f : α → β) (x : Checked α) (b : β) :
    x.map f = .ok b ↔ ∃ a, x = .ok a ∧ f a = b := by
  cases x <;> simp [Except.map]

end Checked

section Arrays

variable {α : Type} {decode : Path → Json → Checked α} {item : Json → α → Prop}

theorem decode_items_iff (items : ∀ path j a, decode path j = .ok a ↔ item j a) (path : Path)
    (i : Nat) (js : List Json) (as : List α) :
    decodeItems decode path i js = .ok as ↔ List.Forall₂ item js as := by
  induction js generalizing i as with
  | nil => cases as <;> simp [decodeItems]
  | cons j js ih =>
    simp only [decodeItems, Checked.combine_ok_iff, items, ih, List.forall₂_cons_left_iff]
    constructor
    · rintro ⟨a, later, here, rest, rfl⟩
      exact ⟨a, later, here, rest, rfl⟩
    · rintro ⟨a, later, here, rest, rfl⟩
      exact ⟨a, later, here, rest, rfl⟩

theorem decode_array_iff (items : ∀ path j a, decode path j = .ok a ↔ item j a) (path : Path)
    (j : Json) (as : List α) :
    decodeArray decode path j = .ok as ↔ ListReads item j as := by
  cases j <;> simp [decodeArray, ListReads, Checked.fail, decode_items_iff items]

end Arrays

section Values

variable (kind : Kind)

theorem decode_value_iff (rank : Nat) (low : rank ≤ maximalRank) (path : Path) (j : Json)
    (v : FieldValue) :
    decodeValue kind rank path j = .ok v ↔ v.rank = rank ∧ v.Reads kind j := by
  have leaf := decode_scalar_iff kind
  have array := decode_array_iff leaf
  have matrix := decode_array_iff array
  have tensor := decode_array_iff matrix
  match rank, low with
  | 0, _ => simp [decodeValue, leaf]
  | 1, _ => simp [decodeValue, array]
  | 2, _ => simp [decodeValue, matrix]
  | 3, _ => simp [decodeValue, tensor]

end Values

namespace Declaration

@[simp] theorem nullable_iff (d : Declaration) : d.nullable = true ↔ d.storage ≠ .value := by
  rw [nullable]
  cases d.storage <;> simp [Storage.nullable]

theorem decode_absent_iff (d : Declaration) {j? : Option Json} (absent : Absent j?) (s : Slot) :
    d.decode j? = .ok s ↔ d.storage ≠ .value ∧ ⟨d.name, none⟩ = s := by
  rw [← d.nullable_iff]
  rcases absent with rfl | rfl <;> cases nullable : d.nullable <;>
    simp [decode, nullable, Checked.fail]

theorem decode_present (d : Declaration) {j : Json} (present : j ≠ .null) :
    d.decode (some j) =
      (decodeValue d.kind d.rank [.field d.name] j).map fun v => ⟨d.name, some v⟩ := by
  cases j
  case null => contradiction
  all_goals rfl

theorem decode_present_iff (d : Declaration) (low : d.rank ≤ maximalRank) {j : Json}
    (present : j ≠ .null) (s : Slot) :
    d.decode (some j) = .ok s ↔
      ∃ v : FieldValue, (v.rank = d.rank ∧ v.Reads d.kind j) ∧ ⟨d.name, some v⟩ = s := by
  simp only [d.decode_present present, Checked.map_ok_iff, decode_value_iff d.kind d.rank low]

theorem decodes_iff (d : Declaration) (low : d.rank ≤ maximalRank) (j? : Option Json) :
    (∃ s, d.decode j? = .ok s) ↔ d.Suits j? := by
  rcases absent_or_present j? with absent | ⟨j, rfl, present⟩
  · simp only [d.decode_absent_iff absent]
    constructor
    · rintro ⟨s, optional, rfl⟩
      refine ⟨fun required => absurd required optional, ?_⟩
      intro j found present
      simp [Absent, found, present] at absent
    · intro suits
      exact ⟨_, fun required => suits.required required absent, rfl⟩
  · simp only [d.decode_present_iff low present]
    constructor
    · rintro ⟨s, v, reads, rfl⟩
      refine ⟨fun _ => by simp [Absent, present], ?_⟩
      intro k found _
      obtain rfl := Option.some.inj found
      exact (nests_iff d.kind d.rank low j).mpr ⟨v, reads⟩
    · intro suits
      obtain ⟨v, reads⟩ := (nests_iff d.kind d.rank low j).mp (suits.nested j rfl present)
      exact ⟨_, v, reads, rfl⟩

theorem decoded_reads (d : Declaration) (low : d.rank ≤ maximalRank)
    {members : List (String × Json)} {s : Slot}
    (decoded : d.decode (member? members d.name) = .ok s) : s.Reads members d := by
  rcases absent_or_present (member? members d.name) with absent | ⟨j, found, present⟩
  · obtain ⟨_, rfl⟩ := (d.decode_absent_iff absent s).mp decoded
    exact ⟨rfl, by simp [absent], by simp⟩
  · rw [found] at decoded
    obtain ⟨v, reads, rfl⟩ := (d.decode_present_iff low present s).mp decoded
    refine ⟨rfl, by simp [Absent, found, present], ?_⟩
    intro w member
    obtain rfl := Option.some.inj member
    exact ⟨reads.1, j, found, reads.2⟩

end Declaration

namespace Description

theorem decode_fields_iff (members : List (String × Json)) (fields : List Declaration)
    (slots : List Slot) :
    decodeFields members fields = .ok slots ↔
      List.Forall₂ (fun d s => d.decode (member? members d.name) = .ok s) fields slots := by
  induction fields generalizing slots with
  | nil => cases slots <;> simp [decodeFields]
  | cons d fields ih =>
    simp only [decodeFields, Checked.combine_ok_iff, ih, List.forall₂_cons_left_iff]
    constructor
    · rintro ⟨s, later, here, rest, rfl⟩
      exact ⟨s, later, here, rest, rfl⟩
    · rintro ⟨s, later, here, rest, rfl⟩
      exact ⟨s, later, here, rest, rfl⟩

theorem decode_fields_alike {members others : List (String × Json)}
    {fields theirs : List Declaration}
    (alike : List.Forall₂ (fun d e => d.decode (member? members d.name) =
      e.decode (member? others e.name)) fields theirs) :
    decodeFields members fields = decodeFields others theirs := by
  induction alike with
  | nil => rfl
  | cons here _ ih => rw [decodeFields, decodeFields, here, ih]

theorem field_none_iff (description : Description) (key : String) :
    description.field? key = none ↔ ¬ ∃ d ∈ description.fields, d.name = key := by
  simp [field?]

theorem unknown_keys_iff (description : Description) (members : List (String × Json)) :
    description.unknownKeys members = .ok () ↔
      ∀ m ∈ members, ∃ d ∈ description.fields, d.name = m.1 := by
  have unknown : ((members.map (·.1)).filter fun key => (description.field? key).isNone) = [] ↔
      ∀ m ∈ members, ∃ d ∈ description.fields, d.name = m.1 := by
    simp only [List.filter_eq_nil_iff, List.forall_mem_map, Option.isNone_iff_eq_none,
      field_none_iff, not_not]
  rw [← unknown]
  simp only [unknownKeys]
  split
  next known => exact iff_of_true rfl known
  next unknown => exact iff_of_false (by simp) unknown

/-- What a record with these slots is read from: every field decodes to its slot, and every
key is declared. -/
theorem decode_object_iff (description : Description) (members : List (String × Json))
    (r : Record) :
    description.decode (object members) = .ok r ↔
      List.Forall₂ (fun d s => d.decode (member? members d.name) = .ok s) description.fields
        r.slots ∧
      (∀ m ∈ members, ∃ d ∈ description.fields, d.name = m.1) ∧ r.name = description.name := by
  simp only [decode, Checked.combine_ok_iff, decode_fields_iff]
  constructor
  · rintro ⟨slots, _, decoded, known, rfl⟩
    exact ⟨decoded, (description.unknown_keys_iff members).mp known, rfl⟩
  · rintro ⟨decoded, declared, name⟩
    refine ⟨r.slots, (), decoded, (description.unknown_keys_iff members).mpr declared, ?_⟩
    rw [← name]

theorem decode_object (description : Description) {document : Json} {r : Record}
    (decoded : description.decode document = .ok r) : ∃ members, document = object members := by
  cases document
  case object members => exact ⟨members, rfl⟩
  all_goals simp [decode, Checked.fail] at decoded

/-- A document decodes exactly if it is an object that fits the description, and the record
holds, under the names of the description, what the document has for each field. -/
theorem decode_exact (description : Description) (valid : description.flaw? = none)
    (document : Json) :
    ((∃ r, description.decodeRecord document = .ok r) ↔
      ∃ members, document = object members ∧ description.Fits members) ∧
    ∀ r, description.decodeRecord document = .ok r →
      ∃ members, document = object members ∧ r.name = description.name ∧
        List.Forall₂ (Slot.Reads members) description.fields r.slots := by
  simp only [decode_record_ok_iff]
  obtain ⟨_, _, each, _⟩ := description.flaw_none_iff.mp valid
  have low (d : Declaration) (member : d ∈ description.fields) : d.rank ≤ maximalRank :=
    (each d member).2.1
  constructor
  · constructor
    · rintro ⟨r, decoded⟩
      obtain ⟨members, rfl⟩ := description.decode_object decoded
      obtain ⟨slots, declared, _⟩ := (description.decode_object_iff members r).mp decoded
      refine ⟨members, rfl, declared, fun d member => ?_⟩
      have readable := (exists_related_iff description.fields).mp ⟨_, slots⟩ d member
      exact (d.decodes_iff (low d member) _).mp readable
    · rintro ⟨members, rfl, fits⟩
      obtain ⟨slots, decoded⟩ := (exists_related_iff description.fields).mpr
        fun d member => (d.decodes_iff (low d member) _).mpr (fits.suits d member)
      exact ⟨⟨description.name, slots⟩,
        (description.decode_object_iff members _).mpr ⟨decoded, fits.declared, rfl⟩⟩
  · intro r decoded
    obtain ⟨members, rfl⟩ := description.decode_object decoded
    obtain ⟨slots, _, name⟩ := (description.decode_object_iff members r).mp decoded
    refine ⟨members, rfl, name, ?_⟩
    refine ((List.forall₂_and_left _ _).mpr ⟨low, slots⟩).imp fun d s here => ?_
    exact d.decoded_reads here.1 here.2

theorem decode_with_missing_pointer :
    let description : Description := ⟨"beam",
      [⟨"n", .int, 0, .value⟩, ⟨"orbit", .int, 2, .value⟩, ⟨"phase", .complex, 1, .pointer⟩,
        ⟨"note", .text, 0, .pointer⟩]⟩
    let zero : Finite .double := ⟨false, 0, by decide⟩
    let members := [("orbit", array [array [integer 1, integer 2], array [integer 3]]),
      ("phase", array [array [integer 0, real zero],
        object [("im", integer 0), ("re", real zero)]]),
      ("n", integer (-4))]
    let r : Record := ⟨"beam",
      [⟨"n", some (.scalar (.int (-4)))⟩,
        ⟨"orbit", some (.matrix [[.int 1, .int 2], [.int 3]])⟩,
        ⟨"phase", some (.array [.complex ⟨.finite zero, .finite zero⟩,
          .complex ⟨.finite zero, .finite zero⟩])⟩,
        ⟨"note", none⟩]⟩
    description.flaw? = none ∧ description.decodeRecord (object members) = .ok r ∧
      description.Fits members ∧ List.Forall₂ (Slot.Reads members) description.fields r.slots := by
  intro description zero members r
  have valid : description.flaw? = none := by decide +kernel
  have decoded : description.decodeRecord (object members) = .ok r := by decide +kernel
  obtain ⟨accepts, reads⟩ := description.decode_exact valid (object members)
  obtain ⟨given, same, fits⟩ := accepts.mp ⟨r, decoded⟩
  obtain ⟨read, also, _, slots⟩ := reads r decoded
  rw [← Json.object.inj same] at fits
  rw [← Json.object.inj also] at slots
  exact ⟨valid, decoded, fits, slots⟩

end Description

end RecordComparison
