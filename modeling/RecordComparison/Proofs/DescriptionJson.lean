import RecordComparison.Description.Loading
import RecordComparison.Proofs.ReadBack
import RecordComparison.Proofs.Validity

/-!
Descriptions in JSON, read back. A description is written with all members of its fields, or
without some that a reader takes for granted: a rank of zero, and storage as a value. Either text
loads as the description itself. Main statement: `Description.json_reads_back`.
-/
namespace RecordComparison
open Json (Finds text_finds)

theorem Kind.finds (kind : Kind) : Finds Kind.read kind.json.chars kind := by
  have named : ofName kind.name = .ok kind := by simp [ofName]
  exact (text_finds textExpected kind.name).check named

theorem Storage.finds (storage : Storage) : Finds Storage.read storage.json.chars storage := by
  have named : ofName storage.name = .ok storage := by simp [ofName]
  exact (text_finds textExpected storage.name).check named

namespace Declaration

def jsonWith (rank storage : Bool) (d : Declaration) : Json :=
  .object ([("name", .string d.name), ("kind", d.kind.json)] ++
    (if rank then [("rank", .ofNat d.rank)] else []) ++
    (if storage then [("storage", d.storage.json)] else []))

/-- The JSON stands for the field: only a rank of zero and storage as a value are left out. -/
def WrittenAs (d : Declaration) (j : Json) : Prop :=
  ∃ rank storage : Bool, (rank = false → d.rank = 0) ∧ (storage = false → d.storage = .value) ∧
    j = d.jsonWith rank storage

theorem written_in_full (d : Declaration) : d.WrittenAs d.json :=
  ⟨true, true, by simp, by simp, rfl⟩

theorem rank_finds {d : Declaration} (low : d.rank ≤ readableRank) :
    Finds (Json.readInteger "u8" 0 readableRank) (Json.ofNat d.rank).chars d.rank := by
  have word : d.rank < UInt64.size := Nat.lt_of_le_of_lt low (by decide)
  exact Json.read_scalar_finds (Json.count_simple word)
    (Json.to_integer_count "u8" (Int.ofNat_le.mpr low))

theorem finds {d : Declaration} (low : d.rank ≤ readableRank) {j : Json} (written : d.WrittenAs j) :
    Finds Declaration.read j.chars d := by
  obtain ⟨withRank, withStorage, zero, plain, rfl⟩ := written
  have rank := (rank_finds low).map fun rank (d : Declaration) => { d with rank := rank.toNat }
  obtain ⟨name, kind, _, storage⟩ := d
  have name := (text_finds textExpected name).map fun name (d : Declaration) => { d with name }
  have kind := kind.finds.map fun kind (d : Declaration) => { d with kind }
  have storage := storage.finds.map fun storage (d : Declaration) => { d with storage }
  cases withRank <;> cases withStorage
  case true.true =>
    exact Json.record_finds
      (.member rfl name (.member rfl kind (.member rfl rank (.member rfl storage (.done rfl)))))
  case true.false =>
    cases plain rfl
    exact Json.record_finds (.member rfl name (.member rfl kind (.member rfl rank (.done rfl))))
  case false.true =>
    cases zero rfl
    exact Json.record_finds (.member rfl name (.member rfl kind (.member rfl storage (.done rfl))))
  case false.false =>
    cases zero rfl
    cases plain rfl
    exact Json.record_finds (.member rfl name (.member rfl kind (.done rfl)))

theorem written_opens {d : Declaration} {j : Json} (written : d.WrittenAs j) :
    Json.Opens j.chars := by
  obtain ⟨_, _, _, _, rfl⟩ := written
  exact ⟨_, _, by rw [jsonWith, List.cons_append, List.cons_append, Json.chars]; rfl, by decide,
    by decide⟩

end Declaration

namespace Description

def WrittenAs (description : Description) (j : Json) : Prop :=
  ∃ js, List.Forall₂ Declaration.WrittenAs description.fields js ∧
    j = .object [("name", .string description.name), ("fields", .array js)]

theorem written_in_full (description : Description) : description.WrittenAs description.json := by
  refine ⟨description.fields.map Declaration.json, ?_, rfl⟩
  rw [List.forall₂_map_right_iff, List.forall₂_same]
  exact fun d _ => d.written_in_full

theorem finds {description : Description}
    (low : ∀ d ∈ description.fields, d.rank ≤ Declaration.readableRank) {j : Json}
    (written : description.WrittenAs j) : Finds Description.read j.chars description := by
  obtain ⟨js, fields, rfl⟩ := written
  have each : List.Forall₂ (Json.ItemFinds Declaration.read) description.fields js :=
    ((List.forall₂_and_left _ _).mpr ⟨low, fields⟩).imp fun d j here =>
      ⟨Declaration.finds here.1 here.2, Declaration.written_opens here.2⟩
  have name := (text_finds textExpected description.name).map
    fun name (r : Description) => { r with name }
  have listed := (Json.items_find each).map fun fields (r : Description) => { r with fields }
  exact Json.record_finds (.member rfl name (.member rfl listed (.done rfl)))

/-- A valid description loads from its JSON text as itself, and so it does from any text in which
members are left out that a reader takes for granted. -/
theorem json_reads_back (description : Description) (valid : description.flaw? = none) :
    ofJsonText description.json.text = .ok description ∧
      ∀ j, description.WrittenAs j → ofJsonText j.text = .ok description := by
  have low : ∀ d ∈ description.fields, d.rank ≤ Declaration.readableRank := fun d member =>
    Nat.le_trans (description.valid_ranks valid d member) (by decide)
  have loads (j : Json) (written : description.WrittenAs j) :
      ofJsonText j.text = .ok description := by
    rw [ofJsonText, ofJson, Json.whole_of_finds (finds low written)]
    simp only [validated, valid]
  exact ⟨loads _ description.written_in_full, loads⟩

theorem terse_description_loads :
    let n : Declaration := ⟨"n", .int, 0, .value⟩
    let grid : Declaration := ⟨"grid", .real, 2, .value⟩
    let tag : Declaration := ⟨"tag", .text, 0, .pointer⟩
    let z : Declaration := ⟨"z", .complex, 3, .allocatable⟩
    let description : Description := ⟨"beam", [n, grid, tag, z]⟩
    let terse : Json := .object [("name", .string "beam"), ("fields", .array
      [n.jsonWith false false, grid.jsonWith true false, tag.jsonWith false true, z.json])]
    description.flaw? = none ∧ description.WrittenAs terse ∧
      terse.text = "\x7b\"name\":\"beam\",\"fields\":[\x7b\"name\":\"n\",\"kind\":\"int\"\x7d," ++
        "\x7b\"name\":\"grid\",\"kind\":\"real\",\"rank\":2\x7d," ++
        "\x7b\"name\":\"tag\",\"kind\":\"text\",\"storage\":\"pointer\"\x7d," ++
        "\x7b\"name\":\"z\",\"kind\":\"complex\",\"rank\":3,\"storage\":\"allocatable\"\x7d]\x7d" ∧
      ofJsonText description.json.text = .ok description ∧
      ofJsonText terse.text = .ok description := by
  intro n grid tag z description terse
  have valid : description.flaw? = none := by decide +kernel
  have written : description.WrittenAs terse :=
    ⟨_, .cons ⟨false, false, fun _ => rfl, fun _ => rfl, rfl⟩ <|
      .cons ⟨true, false, nofun, fun _ => rfl, rfl⟩ <|
      .cons ⟨false, true, fun _ => rfl, nofun, rfl⟩ <| .cons z.written_in_full .nil, rfl⟩
  obtain ⟨full, short⟩ := description.json_reads_back valid
  exact ⟨valid, written, by decide +kernel, full, short terse written⟩

end Description

end RecordComparison
