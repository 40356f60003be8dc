import RecordComparison.Proofs.DescriptionJson
import RecordComparison.Proofs.FlowNodes

/-!
Descriptions in JSON, read as YAML. All that is written of a valid description are words and small
numbers; the words are quoted, so that none is taken for a number, a truth value or null. Hence both
formats find the description in its JSON text. Main statement:
`Description.formats_agree`.
-/
namespace RecordComparison

namespace Yaml

def Gives {α : Type} (read : Read α) (node : Node) (a : α) : Prop :=
  ∀ anchored place, read anchored place node = .ok a

section Values

variable {α β : Type} {read : Read α} {node : Node} {a : α}

theorem Gives.map (gives : Gives read node a) (f : α → β) : Gives (mapRead f read) node (f a) := by
  intro anchored place
  rw [mapRead, gives]
  rfl

theorem Gives.check {f : α → Except Fault β} {b : β} (gives : Gives read node a)
    (accepted : f a = .ok b) : Gives (checkRead f read) node b := by
  intro anchored place
  simp only [checkRead, gives anchored place]
  show unplaced (f a) = .ok b
  rw [accepted]
  rfl

theorem scalar_gives {expected : String}
    {accept : Option (List Char) → ScalarStyle → List Char → Option (Except Fault α)}
    {tag : Option (List Char)} {style : ScalarStyle} {text : List Char}
    (accepted : accept tag style text = some (.ok a)) :
    Gives (readScalar expected accept) (.scalar tag style text) a := by
  intro anchored place
  simp [readScalar, target, accepted, unplaced, placed]

theorem text_gives (expected s : String) : Gives (readText expected) (Json.string s).node s :=
  scalar_gives (by rw [String.ofList_toList])

theorem natural_gives (expected : String) {n greatest : Nat} (low : n ≤ greatest)
    (word : greatest < UInt64.size) (means : natural? (Json.ofNat n).chars = some n) :
    Gives (readNatural expected greatest) (Json.ofNat n).node n := by
  have narrow : n < UInt64.size := Nat.lt_of_le_of_lt low word
  exact scalar_gives (by simp [mayBe, means, narrow, low])

theorem items_read {form : α → Json} {as : List α} (each : ∀ a ∈ as, Gives read (form a).node a)
    (anchored : List (Nat × Node)) (place : Place) (i : Nat) :
    readItems read anchored place i (Json.itemNodes (as.map form)) = .ok as := by
  induction as generalizing i with
  | nil => rfl
  | cons a as ih =>
    obtain ⟨here, later⟩ := List.forall_mem_cons.mp each
    rw [List.map_cons, Json.itemNodes, readItems, here, ih later]
    rfl

theorem list_gives {form : α → Json} {as : List α} (each : ∀ a ∈ as, Gives read (form a).node a) :
    Gives (readList read) (Json.ofList form as).node as := by
  intro anchored place
  show placed place (readItems read anchored place 0 (Json.itemNodes (as.map form))) = .ok as
  rw [items_read each]
  rfl

end Values

section Records

variable {R : Type} {form : RecordForm Read R}

/-- Reading these members, after others of the names that have been seen, takes one record to
another. -/
inductive Taken (form : RecordForm Read R) : List String → R → List (String × Json) → R → Prop where
  | done {seen : List String} {r r' : R} : form.finish seen r = .ok r' → Taken form seen r [] r'
  | member {seen : List String} {r r' : R} {key : String} {j : Json} {later : List (String × Json)}
      {m : Member Read R} {set : R → R} :
      form.accept seen key = .ok (some m) → Gives m.read j.node set →
      Taken form (key :: seen) (set r) later r' → Taken form seen r ((key, j) :: later) r'

theorem entries_read {seen : List String} {r r' : R} {members : List (String × Json)}
    (taken : Taken form seen r members r') (anchored : List (Nat × Node)) (place : Place) :
    readEntries form anchored place seen r (Json.memberNodes members) = .ok r' := by
  induction taken with
  | done finished =>
    rw [Json.memberNodes, readEntries, finished]
    rfl
  | @member _ _ _ key _ _ _ _ known gives _ ih =>
    have named : readText "field identifier" anchored place (Json.keyNode key) = .ok key :=
      text_gives "field identifier" key anchored place
    simp only [Json.memberNodes, readEntries, named, known, unplaced, bind, Except.bind,
      gives anchored _]
    exact ih

theorem record_gives {r' : R} {members : List (String × Json)}
    (taken : Taken form [] form.blank members r') :
    Gives (readRecord form) (Json.object members).node r' := by
  intro anchored place
  show placed place (readEntries form anchored place [] form.blank (Json.memberNodes members)) = _
  rw [entries_read taken]
  rfl

end Records

end Yaml

open Yaml (Gives Word text_gives)

section Writing

theorem identifier_word {name : String} (proper : isIdentifier name = true) : Word name.toList := by
  obtain ⟨_, _, _, inside⟩ := identifier_chars proper
  exact inside

theorem Kind.name_word (kind : Kind) : Word kind.name.toList := by cases kind <;> decide

theorem Storage.name_word (storage : Storage) : Word storage.name.toList := by
  cases storage <;> decide

theorem Declaration.wordy {d : Declaration} (named : isIdentifier d.name = true) : d.json.Wordy :=
  ⟨by decide, identifier_word named, by decide, d.kind.name_word, by decide,
    Int.natCast_nonneg d.rank, by decide, d.storage.name_word, trivial⟩

theorem fields_wordy {fields : List Declaration}
    (named : ∀ d ∈ fields, isIdentifier d.name = true) :
    Json.WordyItems (fields.map Declaration.json) := by
  induction fields with
  | nil => trivial
  | cons d later ih =>
    obtain ⟨here, named⟩ := List.forall_mem_cons.mp named
    exact ⟨Declaration.wordy here, ih named⟩

theorem Description.wordy {description : Description} (valid : description.flaw? = none) :
    description.json.Wordy := by
  obtain ⟨named, _, each, _⟩ := description.flaw_none_iff.mp valid
  exact ⟨by decide, identifier_word named, by decide,
    fields_wordy fun d member => (each d member).1, trivial⟩

end Writing

section Reading

theorem Kind.gives (kind : Kind) :
    Gives (Yaml.checkRead ofName (Yaml.readText textExpected)) kind.json.node kind := by
  have named : ofName kind.name = .ok kind := by simp [ofName]
  exact (text_gives textExpected kind.name).check named

theorem Storage.gives (storage : Storage) :
    Gives (Yaml.checkRead ofName (Yaml.readText textExpected)) storage.json.node storage := by
  have named : ofName storage.name = .ok storage := by simp [ofName]
  exact (text_gives textExpected storage.name).check named

theorem rank_gives {rank : Nat} (low : rank ≤ maximalRank) :
    Gives (Yaml.readNatural "u8" Declaration.readableRank) (Json.ofNat rank).node rank := by
  have means : ∀ n ≤ maximalRank, Yaml.natural? (Json.ofNat n).chars = some n := by decide
  exact Yaml.natural_gives "u8" (Nat.le_trans low (by decide)) (by decide) (means rank low)

theorem Declaration.gives {d : Declaration} (low : d.rank ≤ maximalRank) :
    Gives (Yaml.readRecord yamlForm) d.json.node d := by
  have name := (text_gives textExpected d.name).map fun name (d : Declaration) => { d with name }
  have kind := d.kind.gives.map fun kind (d : Declaration) => { d with kind }
  have rank := (rank_gives low).map fun rank (d : Declaration) => { d with rank }
  have storage := d.storage.gives.map fun storage (d : Declaration) => { d with storage }
  exact Yaml.record_gives
    (.member rfl name (.member rfl kind (.member rfl rank (.member rfl storage (.done rfl)))))

namespace Description

theorem gives {description : Description} (low : ∀ d ∈ description.fields, d.rank ≤ maximalRank) :
    Gives readYaml description.json.node description := by
  have name := (text_gives textExpected description.name).map
    fun name (r : Description) => { r with name }
  have listed := (Yaml.list_gives fun d member => Declaration.gives (low d member)).map
    fun fields (r : Description) => { r with fields }
  exact Yaml.record_gives (.member rfl name (.member rfl listed (.done rfl)))

theorem of_yaml_written {description : Description} (valid : description.flaw? = none)
    (source : String) : ofYaml source description.json.text = .ok description := by
  have document := Yaml.document_of_flow (wordy valid) rfl
  rw [ofYaml, Yaml.whole, document]
  simp only [gives (description.valid_ranks valid) [] [], validated, valid]

theorem of_json_written {description : Description} (valid : description.flaw? = none)
    (source : String) : ofJson source description.json.text = .ok description := by
  have low : ∀ d ∈ description.fields, d.rank ≤ Declaration.readableRank := fun d member =>
    Nat.le_trans (description.valid_ranks valid d member) (by decide)
  rw [ofJson, Json.whole_of_finds (finds low description.written_in_full)]
  simp only [validated, valid]

/-- A valid description is found in its JSON text by either format, so that the text may stand in a
file of either. -/
theorem formats_agree (description : Description) (valid : description.flaw? = none) :
    ofYamlText description.json.text = .ok description ∧
      ofJsonText description.json.text = .ok description ∧
      ∀ path extension, Location.extension? path = some extension →
        extension.toLower ∈ ["json", "yaml", "yml"] →
          ofFile path (.ok description.json.text) = .ok description := by
  refine ⟨of_yaml_written valid _, of_json_written valid _, ?_⟩
  intro path extension found known
  have format : Format.ofExtension? extension = some .json ∨
      Format.ofExtension? extension = some .yaml := by
    simp only [List.mem_cons, List.not_mem_nil, or_false] at known
    rcases known with json | yaml | yml
    · simp [Format.ofExtension?, json]
    · simp [Format.ofExtension?, yaml]
    · simp [Format.ofExtension?, yml]
  rw [ofFile, found, Option.bind_some]
  rcases format with json | yaml
  · rw [json]
    exact of_json_written valid path
  · rw [yaml]
    exact of_yaml_written valid path

/-- Without quotes the names would be null and truth values. -/
theorem quoted_names_agree :
    let description : Description := ⟨"null", [⟨"true", .bool, 0, .value⟩,
      ⟨"False", .int, 3, .pointer⟩, ⟨"NULL", .text, 1, .allocatable⟩]⟩
    description.flaw? = none ∧
      description.json.text = "\x7b\"name\":\"null\",\"fields\":[" ++
        "\x7b\"name\":\"true\",\"kind\":\"bool\",\"rank\":0,\"storage\":\"value\"\x7d," ++
        "\x7b\"name\":\"False\",\"kind\":\"int\",\"rank\":3,\"storage\":\"pointer\"\x7d," ++
        "\x7b\"name\":\"NULL\",\"kind\":\"text\",\"rank\":1,\"storage\":\"allocatable\"\x7d]\x7d" ∧
      Location.extension? "schemas/null.YML" = some "YML" ∧
      "YML".toLower ∈ ["json", "yaml", "yml"] ∧
      ofYamlText description.json.text = .ok description ∧
      ofJsonText description.json.text = .ok description ∧
      ofFile "schemas/null.YML" (.ok description.json.text) = .ok description := by
  intro description
  have valid : description.flaw? = none := by decide +kernel
  have found : Location.extension? "schemas/null.YML" = some "YML" := by decide +kernel
  have known : "YML".toLower ∈ ["json", "yaml", "yml"] := by decide +kernel
  obtain ⟨yaml, json, file⟩ := description.formats_agree valid
  exact ⟨valid, by decide +kernel, found, known, yaml, json, file _ _ found known⟩

end Description

end Reading

end RecordComparison
