import Mathlib.Data.List.Forall2
import RecordComparison.Description.Loading
import RecordComparison.Proofs.Acceptance
import RecordComparison.Proofs.Embedding
import RecordComparison.Reference.Json
import RecordComparison.Reference.Yaml

/-!
Records with a fixed layout as documents. If a description declares the fields of such a record
one by one, then the document that the record is written as decodes to the record that holds the
same values in slots, in whatever order the members of the document stand; so records that were
written and decoded are compared as they were before. Main statement:
`reference_records_decode_alike`.
-/
namespace RecordComparison
open Json
open Comparable (collect equal)

section Leaves

/-- How the leaves of a type are written as JSON, and the scalars that these are read as. -/
structure WrittenLeaf (α : Type) [Comparable α] where
  kind : Kind
  write : α → Json
  wrap : α → Scalar
  reads : ∀ a, LeafReads kind (write a) (wrap a)
  keeps : KeepsComparison wrap

namespace WrittenLeaf

def truth : WrittenLeaf Bool := ⟨.bool, bool, .bool, .bool, Wraps.bool.keeps⟩

theorem widened_equal (a b : Int32) : (a.toInt64 == b.toInt64) = (a == b) := by
  rw [Bool.eq_iff_iff, beq_iff_eq, beq_iff_eq, ← Int64.toInt_inj, Int32.toInt_toInt64,
    Int32.toInt_toInt64, Int32.toInt_inj]

theorem widened_mismatch (a b : Int32) :
    Mismatch.ofLeaves a.toInt64 b.toInt64 = Mismatch.ofLeaves a b := by
  simp only [Mismatch.ofLeaves, Leaf.text, Int32.toInt_toInt64]

theorem widening_keeps : KeepsComparison Int32.toInt64 where
  equal := widened_equal
  walk sink a b := by
    show (if a.toInt64 == b.toInt64 then Walk.done
      else .report sink (.ofLeaves a.toInt64 b.toInt64)) = _
    rw [widened_equal, widened_mismatch]
    rfl

def int : WrittenLeaf Int32 where
  kind := .int
  write n := integer n.toInt
  wrap n := .int n.toInt64
  reads n := n.toInt_toInt64 ▸ .int n.toInt64
  keeps := Wraps.int.keeps.comp widening_keeps

end WrittenLeaf

end Leaves

section Values

theorem list_reads_written {α β : Type} {write : α → Json} {hold : α → β}
    {item : Json → β → Prop} (items : ∀ a, item (write a) (hold a)) (as : List α) :
    ListReads item (ofList write as) (as.map hold) := by
  refine ⟨as.map write, rfl, ?_⟩
  rw [List.forall₂_map_left_iff, List.forall₂_map_right_iff, List.forall₂_same]
  exact fun a _ => items a

theorem FieldValue.reads_present {kind : Kind} {j : Json} {v : FieldValue}
    (reads : v.Reads kind j) : j ≠ .null := by
  rintro rfl
  cases v
  case scalar => cases reads; contradiction
  all_goals
    obtain ⟨_, impossible, _⟩ := reads
    contradiction

/-- How the values of a type are written as JSON, and what a slot holds for them. -/
structure WrittenValue (α : Type) [Comparable α] where
  kind : Kind
  rank : Nat
  write : α → Json
  hold : α → FieldValue
  low : rank ≤ maximalRank
  ranked : ∀ a, (hold a).rank = rank
  reads : ∀ a, (hold a).Reads kind (write a)
  keeps : KeepsComparison hold

variable {α : Type} [Comparable α]

namespace WrittenLeaf

variable (leaf : WrittenLeaf α)

def scalar : WrittenValue α where
  kind := leaf.kind
  rank := 0
  write := leaf.write
  hold := .ofLeaf leaf.wrap
  low := by decide
  ranked _ := rfl
  reads := leaf.reads
  keeps := leaf.keeps.of_leaf

def array : WrittenValue (List α) where
  kind := leaf.kind
  rank := 1
  write := ofList leaf.write
  hold := .ofArray leaf.wrap
  low := by decide
  ranked _ := rfl
  reads := list_reads_written leaf.reads
  keeps := leaf.keeps.of_array

def matrix : WrittenValue (Matrix α) where
  kind := leaf.kind
  rank := 2
  write := ofList (ofList leaf.write)
  hold := .ofMatrix leaf.wrap
  low := by decide
  ranked _ := rfl
  reads := list_reads_written (list_reads_written leaf.reads)
  keeps := leaf.keeps.of_matrix

def tensor : WrittenValue (Tensor α) where
  kind := leaf.kind
  rank := 3
  write := ofList (ofList (ofList leaf.write))
  hold := .ofTensor leaf.wrap
  low := by decide
  ranked _ := rfl
  reads := list_reads_written (list_reads_written (list_reads_written leaf.reads))
  keeps := leaf.keeps.of_tensor

end WrittenLeaf

end Values

section Fields

variable {R α : Type} [Comparable α]

structure DescribedField (R : Type) extends SlottedField R where
  declaration : Declaration
  write : Part → Json
  named : declaration.name = name
  decodes : ∀ p, declaration.decode (some (write p)) = .ok ⟨name, value p⟩

theorem WrittenValue.decodes (v : WrittenValue α) (name : String) (storage : Storage) (a : α) :
    Declaration.decode ⟨name, v.kind, v.rank, storage⟩ (some (v.write a)) =
      .ok ⟨name, some (v.hold a)⟩ := by
  rw [Declaration.decode_present_iff _ v.low (FieldValue.reads_present (v.reads a))]
  exact ⟨v.hold a, ⟨v.ranked a, v.reads a⟩, rfl⟩

namespace DescribedField

def plain (v : WrittenValue α) (name : String) (get : R → α) : DescribedField R where
  name
  get
  value a := some (v.hold a)
  keeps := KeepsComparison.present.comp v.keeps
  declaration := ⟨name, v.kind, v.rank, .value⟩
  write := v.write
  named := rfl
  decodes := v.decodes name .value

def optional (v : WrittenValue α) (name : String) (storage : Storage)
    (nullable : storage ≠ .value) (get : R → Option α) : DescribedField R where
  name
  get
  value := Option.map v.hold
  keeps := v.keeps.option
  declaration := ⟨name, v.kind, v.rank, storage⟩
  write := ofOption v.write
  named := rfl
  decodes
    | none => by
      rw [ofOption, Declaration.decode_absent_iff _ (.inr rfl)]
      exact ⟨nullable, rfl⟩
    | some a => v.decodes name storage a

def member (f : DescribedField R) (r : R) : String × Json := (f.name, f.write (f.get r))

end DescribedField

end Fields

section Documents

variable {R : Type}

theorem member_of_distinct {members : List (String × Json)}
    (distinct : (members.map (·.1)).Nodup) {m : String × Json} (here : m ∈ members) :
    member? members m.1 = some m.2 := by
  induction members with
  | nil => simp at here
  | cons n later ih =>
    obtain ⟨fresh, distinct⟩ := List.nodup_cons.mp distinct
    rw [member_cons]
    rcases List.mem_cons.mp here with rfl | here
    · rw [if_pos rfl]
    · have other : n.1 ≠ m.1 := by
        intro same
        exact fresh (List.mem_map.mpr ⟨m, here, same.symm⟩)
      rw [if_neg other, ih distinct here]

theorem decode_written (title : String) (fields : List (DescribedField R))
    (distinct : (fields.map (·.name)).Nodup) (r : R) {members : List (String × Json)}
    (order : (fields.map (·.member r)).Perm members) :
    Description.decode ⟨title, fields.map (·.declaration)⟩ (object members) =
      .ok (.ofFields title (fields.map (·.toSlottedField)) r) := by
  -- The keys are the names of the fields, so under each name only one member can be found.
  have keys : (members.map (·.1)).Nodup := by
    have names : (fields.map (·.member r)).map (·.1) = fields.map (·.name) := by
      rw [List.map_map]
      rfl
    rw [← names] at distinct
    exact (order.map (·.1)).nodup_iff.mp distinct
  have found (f : DescribedField R) (listed : f ∈ fields) :
      member? members f.name = some (f.write (f.get r)) :=
    member_of_distinct keys (order.mem_iff.mp (List.mem_map_of_mem listed))
  rw [Description.decode_object_iff]
  refine ⟨?_, ?_, rfl⟩
  · rw [Record.ofFields, List.map_map, List.forall₂_map_left_iff, List.forall₂_map_right_iff,
      List.forall₂_same]
    intro f listed
    rw [f.named, found f listed]
    exact f.decodes (f.get r)
  · intro m here
    obtain ⟨f, listed, rfl⟩ := List.mem_map.mp (order.mem_iff.mpr here)
    exact ⟨f.declaration, List.mem_map_of_mem listed, f.named⟩

def Json.Reordered (j k : Json) : Prop :=
  ∃ members others, j = object members ∧ k = object others ∧ members.Perm others

def Json.inKeyOrder (members : List (String × Json)) : List (String × Json) :=
  members.foldr (fun m sorted => insert m.1 m.2 sorted) []

theorem Json.insert_perm {members : List (String × Json)} {key : String}
    (fresh : key ∉ members.map (·.1)) (value : Json) :
    ((key, value) :: members).Perm (insert key value members) := by
  induction members with
  | nil => exact .refl _
  | cons m later ih =>
    obtain ⟨other, fresh⟩ := not_or.mp (List.mem_cons.not.mp fresh)
    simp only [Json.insert, if_neg other]
    split
    · exact .refl _
    · exact (List.Perm.swap _ _ _).trans ((ih fresh).cons m)

theorem Json.in_key_order_perm {members : List (String × Json)}
    (distinct : (members.map (·.1)).Nodup) : members.Perm (inKeyOrder members) := by
  induction members with
  | nil => exact .refl _
  | cons m later ih =>
    obtain ⟨fresh, distinct⟩ := List.nodup_cons.mp distinct
    have sorted := ih distinct
    have fresh : m.1 ∉ (inKeyOrder later).map (·.1) := by
      rwa [← (sorted.map (·.1)).mem_iff]
    exact (sorted.cons m).trans (insert_perm fresh m.2)

/-- Two records that are written and decoded under the description are equal if they were equal
before, and are reported with the same differences. -/
def DecodesAlike [Comparable R] (write : R → Json) (description : Description) : Prop :=
  ∀ (a b : R) (left right : Json), (write a).Reordered left → (write b).Reordered right →
    ∃ l r : Record, description.decodeRecord left = .ok l ∧
      description.decodeRecord right = .ok r ∧ equal l r = equal a b ∧
        ∀ limit, collect limit l r = collect limit a b

theorem described_decodes_alike (title : String) (fields : List (DescribedField R))
    (distinct : (fields.map (·.name)).Nodup) :
    @DecodesAlike R (.ofFields ((fields.map (·.toSlottedField)).map (·.toField)))
      (fun r => object (fields.map (·.member r))) ⟨title, fields.map (·.declaration)⟩ := by
  let slotted := fields.map (·.toSlottedField)
  let _ : Comparable R := .ofFields (slotted.map (·.toField))
  have keeps : KeepsComparison (Record.ofFields title slotted) :=
    Record.of_fields_keeps title slotted
  have decodes (r : R) {document : Json}
      (order : (object (fields.map (·.member r))).Reordered document) :
      Description.decodeRecord ⟨title, fields.map (·.declaration)⟩ document =
        .ok (Record.ofFields title slotted r) := by
    obtain ⟨_, members, written, rfl, order⟩ := order
    obtain rfl := object.inj written
    rw [Description.decode_record_ok_iff]
    exact decode_written title fields distinct r order
  intro a b left right one other
  exact ⟨_, _, decodes a one, decodes b other, keeps.equal a b, fun limit => keeps.report limit a b⟩

end Documents

section References

open DescribedField (plain optional)

def IntegerRecord.described : List (DescribedField IntegerRecord) :=
  [plain WrittenLeaf.int.scalar "a" (·.a)]

def TruthRecord.described : List (DescribedField TruthRecord) :=
  let item := WrittenLeaf.truth.scalar
  let items := WrittenLeaf.truth.array
  let rows := WrittenLeaf.truth.matrix
  let planes := WrittenLeaf.truth.tensor
  [ plain item "i0" (·.i0),
    optional item "ip0" .pointer (by decide) (·.ip0),
    optional item "ia0" .allocatable (by decide) (·.ia0),
    plain items "i1" (·.i1),
    optional items "ip1" .pointer (by decide) (·.ip1),
    optional items "ia1" .allocatable (by decide) (·.ia1),
    plain rows "i2" (·.i2),
    optional rows "ip2" .pointer (by decide) (·.ip2),
    optional rows "ia2" .allocatable (by decide) (·.ia2),
    plain planes "i3" (·.i3),
    optional planes "ip3" .pointer (by decide) (·.ip3),
    optional planes "ia3" .allocatable (by decide) (·.ia3)]

theorem IntegerRecord.decodes_alike :
    DecodesAlike IntegerRecord.json IntegerRecord.description :=
  described_decodes_alike "my" described (by decide)

theorem TruthRecord.decodes_alike : DecodesAlike TruthRecord.json TruthRecord.description :=
  described_decodes_alike "ttt" described (by decide)

end References

section Sources

namespace Description

def ofTokens (path : String) (tokens? : Option (List Yaml.Token)) :
    Except LoadProblem Description :=
  match tokens? >>= Yaml.Document.ofTokens? with
  | none => .error (.unreadable path (.yaml .malformed))
  | some document =>
    match readYaml document.anchored [] document.root with
    | .ok description => description.validated
    | .error trouble => .error (.unreadable path (.yaml (.unfit trouble)))

theorem of_yaml_tokens (path text : String) :
    ofYaml path text = ofTokens path (Yaml.tokens? text) := by
  rw [ofYaml, Yaml.whole, Yaml.Document.ofText?, ofTokens]
  cases Yaml.tokens? text >>= Yaml.Document.ofTokens? with
  | none => rfl
  | some document =>
    cases read : readYaml document.anchored [] document.root <;> simp only [read]

theorem of_yaml_file (path text : String)
    (format : (Location.extension? path).bind Format.ofExtension? = some .yaml) :
    ofFile path (.ok text) = ofYaml path text := by
  simp only [ofFile, format]

end Description

theorem characters_of_lines {lines : List String} {spelled : List (List Char)}
    (same : List.Forall₂ (fun line cs => line = String.ofList cs) lines spelled) :
    textOfLines lines = String.ofList (spelled.flatMap fun cs => cs ++ ['\n']) := by
  rw [textOfLines]
  congr 1
  induction same with
  | nil => rfl
  | cons here _ ih => rw [List.flatMap_cons, List.flatMap_cons, ih, here, String.toList_ofList]

theorem tokens_of_characters (cs : List Char) :
    Yaml.tokens? (String.ofList cs) =
      if cs.all Yaml.isAllowed then
        Yaml.Scan.allTokens (cs.length + 1) ⟨⟨cs, 0, 0, 0⟩, [], [], none, true, []⟩
      else none := by
  rw [Yaml.tokens?, Yaml.Scan.start, Yaml.Input.ofText, String.toList_ofList]

theorem IntegerRecord.source_loads :
    Description.ofFile "schemas/my.yaml" (.ok source) = .ok description := by
  decide +kernel

theorem TruthRecord.source_loads :
    Description.ofFile "schemas/ttt.yaml" (.ok source) = .ok description := by
  -- The lines are spelled out first, because the kernel is slow to take characters out of them.
  rw [Description.of_yaml_file _ _ (by decide +kernel), Description.of_yaml_tokens, source,
    characters_of_lines ?spelled, tokens_of_characters]
  case spelled => repeat' constructor
  decide +kernel

end Sources

/-- Each of the two records with a fixed layout has a description, and what is written of the
record decodes under it to records that are compared alike. -/
theorem reference_records_decode_alike :
    (Description.ofFile "schemas/ttt.yaml" (.ok TruthRecord.source) =
        .ok TruthRecord.description ∧
      DecodesAlike TruthRecord.json TruthRecord.description) ∧
    Description.ofFile "schemas/my.yaml" (.ok IntegerRecord.source) =
        .ok IntegerRecord.description ∧
      DecodesAlike IntegerRecord.json IntegerRecord.description :=
  ⟨⟨TruthRecord.source_loads, TruthRecord.decodes_alike⟩,
    IntegerRecord.source_loads, IntegerRecord.decodes_alike⟩

theorem ragged_records_decode_alike :
    let a : TruthRecord := { TruthRecord.initial with
      i1 := [false, true], ia1 := some [], ip2 := some [[true, false], []] }
    let b : TruthRecord := { TruthRecord.initial with ip2 := some [[true], [false]] }
    let sorted := inKeyOrder (TruthRecord.described.map (·.member a))
    sorted.map (·.1) = ["i0", "i1", "i2", "i3", "ia0", "ia1", "ia2", "ia3", "ip0", "ip1", "ip2",
      "ip3"] ∧ a.json.Reordered (object sorted) ∧ b.json.Reordered b.json ∧
    ∃ l r : Record, TruthRecord.description.decodeRecord (object sorted) = .ok l ∧
      TruthRecord.description.decodeRecord b.json = .ok r ∧ equal l r = false ∧
        collect none l r = [
          ⟨[.field "i1"], .length 2 3⟩,
          ⟨[.field "ia1"], .presence true false⟩,
          ⟨[.field "ip2", .index 0], .length 2 1⟩,
          ⟨[.field "ip2", .index 1], .length 0 1⟩] := by
  intro a b sorted
  have left : a.json.Reordered (object sorted) := ⟨_, _, rfl, rfl, in_key_order_perm (by decide)⟩
  have right : b.json.Reordered b.json := ⟨_, _, rfl, rfl, .refl _⟩
  obtain ⟨⟨_, alike⟩, _⟩ := reference_records_decode_alike
  obtain ⟨l, r, one, other, same, reports⟩ := alike a b (object sorted) b.json left right
  refine ⟨by decide +kernel, left, right, l, r, one, other, ?_, ?_⟩
  · rw [same]
    decide
  · rw [reports none]
    decide +kernel

end RecordComparison
