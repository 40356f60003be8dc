import RecordComparison.Proofs.Acceptance

/-!
What is wrong with a document. `Description.faults` lists it without any decoding: what is
missing or null and must not be, every leaf in a wrong spelling and everything that should be an
array, in the order of the declared fields and of the positions inside them, and then the keys
that no field declares. Decoding fails with exactly these faults. Main statement:
`Description.failure_lists_faults`.
-/
namespace RecordComparison
open Json

instance (kind : Kind) (j : Json) : Decidable (LeafFits kind j) :=
  decidable_of_iff ((decodeScalar kind .root j).isOk = true) <| by
    rw [leaf_fits_iff]
    simp only [← decode_scalar_iff kind .root]
    cases decodeScalar kind .root j <;> simp [Except.isOk, Except.toBool]

def leafComplaint (kind : Kind) (j : Json) : Complaint :=
  match kind, j with
  | .int, integer n => .outOfRange n
  | kind, j => .wrongKind kind j.typeName

/-- The faults of arrays that should be nested as deep as the rank, item after item. Nothing is
said of what is inside something that should be an array. -/
def nestedFaults (kind : Kind) : Nat → Path → Json → List Violation
  | 0, path, j => if LeafFits kind j then [] else [⟨path, leafComplaint kind j⟩]
  | rank + 1, path, array items =>
    items.zipIdx.flatMap fun (j, i) => nestedFaults kind rank (path.push (.index i)) j
  | _ + 1, path, j => [⟨path, .notAnArray j.typeName⟩]

def Declaration.faults (d : Declaration) (j? : Option Json) : List Violation :=
  let path : Path := [.field d.name]
  match j? with
  | none => if d.storage = .value then [⟨path, .missing⟩] else []
  | some .null => if d.storage = .value then [⟨path, .notNullable d.storage⟩] else []
  | some j => nestedFaults d.kind d.rank path j

namespace Description

def Declares (description : Description) (key : String) : Prop :=
  ∃ d ∈ description.fields, d.name = key

instance (description : Description) (key : String) : Decidable (description.Declares key) :=
  inferInstanceAs (Decidable (∃ d ∈ description.fields, d.name = key))

def keyFaults (description : Description) (members : List (String × Json)) : List Violation :=
  ((members.map (·.1)).filter fun key => ¬ description.Declares key).map fun key =>
    ⟨[.field key], .unknownField description.name⟩

def faults (description : Description) (document : Json) : List Violation :=
  match document with
  | object members =>
    description.fields.flatMap (fun d => d.faults (member? members d.name)) ++
      description.keyFaults members
  | document => [⟨.root, .notAnObject document.typeName⟩]

end Description

namespace Checked

variable {α β γ : Type}

/-- Success if there are no such violations, else failure with them. -/
inductive Reports : Checked α → List Violation → Prop where
  | ok (a : α) : Reports (.ok a) []
  | error {vs : List Violation} : vs ≠ [] → Reports (.error vs) vs

namespace Reports

theorem fail (path : Path) (complaint : Complaint) :
    Reports (fail path complaint : Checked α) [⟨path, complaint⟩] :=
  .error (List.cons_ne_nil _ _)

theorem combine {x : Checked α} {y : Checked β} {vs ws : List Violation} (f : α → β → γ)
    (first : Reports x vs) (second : Reports y ws) : Reports (combine f x y) (vs ++ ws) := by
  cases first with
  | ok a =>
    cases second with
    | ok b => exact .ok (f a b)
    | error nonempty => exact .error nonempty
  | error nonempty =>
    cases second with
    | ok b =>
      rw [List.append_nil]
      exact .error nonempty
    | error _ => exact .error (List.append_ne_nil_of_left_ne_nil nonempty _)

theorem map {x : Checked α} {vs : List Violation} (f : α → β) (reports : Reports x vs) :
    Reports (x.map f) vs := by
  cases reports with
  | ok a => exact .ok (f a)
  | error nonempty => exact .error nonempty

theorem of_refused {x : Checked α} {vs : List Violation} (reports : Reports x vs)
    (refused : ∀ a, x ≠ .ok a) : x = .error vs ∧ vs ≠ [] := by
  cases reports with
  | ok a => exact absurd rfl (refused a)
  | error nonempty => exact ⟨rfl, nonempty⟩

end Reports

end Checked

section Nested
open Checked (Reports)

variable (kind : Kind)

theorem decode_scalar_complaint (path : Path) (j : Json) :
    (∃ a, decodeScalar kind path j = .ok a) ∨
      decodeScalar kind path j = .fail path (leafComplaint kind j) := by
  cases kind with
  | bool => cases j <;> simp [decodeScalar, leafComplaint]
  | int =>
    cases j
    case integer n =>
      by_cases inside : int64Range n = true <;> simp [decodeScalar, leafComplaint, inside]
    all_goals exact Or.inr rfl
  | real => cases found : j.asDouble? <;> simp [decodeScalar, leafComplaint, found]
  | complex => cases found : decodeComplex? j <;> simp [decodeScalar, leafComplaint, found]
  | text => cases j <;> simp [decodeScalar, leafComplaint]

theorem scalar_reports (path : Path) (j : Json) :
    Reports (decodeScalar kind path j) (nestedFaults kind 0 path j) := by
  have fits : LeafFits kind j ↔ ∃ a, decodeScalar kind path j = .ok a := by
    simp only [leaf_fits_iff, decode_scalar_iff]
  rcases decode_scalar_complaint kind path j with ⟨a, decoded⟩ | failed
  · rw [nestedFaults, if_pos (fits.mpr ⟨a, decoded⟩), decoded]
    exact .ok a
  · have unfit : ¬ LeafFits kind j := by
      rw [fits, failed]
      rintro ⟨a, decoded⟩
      cases decoded
    rw [nestedFaults, if_neg unfit, failed]
    exact .fail path _

variable {α : Type} {decode : Path → Json → Checked α} {rank : Nat}

theorem items_report
    (items : ∀ path j, Reports (decode path j) (nestedFaults kind rank path j))
    (path : Path) (i : Nat) (js : List Json) :
    Reports (decodeItems decode path i js)
      ((js.zipIdx i).flatMap fun (j, k) => nestedFaults kind rank (path.push (.index k)) j) := by
  induction js generalizing i with
  | nil => exact .ok []
  | cons j js ih =>
    rw [decodeItems, List.zipIdx_cons, List.flatMap_cons]
    exact (items (path.push (.index i)) j).combine List.cons (ih (i + 1))

theorem array_reports
    (items : ∀ path j, Reports (decode path j) (nestedFaults kind rank path j))
    (path : Path) (j : Json) :
    Reports (decodeArray decode path j) (nestedFaults kind (rank + 1) path j) := by
  cases j
  case array js =>
    rw [nestedFaults]
    exact items_report kind items path 0 js
  all_goals exact .fail path _

theorem value_reports (rank : Nat) (low : rank ≤ maximalRank) (path : Path) (j : Json) :
    Reports (decodeValue kind rank path j) (nestedFaults kind rank path j) := by
  have leaf := scalar_reports kind
  have array := array_reports kind leaf
  have matrix := array_reports kind array
  have tensor := array_reports kind matrix
  match rank, low with
  | 0, _ => exact (leaf path j).map _
  | 1, _ => exact (array path j).map _
  | 2, _ => exact (matrix path j).map _
  | 3, _ => exact (tensor path j).map _

/-- What holds of the complaint about any leaf, and about anything else that should be an array,
holds of all faults, given what an array hands on to its items. -/
theorem nested_faults_all {Q : Path → Json → Prop} {P : Violation → Prop}
    (item : ∀ path items i j, Q path (array items) → items[i]? = some j → Q (path.push (.index i)) j)
    (leaf : ∀ path j, Q path j → ¬ LeafFits kind j → P ⟨path, leafComplaint kind j⟩)
    (list : ∀ path j, Q path j → j.typeName ≠ "array" → P ⟨path, .notAnArray j.typeName⟩)
    (rank : Nat) {path : Path} {j : Json} (here : Q path j) :
    ∀ v ∈ nestedFaults kind rank path j, P v := by
  induction rank generalizing path j with
  | zero =>
    intro v member
    rw [nestedFaults] at member
    split at member
    next => simp at member
    next unfit =>
      rw [List.mem_singleton.mp member]
      exact leaf path j here unfit
  | succ rank ih =>
    intro v member
    cases j
    case array items =>
      rw [nestedFaults, List.mem_flatMap] at member
      obtain ⟨⟨j, i⟩, placed, inside⟩ := member
      exact ih (item path items i j here (List.mem_zipIdx_iff_getElem?.mp placed)) v inside
    all_goals
      rw [List.mem_singleton.mp member]
      exact list path _ here (by simp [typeName])

theorem nested_faults_below (rank : Nat) (path : Path) (j : Json) :
    ∀ v ∈ nestedFaults kind rank path j, path <+: v.path := by
  refine nested_faults_all kind (Q := fun inner _ => path <+: inner) ?_ ?_ ?_ rank
    (List.prefix_refl path)
  · exact fun inner _ i _ below _ => below.trans (List.prefix_append inner [.index i])
  · exact fun _ _ below _ => below
  · exact fun _ _ below _ => below

end Nested

open Checked (Reports)

def Violation.inField (name : String) (v : Violation) : Bool :=
  v.path.head? == some (.field name)

namespace Declaration

theorem faults_present (d : Declaration) {j : Json} (present : j ≠ .null) :
    d.faults (some j) = nestedFaults d.kind d.rank [.field d.name] j := by
  cases j
  case null => contradiction
  all_goals rfl

theorem decode_reports (d : Declaration) (low : d.rank ≤ maximalRank) (j? : Option Json) :
    Reports (d.decode j?) (d.faults j?) := by
  rcases absent_or_present j? with absent | ⟨j, rfl, present⟩
  · have nullable := d.nullable_iff
    rcases absent with rfl | rfl
    all_goals
      simp only [decode, faults]
      by_cases required : d.storage = .value
      · rw [if_neg (by simp [nullable, required]), if_pos required]
        exact .fail _ _
      · rw [if_pos (nullable.mpr required), if_neg required]
        exact .ok _
  · rw [d.decode_present present, d.faults_present present]
    exact (value_reports d.kind d.rank low _ j).map _

theorem faults_all (d : Declaration) (j? : Option Json) {P : Violation → Prop}
    (missing : j? = none → d.storage = .value → P ⟨[.field d.name], .missing⟩)
    (null : j? = some .null → d.storage = .value → P ⟨[.field d.name], .notNullable d.storage⟩)
    (nested : ∀ j, j? = some j → ∀ v ∈ nestedFaults d.kind d.rank [.field d.name] j, P v) :
    ∀ v ∈ d.faults j?, P v := by
  rcases absent_or_present j? with (rfl | rfl) | ⟨j, rfl, present⟩
  · intro v member
    simp only [faults] at member
    split at member
    next required => exact List.mem_singleton.mp member ▸ missing rfl required
    next => simp at member
  · intro v member
    simp only [faults] at member
    split at member
    next required => exact List.mem_singleton.mp member ▸ null rfl required
    next => simp at member
  · rw [d.faults_present present]
    exact nested j rfl

theorem faults_in_field (d : Declaration) (j? : Option Json) :
    ∀ v ∈ d.faults j?, v.path.head? = some (.field d.name) := by
  refine d.faults_all j? (fun _ _ => rfl) (fun _ _ => rfl) fun j _ v member => ?_
  obtain ⟨rest, path⟩ := nested_faults_below d.kind d.rank _ j v member
  rw [← path, List.singleton_append, List.head?_cons]

theorem faults_filter_self (d : Declaration) (j? : Option Json) :
    (d.faults j?).filter (·.inField d.name) = d.faults j? := by
  rw [List.filter_eq_self]
  intro v member
  simp [Violation.inField, d.faults_in_field j? v member]

theorem faults_filter_other (d : Declaration) (j? : Option Json) {name : String}
    (other : d.name ≠ name) : (d.faults j?).filter (·.inField name) = [] := by
  rw [List.filter_eq_nil_iff]
  intro v member
  simp [Violation.inField, d.faults_in_field j? v member, other]

end Declaration

namespace Description

theorem fields_report (members : List (String × Json)) (fields : List Declaration)
    (low : ∀ d ∈ fields, d.rank ≤ maximalRank) :
    Reports (decodeFields members fields)
      (fields.flatMap fun d => d.faults (member? members d.name)) := by
  induction fields with
  | nil => exact .ok []
  | cons d fields ih =>
    have here := d.decode_reports (low d (by simp)) (member? members d.name)
    have later := ih fun e member => low e (by simp [member])
    rw [decodeFields, List.flatMap_cons]
    exact here.combine List.cons later

theorem keys_report (description : Description) (members : List (String × Json)) :
    Reports (description.unknownKeys members) (description.keyFaults members) := by
  have undeclared (key : String) :
      (description.field? key).isNone = decide ¬ description.Declares key := by
    rw [Bool.eq_iff_iff, decide_eq_true_iff, Option.isNone_iff_eq_none]
    exact description.field_none_iff key
  simp only [unknownKeys, keyFaults, undeclared]
  split
  next known => rw [known]; exact .ok ()
  next unknown => exact .error (by simpa using unknown)

theorem decode_reports (description : Description)
    (low : ∀ d ∈ description.fields, d.rank ≤ maximalRank) (document : Json) :
    Reports (description.decode document) (description.faults document) := by
  cases document
  case object members =>
    exact (fields_report members description.fields low).combine _
      (description.keys_report members)
  all_goals exact .fail _ _

theorem faults_of_error (description : Description) (valid : description.flaw? = none)
    (document : Json) {failure : DecodeFailure}
    (failed : description.decodeRecord document = .error failure) :
    failure.violations = description.faults document := by
  have reports := description.decode_reports (description.valid_ranks valid) document
  rw [decodeRecord] at failed
  split at failed
  next => cases failed
  next vs listed =>
    cases failed
    rw [listed] at reports
    cases reports
    rfl

theorem fields_faults_filter (members : List (String × Json)) (fields : List Declaration)
    (distinct : (fields.map (·.name)).Nodup) {d : Declaration} (declared : d ∈ fields) :
    (fields.flatMap fun e => e.faults (member? members e.name)).filter (·.inField d.name) =
      d.faults (member? members d.name) := by
  induction fields with
  | nil => simp at declared
  | cons e fields ih =>
    rw [List.map_cons, List.nodup_cons] at distinct
    obtain ⟨fresh, distinct⟩ := distinct
    rw [List.flatMap_cons, List.filter_append]
    rcases List.mem_cons.mp declared with rfl | later
    · have rest : (fields.flatMap fun e => e.faults (member? members e.name)).filter
          (·.inField d.name) = [] := by
        rw [List.filter_flatMap, List.flatMap_eq_nil_iff]
        intro e member
        refine e.faults_filter_other _ fun same => fresh ?_
        exact List.mem_map.mpr ⟨e, member, same⟩
      rw [d.faults_filter_self, rest, List.append_nil]
    · have other : e.name ≠ d.name := by
        intro same
        exact fresh (List.mem_map.mpr ⟨d, later, same.symm⟩)
      rw [e.faults_filter_other _ other, ih distinct later, List.nil_append]

theorem key_faults_filter (description : Description) (members : List (String × Json))
    {d : Declaration} (declared : d ∈ description.fields) :
    (description.keyFaults members).filter (·.inField d.name) = [] := by
  rw [List.filter_eq_nil_iff]
  intro v member
  obtain ⟨key, unknown, rfl⟩ := List.mem_map.mp member
  have undeclared : ¬ description.Declares key := by simpa using (List.mem_filter.mp unknown).2
  have other : key ≠ d.name := by
    rintro rfl
    exact undeclared ⟨d, declared, rfl⟩
  simp [Violation.inField, other]

/-- If a document does not decode, the failure names the record and lists all faults, of which
there is one at least. Those in a field depend on nothing but the declaration of the field and
what the document has for it. -/
theorem failure_lists_faults (description : Description) (valid : description.flaw? = none)
    (document : Json) (refused : ∀ r, description.decodeRecord document ≠ .ok r) :
    let vs := description.faults document
    description.decodeRecord document = .error ⟨description.name, vs.length, vs⟩ ∧ vs ≠ [] ∧
      ∀ members, document = object members → ∀ d ∈ description.fields,
        vs.filter (·.inField d.name) = d.faults (member? members d.name) := by
  intro vs
  have undecoded (r : Record) : description.decode document ≠ .ok r := by
    intro decoded
    exact refused r (by simpa using decoded)
  have reports := description.decode_reports (description.valid_ranks valid) document
  obtain ⟨failed, nonempty⟩ := reports.of_refused undecoded
  refine ⟨?_, nonempty, ?_⟩
  · rw [decodeRecord, failed]
  · rintro members rfl d declared
    have distinct := description.valid_names valid
    have fields := fields_faults_filter members description.fields distinct declared
    have keys := description.key_faults_filter members declared
    show (description.fields.flatMap _ ++ description.keyFaults members).filter _ = _
    rw [List.filter_append, fields, keys, List.append_nil]

theorem failure_lists_ten_faults :
    let description : Description := ⟨"sample",
      [⟨"flag", .bool, 0, .value⟩, ⟨"count", .int, 0, .value⟩, ⟨"z", .complex, 1, .value⟩,
        ⟨"names", .text, 1, .allocatable⟩, ⟨"grid", .real, 2, .value⟩,
        ⟨"cube", .int, 3, .pointer⟩]⟩
    let zero : Json := real ⟨false, 0, by decide⟩
    let document := object [("cube", array [array [array [integer (2 ^ 63), zero]], integer 1]),
      ("extra", null), ("flag", null),
      ("grid", array [array [integer 1], zero, array [bool true]]), ("names", null),
      ("x/y", array []), ("z", array [array [zero], array [zero, integer 2]])]
    let vs : List Violation := [
      ⟨[.field "flag"], .notNullable .value⟩,
      ⟨[.field "count"], .missing⟩,
      ⟨[.field "z", .index 0], .wrongKind .complex "array"⟩,
      ⟨[.field "grid", .index 1], .notAnArray "real"⟩,
      ⟨[.field "grid", .index 2, .index 0], .wrongKind .real "bool"⟩,
      ⟨[.field "cube", .index 0, .index 0, .index 0], .outOfRange (2 ^ 63)⟩,
      ⟨[.field "cube", .index 0, .index 0, .index 1], .wrongKind .int "real"⟩,
      ⟨[.field "cube", .index 1], .notAnArray "int"⟩,
      ⟨[.field "extra"], .unknownField "sample"⟩,
      ⟨[.field "x/y"], .unknownField "sample"⟩]
    description.flaw? = none ∧ (∀ r, description.decodeRecord document ≠ .ok r) ∧
      description.decodeRecord document = .error ⟨"sample", 10, vs⟩ ∧
      description.faults document = vs := by
  intro description zero document vs
  have valid : description.flaw? = none := by decide +kernel
  have failed : description.decodeRecord document = .error ⟨"sample", 10, vs⟩ := by
    decide +kernel
  have refused (r : Record) : description.decodeRecord document ≠ .ok r := by
    rw [failed]
    nofun
  have listed := (description.failure_lists_faults valid document refused).1
  rw [failed] at listed
  have same : vs = description.faults document :=
    congrArg DecodeFailure.violations (Except.error.inj listed)
  exact ⟨valid, refused, failed, same.symm⟩

end Description

end RecordComparison
