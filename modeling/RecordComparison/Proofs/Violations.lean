import RecordComparison.Proofs.Faults
import RecordComparison.Proofs.Keys
import RecordComparison.Proofs.Pointer

/-!
Where violations point. Read as a pointer into the document, the path of each violation leads to
the value that is complained about, and the complaint is true of that value. No two violations of
a document have the same pointer. Main statement: `Description.violations_point_at_values`.
-/
namespace RecordComparison
open Json Pointer

/-- The pointer of the violation leads to what is complained about, and the complaint is true of
that. To a missing field it leads nowhere, but without its last token it leads to the document. -/
def Violation.PointsInto (description : Description) (document : Json) (v : Violation) : Prop :=
  let there := find? v.path.pointerText document
  match v.complaint with
  | .notAnObject found =>
    v.path.pointerText = "" ∧ there = some document ∧ document.typeName = found ∧
      found ≠ "object"
  | .missing =>
    there = none ∧ find? v.path.parent.pointerText document = some document ∧
      document.typeName = "object" ∧
      ∃ d ∈ description.fields, v.path = [.field d.name] ∧ d.storage = .value
  | .notNullable storage =>
    there = some null ∧ storage = .value ∧
      ∃ d ∈ description.fields, v.path = [.field d.name] ∧ d.storage = storage
  | .notAnArray found => ∃ j, there = some j ∧ j.typeName = found ∧ found ≠ "array"
  | .outOfRange n =>
    there = some (integer n) ∧ (n < Int64.minValue.toInt ∨ Int64.maxValue.toInt < n)
  | .wrongKind kind found => ∃ j, there = some j ∧ j.typeName = found ∧ ¬ LeafFits kind j
  | .unknownField record =>
    ∃ key members j, v.path = [.field key] ∧ document = object members ∧ (key, j) ∈ members ∧
      there = some j ∧ record = description.name ∧ ¬ description.Declares key

theorem Json.member_of_key {members : List (String × Json)} {key : String}
    (known : key ∈ members.map (·.1)) : ∃ j, (key, j) ∈ members ∧ member? members key = some j := by
  obtain ⟨m, here, rfl⟩ := List.mem_map.mp known
  have present : (members.find? fun n => n.1 == m.1).isSome :=
    List.find?_isSome.mpr ⟨m, here, beq_self_eq_true m.1⟩
  obtain ⟨⟨key, j⟩, found⟩ := Option.isSome_iff_exists.mp present
  have same := List.find?_some found
  obtain rfl : key = m.1 := eq_of_beq same
  exact ⟨j, List.mem_of_find?_eq_some found, by rw [member?, found, Option.map_some]⟩

section Points

variable (description : Description) {document : Json}

theorem leaf_complaint_points (kind : Kind) {path : Path} {j : Json}
    (leads : find? path.pointerText document = some j) (unfit : ¬ LeafFits kind j) :
    Violation.PointsInto description document ⟨path, leafComplaint kind j⟩ := by
  unfold leafComplaint
  split
  next n =>
    refine ⟨leads, ?_⟩
    by_contra inside
    obtain ⟨low, high⟩ := not_or.mp inside
    exact unfit (.int (Int.not_lt.mp low) (Int.not_lt.mp high))
  next => exact ⟨_, leads, rfl, unfit⟩

theorem field_faults_point {d : Declaration} (declared : d ∈ description.fields)
    (members : List (String × Json)) :
    ∀ v ∈ d.faults (member? members d.name), v.PointsInto description (object members) := by
  have leads := find_member members d.name
  refine d.faults_all _ ?_ ?_ fun j found => ?_
  · intro lacking required
    exact ⟨leads.trans lacking, find_root (object members), rfl, d, declared, rfl, required⟩
  · intro given required
    exact ⟨leads.trans given, required, d, declared, rfl, rfl⟩
  -- Whatever leads to an array leads on to each of its items.
  · refine nested_faults_all d.kind
      (Q := fun path j => find? path.pointerText (object members) = some j) ?_ ?_ ?_ d.rank
      (leads.trans found)
    · exact fun _ _ i _ leads here => (find_item leads i).trans here
    · exact fun _ _ leads unfit => leaf_complaint_points description d.kind leads unfit
    · exact fun _ j leads other => ⟨j, leads, rfl, other⟩

theorem key_faults_point (members : List (String × Json)) :
    ∀ v ∈ description.keyFaults members, v.PointsInto description (object members) := by
  intro v member
  obtain ⟨key, unknown, rfl⟩ := List.mem_map.mp member
  obtain ⟨known, undeclared⟩ := List.mem_filter.mp unknown
  obtain ⟨j, here, found⟩ := member_of_key known
  exact ⟨key, members, j, rfl, rfl, here, (find_member members key).trans found, rfl,
    of_decide_eq_true undeclared⟩

theorem Description.faults_point (document : Json) :
    ∀ v ∈ description.faults document, v.PointsInto description document := by
  intro v member
  cases document
  case object members =>
    rcases List.mem_append.mp member with inside | unknown
    · obtain ⟨d, declared, here⟩ := List.mem_flatMap.mp inside
      exact field_faults_point description declared members v here
    · exact key_faults_point description members v unknown
  all_goals
    rw [List.mem_singleton.mp member]
    exact ⟨rfl, find_root _, rfl, by simp [typeName]⟩

end Points

section Distinct

theorem nested_tokens_under (kind : Kind) (rank : Nat) {path : Path} {segment : Segment} {j : Json}
    {v : Violation} (member : v ∈ nestedFaults kind rank (path.push segment) j) :
    ∃ later, v.path.tokens = path.tokens ++ segment.token :: later := by
  obtain ⟨rest, below⟩ := nested_faults_below kind rank (path.push segment) j v member
  exact ⟨Path.tokens rest, by simp [← below, Path.push, Path.tokens]⟩

theorem nested_tokens_nodup (kind : Kind) (rank : Nat) (path : Path) (j : Json) :
    ((nestedFaults kind rank path j).map (·.path.tokens)).Nodup := by
  induction rank generalizing path j with
  | zero =>
    rw [nestedFaults]
    split <;> simp
  | succ rank ih =>
    cases j
    case array items =>
      have apart : items.zipIdx.Pairwise fun m n => m.2 ≠ n.2 := by
        rw [← List.pairwise_map, List.zipIdx_map_snd]
        exact List.nodup_range' _
      rw [nestedFaults, List.map_flatMap, List.nodup_flatMap]
      refine ⟨fun m _ => ih _ m.1, apart.imp fun {m n} other => ?_⟩
      rw [Function.onFun, List.disjoint_left]
      intro tokens first second
      obtain ⟨v, below, rfl⟩ := List.mem_map.mp first
      obtain ⟨w, beside, same⟩ := List.mem_map.mp second
      obtain ⟨_, left⟩ := nested_tokens_under kind rank below
      obtain ⟨_, right⟩ := nested_tokens_under kind rank beside
      rw [left, right, List.append_cancel_left_eq] at same
      exact other (numeral_injective (List.cons.inj same).1.symm)
    all_goals exact List.nodup_singleton _

theorem field_tokens_nodup (d : Declaration) (j? : Option Json) :
    ((d.faults j?).map (·.path.tokens)).Nodup := by
  rcases absent_or_present j? with absent | ⟨j, rfl, present⟩
  · rcases absent with rfl | rfl
    all_goals
      rw [Declaration.faults]
      split <;> simp
  · rw [d.faults_present present]
    exact nested_tokens_nodup d.kind d.rank _ j

theorem field_tokens_head (d : Declaration) (j? : Option Json) :
    ∀ tokens ∈ (d.faults j?).map (·.path.tokens), tokens.head? = some d.name := by
  rw [List.forall_mem_map]
  intro v member
  rw [Path.tokens, List.head?_map, d.faults_in_field j? v member]
  rfl

variable (description : Description)

theorem fields_tokens_nodup (names : (description.fields.map (·.name)).Nodup)
    (members : List (String × Json)) :
    ((description.fields.flatMap fun d => d.faults (member? members d.name)).map
      (·.path.tokens)).Nodup := by
  rw [List.map_flatMap, List.nodup_flatMap]
  refine ⟨fun d _ => field_tokens_nodup d _, (List.pairwise_map.mp names).imp fun {d e} other => ?_⟩
  rw [Function.onFun, List.disjoint_left]
  intro tokens first second
  have left := field_tokens_head d _ tokens first
  have right := field_tokens_head e _ tokens second
  exact other (Option.some.inj (left.symm.trans right))

theorem key_tokens (members : List (String × Json)) :
    (description.keyFaults members).map (·.path.tokens) =
      ((members.map (·.1)).filter fun key => ¬ description.Declares key).map ([·]) := by
  rw [Description.keyFaults, List.map_map]
  rfl

theorem Description.faults_tokens_nodup (names : (description.fields.map (·.name)).Nodup)
    {document : Json} (keys : document.keys.Nodup) :
    ((description.faults document).map (·.path.tokens)).Nodup := by
  cases document
  case object members =>
    rw [faults, List.map_append, key_tokens, List.nodup_append]
    refine ⟨fields_tokens_nodup description names members,
      (keys.filter _).map fun _ _ => List.singleton_inj.mp, ?_⟩
    rw [List.map_flatMap]
    intro tokens inField other unknown same
    obtain ⟨d, declared, here⟩ := List.mem_flatMap.mp inField
    obtain ⟨key, undeclared, rfl⟩ := List.mem_map.mp unknown
    have named := field_tokens_head d _ tokens here
    rw [same] at named
    have undeclared := of_decide_eq_true (List.mem_filter.mp undeclared).2
    exact undeclared ⟨d, declared, (Option.some.inj named).symm⟩
  all_goals exact List.nodup_singleton _

theorem pointers_nodup {vs : List Violation} (tokens : (vs.map (·.path.tokens)).Nodup) :
    (vs.map (·.path.pointerText)).Nodup := by
  refine List.Nodup.of_map tokens? ?_
  have read : (vs.map (·.path.pointerText)).map tokens? = (vs.map (·.path.tokens)).map some := by
    simp only [List.map_map, Function.comp_def, tokens_of_path]
  rw [read]
  exact tokens.map (Option.some_injective _)

end Distinct

namespace Description

/-- If a document does not decode, then each violation points at what it complains about, and no
two violations have the same pointer, provided that no key is in the document twice. That is so if
the document is read from a text. -/
theorem violations_point_at_values (description : Description) (valid : description.flaw? = none)
    {document : Json} {failure : DecodeFailure}
    (failed : description.decodeRecord document = .error failure) :
    (∀ v ∈ failure.violations, v.PointsInto description document) ∧
      (document.keys.Nodup → (failure.violations.map (·.path.pointerText)).Nodup) ∧
      ∀ text, ofText text = .ok document → document.keys.Nodup := by
  rw [description.faults_of_error valid document failed]
  have names := description.valid_names valid
  refine ⟨faults_point description document, fun keys => ?_, fun _ => read_keys_nodup⟩
  exact pointers_nodup (description.faults_tokens_nodup names keys)

theorem seven_violations_point :
    let description : Description := ⟨"sample",
      [⟨"flag", .bool, 0, .value⟩, ⟨"count", .int, 0, .value⟩, ⟨"grid", .real, 2, .value⟩,
        ⟨"big", .int, 1, .pointer⟩]⟩
    let document := object [("", integer 1), ("a/b~1", string "x"),
      ("big", array [integer 1, integer (2 ^ 63)]), ("flag", null),
      ("grid", array [array [integer 1], bool true, array [integer 0, string "1"]])]
    let vs : List Violation := [
      ⟨[.field "flag"], .notNullable .value⟩,
      ⟨[.field "count"], .missing⟩,
      ⟨[.field "grid", .index 1], .notAnArray "bool"⟩,
      ⟨[.field "grid", .index 2, .index 1], .wrongKind .real "string"⟩,
      ⟨[.field "big", .index 1], .outOfRange (2 ^ 63)⟩,
      ⟨[.field ""], .unknownField "sample"⟩,
      ⟨[.field "a/b~1"], .unknownField "sample"⟩]
    let pointers := ["/flag", "/count", "/grid/1", "/grid/2/1", "/big/1", "/", "/a~1b~01"]
    description.flaw? = none ∧ description.decodeRecord document = .error ⟨"sample", 7, vs⟩ ∧
      vs.map (·.path.pointerText) = pointers ∧ pointers.Nodup ∧
      ∀ v ∈ vs, v.PointsInto description document := by
  intro description document vs pointers
  have valid : description.flaw? = none := by decide +kernel
  have failed : description.decodeRecord document = .error ⟨"sample", 7, vs⟩ := by
    decide +kernel
  have spelled : vs.map (·.path.pointerText) = pointers := by decide +kernel
  obtain ⟨point, distinct, _⟩ := description.violations_point_at_values valid failed
  have apart : (vs.map (·.path.pointerText)).Nodup := distinct (by decide +kernel)
  exact ⟨valid, failed, spelled, spelled ▸ apart, point⟩

end Description

end RecordComparison
