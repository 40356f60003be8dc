import RecordComparison.Proofs.Checking
import RecordComparison.Proofs.ReportLines
import RecordComparison.Proofs.WellFormed

/-!
The lines of a check. Everything a check prints about a document stays on its line but the keys
that are not declared: they stand as they are in the pointers of the report, and each of their
line feeds ends a line. Without one, the output falls into a line for each document, one for each
violation and the tally, and only the lines of documents and the tally of a record that is itself
called `PASS` or `FAIL` begin as a verdict. Main statement: `check_report_lines`.
-/
namespace RecordComparison

section Pieces

def lineFeeds (s : String) : Nat := s.toList.count '\n'

@[simp] theorem line_feeds_append (s t : String) :
    lineFeeds (s ++ t) = lineFeeds s + lineFeeds t := by
  rw [lineFeeds, String.toList_append, List.count_append]
  rfl

theorem line_feeds_none_iff (s : String) : lineFeeds s = 0 ↔ '\n' ∉ s.toList :=
  List.count_eq_zero

theorem line_feeds_of_visible {s : String} (visible : Visible s.toList) : lineFeeds s = 0 :=
  (line_feeds_none_iff s).mpr visible.no_line_break

@[simp] theorem pieces_length (s : List Char) : (s.splitOn '\n').length = s.count '\n' + 1 := by
  rw [List.splitOn_eq_splitOnP]
  induction s with
  | nil => rfl
  | cons c s ih =>
    rw [List.splitOnP_cons_eq_if_modifyHead, List.count_cons]
    split
    · rw [List.length_cons, ih]
    · rw [List.length_modifyHead, ih]

theorem pieces_count (lines : List String) :
    (lines.flatMap fun line => line.toList.splitOn '\n').length =
      lines.length + (lines.map lineFeeds).sum := by
  induction lines with
  | nil => rfl
  | cons line later ih =>
    rw [List.flatMap_cons, List.length_append, ih, pieces_length, List.length_cons, List.map_cons,
      List.sum_cons, lineFeeds]
    omega

end Pieces

structure Violation.Legible (v : Violation) : Prop where
  path : ∀ step ∈ v.path, step.Legible
  complaint : Visible v.complaint.text.toList

section Violations

theorem pointer_char_visible {c : Char} (visible : isHidden c = false) :
    Visible (escapePointerChar c) := by
  unfold escapePointerChar
  split
  · exact .of_plain (by decide)
  · split
    · exact .of_plain (by decide)
    · exact Visible.cons_iff.mpr ⟨visible, .nil⟩

theorem pointer_step_visible {step : Segment} (legible : step.Legible) :
    Visible step.pointerText.toList := by
  have slash : Visible "/".toList := .of_plain (by decide)
  cases step with
  | index position => exact slash.joined (natural_visible position)
  | field name =>
    refine slash.joined ?_
    rw [String.toList_ofList]
    exact .flat_map fun c member => pointer_char_visible (legible c member)

theorem pointer_visible {path : Path} (legible : ∀ step ∈ path, step.Legible) :
    Visible path.pointerText.toList := by
  rw [Path.pointerText, String.toList_join]
  refine .flat_map fun text member => ?_
  obtain ⟨step, inside, rfl⟩ := List.mem_map.mp member
  exact pointer_step_visible (legible step inside)

theorem Violation.Legible.text_visible {v : Violation} (legible : v.Legible) :
    Visible v.text.toList := by
  refine .joined (.joined ?_ (.of_plain (by decide))) legible.complaint
  split
  · exact .of_plain (by decide)
  · exact pointer_visible legible.path

theorem pointer_char_line_feeds (c : Char) : (escapePointerChar c).count '\n' = [c].count '\n' := by
  unfold escapePointerChar
  split
  · next same => rw [same]; decide
  · split
    · next same => rw [same]; decide
    · rfl

theorem unknown_field_line_feeds {record : String} (visible : Visible record.toList)
    (key : String) :
    lineFeeds (Violation.text ⟨[.field key], .unknownField record⟩) = lineFeeds key := by
  have inner : (key.toList.flatMap escapePointerChar).count '\n' = lineFeeds key := by
    rw [lineFeeds]
    induction key.toList with
    | nil => rfl
    | cons c later ih =>
      rw [List.flatMap_cons, List.count_append, pointer_char_line_feeds, ih, ← List.count_append]
      rfl
  have pointer : lineFeeds (Path.pointerText [.field key]) = lineFeeds key := by
    have spelled : (Path.pointerText [.field key]).toList =
        '/' :: key.toList.flatMap escapePointerChar := by
      simp [Path.pointerText, Segment.pointerText]
    rw [← inner, lineFeeds, spelled, List.count_cons_of_ne (by decide)]
  have complaint : lineFeeds (Complaint.text (.unknownField record)) = 0 :=
    line_feeds_of_visible (.joined (.of_plain (by decide)) visible)
  show lineFeeds
    (Path.pointerText [.field key] ++ ": " ++ Complaint.text (.unknownField record)) = _
  rw [line_feeds_append, line_feeds_append, pointer, complaint]
  rfl

theorem type_name_visible (j : Json) : Visible j.typeName.toList := by
  cases j <;> rw [Json.typeName] <;> exact .of_plain (by decide)

theorem storage_name_visible (storage : Storage) : Visible storage.name.toList := by
  cases storage <;> exact .of_plain (by decide)

theorem not_an_array_visible (j : Json) :
    Visible (Complaint.text (.notAnArray j.typeName)).toList :=
  .joined (.of_plain (by decide)) (type_name_visible j)

theorem not_an_object_legible (j : Json) :
    Violation.Legible ⟨.root, .notAnObject j.typeName⟩ :=
  ⟨nofun, .joined (.of_plain (by decide)) (type_name_visible j)⟩

theorem leaf_complaint_visible (kind : Kind) (j : Json) :
    Visible (leafComplaint kind j).text.toList := by
  unfold leafComplaint
  split
  · exact .joined (.joined (.of_plain (by decide)) (integer_visible _)) (.of_plain (by decide))
  · have expected : Visible ("expected " ++ kind.name).toList :=
      .joined (.of_plain (by decide)) (Node.kind_name_visible kind)
    exact .joined (.joined expected (.of_plain (by decide))) (type_name_visible j)

theorem Declaration.faults_legible (d : Declaration) (named : Visible d.name.toList)
    (j? : Option Json) : ∀ v ∈ d.faults j?, v.Legible := by
  have place : ∀ step ∈ [Segment.field d.name], step.Legible := by simpa [Segment.Legible]
  refine d.faults_all j? ?_ ?_ fun j _ => ?_
  · have missing : Visible Complaint.missing.text.toList := .of_plain (by decide)
    exact fun _ _ => ⟨place, missing⟩
  · have storage := storage_name_visible d.storage
    exact fun _ _ =>
      ⟨place, .joined (.joined (.of_plain (by decide)) storage) (.of_plain (by decide))⟩
  · refine nested_faults_all d.kind (Q := fun path _ => ∀ step ∈ path, step.Legible) ?_ ?_ ?_
      d.rank place
    · intro path _ i _ legible _
      have position : ∀ step ∈ [Segment.index i], step.Legible := by simp [Segment.Legible]
      exact List.forall_mem_append.mpr ⟨legible, position⟩
    · exact fun _ j legible _ => ⟨legible, leaf_complaint_visible d.kind j⟩
    · exact fun _ j legible _ => ⟨legible, not_an_array_visible j⟩

end Violations

def verdictWord (conforms : Bool) : String := if conforms then "PASS" else "FAIL"

namespace Description

/-- The keys of a document that no field declares. -/
def undeclared (description : Description) : Json → List String
  | .object members => (members.map (·.1)).filter fun key => ¬ description.Declares key
  | _ => []

def violations (description : Description) (document : Json) : List Violation :=
  match description.decodeRecord document with
  | .ok _ => []
  | .error failure => failure.violations

theorem faults_of_other {description : Description} {document : Json}
    (other : ∀ members, document ≠ .object members) :
    description.faults document = [⟨.root, .notAnObject document.typeName⟩] := by
  cases document with
  | object members => exact absurd rfl (other members)
  | _ => rfl

theorem undeclared_of_other {description : Description} {document : Json}
    (other : ∀ members, document ≠ .object members) : description.undeclared document = [] := by
  cases document with
  | object members => exact absurd rfl (other members)
  | _ => rfl

section Valid

variable {description : Description} (valid : description.flaw? = none) (document : Json)

include valid

theorem violations_eq_faults : description.violations document = description.faults document := by
  by_cases accepts : description.Accepts document
  · have faultless := (accepts_iff valid document).mp accepts
    obtain ⟨r, decoded⟩ := accepts
    rw [violations, decoded, faultless]
  · rw [violations, decode_refused valid document accepts]

theorem name_visible : Visible description.name.toList :=
  identifier_visible (description.flaw_none_iff.mp valid).1

theorem name_without_colon : ':' ∉ description.name.toList := by
  obtain ⟨proper, _⟩ := description.flaw_none_iff.mp valid
  obtain ⟨first, later, spelled, letter, others⟩ := (is_identifier_iff _).mp proper
  have outside {c : Char} (inside : AsciiLetter c ∨ AsciiDigit c ∨ c = '_') : ':' ≠ c := by
    rintro rfl
    simp [AsciiLetter, AsciiDigit] at inside
  rw [spelled, List.mem_cons, not_or]
  exact ⟨outside (letter.imp_right .inr), fun member => outside (others ':' member) rfl⟩

theorem members_line_feeds (members : List (String × Json)) :
    ((description.faults (.object members)).map fun v => lineFeeds v.text).sum =
      ((description.undeclared (.object members)).map lineFeeds).sum := by
  have fields : ((description.fields.flatMap fun d =>
      d.faults (Json.member? members d.name)).map fun v => lineFeeds v.text).sum = 0 := by
    refine List.sum_eq_zero fun n inside => ?_
    obtain ⟨v, member, rfl⟩ := List.mem_map.mp inside
    obtain ⟨d, declared, fault⟩ := List.mem_flatMap.mp member
    obtain ⟨_, _, each, _⟩ := description.flaw_none_iff.mp valid
    have named := identifier_visible (each d declared).1
    exact line_feeds_of_visible (d.faults_legible named _ v fault).text_visible
  have keys : (description.keyFaults members).map (fun v => lineFeeds v.text) =
      (description.undeclared (.object members)).map lineFeeds := by
    rw [keyFaults, List.map_map]
    refine List.map_congr_left fun key _ => ?_
    rw [Function.comp_apply, unknown_field_line_feeds (name_visible valid)]
  rw [faults, List.map_append, List.sum_append, fields, keys, Nat.zero_add]

theorem faults_line_feeds :
    ((description.faults document).map fun v => lineFeeds v.text).sum =
      ((description.undeclared document).map lineFeeds).sum := by
  by_cases object : ∃ members, document = .object members
  · obtain ⟨members, rfl⟩ := object
    exact members_line_feeds valid members
  · have other : ∀ members, document ≠ .object members := not_exists.mp object
    rw [faults_of_other other, undeclared_of_other other, List.map_singleton, List.sum_singleton,
      line_feeds_of_visible (not_an_object_legible document).text_visible]
    rfl

theorem account_eq (path : String) :
    description.account path document =
      (verdictWord (description.Accepts document) ++ ": " ++ path) ::
        (description.violations document).map fun v => "  " ++ v.text := by
  rw [violations_eq_faults valid]
  by_cases accepts : description.Accepts document
  · rw [account, if_pos accepts, (accepts_iff valid document).mp accepts, decide_eq_true accepts]
    rfl
  · rw [account, if_neg accepts, decide_eq_false accepts]
    rfl

theorem account_length (path : String) :
    (description.account path document).length = 1 + (description.violations document).length := by
  rw [account_eq valid, List.length_cons, List.length_map, Nat.add_comm]

theorem account_line_feeds {path : String} (unbroken : '\n' ∉ path.toList) :
    ((description.account path document).map lineFeeds).sum =
      ((description.undeclared document).map lineFeeds).sum := by
  have first (word : Bool) : lineFeeds (verdictWord word ++ ": " ++ path) = 0 := by
    rw [line_feeds_append, (line_feeds_none_iff path).mpr unbroken]
    cases word <;> rfl
  have indented (v : Violation) : lineFeeds ("  " ++ v.text) = lineFeeds v.text := by
    rw [line_feeds_append]
    exact Nat.zero_add _
  rw [account_eq valid, List.map_cons, List.sum_cons, first, Nat.zero_add, List.map_map,
    ← faults_line_feeds valid, violations_eq_faults valid]
  exact congrArg List.sum (List.map_congr_left fun v _ => indented v)

theorem tally_visible (passed total : Nat) : Visible (description.tally passed total).toList := by
  have name : Visible (description.name ++ ": ").toList :=
    (name_visible valid).joined (.of_plain (by decide))
  have count : Visible (description.name ++ ": " ++ toString passed ++ "/").toList :=
    (name.joined (natural_visible passed)).joined (.of_plain (by decide))
  exact (count.joined (natural_visible total)).joined (.of_plain (by decide))

end Valid

end Description

section Verdicts

def BeginsWith (opening line : String) : Prop := opening.toList <+: line.toList

instance (opening line : String) : Decidable (BeginsWith opening line) :=
  inferInstanceAs (Decidable (opening.toList <+: line.toList))

/-- Texts that are cut at their first colons are the same in front of them. -/
theorem same_first_word {word name s t : List Char} (first : ':' ∉ word) (second : ':' ∉ name)
    (opens : word ++ ':' :: s <+: name ++ ':' :: t) : word = name := by
  obtain ⟨rest, whole⟩ := opens
  have front {u : List Char} (without : ':' ∉ u) (v : List Char) :
      (u ++ ':' :: v).takeWhile (· != ':') = u := by
    have all : ∀ c ∈ u, (c != ':') = true := by
      intro c member
      exact bne_iff_ne.mpr fun same => without (same ▸ member)
    rw [List.takeWhile_append_of_pos all, List.takeWhile_cons_of_neg (by decide), List.append_nil]
  rw [List.append_assoc, List.cons_append] at whole
  rw [← front first (s ++ rest), whole, front second t]

theorem begins_with_word_iff (word : Bool) {name : String} (proper : ':' ∉ name.toList)
    (rest : String) :
    BeginsWith (verdictWord word ++ ": ") (name ++ ": " ++ rest) ↔ name = verdictWord word := by
  constructor
  · intro begins
    have plain : ':' ∉ (verdictWord word).toList := by cases word <;> decide
    rw [BeginsWith, String.toList_append, String.toList_append, String.toList_append,
      List.append_assoc] at begins
    exact String.toList_inj.mp (same_first_word plain proper begins).symm
  · rintro rfl
    exact ⟨rest.toList, String.toList_append.symm⟩

theorem indented_begins_otherwise (word : Bool) (text : String) :
    ¬ BeginsWith (verdictWord word ++ ": ") ("  " ++ text) := by
  cases word <;> simp [BeginsWith, verdictWord]

theorem verdict_line {description : Description} (valid : description.flaw? = none)
    (path : String) (j : Json) (word : Bool) :
    (description.account path j).filter (BeginsWith (verdictWord word ++ ": ") ·) =
      if decide (description.Accepts j) = word then [verdictWord word ++ ": " ++ path] else [] := by
  have plain (other : Bool) : ':' ∉ (verdictWord other).toList := by cases other <;> decide
  have words (other : Bool) : verdictWord other = verdictWord word ↔ other = word := by
    cases other <;> cases word <;> decide
  have violations : ((description.violations j).map fun v => "  " ++ v.text).filter
      (BeginsWith (verdictWord word ++ ": ") ·) = [] := by
    rw [List.filter_eq_nil_iff]
    intro line member
    obtain ⟨v, _, rfl⟩ := List.mem_map.mp member
    simpa using indented_begins_otherwise word v.text
  have begins (other : Bool) := (begins_with_word_iff word (plain other) path).trans (words other)
  rw [description.account_eq valid, List.filter_cons, violations]
  by_cases same : decide (description.Accepts j) = word
  · rw [if_pos same, if_pos (decide_eq_true ((begins _).mpr same)), same]
  · rw [if_neg same, if_neg (by simpa using fun b => same ((begins _).mp b))]

/-- Of all accounts, the lines that begin with a verdict are those of the documents it is true
of. -/
theorem verdict_lines {description : Description} (valid : description.flaw? = none)
    (given : List (String × Json)) (word : Bool) :
    (given.flatMap fun d => description.account d.1 d.2).filter
        (BeginsWith (verdictWord word ++ ": ") ·) =
      (given.filter fun d => decide (description.Accepts d.2) = word).map
        (verdictWord word ++ ": " ++ ·.1) := by
  induction given with
  | nil => rfl
  | cons d given ih =>
    rw [List.flatMap_cons, List.filter_append, verdict_line valid, ih, List.filter_cons]
    split <;> simp_all

theorem tally_begins_iff {description : Description} (valid : description.flaw? = none)
    (word : Bool) (passed total : Nat) :
    BeginsWith (verdictWord word ++ ": ") (description.tally passed total) ↔
      description.name = verdictWord word := by
  have proper := Description.name_without_colon valid
  rw [← begins_with_word_iff word proper
    (toString passed ++ "/" ++ toString total ++ " document(s) passed")]
  simp only [Description.tally, String.append_assoc]

theorem verdict_lines_of_check {description : Description} (valid : description.flaw? = none)
    (given : List (String × Json)) (word : Bool) (passed total : Nat) :
    let tally := description.tally passed total
    (given.flatMap (fun d => description.account d.1 d.2) ++ [tally]).filter
        (BeginsWith (verdictWord word ++ ": ") ·) =
      (given.filter fun d => decide (description.Accepts d.2) = word).map
        (verdictWord word ++ ": " ++ ·.1) ++
        (if description.name = verdictWord word then [tally] else []) := by
  intro tally
  have last := tally_begins_iff valid word passed total
  rw [List.filter_append, verdict_lines valid, List.filter_singleton]
  simp only [tally, last, Bool.cond_decide]

end Verdicts

open CheckOptions (refused accepted)

/-- A check prints a line for each document, one for each violation and the tally, and each line
feed in an undeclared key breaks one line more. The lines of documents tell which are accepted, and
no other line it prints looks like them, but that the tally begins with the name of the record. -/
theorem check_report_lines (files : Files) {arguments : List String}
    {settings? : Option String} {options : CheckOptions} {settings : Settings}
    {description : Description} {given : List (String × Json)}
    (read : Call.ofArguments arguments = .ok ⟨settings?, .check options⟩)
    (chosen : description.ChosenFrom files settings? options.description settings)
    (documents : given.map (·.1) = options.documents)
    (loads : ∀ d ∈ given, d.2.LoadsFrom files d.1)
    (paths : ∀ d ∈ given, '\n' ∉ d.1.toList) :
    let lines := (runProgram files arguments).lines
    let pieces := (textOfLines lines).toList.splitOn '\n'
    let violations := (given.map fun d => (description.violations d.2).length).sum
    let broken := (given.map fun d => ((description.undeclared d.2).map lineFeeds).sum).sum
    let tally := description.tally (accepted description given) given.length
    (∃ shown, pieces = shown ++ [[]] ∧
      shown.length = given.length + violations + 1 + broken) ∧
    ((∀ d ∈ given, ∀ key ∈ description.undeclared d.2, '\n' ∉ key.toList) →
      pieces = lines.map String.toList ++ [[]] ∧
      lines.length = given.length + violations + 1) ∧
    lines.filter (BeginsWith "PASS: " ·) =
      (given.filter fun d => description.Accepts d.2).map ("PASS: " ++ ·.1) ++
        (if description.name = "PASS" then [tally] else []) ∧
    lines.filter (BeginsWith "FAIL: " ·) =
      (given.filter fun d => ¬ description.Accepts d.2).map ("FAIL: " ++ ·.1) ++
        (if description.name = "FAIL" then [tally] else []) := by
  intro lines pieces violations broken tally
  have valid := chosen.valid
  let accounts := given.flatMap fun d => description.account d.1 d.2
  have printed : lines = accounts ++ [tally] := by
    show (runProgram files arguments).lines = _
    rw [(run_program_of_call files read).2, CheckOptions.run_check_of_loaded chosen documents loads]
  have length : lines.length = given.length + violations + 1 := by
    have one (d : String × Json) := description.account_length valid d.2 d.1
    rw [printed, List.length_append, List.length_flatMap, List.length_singleton]
    simp only [one, List.sum_map_add, List.map_const', List.sum_replicate]
    simp [violations]
  have feeds : (lines.map lineFeeds).sum = broken := by
    have last : lineFeeds tally = 0 :=
      line_feeds_of_visible (Description.tally_visible valid _ _)
    rw [printed, List.map_append, List.sum_append, List.map_singleton, List.sum_singleton, last,
      Nat.add_zero, List.map_flatMap, List.flatMap_def, List.sum_flatten, List.map_map]
    exact congrArg List.sum (List.map_congr_left fun d member =>
      description.account_line_feeds valid d.2 (paths d member))
  refine ⟨⟨_, pieces_of_output lines, ?_⟩, ?_, ?_, ?_⟩
  · rw [pieces_count, length, feeds]
  · intro whole
    have unbrokenKeys : broken = 0 := by
      refine List.sum_eq_zero fun n inside => ?_
      obtain ⟨d, member, rfl⟩ := List.mem_map.mp inside
      refine List.sum_eq_zero fun n inside => ?_
      obtain ⟨key, unknown, rfl⟩ := List.mem_map.mp inside
      exact (line_feeds_none_iff key).mpr (whole d member key unknown)
    rw [unbrokenKeys, List.sum_eq_zero_iff] at feeds
    have unbroken : ∀ line ∈ lines, '\n' ∉ line.toList := by
      intro line member
      exact (line_feeds_none_iff line).mp (feeds _ (List.mem_map_of_mem member))
    exact ⟨lines_of_output unbroken, length⟩
  · rw [printed]
    simpa [verdictWord] using verdict_lines_of_check valid given true _ _
  · rw [printed]
    simpa [verdictWord] using verdict_lines_of_check valid given false _ _

/-- A line feed in an undeclared key makes one line too many, which looks like the one of a
document that conforms; and so does the tally of a record called `PASS`. -/
theorem undeclared_key_forges_line :
    let files : Files := fun path =>
      if path = "r.yaml" then .ok "name: r\nfields:\n- name: n\n  kind: bool\n"
      else if path = "pass.yaml" then .ok "name: PASS\nfields:\n- name: n\n  kind: bool\n"
      else if path = "forged.json" then .ok "\x7b\"a\\nPASS: forged.json\": true, \"n\": true\x7d"
      else if path = "empty.json" then .ok "\x7b\x7d"
      else .error .absent
    let r : Description := ⟨"r", [⟨"n", .bool, 0, .value⟩]⟩
    let pass : Description := ⟨"PASS", [⟨"n", .bool, 0, .value⟩]⟩
    let forged : Json := .object [("a\nPASS: forged.json", .bool true), ("n", .bool true)]
    let empty : Json := .object []
    let pieces (arguments : List String) :=
      (textOfLines (runProgram files arguments).lines).toList.splitOn '\n'
    let broken := pieces ["check", "-s", "r.yaml", "forged.json"]
    let tallied := pieces ["check", "-s", "pass.yaml", "empty.json"]
    r.ChosenFrom files none (some "r.yaml") .standard ∧ forged.LoadsFrom files "forged.json" ∧
      ¬ r.Accepts forged ∧
      broken = ["FAIL: forged.json", "  /a", "PASS: forged.json: unknown field for record r",
        "r: 0/1 document(s) passed", ""].map String.toList ∧
      broken.length ≠ (1 + (r.violations forged).length + 1) + 1 ∧
      (∃ piece ∈ broken, "PASS: ".toList <+: piece) ∧
      pass.ChosenFrom files none (some "pass.yaml") .standard ∧
      empty.LoadsFrom files "empty.json" ∧ ¬ pass.Accepts empty ∧
      tallied = ["FAIL: empty.json", "  /n: required field is missing",
        "PASS: 0/1 document(s) passed", ""].map String.toList ∧
      ∃ piece ∈ tallied, "PASS: ".toList <+: piece := by
  intro files r pass forged empty pieces broken tallied
  have first : Description.ofFile "r.yaml" (files "r.yaml") = .ok r := by decide +kernel
  have second : Description.ofFile "pass.yaml" (files "pass.yaml") = .ok pass := by decide +kernel
  have chosen : r.ChosenFrom files none (some "r.yaml") .standard :=
    ⟨.standard, "r.yaml", rfl, (Description.of_file_iff files _ _).mp first⟩
  have other : pass.ChosenFrom files none (some "pass.yaml") .standard :=
    ⟨.standard, "pass.yaml", rfl, (Description.of_file_iff files _ _).mp second⟩
  have forgery : forged.LoadsFrom files "forged.json" := ⟨_, rfl, by decide +kernel⟩
  have nothing : empty.LoadsFrom files "empty.json" := ⟨_, rfl, by decide +kernel⟩
  have refused : ¬ r.Accepts forged ∧ (r.violations forged).length = 1 := by decide +kernel
  have missing : ¬ pass.Accepts empty := by decide +kernel
  have two : (runProgram files ["check", "-s", "r.yaml", "forged.json"]).lines =
      ["FAIL: forged.json", "  /a\nPASS: forged.json: unknown field for record r",
        "r: 0/1 document(s) passed"] := by decide +kernel
  have own : (runProgram files ["check", "-s", "pass.yaml", "empty.json"]).lines =
      ["FAIL: empty.json", "  /n: required field is missing", "PASS: 0/1 document(s) passed"] := by
    decide +kernel
  have four : broken = ["FAIL: forged.json", "  /a", "PASS: forged.json: unknown field for record r",
      "r: 0/1 document(s) passed", ""].map String.toList := by
    show (textOfLines _).toList.splitOn '\n' = _
    rw [two, pieces_of_output]
    decide +kernel
  have three : tallied = ["FAIL: empty.json", "  /n: required field is missing",
      "PASS: 0/1 document(s) passed", ""].map String.toList := by
    show (textOfLines _).toList.splitOn '\n' = _
    rw [own, pieces_of_output]
    decide +kernel
  have many : broken.length ≠ (1 + (r.violations forged).length + 1) + 1 := by
    rw [four, refused.2]
    decide
  have feigned : ∃ piece ∈ broken, "PASS: ".toList <+: piece := by
    rw [four]
    decide
  have begun : ∃ piece ∈ tallied, "PASS: ".toList <+: piece := by
    rw [three]
    decide
  exact ⟨chosen, forgery, refused.1, four, many, feigned, other, nothing, missing, three, begun⟩

theorem lines_of_two_documents :
    let files : Files := fun path =>
      if path = "r.yaml" then .ok "name: r\nfields:\n- name: n\n  kind: bool\n"
      else if path = "one.json" then .ok "\x7b\"n\": true\x7d"
      else if path = "text.json" then .ok "\x7b\"/\\t/\": false, \"n\": \"1\\nPASS: one.json\"\x7d"
      else .error .absent
    let description : Description := ⟨"r", [⟨"n", .bool, 0, .value⟩]⟩
    let one : Json := .object [("n", .bool true)]
    let text : Json := .object [("/\t/", .bool false), ("n", .string "1\nPASS: one.json")]
    let lines := (runProgram files ["check", "-s", "r.yaml", "one.json", "text.json"]).lines
    description.ChosenFrom files none (some "r.yaml") .standard ∧
      one.LoadsFrom files "one.json" ∧ text.LoadsFrom files "text.json" ∧
      (description.violations text).length = 2 ∧ description.undeclared text = ["/\t/"] ∧
      (textOfLines lines).toList.splitOn '\n' = lines.map String.toList ++ [[]] ∧
      lines.length = 5 ∧
      lines.filter (BeginsWith "PASS: " ·) = ["PASS: one.json"] ∧
      lines.filter (BeginsWith "FAIL: " ·) = ["FAIL: text.json"] := by
  intro files description one text lines
  have reads : Description.ofFile "r.yaml" (files "r.yaml") = .ok description := by decide +kernel
  have chosen : description.ChosenFrom files none (some "r.yaml") .standard :=
    ⟨.standard, "r.yaml", rfl, (Description.of_file_iff files _ _).mp reads⟩
  have first : one.LoadsFrom files "one.json" := ⟨_, rfl, by decide +kernel⟩
  have second : text.LoadsFrom files "text.json" := ⟨_, rfl, by decide +kernel⟩
  have read : Call.ofArguments ["check", "-s", "r.yaml", "one.json", "text.json"] =
      .ok ⟨none, .check ⟨some "r.yaml", ["one.json", "text.json"]⟩⟩ := rfl
  have faultless : description.violations one = [] := by decide +kernel
  have two : (description.violations text).length = 2 := by decide +kernel
  have known : description.undeclared one = [] := by decide +kernel
  have unknown : description.undeclared text = ["/\t/"] := by decide +kernel
  have accepts : description.Accepts one := by decide +kernel
  have refuses : ¬ description.Accepts text := by decide +kernel
  let given := [("one.json", one), ("text.json", text)]
  have documents : given.map (·.1) = ["one.json", "text.json"] := rfl
  obtain ⟨_, whole, passes, fails⟩ := check_report_lines files read chosen documents
    (by simp [given, first, second]) (by simp [given])
  obtain ⟨pieces, length⟩ := whole (by simp [given, known, unknown])
  refine ⟨chosen, first, second, two, unknown, pieces, ?_, ?_, ?_⟩
  · simpa [given, faultless, two] using length
  · simpa [given, accepts, refuses, description] using passes
  · simpa [given, accepts, refuses, description] using fails

end RecordComparison
