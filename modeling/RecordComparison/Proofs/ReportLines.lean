import RecordComparison.Proofs.Legible
import RecordComparison.Proofs.Typing
import RecordComparison.Proofs.Verdict
import RecordComparison.Reference.Yaml

/-!
The printed report. A comparison of two records that differ prints the beginning of the full
report, one line for each difference. A description is valid only if its names are identifiers,
so no line holds a hidden character, whatever the texts in the documents are: the output cannot
be cut into other lines. Main statement: `compare_report_lines`.
-/
namespace RecordComparison
open Comparable (collect differences equal)

theorem pieces_of_output (lines : List String) :
    (textOfLines lines).toList.splitOn '\n' =
      lines.flatMap (fun line => line.toList.splitOn '\n') ++ [[]] := by
  rw [textOfLines, String.toList_ofList]
  induction lines with
  | nil => rfl
  | cons line later ih =>
    simp only [List.flatMap_cons, List.append_assoc, List.cons_append, List.nil_append]
    rw [List.splitOn_append_cons_self, ih]

theorem lines_of_output {lines : List String} (whole : ∀ line ∈ lines, '\n' ∉ line.toList) :
    (textOfLines lines).toList.splitOn '\n' = lines.map String.toList ++ [[]] := by
  have alone : ∀ line ∈ lines, line.toList.splitOn '\n' = [line.toList] := fun line member =>
    List.splitOn_eq_singleton (whole line member)
  rw [pieces_of_output, List.map_eq_flatMap, List.flatMap_def, List.flatMap_def,
    List.map_congr_left alone]

theorem Description.record_named {description : Description} (valid : description.flaw? = none)
    {r : Record} (typed : r.OfDescription description) : Layout.slots.Named r := by
  obtain ⟨name, fields⟩ := Description.record_identified valid typed
  exact ⟨identifier_visible name, fun s member => identifier_visible (fields s member)⟩

theorem Record.LoadsFrom.named {files : Files} {description : Description} {path : String}
    {r : Record} (loads : r.LoadsFrom files description path) (valid : description.flaw? = none) :
    Layout.slots.Named r := by
  obtain ⟨_, _, decoded⟩ := loads
  exact description.record_named valid (description.decoded_of_description valid decoded)

namespace CompareOptions

variable {files : Files} {settings? : Option String} {options : CompareOptions}
  {settings : Settings} {description : Description} {a b : Record}

namespace Prepared

theorem valid (prepared : options.Prepared files settings? settings description a b) :
    description.flaw? = none := by
  obtain ⟨_, _, loads⟩ := prepared.described
  exact loads.valid

theorem in_form (prepared : options.Prepared files settings? settings description a b)
    (json : Bool) :
    { options with json }.Prepared files settings? settings description a b :=
  ⟨prepared.configured, prepared.described, prepared.left, prepared.right⟩

theorem differences_legible
    (prepared : options.Prepared files settings? settings description a b) :
    ∀ d ∈ differences a b, d.Legible :=
  Layout.slots.differences_legible (prepared.left.named prepared.valid)
    (prepared.right.named prepared.valid)

theorem line_visible (prepared : options.Prepared files settings? settings description a b)
    {d : Difference} (legible : d.Legible) :
    Visible (options.line description.name d).toList := by
  rw [line]
  split
  · exact legible.json_visible
  · obtain ⟨proper, _⟩ := description.flaw_none_iff.mp prepared.valid
    have name := identifier_visible proper
    exact .joined (name.joined (.of_plain (by decide))) legible.text_visible

theorem printed_if_found {arguments : List String}
    (read : Call.ofArguments arguments = .ok ⟨settings?, .compare options⟩)
    (prepared : options.Prepared files settings? settings description a b)
    (found : options.reported settings a b ≠ []) :
    (runProgram files arguments).lines =
      (options.reported settings a b).map (options.line description.name) := by
  have ends := (options.ends_bad_iff files settings? _).mpr
    ⟨settings, description, a, b, prepared, found, rfl⟩
  rw [(run_program_of_call files read).2, ends]

theorem printed {arguments : List String}
    (read : Call.ofArguments arguments = .ok ⟨settings?, .compare options⟩)
    (prepared : options.Prepared files settings? settings description a b)
    (differ : equal a b = false) (room : options.limit.or settings.limit ≠ some 0) :
    (runProgram files arguments).lines =
      (options.reported settings a b).map (options.line description.name) := by
  have found : options.reported settings a b ≠ [] := by
    rw [ne_eq, options.nothing_reported_iff settings a b (.inl room), differ]
    exact Bool.false_ne_true
  exact prepared.printed_if_found read found

theorem printed_in_form (prepared : options.Prepared files settings? settings description a b)
    (differ : equal a b = false) (room : options.limit.or settings.limit ≠ some 0) (json : Bool)
    {arguments : List String}
    (read : Call.ofArguments arguments = .ok ⟨settings?, .compare { options with json }⟩) :
    (runProgram files arguments).lines =
      ((collect none a b).take (options.reach settings (collect none a b).length)).map fun d =>
        if json then d.json.text else description.name ++ ": " ++ d.text := by
  -- How many differences are asked for does not depend on the form.
  have beginning := { options with json }.reported_is_beginning settings a b
  rw [← Layout.slots.collect_everything] at beginning
  rw [(prepared.in_form json).printed read differ room, beginning]
  rfl

end Prepared

theorem reach_at_most (options : CompareOptions) (settings : Settings) {count : Nat}
    (many : 0 < count) : options.reach settings count ≤ count := by
  rw [reach]
  split
  · exact Nat.min_le_right _ _
  · split
    · exact Nat.le_refl count
    · exact many

theorem reached_length (options : CompareOptions) (settings : Settings)
    (differ : equal a b = false) :
    let found := collect none a b
    (found.take (options.reach settings found.length)).length =
      options.reach settings found.length := by
  intro found
  have many : found ≠ [] := by
    intro empty
    rw [(Layout.slots.equal_iff_nothing_collected a b).mpr empty] at differ
    contradiction
  rw [List.length_take]
  exact Nat.min_eq_left (options.reach_at_most settings (List.length_pos_of_ne_nil many))

end CompareOptions

/-- A comparison of records that differ prints as many lines as the options ask for, each of them
one difference of the full report, in its order. Every character of the output but the line ends
can be seen. In the other form the report has the same differences. -/
theorem compare_report_lines (files : Files) {arguments : List String}
    {settings? : Option String} {options : CompareOptions} {settings : Settings}
    {description : Description} {a b : Record}
    (read : Call.ofArguments arguments = .ok ⟨settings?, .compare options⟩)
    (prepared : options.Prepared files settings? settings description a b)
    (differ : equal a b = false) (room : options.limit.or settings.limit ≠ some 0) :
    let lines := (runProgram files arguments).lines
    let count := options.reach settings (collect none a b).length
    let listed := (collect none a b).take count
    lines = listed.map (fun d =>
      if options.json then d.json.text else description.name ++ ": " ++ d.text) ∧
    lines.length = count ∧
    (textOfLines lines).toList.splitOn '\n' = lines.map String.toList ++ [[]] ∧
    (∀ line ∈ lines, Visible line.toList) ∧
    (∀ json others,
      Call.ofArguments others = .ok ⟨settings?, .compare { options with json }⟩ →
        (runProgram files others).lines = listed.map (fun d =>
          if json then d.json.text else description.name ++ ": " ++ d.text)) := by
  intro lines count listed
  have shown : lines = listed.map fun d =>
      if options.json then d.json.text else description.name ++ ": " ++ d.text :=
    prepared.printed_in_form differ room options.json read
  have visible : ∀ line ∈ lines, Visible line.toList := by
    intro line member
    rw [shown] at member
    obtain ⟨d, inside, rfl⟩ := List.mem_map.mp member
    have reported : d ∈ differences a b := by
      rw [← Layout.slots.collect_everything]
      exact List.mem_of_mem_take inside
    exact prepared.line_visible (prepared.differences_legible d reported)
  have length : lines.length = count := by
    rw [shown, List.length_map]
    exact options.reached_length settings differ
  have whole := lines_of_output fun line member => (visible line member).no_line_break
  exact ⟨shown, length, whole, visible, fun json _ read =>
    prepared.printed_in_form differ room json read⟩

/-- A text that pretends to be a line of the report is shown as a text. -/
theorem forged_line_is_shown :
    let files : Files := fun path =>
      if path = "r.yaml" then .ok "name: r\nfields:\n- name: t\n  kind: text\n"
      else if path = "forged.json" then .ok "\x7b\"t\": \"a\\nr: t: \\u2028\"\x7d"
      else if path = "plain.json" then .ok "\x7b\"t\": \"a\"\x7d"
      else .error .absent
    let arguments := ["compare", "-s", "r.yaml", "--all", "forged.json", "plain.json"]
    let options : CompareOptions := ⟨some "r.yaml", true, none, false, "forged.json", "plain.json"⟩
    let lines := (runProgram files arguments).lines
    lines = ["r: t: \"a\\nr: t: \\u\x7b2028\x7d\" != \"a\""] ∧
      ∃ settings description a b, options.Prepared files none settings description a b ∧
        equal a b = false ∧ options.limit.or settings.limit ≠ some 0 ∧
        (collect none a b).length = 1 ∧
        (textOfLines lines).toList.splitOn '\n' = lines.map String.toList ++ [[]] ∧
        ∀ line ∈ lines, Visible line.toList := by
  intro files arguments options lines
  have read : Call.ofArguments arguments = .ok ⟨none, .compare options⟩ := rfl
  have printed : lines = ["r: t: \"a\\nr: t: \\u\x7b2028\x7d\" != \"a\""] := by decide +kernel
  have code : (runProgram files arguments).exitCode = 1 := by decide +kernel
  rw [(run_program_of_call files read).1, exit_code_one_iff, Script.result_iff] at code
  obtain ⟨output, ends⟩ := code
  obtain ⟨settings, description, a, b, prepared, found, _⟩ :=
    (options.ends_bad_iff files none output).mp ends
  have standard : settings = .standard := by
    cases prepared.configured
    rfl
  have room : options.limit.or settings.limit ≠ some 0 := by
    rw [standard]
    decide
  have differ : equal a b = false := by
    rwa [ne_eq, options.nothing_reported_iff settings a b (.inl room), Bool.not_eq_true] at found
  obtain ⟨_, count, whole, visible, _⟩ := compare_report_lines files read prepared differ room
  refine ⟨printed, settings, description, a, b, prepared, differ, room, ?_, whole, visible⟩
  have all : options.reach settings (collect none a b).length = (collect none a b).length := by
    rw [standard]
    rfl
  rw [← all, ← count]
  exact congrArg List.length printed

end RecordComparison
