import RecordComparison.Proofs.Outcome
import RecordComparison.Proofs.Truncation

/-!
What the exit code of a comparison says. It is the equality of the two records if there are two
records to compare, and tells of an error if there are not; how differences are reported has no
part in it, as long as a limit leaves room for one of them. Main statement: `compare_verdict`.
-/
namespace RecordComparison
open Comparable (equal)

theorem exit_code_zero_iff (outcome : Script.Outcome Verdict) :
    outcome.exitCode = 0 ↔ outcome.result = .ok .good := by
  rcases outcome with ⟨lines, failure | verdict⟩
  · simp [Script.Outcome.exitCode, failureCode]
  · cases verdict <;> simp [Script.Outcome.exitCode, Verdict.exitCode]

theorem exit_code_one_iff (outcome : Script.Outcome Verdict) :
    outcome.exitCode = 1 ↔ outcome.result = .ok .bad := by
  rcases outcome with ⟨lines, failure | verdict⟩
  · simp [Script.Outcome.exitCode, failureCode]
  · cases verdict <;> simp [Script.Outcome.exitCode, Verdict.exitCode]

theorem exit_code_two_iff (outcome : Script.Outcome Verdict) :
    outcome.exitCode = 2 ↔ outcome.exitCode ≠ 0 ∧ outcome.exitCode ≠ 1 := by
  rcases outcome with ⟨lines, failure | verdict⟩
  · simp [Script.Outcome.exitCode, failureCode]
  · cases verdict <;> simp [Script.Outcome.exitCode, Verdict.exitCode]

namespace CompareOptions

variable (files : Files) (settings? : Option String) (options : CompareOptions)

/-- There are two records to compare: the settings, the description and both documents can be
loaded, and both documents can be decoded. -/
structure Prepared (settings : Settings) (description : Description) (a b : Record) : Prop where
  configured : settings.LoadsFrom files settings?
  described : ∃ path, options.description.or settings.description = some path ∧
    description.LoadsFrom files path
  left : a.LoadsFrom files description options.left
  right : b.LoadsFrom files description options.right

/-- What is printed of the reported differences, and the verdict. -/
def conclusion (record : String) : List Difference → List String × Verdict
  | [] => (["equal"], .good)
  | found => (found.map (options.line record), .bad)

theorem ends_conclusion_iff (record : String) (found : List Difference) (lines : List String)
    (verdict : Verdict) :
    Script.Ends files
        (match found with
        | [] => do
          Script.printAll ["equal"]
          return .good
        | found => do
          Script.printAll (found.map (options.line record))
          return .bad) lines verdict ↔
      options.conclusion record found = (lines, verdict) := by
  cases found <;> simp only [Script.ends_print_iff, conclusion, Prod.mk.injEq, eq_comm]

theorem ends_decided_iff (lines : List String) {verdict : Verdict}
    (decided : verdict ≠ .undecoded) :
    (Call.run ⟨settings?, .compare options⟩).Ends files lines verdict ↔
      ∃ settings description a b, options.Prepared files settings? settings description a b ∧
        options.conclusion description.name (options.reported settings a b) =
          (lines, verdict) := by
  simp only [Call.run, Command.run, run,
    Script.ends_bind_silent_iff files (Settings.ends_load_iff files _),
    Script.ends_bind_silent_iff files (Script.ends_of_except_iff files _ _),
    Script.ends_bind_silent_iff files (ends_load_description_iff files _), Settings.chosen_iff]
  constructor
  · rintro ⟨settings, configured, path, chosen, description, loads, ends⟩
    obtain ⟨before, left?, rest, left, later, rfl⟩ :=
      (Script.ends_bind_iff files _ _ _ _).mp ends
    obtain ⟨between, right?, after, right, last, rfl⟩ :=
      (Script.ends_bind_iff files _ _ _ _).mp later
    -- A document that is not decoded leaves the comparison undecided, whatever the other one is.
    cases left? with
    | none => exact absurd ((Script.ends_pure_iff files _ _ _).mp last).2.symm decided
    | some a =>
      cases right? with
      | none => exact absurd ((Script.ends_pure_iff files _ _ _).mp last).2.symm decided
      | some b =>
        obtain ⟨rfl, first⟩ := (ends_decode_iff files _ _ _ a).mp left
        obtain ⟨rfl, second⟩ := (ends_decode_iff files _ _ _ b).mp right
        have prepared : options.Prepared files settings? settings description a b :=
          ⟨configured, ⟨path, chosen, loads⟩, first, second⟩
        exact ⟨settings, description, a, b, prepared,
          (ends_conclusion_iff files options _ _ _ _).mp last⟩
  · rintro ⟨settings, description, a, b, prepared, concluded⟩
    obtain ⟨configured, ⟨path, chosen, loads⟩, first, second⟩ := prepared
    refine ⟨settings, configured, path, chosen, description, loads, ?_⟩
    refine (Script.ends_bind_iff files _ _ _ _).mpr ⟨[], some a, lines, ?_, ?_, rfl⟩
    · exact (ends_decode_iff files _ _ _ a).mpr ⟨rfl, first⟩
    refine (Script.ends_bind_iff files _ _ _ _).mpr ⟨[], some b, lines, ?_, ?_, rfl⟩
    · exact (ends_decode_iff files _ _ _ b).mpr ⟨rfl, second⟩
    exact (ends_conclusion_iff files options _ _ _ _).mpr concluded

theorem ends_good_iff (lines : List String) :
    (Call.run ⟨settings?, .compare options⟩).Ends files lines .good ↔
      lines = ["equal"] ∧ ∃ settings description a b,
        options.Prepared files settings? settings description a b ∧
          options.reported settings a b = [] := by
  rw [ends_decided_iff files settings? options lines (by decide)]
  constructor
  · rintro ⟨settings, description, a, b, prepared, concluded⟩
    cases found : options.reported settings a b with
    | nil =>
      rw [found] at concluded
      exact ⟨(Prod.mk.inj concluded).1.symm, settings, description, a, b, prepared, found⟩
    | cons d later =>
      rw [found] at concluded
      cases (Prod.mk.inj concluded).2
  · rintro ⟨rfl, settings, description, a, b, prepared, found⟩
    exact ⟨settings, description, a, b, prepared, by rw [found, conclusion]⟩

theorem ends_bad_iff (lines : List String) :
    (Call.run ⟨settings?, .compare options⟩).Ends files lines .bad ↔
      ∃ settings description a b, options.Prepared files settings? settings description a b ∧
        options.reported settings a b ≠ [] ∧
          lines = (options.reported settings a b).map (options.line description.name) := by
  rw [ends_decided_iff files settings? options lines (by decide)]
  refine exists₄_congr fun settings description a b => and_congr_right fun _ => ?_
  cases options.reported settings a b <;> simp [conclusion, eq_comm]

section Exits

variable (room : ∀ settings description a b,
  options.Prepared files settings? settings description a b →
    options.limit.or settings.limit ≠ some 0 ∨ equal a b = true)

include room

theorem silent_iff {settings : Settings} {description : Description} {a b : Record}
    (prepared : options.Prepared files settings? settings description a b) :
    options.reported settings a b = [] ↔ equal a b = true :=
  options.nothing_reported_iff settings a b (room settings description a b prepared)

theorem exits_zero_iff :
    ((Call.run ⟨settings?, .compare options⟩).run files).exitCode = 0 ↔
      ∃ settings description a b,
        options.Prepared files settings? settings description a b ∧ equal a b = true := by
  rw [exit_code_zero_iff, Script.result_iff]
  simp only [ends_good_iff, exists_eq_left]
  refine exists₄_congr fun settings description a b => and_congr_right fun prepared => ?_
  exact silent_iff files settings? options room prepared

theorem exits_one_iff :
    ((Call.run ⟨settings?, .compare options⟩).run files).exitCode = 1 ↔
      ∃ settings description a b,
        options.Prepared files settings? settings description a b ∧ equal a b = false := by
  rw [exit_code_one_iff, Script.result_iff]
  simp only [ends_bad_iff]
  constructor
  · rintro ⟨_, settings, description, a, b, prepared, found, _⟩
    rw [ne_eq, silent_iff files settings? options room prepared, Bool.not_eq_true] at found
    exact ⟨settings, description, a, b, prepared, found⟩
  · rintro ⟨settings, description, a, b, prepared, differ⟩
    refine ⟨_, settings, description, a, b, prepared, ?_, rfl⟩
    rw [ne_eq, silent_iff files settings? options room prepared, differ]
    exact Bool.false_ne_true

theorem exits_two_iff :
    ((Call.run ⟨settings?, .compare options⟩).run files).exitCode = 2 ↔
      ¬ ∃ settings description a b,
        options.Prepared files settings? settings description a b := by
  rw [exit_code_two_iff, ne_eq, exits_zero_iff files settings? options room, ne_eq,
    exits_one_iff files settings? options room]
  constructor
  · rintro ⟨unequal, undiffering⟩ ⟨settings, description, a, b, prepared⟩
    cases same : equal a b with
    | true => exact unequal ⟨settings, description, a, b, prepared, same⟩
    | false => exact undiffering ⟨settings, description, a, b, prepared, same⟩
  · intro unprepared
    constructor
    · rintro ⟨settings, description, a, b, prepared, _⟩
      exact unprepared ⟨settings, description, a, b, prepared⟩
    · rintro ⟨settings, description, a, b, prepared, _⟩
      exact unprepared ⟨settings, description, a, b, prepared⟩

end Exits

end CompareOptions

theorem run_program_of_call (files : Files) {arguments : List String} {call : Call}
    (read : Call.ofArguments arguments = .ok call) :
    (runProgram files arguments).exitCode = (call.run.run files).exitCode ∧
      (runProgram files arguments).lines = (call.run.run files).lines := by
  simp only [runProgram, read, and_self]

open CompareOptions

/-- The exit code of a comparison is 0 if there are two records and they are equal, 1 if there
are two and they are not, and 2 if there are not two. Where nothing is reported the records are
indeed equal. The limit must leave room for a difference, unless there is none. -/
theorem compare_verdict (files : Files) {arguments : List String} {settings? : Option String}
    {options : CompareOptions}
    (read : Call.ofArguments arguments = .ok ⟨settings?, .compare options⟩)
    (room : ∀ settings description a b,
      options.Prepared files settings? settings description a b →
        options.limit.or settings.limit ≠ some 0 ∨ equal a b = true) :
    let shown := runProgram files arguments
    (shown.exitCode = 0 ↔ ∃ settings description a b,
      options.Prepared files settings? settings description a b ∧ equal a b = true) ∧
    (shown.exitCode = 0 → shown.lines = ["equal"]) ∧
    (shown.exitCode = 1 ↔ ∃ settings description a b,
      options.Prepared files settings? settings description a b ∧ equal a b = false) ∧
    (shown.exitCode = 2 ↔ ¬ ∃ settings description a b,
      options.Prepared files settings? settings description a b) ∧
    (∀ settings description a b, options.Prepared files settings? settings description a b →
      options.reported settings a b = [] → equal a b = true) := by
  intro shown
  obtain ⟨code, lines⟩ := run_program_of_call files read
  have equalExit : shown.exitCode = 0 → shown.lines = ["equal"] := by
    intro zero
    rw [code, exit_code_zero_iff, Script.result_iff] at zero
    obtain ⟨printed, ends⟩ := zero
    rw [lines, ends]
    exact ((ends_good_iff files settings? options printed).mp ends).1
  refine ⟨?_, equalExit, ?_, ?_, fun _ _ _ _ prepared =>
    (silent_iff files settings? options room prepared).mp⟩
  · rw [code]
    exact exits_zero_iff files settings? options room
  · rw [code]
    exact exits_one_iff files settings? options room
  · rw [code]
    exact exits_two_iff files settings? options room

theorem verdicts_on_documents :
    let files : Files := fun path =>
      if path = "r.yaml" then .ok "name: r\nfields:\n- name: n\n  kind: int\n"
      else if path = "one.json" then .ok "\x7b\"n\": 1\x7d"
      else if path = "two.json" then .ok "\x7b\"n\": 2\x7d"
      else if path = "text.json" then .ok "\x7b\"n\": \"2\"\x7d"
      else .error .absent
    let arguments (right : String) :=
      ["compare", "--limit=3", "one.json", "-s", "r.yaml", right, "--json"]
    let options (right : String) : CompareOptions :=
      ⟨some "r.yaml", false, some 3, true, "one.json", right⟩
    Call.ofArguments (arguments "two.json") = .ok ⟨none, .compare (options "two.json")⟩ ∧
      (∀ right (settings : Settings), (options right).limit.or settings.limit ≠ some 0) ∧
      (runProgram files (arguments "two.json")).exitCode = 1 ∧
      (∃ settings description a b,
        (options "two.json").Prepared files none settings description a b ∧ equal a b = false) ∧
      (runProgram files (arguments "text.json")).exitCode = 2 ∧
      ¬ ∃ settings description a b,
        (options "text.json").Prepared files none settings description a b := by
  intro files arguments options
  have two : Call.ofArguments (arguments "two.json") =
      .ok ⟨none, .compare (options "two.json")⟩ := rfl
  have text : Call.ofArguments (arguments "text.json") =
      .ok ⟨none, .compare (options "text.json")⟩ := rfl
  have limits (right : String) (settings : Settings) :
      (options right).limit.or settings.limit ≠ some 0 := by simp [options]
  obtain ⟨_, _, differ, _⟩ :=
    compare_verdict files two fun settings _ _ _ _ => .inl (limits _ settings)
  obtain ⟨_, _, _, unprepared, _⟩ :=
    compare_verdict files text fun settings _ _ _ _ => .inl (limits _ settings)
  have one : (runProgram files (arguments "two.json")).exitCode = 1 := by decide +kernel
  have error : (runProgram files (arguments "text.json")).exitCode = 2 := by decide +kernel
  exact ⟨two, limits, one, differ.mp one, error, unprepared.mp error⟩

end RecordComparison
