import RecordComparison.Proofs.Faults
import RecordComparison.Proofs.Verdict

/-!
What checking documents comes to. Each document has its account in the report: that it conforms,
or that it does not and why. A check prints the accounts of the documents in their order until
one cannot be loaded, and a tally if all can; a comparison refuses exactly the documents that a
check reports, for the same reasons. Main statement: `check_accounts_for_documents`.
-/
namespace RecordComparison

namespace Description

def Accepts (description : Description) (document : Json) : Prop :=
  ∃ r, description.decodeRecord document = .ok r

instance (description : Description) (document : Json) :
    Decidable (description.Accepts document) :=
  decidable_of_iff ((description.decodeRecord document).isOk = true) <| by
    rw [Accepts]
    cases description.decodeRecord document <;> simp [Except.isOk, Except.toBool]

def account (description : Description) (path : String) (document : Json) : List String :=
  if description.Accepts document then ["PASS: " ++ path]
  else ("FAIL: " ++ path) :: (description.faults document).map fun v => "  " ++ v.text

def refusal (description : Description) (path : String) (document : Json) : List String :=
  if description.Accepts document then []
  else (path ++ ": does not fit record " ++ description.name) ::
    (description.faults document).map fun v => "  FAIL: " ++ v.text

def tally (description : Description) (passed total : Nat) : String :=
  description.name ++ ": " ++ toString passed ++ "/" ++ toString total ++ " document(s) passed"

section Decoding

variable {description : Description} (valid : description.flaw? = none) (document : Json)

include valid

theorem accepts_iff : description.Accepts document ↔ description.faults document = [] := by
  have reports := description.decode_reports (description.valid_ranks valid) document
  simp only [Accepts, decode_record_ok_iff]
  generalize description.decode document = decoded at reports ⊢
  generalize description.faults document = vs at reports ⊢
  cases reports with
  | ok r => exact iff_of_true ⟨r, rfl⟩ rfl
  | error nonempty => exact iff_of_false (by simp) nonempty

theorem decode_refused (refused : ¬ description.Accepts document) :
    description.decodeRecord document =
      .error ⟨description.name, (description.faults document).length,
        description.faults document⟩ := by
  have reports := description.decode_reports (description.valid_ranks valid) document
  have undecoded (r : Record) : description.decode document ≠ .ok r :=
    fun decoded => refused ⟨r, by simpa using decoded⟩
  rw [decodeRecord, (reports.of_refused undecoded).1]

end Decoding

end Description

section Running

variable {α β : Type} {files : Files}

theorem Script.run_bind_of_ends {s : Script α} {before : List String} {a : α}
    (ends : s.Ends files before a) (f : α → Script β) :
    (s >>= f).run files =
      ⟨before ++ ((f a).run files).lines, ((f a).run files).result⟩ := by
  show (s.bind f).run files = _
  rw [run_bind, ends]

theorem Script.run_map (s : Script α) (f : α → β) :
    (s >>= fun a => pure (f a)).run files =
      ⟨(s.run files).lines, (s.run files).result.map f⟩ := by
  show (s.bind _).run files = _
  rw [run_bind]
  cases (s.run files).result with
  | ok a => exact congrArg (Outcome.mk · _) (List.append_nil _)
  | error failure => rfl

theorem run_load_document {path : String} {j : Json} (loads : j.LoadsFrom files path) :
    (loadDocument path).Ends files [] j :=
  (ends_load_document_iff files path [] j).mpr ⟨rfl, loads⟩

theorem run_load_document_fails {path : String} (unloaded : ∀ j : Json, ¬ j.LoadsFrom files path) :
    ∃ failure, (loadDocument path).run files = ⟨[], .error failure⟩ := by
  cases content : files path with
  | error problem =>
    refine ⟨.documentUnread path problem, ?_⟩
    show (Script.bind _ _).run files = _
    simp [Script.readText, Script.run, content]
  | ok text =>
    cases understood : Json.ofText text with
    | ok j => exact absurd ⟨text, content, understood⟩ (unloaded j)
    | error problem =>
      refine ⟨.documentMalformed path problem, ?_⟩
      show (Script.bind _ _).run files = _
      simp [Script.readText, Script.run, content, understood, Script.ofExcept]

end Running

/-- The settings are those of the call, and the description is the one that is asked for or else
the one in the settings. -/
structure Description.ChosenFrom (files : Files) (settings? asked : Option String)
    (settings : Settings) (description : Description) : Prop where
  configured : settings.LoadsFrom files settings?
  described : ∃ path, asked.or settings.description = some path ∧
    description.LoadsFrom files path

namespace Description.ChosenFrom

variable {files : Files} {settings? asked : Option String} {settings : Settings}
  {description : Description}

theorem valid (chosen : description.ChosenFrom files settings? asked settings) :
    description.flaw? = none := by
  obtain ⟨_, _, loads⟩ := chosen.described
  exact loads.valid

/-- Both commands on documents begin by loading the settings and the description, and do not fail
at it or print anything if there is one to be chosen. -/
theorem run_with (chosen : description.ChosenFrom files settings? asked settings)
    (body : Settings → Description → Script Verdict) :
    Script.run files (do
      let settings ← Settings.load settings?
      let path ← Script.ofExcept id (settings.chosen asked)
      let description ← loadDescription path
      body settings description) = (body settings description).run files := by
  obtain ⟨configured, path, named, loads⟩ := chosen
  have first := (Settings.ends_load_iff files settings? [] settings).mpr ⟨rfl, configured⟩
  have second : (Script.ofExcept id (settings.chosen asked)).Ends files [] path :=
    (Script.ends_of_except_iff files _ _ [] path).mpr
      ⟨rfl, (settings.chosen_iff asked path).mpr named⟩
  have third := (ends_load_description_iff files path [] description).mpr ⟨rfl, loads⟩
  simp only [Script.run_bind_of_ends first, Script.run_bind_of_ends second,
    Script.run_bind_of_ends third, List.nil_append]

end Description.ChosenFrom

namespace CheckOptions

variable {files : Files} {description : Description}

def refused (description : Description) (given : List (String × Json)) : Nat :=
  given.countP fun d => ¬ description.Accepts d.2

def accepted (description : Description) (given : List (String × Json)) : Nat :=
  given.countP fun d => description.Accepts d.2

theorem accepted_add_refused (description : Description) (given : List (String × Json)) :
    accepted description given + refused description given = given.length := by
  rw [List.length_eq_countP_add_countP fun d => description.Accepts d.2]
  simp [refused, accepted]

theorem run_check_step (valid : description.flaw? = none) {path : String} {j : Json}
    (loads : j.LoadsFrom files path) (later : List String) :
    (checkAll description (path :: later)).run files =
      let others := (checkAll description later).run files
      ⟨description.account path j ++ others.lines,
        others.result.map (· + refused description [(path, j)])⟩ := by
  have loaded := run_load_document loads
  by_cases accepts : description.Accepts j
  · have printed := Script.run_print_all files ["PASS: " ++ path]
    obtain ⟨r, decoded⟩ := id accepts
    rw [checkAll, Script.run_bind_of_ends loaded, decoded]
    simp only [Script.run_bind_of_ends printed, Description.account, refused,
      List.countP_cons, List.countP_nil, accepts]
    cases ((checkAll description later).run files).result <;> simp [Except.map]
  · have printed := Script.run_print_all files
      (("FAIL: " ++ path) :: (description.faults j).map fun v => "  " ++ v.text)
    rw [checkAll, Script.run_bind_of_ends loaded,
      description.decode_refused valid j accepts]
    simp only [Script.run_bind_of_ends printed, Script.run_map, Description.account,
      refused, List.countP_cons, List.countP_nil, accepts]
    simp

/-- Documents that can be loaded are accounted for before the others are looked at. -/
theorem run_check_all (valid : description.flaw? = none) {given : List (String × Json)}
    (loads : ∀ d ∈ given, d.2.LoadsFrom files d.1) (rest : List String) :
    (checkAll description (given.map (·.1) ++ rest)).run files =
      let others := (checkAll description rest).run files
      ⟨given.flatMap (fun d => description.account d.1 d.2) ++ others.lines,
        others.result.map (· + refused description given)⟩ := by
  induction given with
  | nil =>
    show (checkAll description rest).run files = _
    rcases (checkAll description rest).run files with ⟨lines, failure | failed⟩ <;> rfl
  | cons d given ih =>
    obtain ⟨here, later⟩ := List.forall_mem_cons.mp loads
    have count : refused description (d :: given) =
        refused description given + refused description [d] := by
      simp only [refused, List.countP_cons, List.countP_nil, Nat.zero_add]
    rw [List.map_cons, List.cons_append, run_check_step valid here, ih later, count]
    simp only [List.flatMap_cons, List.append_assoc]
    cases ((checkAll description rest).run files).result with
    | ok failed => simp only [Except.map, Nat.add_assoc]
    | error failure => rfl

variable {settings? : Option String} {options : CheckOptions} {settings : Settings}

section Lists

variable (chosen : description.ChosenFrom files settings? options.description settings)
  {lines : List String}

include chosen

theorem run_check :
    (Call.run ⟨settings?, .check options⟩).run files = (options.report description).run files :=
  chosen.run_with fun _ description => options.report description

theorem run_check_of_loaded {given : List (String × Json)}
    (documents : given.map (·.1) = options.documents)
    (loads : ∀ d ∈ given, d.2.LoadsFrom files d.1) :
    (Call.run ⟨settings?, .check options⟩).run files =
      ⟨given.flatMap (fun d => description.account d.1 d.2) ++
          [description.tally (accepted description given) given.length],
        .ok (if accepted description given < given.length then .bad else .good)⟩ := by
  have count := accepted_add_refused description given
  have passed : accepted description given = given.length - refused description given := by omega
  have failing : accepted description given < given.length ↔ 0 < refused description given := by
    omega
  have checked := run_check_all chosen.valid loads []
  rw [List.append_nil, documents] at checked
  have length : options.documents.length = given.length := by rw [← documents, List.length_map]
  have ends : (checkAll description options.documents).Ends files
      (given.flatMap fun d => description.account d.1 d.2) (refused description given) := by
    rw [Script.Ends, checked]
    show Script.Outcome.mk (_ ++ []) (.ok (0 + _)) = _
    rw [List.append_nil, Nat.zero_add]
  let tally := description.tally (given.length - refused description given) given.length
  let verdict : Verdict := if 0 < refused description given then .bad else .good
  have told : (Script.printAll [tally] >>= fun _ => pure verdict).Ends files [tally] verdict :=
    (Script.ends_print_iff files _ _ _ _).mpr ⟨rfl, rfl⟩
  simp only [run_check chosen, report, length, failing]
  rw [passed]
  exact (Script.ends_bind_iff files _ _ _ _).mpr ⟨_, _, _, ends, told, rfl⟩

theorem run_check_until {before : List (String × Json)} {path : String} {after : List String}
    (documents : before.map (·.1) ++ path :: after = options.documents)
    (loads : ∀ d ∈ before, d.2.LoadsFrom files d.1)
    (unloaded : ∀ j : Json, ¬ j.LoadsFrom files path) :
    ∃ failure, (Call.run ⟨settings?, .check options⟩).run files =
      ⟨before.flatMap (fun d => description.account d.1 d.2), .error failure⟩ := by
  obtain ⟨failure, fails⟩ := run_load_document_fails unloaded
  have stopped : (checkAll description (path :: after)).run files = ⟨[], .error failure⟩ := by
    show (Script.bind _ _).run files = _
    rw [Script.run_bind, fails]
  have checked := run_check_all chosen.valid loads (path :: after)
  rw [documents, stopped] at checked
  refine ⟨failure, ?_⟩
  rw [run_check chosen, report]
  show (Script.bind _ _).run files = _
  rw [Script.run_bind, checked]
  show Script.Outcome.mk (_ ++ []) _ = _
  rw [List.append_nil]

end Lists

end CheckOptions

namespace CompareOptions

variable {files : Files} {settings? : Option String} {options : CompareOptions}
  {settings : Settings} {description : Description}

theorem run_decode (valid : description.flaw? = none) {path : String} {j : Json}
    (loads : j.LoadsFrom files path) :
    (decodeOrReport description path).Ends files (description.refusal path j)
      (description.decodeRecord j).toOption := by
  have loaded := run_load_document loads
  rw [Script.Ends, decodeOrReport, Script.run_bind_of_ends loaded]
  by_cases accepts : description.Accepts j
  · obtain ⟨r, decoded⟩ := id accepts
    rw [decoded, Description.refusal, if_pos accepts]
    rfl
  · have printed := Script.run_print_all files
      ((path ++ ": does not fit record " ++ description.name) ::
        (description.faults j).map fun v => "  FAIL: " ++ v.text)
    rw [description.decode_refused valid j accepts, Description.refusal, if_neg accepts]
    simp only [Script.run_bind_of_ends printed]
    simp [Script.run, pure, Except.toOption]

def ending (options : CompareOptions) (settings : Settings) (description : Description)
    (left right : Json) : List String × Verdict :=
  match description.decodeRecord left, description.decodeRecord right with
  | .ok a, .ok b => options.conclusion description.name (options.reported settings a b)
  | _, _ => ([], .undecoded)

section Two

variable (chosen : description.ChosenFrom files settings? options.description settings)
  {left right : Json} (first : left.LoadsFrom files options.left)
  (second : right.LoadsFrom files options.right)

include chosen first second

theorem run_compare :
    (Call.run ⟨settings?, .compare options⟩).Ends files
      (description.refusal options.left left ++ (description.refusal options.right right ++
        (options.ending settings description left right).1))
      (options.ending settings description left right).2 := by
  have one := run_decode chosen.valid first
  have other := run_decode chosen.valid second
  refine (chosen.run_with fun settings description => _).trans ?_
  refine (Script.ends_bind_iff files _ _ _ _).mpr ⟨_, _, _, one, ?_, rfl⟩
  refine (Script.ends_bind_iff files _ _ _ _).mpr ⟨_, _, _, other, ?_, rfl⟩
  simp only [ending]
  cases description.decodeRecord left with
  | error failure => exact (Script.ends_pure_iff files _ _ _).mpr ⟨rfl, rfl⟩
  | ok a =>
    cases description.decodeRecord right with
    | error failure => exact (Script.ends_pure_iff files _ _ _).mpr ⟨rfl, rfl⟩
    | ok b => exact (ends_conclusion_iff files options _ _ _ _).mpr rfl

theorem run_compare_refused
    (refused : ¬ (description.Accepts left ∧ description.Accepts right)) :
    (Call.run ⟨settings?, .compare options⟩).run files =
      ⟨description.refusal options.left left ++ description.refusal options.right right,
        .ok .undecoded⟩ := by
  have undecided : options.ending settings description left right = ([], .undecoded) := by
    unfold ending
    split
    next a b decodedLeft decodedRight =>
      exact absurd ⟨⟨a, decodedLeft⟩, b, decodedRight⟩ refused
    next => rfl
  have ends := run_compare chosen first second
  rwa [undecided, List.append_nil] at ends

theorem compare_exit_code_iff :
    ((Call.run ⟨settings?, .compare options⟩).run files).exitCode = 2 ↔
      ¬ (description.Accepts left ∧ description.Accepts right) := by
  constructor
  · rintro code ⟨⟨a, decodedLeft⟩, b, decodedRight⟩
    have prepared : options.Prepared files settings? settings description a b :=
      ⟨chosen.configured, chosen.described, ⟨left, first, decodedLeft⟩,
        ⟨right, second, decodedRight⟩⟩
    rw [exit_code_two_iff, ne_eq, ne_eq, exit_code_zero_iff, exit_code_one_iff,
      Script.result_iff, Script.result_iff] at code
    obtain ⟨unequal, undiffering⟩ := code
    by_cases found : options.reported settings a b = []
    · exact unequal ⟨_, (options.ends_good_iff files settings? _).mpr
        ⟨rfl, settings, description, a, b, prepared, found⟩⟩
    · exact undiffering ⟨_, (options.ends_bad_iff files settings? _).mpr
        ⟨settings, description, a, b, prepared, found, rfl⟩⟩
  · intro refused
    rw [run_compare_refused chosen first second refused]
    rfl

end Two

end CompareOptions

open CheckOptions (refused accepted)

/-- A check accounts for each of its documents, and tells in the end how many of them conform; a
document that cannot be loaded ends it after the accounts of those before it. A comparison of two
documents gives up exactly if a check of them fails, and says the same of them. -/
theorem check_accounts_for_documents (files : Files) {arguments : List String}
    {settings? : Option String} {options : CheckOptions} {settings : Settings}
    {description : Description}
    (read : Call.ofArguments arguments = .ok ⟨settings?, .check options⟩)
    (chosen : description.ChosenFrom files settings? options.description settings) :
    let shown := runProgram files arguments
    (∀ document failure, description.decodeRecord document = .error failure →
      failure.violations = description.faults document) ∧
    (∀ given : List (String × Json), given.map (·.1) = options.documents →
      (∀ d ∈ given, d.2.LoadsFrom files d.1) →
        let passed := accepted description given
        refused description given ≤ given.length ∧
        given.length - refused description given = passed ∧
        shown.lines = given.flatMap (fun d => description.account d.1 d.2) ++
          [description.tally passed given.length] ∧
        shown.exitCode = if passed < given.length then 1 else 0) ∧
    (∀ (before : List (String × Json)) path after,
      before.map (·.1) ++ path :: after = options.documents →
      (∀ d ∈ before, d.2.LoadsFrom files d.1) → (∀ j : Json, ¬ j.LoadsFrom files path) →
        shown.lines = before.flatMap (fun d => description.account d.1 d.2) ∧
        shown.exitCode = 2) ∧
    ∀ others others? (comparison : CompareOptions) (theirs : Settings) (left right : Json),
      Call.ofArguments others = .ok ⟨others?, .compare comparison⟩ →
      description.ChosenFrom files others? comparison.description theirs →
      options.documents = [comparison.left, comparison.right] →
      left.LoadsFrom files comparison.left → right.LoadsFrom files comparison.right →
        let compared := runProgram files others
        (compared.exitCode = 2 ↔ shown.exitCode = 1) ∧
        (compared.exitCode = 2 → compared.lines =
          description.refusal comparison.left left ++
            description.refusal comparison.right right) := by
  intro shown
  obtain ⟨code, lines⟩ := run_program_of_call files read
  have loaded (given : List (String × Json)) (documents : given.map (·.1) = options.documents)
      (loads : ∀ d ∈ given, d.2.LoadsFrom files d.1) :
      let passed := accepted description given
      refused description given ≤ given.length ∧
      given.length - refused description given = passed ∧
      shown.lines = given.flatMap (fun d => description.account d.1 d.2) ++
        [description.tally passed given.length] ∧
      shown.exitCode = if passed < given.length then 1 else 0 := by
    intro passed
    have count : passed + refused description given = given.length :=
      CheckOptions.accepted_add_refused description given
    have run := CheckOptions.run_check_of_loaded chosen documents loads
    refine ⟨by omega, by omega, by rw [lines, run], ?_⟩
    rw [code, run]
    show Script.Outcome.exitCode ⟨_, .ok (if passed < given.length then .bad else .good)⟩ = _
    split <;> rfl
  refine ⟨fun document _ => description.faults_of_error chosen.valid document, loaded, ?_, ?_⟩
  · intro before path after documents loads unloaded
    obtain ⟨failure, run⟩ := CheckOptions.run_check_until chosen documents loads unloaded
    rw [lines, code, run]
    exact ⟨rfl, rfl⟩
  · intro others others? comparison theirs left right asked described documents first second compared
    obtain ⟨otherCode, otherLines⟩ := run_program_of_call files asked
    have refusedIff := CompareOptions.compare_exit_code_iff described first second
    let pair := [(comparison.left, left), (comparison.right, right)]
    have loads : ∀ d ∈ pair, d.2.LoadsFrom files d.1 := by simp [pair, first, second]
    obtain ⟨_, _, _, exit⟩ := loaded pair documents.symm loads
    constructor
    · rw [otherCode, refusedIff, exit]
      by_cases one : description.Accepts left <;> by_cases other : description.Accepts right <;>
        simp [accepted, pair, one, other]
    · intro gaveUp
      rw [otherCode, refusedIff] at gaveUp
      rw [otherLines, CompareOptions.run_compare_refused described first second gaveUp]

theorem accounts_of_documents :
    let files : Files := fun path =>
      if path = "r.yaml" then .ok "name: r\nfields:\n- name: n\n  kind: bool\n"
      else if path = "one.json" then .ok "\x7b\"n\": true\x7d"
      else if path = "text.json" then .ok "\x7b\"m\": false, \"n\": \"2\"\x7d"
      else .error .absent
    let description : Description := ⟨"r", [⟨"n", .bool, 0, .value⟩]⟩
    let one : Json := .object [("n", .bool true)]
    let text : Json := .object [("m", .bool false), ("n", .string "2")]
    let both := runProgram files ["check", "-s", "r.yaml", "text.json", "one.json"]
    let stopped := runProgram files ["check", "-s", "r.yaml", "text.json", "two.json", "one.json"]
    let compared := runProgram files ["compare", "-s", "r.yaml", "text.json", "one.json"]
    description.ChosenFrom files none (some "r.yaml") .standard ∧
      one.LoadsFrom files "one.json" ∧ text.LoadsFrom files "text.json" ∧
      (∀ j : Json, ¬ j.LoadsFrom files "two.json") ∧
      description.account "text.json" text = ["FAIL: text.json",
        "  /n: expected bool, found string", "  /m: unknown field for record r"] ∧
      both.lines = description.account "text.json" text ++ description.account "one.json" one ++
        [description.tally 1 2] ∧ both.exitCode = 1 ∧
      stopped.lines = description.account "text.json" text ∧ stopped.exitCode = 2 ∧
      compared.lines = description.refusal "text.json" text ∧ compared.exitCode = 2 := by
  intro files description one text both stopped compared
  have reads : Description.ofFile "r.yaml" (files "r.yaml") = .ok description := by decide +kernel
  have chosen : description.ChosenFrom files none (some "r.yaml") .standard :=
    ⟨.standard, "r.yaml", rfl, (Description.of_file_iff files _ _).mp reads⟩
  have first : text.LoadsFrom files "text.json" := ⟨_, rfl, by decide +kernel⟩
  have second : one.LoadsFrom files "one.json" := ⟨_, rfl, by decide +kernel⟩
  have missing (j : Json) : ¬ j.LoadsFrom files "two.json" := by
    rintro ⟨_, found, _⟩
    cases found
  have refuses : ¬ description.Accepts text := by decide +kernel
  have accepts : description.Accepts one := by decide +kernel
  have counted : accepted description [("text.json", text), ("one.json", one)] = 1 := by
    simp [accepted, refuses, accepts]
  have checkBoth : Call.ofArguments ["check", "-s", "r.yaml", "text.json", "one.json"] =
      .ok ⟨none, .check ⟨some "r.yaml", ["text.json", "one.json"]⟩⟩ := rfl
  have checkThree :
      Call.ofArguments ["check", "-s", "r.yaml", "text.json", "two.json", "one.json"] =
        .ok ⟨none, .check ⟨some "r.yaml", ["text.json", "two.json", "one.json"]⟩⟩ := rfl
  have compareBoth : Call.ofArguments ["compare", "-s", "r.yaml", "text.json", "one.json"] =
      .ok ⟨none, .compare ⟨some "r.yaml", false, none, false, "text.json", "one.json"⟩⟩ := rfl
  obtain ⟨_, all, _, compare⟩ := check_accounts_for_documents files checkBoth chosen
  obtain ⟨_, _, stops, _⟩ := check_accounts_for_documents files checkThree chosen
  obtain ⟨_, _, lines, code⟩ := all [("text.json", text), ("one.json", one)] rfl
    (by simp [first, second])
  obtain ⟨before, error⟩ := stops [("text.json", text)] "two.json" ["one.json"] rfl
    (by simp [first]) missing
  obtain ⟨codes, refusals⟩ := compare _ _ _ _ text one compareBoth chosen rfl first second
  rw [counted] at lines code
  have gaveUp : compared.exitCode = 2 := codes.mpr code
  have unrefused : description.refusal "one.json" one = [] := if_pos accepts
  refine ⟨chosen, second, first, missing, by decide +kernel, ?_, code, ?_, error, ?_, gaveUp⟩
  · rw [lines]
    simp only [List.flatMap_cons, List.flatMap_nil, List.append_nil, List.length_cons,
      List.length_nil]
  · rw [before, List.flatMap_cons, List.flatMap_nil, List.append_nil]
  · rw [refusals gaveUp, unrefused, List.append_nil]

end RecordComparison
