import RecordComparison.Command.Program

/-!
How scripts end. `Script.Ends` says what a script prints and gives when it is run on files, and
there is one law for each way of making scripts. From them follows what the parts of the commands
need: settings, a description and documents that can be loaded. Whatever is in the way of that,
the program tells by its exit code.
-/
namespace RecordComparison

namespace Script

variable {α β : Type} (files : Files)

def Ends (s : Script α) (lines : List String) (value : α) : Prop :=
  s.run files = ⟨lines, .ok value⟩

theorem result_iff (s : Script α) (value : α) :
    (s.run files).result = .ok value ↔ ∃ lines, s.Ends files lines value := by
  constructor
  · intro result
    exact ⟨(s.run files).lines, by rw [Ends, ← result]⟩
  · rintro ⟨lines, ends⟩
    rw [ends]

@[simp] theorem ends_pure_iff (a b : α) (lines : List String) :
    (pure a : Script α).Ends files lines b ↔ lines = [] ∧ a = b := by
  show (⟨[], .ok a⟩ : Outcome α) = ⟨lines, .ok b⟩ ↔ _
  simp [eq_comm]

@[simp] theorem ends_bind_iff (s : Script α) (f : α → Script β) (lines : List String) (b : β) :
    (s >>= f).Ends files lines b ↔
      ∃ before a after, s.Ends files before a ∧ (f a).Ends files after b ∧
        before ++ after = lines := by
  have run : (s >>= f).run files = _ := run_bind files s f
  constructor
  · intro ends
    rw [Ends, run] at ends
    rcases first : s.run files with ⟨before, failure | a⟩
    · simp [first] at ends
    · simp only [first, Outcome.mk.injEq] at ends
      exact ⟨before, a, ((f a).run files).lines, first, by rw [Ends, ← ends.2], ends.1⟩
  · rintro ⟨before, a, after, first, second, rfl⟩
    simp only [Ends] at first second
    simp only [Ends, run, first, second]

@[simp] theorem run_print_all (lines : List String) :
    (printAll lines).run files = ⟨lines, .ok ()⟩ := by
  induction lines with
  | nil => rfl
  | cons line later ih => simp only [printAll, run, ih]

@[simp] theorem ends_print_all_iff (given lines : List String) (value : Unit) :
    (printAll given).Ends files lines value ↔ lines = given := by
  simp [Ends, eq_comm]

theorem ends_print_iff (given lines : List String) (a b : α) :
    (printAll given >>= fun _ => pure a).Ends files lines b ↔ lines = given ∧ a = b := by
  constructor
  · intro ends
    obtain ⟨before, _, after, printed, rest, rfl⟩ := (ends_bind_iff files _ _ _ _).mp ends
    obtain rfl := (ends_print_all_iff files _ _ _).mp printed
    obtain ⟨rfl, same⟩ := (ends_pure_iff files _ _ _).mp rest
    exact ⟨List.append_nil before, same⟩
  · rintro ⟨rfl, rfl⟩
    have printed : (printAll lines).Ends files lines () := run_print_all files lines
    have rest : (pure a : Script α).Ends files [] a := rfl
    exact (ends_bind_iff files _ _ _ _).mpr ⟨lines, (), [], printed, rest, List.append_nil lines⟩

@[simp] theorem ends_read_text_iff (path : String) (failure : FileProblem → Failure)
    (lines : List String) (text : String) :
    (readText path failure).Ends files lines text ↔ lines = [] ∧ files path = .ok text := by
  simp only [Ends, readText, run]
  cases files path <;> simp [run, eq_comm]

@[simp] theorem ends_of_except_iff {ε : Type} (failure : ε → Failure) (given : Except ε α)
    (lines : List String) (a : α) :
    (ofExcept failure given).Ends files lines a ↔ lines = [] ∧ given = .ok a := by
  cases given <;> simp [Ends, ofExcept, run, eq_comm]

/-- A part that prints nothing leaves the output to what comes after it. -/
theorem ends_bind_silent_iff {P : α → Prop} {s : Script α}
    (silent : ∀ lines a, s.Ends files lines a ↔ lines = [] ∧ P a) (f : α → Script β)
    (lines : List String) (b : β) :
    (s >>= f).Ends files lines b ↔ ∃ a, P a ∧ (f a).Ends files lines b := by
  simp only [ends_bind_iff, silent]
  constructor
  · rintro ⟨_, a, after, ⟨rfl, holds⟩, ends, rfl⟩
    exact ⟨a, holds, ends⟩
  · rintro ⟨a, holds, ends⟩
    exact ⟨[], a, lines, ⟨rfl, holds⟩, ends, rfl⟩

end Script

section Loading

variable (files : Files)

/-- The settings of a call: those of the file that it names, or the standard ones. -/
inductive Settings.LoadsFrom : Option String → Settings → Prop where
  | standard : LoadsFrom none .standard
  | file {path text : String} {settings : Settings} : files path = .ok text →
      Settings.ofText text = .ok settings → LoadsFrom (some path) (settings.seenFrom path)

def Description.ReadsFrom (description : Description) (text : String) : Description.Format → Prop
  | .json => Json.whole Description.read text = .ok description
  | .yaml => Yaml.whole Description.readYaml text = .ok description

/-- The file at the path has the text of the description in the format that its name tells, and
the description is valid. -/
structure Description.LoadsFrom (path : String) (description : Description) : Prop where
  reads : ∃ text format, files path = .ok text ∧
    (Location.extension? path).bind Description.Format.ofExtension? = some format ∧
      description.ReadsFrom text format
  valid : description.flaw? = none

def Json.LoadsFrom (path : String) (j : Json) : Prop :=
  ∃ text, files path = .ok text ∧ Json.ofText text = .ok j

def Record.LoadsFrom (description : Description) (path : String) (r : Record) : Prop :=
  ∃ j, Json.LoadsFrom files path j ∧ description.decodeRecord j = .ok r

theorem Settings.ends_load_iff (path? : Option String) (lines : List String)
    (settings : Settings) :
    (load path?).Ends files lines settings ↔ lines = [] ∧ LoadsFrom files path? settings := by
  cases path? with
  | none =>
    rw [load, Script.ends_pure_iff]
    refine and_congr_right fun _ => ⟨?_, ?_⟩
    · rintro rfl
      exact .standard
    · rintro ⟨⟩
      rfl
  | some path =>
    simp only [load, Script.ends_bind_silent_iff files (Script.ends_read_text_iff files path _),
      Script.ends_bind_silent_iff files (Script.ends_of_except_iff files _ (ofText _)),
      Script.ends_pure_iff]
    constructor
    · rintro ⟨text, read, given, understood, rfl, rfl⟩
      exact ⟨rfl, .file read understood⟩
    · rintro ⟨rfl, loaded⟩
      cases loaded with
      | file read understood => exact ⟨_, read, _, understood, rfl, rfl⟩

theorem Settings.chosen_iff (settings : Settings) (asked : Option String) (path : String) :
    settings.chosen asked = .ok path ↔ asked.or settings.description = some path := by
  cases asked <;> cases held : settings.description <;> simp [chosen, held]

theorem Description.validated_iff (given description : Description) :
    given.validated = .ok description ↔ given = description ∧ description.flaw? = none := by
  rw [validated]
  cases flaw : given.flaw? with
  | some f =>
    refine iff_of_false (by simp) ?_
    rintro ⟨rfl, valid⟩
    simp [flaw] at valid
  | none =>
    simp only [Except.ok.injEq, iff_self_and]
    rintro rfl
    exact flaw

theorem Description.of_json_iff (path text : String) (description : Description) :
    ofJson path text = .ok description ↔
      description.ReadsFrom text .json ∧ description.flaw? = none := by
  rw [ofJson, ReadsFrom]
  cases Json.whole read text <;> simp [validated_iff]

theorem Description.of_yaml_iff (path text : String) (description : Description) :
    ofYaml path text = .ok description ↔
      description.ReadsFrom text .yaml ∧ description.flaw? = none := by
  rw [ofYaml, ReadsFrom]
  cases Yaml.whole readYaml text <;> simp [validated_iff]

theorem Description.of_file_iff (path : String) (description : Description) :
    ofFile path (files path) = .ok description ↔ description.LoadsFrom files path := by
  constructor
  · intro loaded
    unfold ofFile at loaded
    split at loaded
    next problem unread => simp at loaded
    next text found =>
      split at loaded
      next named =>
        obtain ⟨reads, valid⟩ := (of_json_iff path text description).mp loaded
        exact ⟨⟨text, .json, found, named, reads⟩, valid⟩
      next named =>
        obtain ⟨reads, valid⟩ := (of_yaml_iff path text description).mp loaded
        exact ⟨⟨text, .yaml, found, named, reads⟩, valid⟩
      next => simp at loaded
  · rintro ⟨⟨text, format, found, named, reads⟩, valid⟩
    simp only [ofFile, found, named]
    cases format with
    | json => exact (of_json_iff path text description).mpr ⟨reads, valid⟩
    | yaml => exact (of_yaml_iff path text description).mpr ⟨reads, valid⟩

theorem ends_load_description_iff (path : String) (lines : List String)
    (description : Description) :
    (loadDescription path).Ends files lines description ↔
      lines = [] ∧ description.LoadsFrom files path := by
  rw [← Description.of_file_iff]
  exact Script.ends_of_except_iff files (.description path) _ lines description

theorem ends_load_document_iff (path : String) (lines : List String) (j : Json) :
    (loadDocument path).Ends files lines j ↔ lines = [] ∧ j.LoadsFrom files path := by
  simp only [loadDocument,
    Script.ends_bind_silent_iff files (Script.ends_read_text_iff files path _),
    Script.ends_of_except_iff, Json.LoadsFrom]
  constructor
  · rintro ⟨text, read, rfl, understood⟩
    exact ⟨rfl, text, read, understood⟩
  · rintro ⟨rfl, text, read, understood⟩
    exact ⟨text, read, rfl, understood⟩

theorem ends_decode_iff (description : Description) (path : String) (lines : List String)
    (r : Record) :
    (CompareOptions.decodeOrReport description path).Ends files lines (some r) ↔
      lines = [] ∧ r.LoadsFrom files description path := by
  simp only [CompareOptions.decodeOrReport,
    Script.ends_bind_silent_iff files (ends_load_document_iff files path), Record.LoadsFrom]
  constructor
  · rintro ⟨j, loads, ends⟩
    split at ends
    next record decoded =>
      obtain ⟨rfl, same⟩ := (Script.ends_pure_iff files _ _ _).mp ends
      obtain rfl := Option.some.inj same
      exact ⟨rfl, j, loads, decoded⟩
    next failure refused =>
      obtain ⟨_, _, _, _, ends, _⟩ := (Script.ends_bind_iff files _ _ _ _).mp ends
      cases ((Script.ends_pure_iff files _ _ _).mp ends).2
  · rintro ⟨rfl, j, loads, decoded⟩
    refine ⟨j, loads, ?_⟩
    rw [decoded]
    exact (Script.ends_pure_iff files _ _ _).mpr ⟨rfl, rfl⟩

end Loading

end RecordComparison
