import RecordComparison.Description.Loading

/-!
What a command does, one step after the other: it reads files, prints lines, and ends with a
value or a failure. A script is run on files that are given; running it changes none of them.
-/
namespace RecordComparison

inductive Failure where
  | noDescription
  | description (path : String) (cause : LoadProblem)
  | documentUnread (path : String) (cause : FileProblem)
  | documentMalformed (path : String) (cause : JsonProblem)
  | settingsUnread (path : String) (cause : FileProblem)
  | settingsMalformed (path : String) (cause : Yaml.Problem)
deriving DecidableEq

namespace Failure

def message : Failure → String
  | noDescription =>
    "no record description: pass --schema or set `schema` in the config file"
  | description path _ => "failed to load record description " ++ path
  | documentUnread path _ => "failed to read document " ++ path
  | documentMalformed path _ => "failed to parse document " ++ path ++ " as JSON"
  | settingsUnread path _ => "failed to read config " ++ path
  | settingsMalformed path _ => "failed to parse config " ++ path

def cause? : Failure → Option String
  | noDescription => none
  | description _ cause => some cause.message
  | documentUnread _ cause => some cause.message
  | documentMalformed _ cause => some cause.message
  | settingsUnread _ cause => some cause.message
  | settingsMalformed _ cause => some (TextProblem.yaml cause).reason

def text (f : Failure) : String :=
  match f.cause? with
  | some cause => f.message ++ ": " ++ cause
  | none => f.message

end Failure

inductive Script (α : Type) where
  | done (value : α)
  | fail (failure : Failure)
  | print (line : String) (next : Script α)
  | read (path : String) (next : Except FileProblem String → Script α)

namespace Script

variable {α β : Type}

def bind : Script α → (α → Script β) → Script β
  | done value, f => f value
  | fail failure, _ => fail failure
  | print line next, f => print line (next.bind f)
  | read path next, f => read path fun content => (next content).bind f

instance : Monad Script where
  pure := done
  bind := bind

def printAll : List String → Script Unit
  | [] => done ()
  | line :: later => print line (printAll later)

/-- The text at a path, or what a problem with it is taken for. -/
def readText (path : String) (failure : FileProblem → Failure) : Script String :=
  read path fun content =>
    match content with
    | .ok text => done text
    | .error problem => fail (failure problem)

def ofExcept {ε : Type} (failure : ε → Failure) : Except ε α → Script α
  | .ok a => done a
  | .error e => fail (failure e)

structure Outcome (α : Type) where
  lines : List String
  result : Except Failure α

def run (files : Files) : Script α → Outcome α
  | done value => ⟨[], .ok value⟩
  | fail failure => ⟨[], .error failure⟩
  | print line next =>
    let outcome := next.run files
    { outcome with lines := line :: outcome.lines }
  | read path next => (next (files path)).run files

@[simp] theorem run_bind (files : Files) (s : Script α) (f : α → Script β) :
    (s.bind f).run files =
      match (s.run files).result with
      | .ok a => ⟨(s.run files).lines ++ ((f a).run files).lines, ((f a).run files).result⟩
      | .error failure => ⟨(s.run files).lines, .error failure⟩ := by
  induction s with
  | done value => rfl
  | fail failure => rfl
  | print line next ih =>
    simp only [bind, run, ih]
    cases (next.run files).result <;> rfl
  | read path next ih => simp only [bind, run, ih]

end Script

end RecordComparison
