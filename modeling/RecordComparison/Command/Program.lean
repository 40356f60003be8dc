import RecordComparison.Command.Arguments
import RecordComparison.Text.Terminal

/-!
The program: it reads its arguments, loads the settings and carries out one command.
-/
namespace RecordComparison

def programName : String := "bmx"

def programVersion : String := "0.1.0"

def versionLine : String := programName ++ " " ++ programVersion

def Command.run (settings : Settings) : Command → Script Verdict
  | .compare options => options.run settings
  | .check options => options.run settings
  | .describe description => RecordComparison.describe description

/-- The settings are loaded even by a command that has no use for them. -/
def Call.run (call : Call) : Script Verdict := do
  let settings ← Settings.load call.settings
  call.command.run settings

def Failure.shown (failure : Failure) : String := terminalText failure.text

def Script.Outcome.exitCode (outcome : Script.Outcome Verdict) : Nat :=
  match outcome.result with
  | .ok verdict => verdict.exitCode
  | .error _ => failureCode

structure Shown where
  exitCode : Nat
  lines : List String
  failure : Option Failure

def runProgram (files : Files) (arguments : List String) : Shown :=
  match Call.ofArguments arguments with
  | .error .refused => ⟨failureCode, [], none⟩
  -- The text of the help is not a part of what is shown.
  | .error .helpAsked => ⟨0, [], none⟩
  | .error .versionAsked => ⟨0, [versionLine], none⟩
  | .ok call =>
    let outcome := call.run.run files
    let failure :=
      match outcome.result with
      | .ok _ => none
      | .error failure => some failure
    ⟨outcome.exitCode, outcome.lines, failure⟩

end RecordComparison
