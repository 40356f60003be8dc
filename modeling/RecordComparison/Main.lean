import RecordComparison.Command.Program

/-!
The program on the files of the machine.
-/
namespace RecordComparison

-- What the machine says about a file. The number of an error tells a directory from a place below a
-- file, and a name that is not allowed from one that is too long.
def FileProblem.ofError : IO.Error → FileProblem
  | .noFileOrDirectory .. => .absent
  | .noSuchThing .. => .absent
  | .inappropriateType _ 21 _ => .isDirectory
  | .inappropriateType .. => .notDirectory
  | .invalidArgument _ 22 _ => .nameNotAllowed
  | .invalidArgument .. => .nameTooLong
  | e => .other (toString e)

def readFileText (path : String) : IO (Except FileProblem String) := do
  try
    let octets ← IO.FS.readBinFile path
    match String.fromUTF8? octets with
    | some text => return .ok text
    | none => return .error .notText
  catch e => return .error (.ofError e)

def Script.perform {α : Type} : Script α → IO (Except Failure α)
  | .done value => return .ok value
  | .fail failure => return .error failure
  | .print line next => do
    IO.println line
    next.perform
  | .read path next => do
    let content ← readFileText path
    (next content).perform

end RecordComparison

open RecordComparison

def main (arguments : List String) : IO UInt32 := do
  match Call.ofArguments arguments with
  | .error .helpAsked => return 0
  | .error .versionAsked =>
    IO.println versionLine
    return 0
  | .error .refused => return failureCode.toUInt32
  | .ok call =>
    match ← call.run.perform with
    | .ok verdict => return verdict.exitCode.toUInt32
    | .error failure =>
      IO.eprintln ("ERROR " ++ failure.shown)
      return failureCode.toUInt32
