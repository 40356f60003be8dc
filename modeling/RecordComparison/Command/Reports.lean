import RecordComparison.Command.Settings
import RecordComparison.Description.Listing
import RecordComparison.Difference.Json
import RecordComparison.Record.Decoding

/-!
The three commands. `compare` decodes two documents under a description and reports where the
records differ; `check` decodes documents and lists their violations; `describe` lists the
fields of a description.
-/
namespace RecordComparison

inductive Verdict where
  -- The records are equal, or all documents conform.
  | good
  -- The records differ, or a document does not conform.
  | bad
  -- A document that was to be compared does not conform.
  | undecoded
deriving DecidableEq

def Verdict.exitCode : Verdict → Nat
  | good => 0
  | bad => 1
  | undecoded => 2

def failureCode : Nat := 2

def loadDescription (path : String) : Script Description :=
  .read path fun content => .ofExcept (.description path) (Description.ofFile path content)

def loadDocument (path : String) : Script Json := do
  let text ← Script.readText path (.documentUnread path)
  Script.ofExcept (.documentMalformed path) (Json.ofText text)

structure CompareOptions where
  description : Option String
  all : Bool
  limit : Option Nat
  json : Bool
  left : String
  right : String
deriving DecidableEq

namespace CompareOptions

/-- The differences that are asked for: up to a limit, all of them, or the first one. -/
def reported (options : CompareOptions) (settings : Settings) (left right : Record) :
    List Difference :=
  let limit := options.limit.or settings.limit
  if options.all || settings.all || limit.isSome then Comparable.collect limit left right
  else (Comparable.firstDifference left right).toList

def line (options : CompareOptions) (record : String) (d : Difference) : String :=
  if options.json then d.json.text else record ++ ": " ++ d.text

def decodeOrReport (description : Description) (path : String) : Script (Option Record) := do
  let document ← loadDocument path
  match description.decodeRecord document with
  | .ok record => return some record
  | .error failure =>
    Script.printAll
      ((path ++ ": does not fit record " ++ description.name) ::
        failure.violations.map fun v => "  FAIL: " ++ v.text)
    return none

def run (options : CompareOptions) (settings : Settings) : Script Verdict := do
  let path ← Script.ofExcept id (settings.chosen options.description)
  let description ← loadDescription path
  let left ← decodeOrReport description options.left
  let right ← decodeOrReport description options.right
  match left, right with
  | some left, some right =>
    match options.reported settings left right with
    | [] =>
      Script.printAll ["equal"]
      return .good
    | found =>
      Script.printAll (found.map (options.line description.name))
      return .bad
  | _, _ => return .undecoded

end CompareOptions

structure CheckOptions where
  description : Option String
  documents : List String
deriving DecidableEq

namespace CheckOptions

def checkAll (description : Description) : List String → Script Nat
  | [] => pure 0
  | path :: later => do
    let document ← loadDocument path
    match description.decodeRecord document with
    | .ok _ =>
      Script.printAll ["PASS: " ++ path]
      checkAll description later
    | .error failure =>
      Script.printAll (("FAIL: " ++ path) :: failure.violations.map fun v => "  " ++ v.text)
      let failed ← checkAll description later
      return failed + 1

def report (options : CheckOptions) (description : Description) : Script Verdict := do
  let failed ← checkAll description options.documents
  let total := options.documents.length
  Script.printAll
    [description.name ++ ": " ++ toString (total - failed) ++ "/" ++ toString total ++
      " document(s) passed"]
  return if 0 < failed then .bad else .good

def run (options : CheckOptions) (settings : Settings) : Script Verdict := do
  let path ← Script.ofExcept id (settings.chosen options.description)
  let description ← loadDescription path
  options.report description

end CheckOptions

def describe (path : String) : Script Verdict := do
  let description ← loadDescription path
  Script.printAll description.listing
  return .good

end RecordComparison
