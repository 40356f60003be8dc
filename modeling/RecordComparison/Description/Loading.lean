import RecordComparison.Description.Json
import RecordComparison.Description.Yaml
import RecordComparison.Files.Location
import RecordComparison.Files.Problem

/-!
Loading a description from a text or a file. The extension of the file tells its format, and
whatever is loaded is valid.
-/
namespace RecordComparison

inductive TextProblem where
  | json (problem : JsonProblem)
  | yaml (problem : Yaml.Problem)
deriving DecidableEq

/-- The problem in words; what is wrong with malformed YAML is not told. -/
def TextProblem.reason : TextProblem → String
  | json problem => problem.message
  | yaml (.unfit trouble) => trouble.message
  | yaml .malformed => "not a single YAML document"

inductive LoadProblem where
  | file (problem : FileProblem)
  | unsupported (path : String)
  | unreadable (source : String) (problem : TextProblem)
  | invalid (record : String) (flaw : Flaw)
deriving DecidableEq

def LoadProblem.message : LoadProblem → String
  | file problem => "I/O error: " ++ problem.message
  | unsupported path =>
    "unsupported schema format for " ++ path ++ ": expected .yaml, .yml or .json"
  | unreadable source problem =>
    "failed to load schema " ++ source ++ ": " ++ problem.reason
  | invalid record flaw => "invalid record schema " ++ record ++ ": " ++ flaw.reason

namespace Description

def validated (description : Description) : Except LoadProblem Description :=
  match description.flaw? with
  | some flaw => .error (.invalid description.name flaw)
  | none => .ok description

def ofJson (source text : String) : Except LoadProblem Description :=
  match Json.whole read text with
  | .ok description => description.validated
  | .error problem => .error (.unreadable source (.json problem))

def ofYaml (source text : String) : Except LoadProblem Description :=
  match Yaml.whole readYaml text with
  | .ok description => description.validated
  | .error problem => .error (.unreadable source (.yaml problem))

def ofJsonText (text : String) : Except LoadProblem Description := ofJson "<json>" text

def ofYamlText (text : String) : Except LoadProblem Description := ofYaml "<yaml>" text

inductive Format where
  | json
  | yaml
deriving DecidableEq

/-- The format that an extension stands for, in letters of either case. -/
def Format.ofExtension? (extension : String) : Option Format :=
  let extension := extension.toLower
  if extension = "yaml" ∨ extension = "yml" then some .yaml
  else if extension = "json" then some .json
  else none

def ofFile (path : String) (content : Except FileProblem String) :
    Except LoadProblem Description :=
  match content with
  | .error problem => .error (.file problem)
  | .ok text =>
    match (Location.extension? path).bind Format.ofExtension? with
    | some .json => ofJson path text
    | some .yaml => ofYaml path text
    | none => .error (.unsupported path)

end Description

end RecordComparison
