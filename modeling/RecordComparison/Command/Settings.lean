import RecordComparison.Command.Script

/-!
Settings that a file can hold: where the description of the records is, and how differences
are reported. All of them may be left out.
-/
namespace RecordComparison

structure Settings where
  description : Option String
  all : Bool
  limit : Option Nat
deriving DecidableEq

namespace Settings

def standard : Settings := ⟨none, false, none⟩

def form : RecordForm Yaml.Read Settings where
  title := "struct CliConfig"
  strict := true
  blank := standard
  members := [
    { name := "schema", optional := true, optionalInList := true,
      read := Yaml.mapRead (fun description s => { s with description })
        (Yaml.readOption (Yaml.readText "path string")) },
    { name := "all", optional := true, optionalInList := true,
      read := Yaml.mapRead (fun all s => { s with all }) (Yaml.readTruth truthExpected) },
    { name := "limit", optional := true, optionalInList := true,
      read := Yaml.mapRead (fun limit s => { s with limit })
        (Yaml.readOption (Yaml.readNatural "usize" (UInt64.size - 1))) }]

def ofText (text : String) : Except Yaml.Problem Settings :=
  Yaml.whole (Yaml.readRecord form) text

/-- The settings as they are meant by a file: its relative paths start where the file is. -/
def seenFrom (path : String) (settings : Settings) : Settings :=
  { settings with description := settings.description.map (Location.join (Location.parent path)) }

def load (path? : Option String) : Script Settings :=
  match path? with
  | none => pure standard
  | some path => do
    let text ← Script.readText path (.settingsUnread path)
    let settings ← Script.ofExcept (.settingsMalformed path) (ofText text)
    return settings.seenFrom path

def chosen (settings : Settings) (asked : Option String) : Except Failure String :=
  match asked, settings.description with
  | some path, _ => .ok path
  | none, some path => .ok path
  | none, none => .error .noDescription

end Settings

end RecordComparison
