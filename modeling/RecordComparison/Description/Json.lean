import RecordComparison.Description
import RecordComparison.Json.Printer
import RecordComparison.Json.Typed

/-!
Descriptions in JSON. A field may leave out its rank, which is then zero, and its storage,
which is then `value`; no other member is allowed.
-/
namespace RecordComparison

namespace Kind

def json (k : Kind) : Json := .string k.name

def ofName (s : String) : Except Fault Kind :=
  match ofName? s with
  | some k => .ok k
  | none => .error (.unknownKind s)

def read : Read Kind := Json.checkRead ofName (Json.readText textExpected)

end Kind

namespace Storage

def json (s : Storage) : Json := .string s.name

def ofName (s : String) : Except Fault Storage :=
  match ofName? s with
  | some s => .ok s
  | none => .error (.unknownStorage s)

def read : Read Storage := Json.checkRead ofName (Json.readText textExpected)

end Storage

namespace Declaration

def json (d : Declaration) : Json :=
  .object [("name", .string d.name), ("kind", d.kind.json), ("rank", .ofNat d.rank),
    ("storage", d.storage.json)]

def blank : Declaration := ⟨"", .bool, 0, .value⟩

/-- The greatest rank that can be read; which ranks a field may have is checked later. -/
def readableRank : Nat := 255

def form : RecordForm Read Declaration where
  title := "struct FieldSpec"
  strict := true
  blank := blank
  members := [
    { name := "name", optional := false, optionalInList := false,
      read := Json.mapRead (fun name d => { d with name }) (Json.readText textExpected) },
    { name := "kind", optional := false, optionalInList := false,
      read := Json.mapRead (fun kind d => { d with kind }) Kind.read },
    { name := "rank", optional := true, optionalInList := true,
      read := Json.mapRead (fun rank d => { d with rank := rank.toNat })
        (Json.readInteger "u8" 0 readableRank) },
    { name := "storage", optional := true, optionalInList := true,
      read := Json.mapRead (fun storage d => { d with storage }) Storage.read }]

def read : Read Declaration := Json.readRecord form

end Declaration

namespace Description

def json (description : Description) : Json :=
  .object [("name", .string description.name),
    ("fields", .ofList Declaration.json description.fields)]

def form : RecordForm Read Description where
  title := "struct RecordSchema"
  strict := true
  blank := ⟨"", []⟩
  members := [
    { name := "name", optional := false, optionalInList := false,
      read := Json.mapRead (fun name r => { r with name }) (Json.readText textExpected) },
    { name := "fields", optional := false, optionalInList := false,
      read := Json.mapRead (fun fields r => { r with fields })
        (Json.readList Declaration.read) }]

def read : Read Description := Json.readRecord form

end Description

end RecordComparison
