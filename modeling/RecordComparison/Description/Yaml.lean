import RecordComparison.Description.Json
import RecordComparison.Yaml.Typed

/-!
Descriptions in YAML: the same members as in JSON.
-/
namespace RecordComparison

namespace Declaration

def yamlForm : RecordForm Yaml.Read Declaration where
  title := "struct FieldSpec"
  strict := true
  blank := blank
  members := [
    { name := "name", optional := false, optionalInList := false,
      read := Yaml.mapRead (fun name d => { d with name }) (Yaml.readText textExpected) },
    { name := "kind", optional := false, optionalInList := false,
      read := Yaml.mapRead (fun kind d => { d with kind })
        (Yaml.checkRead Kind.ofName (Yaml.readText textExpected)) },
    { name := "rank", optional := true, optionalInList := true,
      read := Yaml.mapRead (fun rank d => { d with rank })
        (Yaml.readNatural "u8" readableRank) },
    { name := "storage", optional := true, optionalInList := true,
      read := Yaml.mapRead (fun storage d => { d with storage })
        (Yaml.checkRead Storage.ofName (Yaml.readText textExpected)) }]

end Declaration

namespace Description

def yamlForm : RecordForm Yaml.Read Description where
  title := "struct RecordSchema"
  strict := true
  blank := ⟨"", []⟩
  members := [
    { name := "name", optional := false, optionalInList := false,
      read := Yaml.mapRead (fun name r => { r with name }) (Yaml.readText textExpected) },
    { name := "fields", optional := false, optionalInList := false,
      read := Yaml.mapRead (fun fields r => { r with fields })
        (Yaml.readList (Yaml.readRecord Declaration.yamlForm)) }]

def readYaml : Yaml.Read Description := Yaml.readRecord yamlForm

end Description

end RecordComparison
