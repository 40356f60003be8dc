import RecordComparison.Json.Conversion
import RecordComparison.Json.Printer
import RecordComparison.Reference

/-!
The two fixed records in JSON: an object with one member for each field, in the order of the
fields. An absent field is written as null and may be left out of an object.
-/
namespace RecordComparison

namespace IntegerRecord

def json (r : IntegerRecord) : Json := .object [("a", .integer r.a.toInt)]

def readInt32 : Read Int32 :=
  Json.mapRead Int32.ofInt
    (Json.readInteger "i32" Int32.minValue.toInt Int32.maxValue.toInt)

def form : RecordForm Read IntegerRecord where
  title := "struct My"
  strict := false
  blank := initial
  members := [
    { name := "a", optional := false, optionalInList := false,
      read := Json.mapRead (fun a r => { r with a }) readInt32 }]

def read : Read IntegerRecord := Json.readRecord form

end IntegerRecord

namespace TruthRecord

def itemsJson (items : List Bool) : Json := .ofList .bool items

def rowsJson (rows : Matrix Bool) : Json := .ofList itemsJson rows

def planesJson (planes : Tensor Bool) : Json := .ofList rowsJson planes

def json (r : TruthRecord) : Json :=
  .object [
    ("i0", .bool r.i0),
    ("ip0", .ofOption .bool r.ip0),
    ("ia0", .ofOption .bool r.ia0),
    ("i1", itemsJson r.i1),
    ("ip1", .ofOption itemsJson r.ip1),
    ("ia1", .ofOption itemsJson r.ia1),
    ("i2", rowsJson r.i2),
    ("ip2", .ofOption rowsJson r.ip2),
    ("ia2", .ofOption rowsJson r.ia2),
    ("i3", planesJson r.i3),
    ("ip3", .ofOption planesJson r.ip3),
    ("ia3", .ofOption planesJson r.ia3)]

def blank : TruthRecord where
  i0 := false
  ip0 := none
  ia0 := none
  i1 := []
  ip1 := none
  ia1 := none
  i2 := []
  ip2 := none
  ia2 := none
  i3 := []
  ip3 := none
  ia3 := none

section Form

variable {F : Type → Type} {α : Type} (medium : Medium F)

def plainMember (name : String) (read : F α) (set : α → TruthRecord → TruthRecord) :
    Member F TruthRecord where
  name := name
  optional := false
  optionalInList := false
  read := medium.map set read

def optionalMember (name : String) (read : F α)
    (set : Option α → TruthRecord → TruthRecord) : Member F TruthRecord where
  name := name
  optional := true
  optionalInList := false
  read := medium.map set (medium.option read)

def form : RecordForm F TruthRecord :=
  let plain {α : Type} := plainMember (α := α) medium
  let optional {α : Type} := optionalMember (α := α) medium
  let item := medium.truth
  let items := medium.list item
  let rows := medium.list items
  let planes := medium.list rows
  { title := "struct Ttt"
    strict := false
    blank := blank
    members := [
      plain "i0" item fun i0 r => { r with i0 },
      optional "ip0" item fun ip0 r => { r with ip0 },
      optional "ia0" item fun ia0 r => { r with ia0 },
      plain "i1" items fun i1 r => { r with i1 },
      optional "ip1" items fun ip1 r => { r with ip1 },
      optional "ia1" items fun ia1 r => { r with ia1 },
      plain "i2" rows fun i2 r => { r with i2 },
      optional "ip2" rows fun ip2 r => { r with ip2 },
      optional "ia2" rows fun ia2 r => { r with ia2 },
      plain "i3" planes fun i3 r => { r with i3 },
      optional "ip3" planes fun ip3 r => { r with ip3 },
      optional "ia3" planes fun ia3 r => { r with ia3 }] }

end Form

def read : Read TruthRecord := Json.readRecord (form Json.textMedium)

def ofJson : Json.Conversion TruthRecord := Json.convertRecord (form Json.valueMedium)

end TruthRecord

end RecordComparison
