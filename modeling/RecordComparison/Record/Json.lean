import RecordComparison.Complex.Json
import RecordComparison.Record

/-!
Records in JSON: every value is shown with its rank and, leaf by leaf, with its kind.
-/
namespace RecordComparison

namespace Scalar

def valueJson : Scalar → Json
  | bool b => .bool b
  | int n => .integer n.toInt
  | real x => .ofDouble x
  | complex z => z.json
  | text t => .string t

def json (s : Scalar) : Json := .object [("kind", .string s.kind.name), ("value", s.valueJson)]

end Scalar

namespace FieldValue

def json : FieldValue → Json
  | scalar s => .object [("scalar", s.json)]
  | array items => .object [("array", .ofList Scalar.json items)]
  | matrix rows => .object [("matrix", .ofList (.ofList Scalar.json) rows)]
  | tensor planes => .object [("tensor", .ofList (.ofList (.ofList Scalar.json)) planes)]

end FieldValue

namespace Slot

def json (s : Slot) : Json :=
  .object [("name", .string s.name), ("value", .ofOption FieldValue.json s.value)]

end Slot

namespace Record

def json (r : Record) : Json :=
  .object [("record", .string r.name), ("fields", .ofList Slot.json r.slots)]

end Record

end RecordComparison
