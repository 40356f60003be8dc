import RecordComparison.Description
import RecordComparison.Json.Value
import RecordComparison.Record

/-!
Decoding a JSON document under a description. Decoding goes on after a problem: it gives the
record, or all violations in the order of the declared fields and, inside a field, of its
items; keys that no field declares come last. A conforming document has a key for every field
that may not be absent and no other keys, arrays nested as deep as the rank, and leaves of the
declared kind.
-/
namespace RecordComparison

def Json.typeName : Json → String
  | .null => "null"
  | .bool _ => "bool"
  | .integer _ => "int"
  | .real _ => "real"
  | .string _ => "string"
  | .array _ => "array"
  | .object _ => "object"

inductive Complaint where
  | notAnObject (found : String)
  | missing
  | notNullable (storage : Storage)
  | notAnArray (found : String)
  | outOfRange (n : Int)
  | wrongKind (kind : Kind) (found : String)
  | unknownField (record : String)
deriving DecidableEq

namespace Complaint

def text : Complaint → String
  | notAnObject found => "expected an object, found " ++ found
  | missing => "required field is missing"
  | notNullable storage => "field has " ++ storage.name ++ " storage and cannot be null"
  | notAnArray found => "expected an array, found " ++ found
  | outOfRange n => "integer " ++ toString n ++ " out of range"
  | wrongKind kind found => "expected " ++ kind.name ++ ", found " ++ found
  | unknownField record => "unknown field for record " ++ record

end Complaint

structure Violation where
  path : Path
  complaint : Complaint
deriving DecidableEq

def escapePointerChar (c : Char) : List Char :=
  if c = '~' then ['~', '0'] else if c = '/' then ['~', '1'] else [c]

def Segment.pointerText : Segment → String
  | .field name => "/" ++ String.ofList (name.toList.flatMap escapePointerChar)
  | .index position => "/" ++ toString position

/-- The path as a pointer into a document: `/grid/1/0`. -/
def Path.pointerText (path : Path) : String := String.join (path.map Segment.pointerText)

namespace Violation

def text (v : Violation) : String :=
  (if v.path.isRoot then "/" else v.path.pointerText) ++ ": " ++ v.complaint.text

end Violation

structure DecodeFailure where
  record : String
  count : Nat
  violations : List Violation
deriving DecidableEq

def DecodeFailure.text (failure : DecodeFailure) : String :=
  toString failure.count ++ " violation(s) decoding " ++ failure.record

/-- A value, or everything that is wrong with it. -/
abbrev Checked (α : Type) := Except (List Violation) α

namespace Checked

variable {α β γ : Type}

def fail (path : Path) (complaint : Complaint) : Checked α := .error [⟨path, complaint⟩]

/-- Both values, or the violations of both. -/
def combine (f : α → β → γ) : Checked α → Checked β → Checked γ
  | .ok a, .ok b => .ok (f a b)
  | .ok _, .error ws => .error ws
  | .error vs, .ok _ => .error vs
  | .error vs, .error ws => .error (vs ++ ws)

end Checked

section Values

def int64Range (n : Int) : Bool :=
  decide (Int64.minValue.toInt ≤ n ∧ n ≤ Int64.maxValue.toInt)

def decodeComplex? : Json → Option Complex
  | .array [re, im] =>
    match re.asDouble?, im.asDouble? with
    | some re, some im => some ⟨re, im⟩
    | _, _ => none
  | .object members =>
    if members.length = 2 then
      match (Json.member? members "re").bind Json.asDouble?,
        (Json.member? members "im").bind Json.asDouble? with
      | some re, some im => some ⟨re, im⟩
      | _, _ => none
    else none
  | _ => none

def decodeScalar (kind : Kind) (path : Path) (j : Json) : Checked Scalar :=
  let wrong : Checked Scalar := .fail path (.wrongKind kind j.typeName)
  match kind with
  | .bool =>
    match j with
    | .bool b => .ok (.bool b)
    | _ => wrong
  | .int =>
    match j with
    | .integer n => if int64Range n then .ok (.int (.ofInt n)) else .fail path (.outOfRange n)
    | _ => wrong
  | .real =>
    match j.asDouble? with
    | some x => .ok (.real x)
    | none => wrong
  | .complex =>
    match decodeComplex? j with
    | some z => .ok (.complex z)
    | none => wrong
  | .text =>
    match j with
    | .string t => .ok (.text t)
    | _ => wrong

variable {α : Type}

def decodeItems (decode : Path → Json → Checked α) (path : Path) (i : Nat) :
    List Json → Checked (List α)
  | [] => .ok []
  | j :: later =>
    .combine List.cons (decode (path.push (.index i)) j) (decodeItems decode path (i + 1) later)

def decodeArray (decode : Path → Json → Checked α) (path : Path) (j : Json) :
    Checked (List α) :=
  match j with
  | .array items => decodeItems decode path 0 items
  | _ => .fail path (.notAnArray j.typeName)

def decodeValue (kind : Kind) (rank : Nat) (path : Path) (j : Json) : Checked FieldValue :=
  let leaf := decodeScalar kind
  match rank with
  | 0 => (leaf path j).map .scalar
  | 1 => (decodeArray leaf path j).map .array
  | 2 => (decodeArray (decodeArray leaf) path j).map .matrix
  | _ => (decodeArray (decodeArray (decodeArray leaf)) path j).map .tensor

end Values

def Declaration.decode (d : Declaration) (j? : Option Json) : Checked Slot :=
  let path : Path := [.field d.name]
  match j? with
  | none => if d.nullable then .ok ⟨d.name, none⟩ else .fail path .missing
  | some .null =>
    if d.nullable then .ok ⟨d.name, none⟩ else .fail path (.notNullable d.storage)
  | some j => (decodeValue d.kind d.rank path j).map fun v => ⟨d.name, some v⟩

namespace Description

def decodeFields (members : List (String × Json)) : List Declaration → Checked (List Slot)
  | [] => .ok []
  | d :: later =>
    .combine List.cons (d.decode (Json.member? members d.name)) (decodeFields members later)

def unknownKeys (description : Description) (members : List (String × Json)) :
    Checked Unit :=
  let unknown := (members.map (·.1)).filter fun key => (description.field? key).isNone
  match unknown with
  | [] => .ok ()
  | _ => .error (unknown.map fun key => ⟨[.field key], .unknownField description.name⟩)

def decode (description : Description) (document : Json) : Checked Record :=
  match document with
  | .object members =>
    .combine (fun slots _ => ⟨description.name, slots⟩)
      (decodeFields members description.fields) (description.unknownKeys members)
  | _ => .fail .root (.notAnObject document.typeName)

def decodeRecord (description : Description) (document : Json) :
    Except DecodeFailure Record :=
  match description.decode document with
  | .ok r => .ok r
  | .error violations => .error ⟨description.name, violations.length, violations⟩

@[simp] theorem decode_record_ok_iff (description : Description) (document : Json) (r : Record) :
    description.decodeRecord document = .ok r ↔ description.decode document = .ok r := by
  rw [decodeRecord]
  split <;> simp [*]

end Description

end RecordComparison
