import RecordComparison.Difference
import RecordComparison.Json.Printer
import RecordComparison.Json.Typed

/-!
Differences in JSON. A segment is an object with one member, a path is a list, and a mismatch
is an object whose member `kind` tells how to read the others, wherever it stands.
-/
namespace RecordComparison

open Json (malformed unfit ofFault)

def readCount : Read Nat := Json.mapRead Int.toNat (Json.readInteger "usize" 0 (UInt64.size - 1))

namespace Segment

def json : Segment → Json
  | field name => .object [("field", .string name)]
  | index position => .object [("index", .ofNat position)]

def variant (name : String) : Except Fault (Read Segment) :=
  if name = "field" then .ok (Json.mapRead field (Json.readText textExpected))
  else if name = "index" then .ok (Json.mapRead index readCount)
  else .error (.unknownVariant name ["field", "index"])

def onlyKey : Read String := fun s =>
  match Json.skipBlanks s with
  | [] => malformed .endInObject
  | c :: s =>
    if c = '\x22' then Json.stringRest s
    else malformed (if c = '\x7d' then .valueExpected else .keyNotString)

def onlyEnd (s : List Char) : Except JsonProblem (List Char) :=
  match Json.skipBlanks s with
  | [] => malformed .endInObject
  | c :: s => if c = '\x7d' then .ok s else malformed .valueExpected

/-- A segment; its kind has to be known before anything after it is looked at. -/
def read : Read Segment := fun s =>
  match Json.skipBlanks s with
  | [] => malformed .endInValue
  | c :: s =>
    if c = '\x7b' then do
      let (name, s) ← onlyKey s
      let read ← ofFault (variant name)
      let s ← Json.colon s
      let (segment, s) ← read s
      let s ← onlyEnd s
      return (segment, s)
    else if c = '\x22' then do
      let (name, _) ← Json.stringRest s
      let _ ← ofFault (variant name)
      unfit (.wrongType .bareVariant "newtype variant")
    else malformed .valueExpected

end Segment

namespace Path

def json (path : Path) : Json := .ofList Segment.json path

def read : Read Path := Json.readList Segment.read

end Path

namespace Mismatch

def tagName : String := "kind"

def name : Mismatch → String
  | length _ _ => "length"
  | presence _ _ => "presence"
  | value _ _ => "value"
  | kind _ _ => "kind"

def sides : Mismatch → Json × Json
  | length left right => (.ofNat left, .ofNat right)
  | presence left right => (.bool left, .bool right)
  | value left right => (.string left, .string right)
  | kind left right => (.string left, .string right)

def json (m : Mismatch) : Json :=
  .object [(tagName, .string m.name), ("left", m.sides.1), ("right", m.sides.2)]

inductive Variant where
  | length
  | presence
  | value
  | kind
deriving DecidableEq

def Variant.ofName (name : String) : Except Fault Variant :=
  if name = "length" then .ok .length
  else if name = "presence" then .ok .presence
  else if name = "value" then .ok .value
  else if name = "kind" then .ok .kind
  else .error (.unknownVariant name ["length", "presence", "value", "kind"])

def Variant.title : Variant → String
  | length => "Length"
  | presence => "Presence"
  | value => "Value"
  | kind => "Kind"

def toCount (j : Json) : Except Fault Nat :=
  (Json.toInteger "usize" 0 (UInt64.size - 1) j).map Int.toNat

def readTag : Read Variant :=
  Json.checkRead Variant.ofName (Json.readText "variant identifier")

section Sides

variable {α : Type}

/-- The two sides among the members of an object, other members being ignored. -/
def sidesOfMembers (side : Json → Except Fault α) (left right : Option α) :
    List (String × Json) → Except Fault (α × α)
  | [] =>
    match left, right with
    | none, _ => .error (.missingMember "left")
    | _, none => .error (.missingMember "right")
    | some a, some b => .ok (a, b)
  | (key, j) :: later =>
    if key = "left" then
      if left.isSome then .error (.duplicateMember key)
      else side j >>= fun a => sidesOfMembers side (some a) right later
    else if key = "right" then
      if right.isSome then .error (.duplicateMember key)
      else side j >>= fun b => sidesOfMembers side left (some b) later
    else sidesOfMembers side left right later

def sidesOfItems (expected : String) (side : Json → Except Fault α) :
    List Json → Except Fault (α × α)
  | [] => .error (.wrongLength 0 expected)
  | [left] => side left >>= fun _ => .error (.wrongLength 1 expected)
  | left :: right :: later => do
    let a ← side left
    let b ← side right
    if later.isEmpty then return (a, b)
    else .error (.wrongLength (later.length + 2) "2 elements in sequence")

end Sides

def Variant.build (variant : Variant)
    (sides : {α : Type} → (Json → Except Fault α) → Except Fault (α × α)) :
    Except Fault Mismatch :=
  match variant with
  | .length => (sides toCount).map fun (a, b) => .length a b
  | .presence => (sides (Json.toTruth truthExpected)).map fun (a, b) => .presence a b
  | .value => (sides (Json.toText textExpected)).map fun (a, b) => .value a b
  | .kind => (sides (Json.toText textExpected)).map fun (a, b) => .kind a b

def Variant.ofMembers (variant : Variant) (members : List (String × Json)) :
    Except Fault Mismatch :=
  variant.build fun side => sidesOfMembers side none none members

def Variant.ofItems (variant : Variant) (items : List Json) : Except Fault Mismatch :=
  variant.build fun side =>
    sidesOfItems ("struct variant DifferenceKind::" ++ variant.title ++ " with 2 elements") side
      items

/-- The members of a mismatch in their order: the tag is read at once, the others are kept. -/
def membersOf (steps room : Nat) (first : Bool) (tag : Option Variant)
    (earlier : List (String × Json)) (s : List Char) :
    Except JsonProblem ((Option Variant × List (String × Json)) × List Char) :=
  match steps with
  | 0 => malformed .endInObject
  | steps + 1 => do
    let (more, s) ← Json.nextKey first s
    if more then
      let (key, s) ← Json.stringRest s
      if key = tagName then
        if tag.isSome then unfit (.duplicateMember tagName)
        else
          let s ← Json.colon s
          let (variant, s) ← readTag s
          membersOf steps room false (some variant) earlier s
      else
        let s ← Json.colon s
        let (j, s) ← Json.value room s
        membersOf steps room false tag (earlier ++ [(key, j)]) s
    else return ((tag, earlier), s)

def readListed (room : Nat) : Read Mismatch := fun s => do
  let (more, s) ← Json.nextItem true s
  if more then
    let (variant, s) ← readTag s
    let (items, s) ← Json.itemsOf (Json.value room) (s.length + 1) false s
    let m ← ofFault (variant.ofItems items)
    return (m, s)
  else unfit (.missingMember tagName)

def readObject (room : Nat) : Read Mismatch := fun s => do
  let ((tag, members), s) ← membersOf (s.length + 1) room true none [] s
  match tag with
  | none => unfit (.missingMember tagName)
  | some variant =>
    let m ← ofFault (variant.ofMembers members)
    return (m, s)

/-- Reads a mismatch below which `room` more lists and objects may be opened at once. -/
def read (room : Nat) : Read Mismatch :=
  Json.readOpened "internally tagged enum DifferenceKind" (readListed room)
    (some (readObject room))

end Mismatch

namespace Difference

def json (d : Difference) : Json :=
  .object [("path", d.path.json), ("kind", d.mismatch.json)]

def form : RecordForm Read Difference where
  title := "struct Difference"
  strict := false
  blank := ⟨.root, .length 0 0⟩
  members := [
    { name := "path", optional := false, optionalInList := false,
      read := Json.mapRead (fun path d => { d with path }) Path.read },
    { name := "kind", optional := false, optionalInList := false,
      read := Json.mapRead (fun mismatch d => { d with mismatch })
        (Mismatch.read (Json.maximalNesting - 2)) }]

def read : Read Difference := Json.readRecord form

end Difference

end RecordComparison
