import RecordComparison.Json.Typed
import RecordComparison.Reading.Medium

/-!
Reading a JSON value as a value of a given type. The whole value is there before any of it is
read: the members of an object are read in their order, and a list that stands for a record
must not be longer than the record.
-/
namespace RecordComparison.Json

abbrev Conversion (α : Type) := Json → Except Fault α

section Combined

variable {α β : Type}

def convertMap (f : α → β) (convert : Conversion α) : Conversion β := fun j =>
  (convert j).map f

def convertOption (convert : Conversion α) : Conversion (Option α)
  | null => .ok none
  | j => (convert j).map some

def convertList (convert : Conversion α) : Conversion (List α)
  | array items => items.mapM convert
  | j => .error (.wrongType j.found listExpected)

end Combined

section Records

variable {R : Type}

def convertMembers (form : RecordForm Conversion R) (seen : List String) (r : R) :
    List (String × Json) → Except Fault R
  | [] => form.finish seen r
  | (key, j) :: later => do
    match ← form.accept seen key with
    | some m =>
      let set ← m.read j
      convertMembers form (key :: seen) (set r) later
    | none => convertMembers form seen r later

def convertItems (expected : String) (i : Nat) (members : List (Member Conversion R)) (r : R)
    (items : List Json) : Except Fault R :=
  match members, items with
  | [], [] => .ok r
  | [], _ :: _ => .error (.wrongLength (i + items.length) "fewer elements in array")
  | m :: later, j :: items => do
    let set ← m.read j
    convertItems expected (i + 1) later (set r) items
  | m :: later, [] =>
    match (m :: later).findIdx? (!·.optionalInList) with
    | some k => .error (.wrongLength (i + k) expected)
    | none => .ok r

def convertRecord (form : RecordForm Conversion R) : Conversion R
  | object members => convertMembers form [] form.blank members
  | array items => convertItems form.expectedLength 0 form.members form.blank items
  | j => .error (.wrongType j.found form.title)

end Records

def textMedium : Medium Read := ⟨mapRead, readTruth, readList, readOption⟩

def valueMedium : Medium Conversion :=
  ⟨convertMap, toTruth truthExpected, convertList, convertOption⟩

end RecordComparison.Json
