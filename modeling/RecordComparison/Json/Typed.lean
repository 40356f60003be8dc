import RecordComparison.Json.Reader
import RecordComparison.Reading.RecordForm

/-!
Reading JSON as a value of a given type. A text is read from left to right, and the first
problem counts, be it one of the text or one of the value.
-/
namespace RecordComparison.Json

def unfit {α : Type} (fault : Fault) : Except JsonProblem α := .error (.unfit fault)

def ofFault {α : Type} : Except Fault α → Except JsonProblem α
  | .ok a => .ok a
  | .error fault => unfit fault

def found : Json → Found
  | null => .absent
  | bool b => .truth b
  | integer n => .integer n
  | real x => .real (.finite x)
  | string t => .string t
  | array _ => .sequence
  | object _ => .map

/-- A reader for the values on which `accept` succeeds, given that it succeeds on scalars
only. -/
def readScalar {α : Type} (expected : String) (accept : Json → Except Fault α) : Read α :=
  fun s =>
    match skipBlanks s with
    | [] => malformed .endInValue
    | c :: s =>
      if c = '[' then unfit (.wrongType .sequence expected)
      else if c = '\x7b' then unfit (.wrongType .map expected)
      else do
        let (j, s) ← scalar c s
        let a ← ofFault (accept j)
        return (a, s)

def toTruth (expected : String) : Json → Except Fault Bool
  | bool b => .ok b
  | j => .error (.wrongType j.found expected)

def toText (expected : String) : Json → Except Fault String
  | string t => .ok t
  | j => .error (.wrongType j.found expected)

def toInteger (expected : String) (low high : Int) : Json → Except Fault Int
  | integer n =>
    if low ≤ n ∧ n ≤ high then .ok n else .error (.wrongValue (.integer n) expected)
  | j => .error (.wrongType j.found expected)

def toDouble (expected : String) (j : Json) : Except Fault Double :=
  match j.asDouble? with
  | some x => .ok x
  | none => .error (.wrongType j.found expected)

def readTruth : Read Bool := readScalar truthExpected (toTruth truthExpected)

def readText (expected : String) : Read String := readScalar expected (toText expected)

def readInteger (expected : String) (low high : Int) : Read Int :=
  readScalar expected (toInteger expected low high)

def readDouble (expected : String) : Read Double := readScalar expected (toDouble expected)

section Combined

variable {α β : Type}

def mapRead (f : α → β) (read : Read α) : Read β := fun s =>
  (read s).map fun (a, s) => (f a, s)

def checkRead (f : α → Except Fault β) (read : Read α) : Read β := fun s => do
  let (a, s) ← read s
  let b ← ofFault (f a)
  return (b, s)

/-- Whatever begins like `null` is absent or malformed. -/
def readOption (read : Read α) : Read (Option α) := fun s =>
  match skipBlanks s with
  | 'n' :: s => (word ['u', 'l', 'l'] s).map fun (_, s) => (none, s)
  | s => mapRead some read s

def itemsOf (read : Read α) (steps : Nat) (first : Bool) (s : List Char) :
    Except JsonProblem (List α × List Char) :=
  match steps with
  | 0 => malformed .endInList
  | steps + 1 => do
    let (more, s) ← nextItem first s
    if more then
      let (a, s) ← read s
      let (as, s) ← itemsOf read steps false s
      return (a :: as, s)
    else return ([], s)

/-- Reads a container, given how to read it after `[` and after its other opening, if it may
have that one. -/
def readOpened (expected : String) (list : Read α) (map? : Option (Read α)) : Read α := fun s =>
  match skipBlanks s with
  | [] => malformed .endInValue
  | c :: s =>
    if c = '[' then list s
    else if c = '\x7b' then
      match map? with
      | some map => map s
      | none => unfit (.wrongType .map expected)
    else do
      let (j, _) ← scalar c s
      unfit (.wrongType j.found expected)

def readList (read : Read α) : Read (List α) :=
  readOpened listExpected (fun s => itemsOf read (s.length + 1) true s) none

end Combined

section Records

variable {R : Type}

def membersOf (form : RecordForm Read R) (steps : Nat) (first : Bool) (seen : List String)
    (r : R) (s : List Char) : Except JsonProblem (R × List Char) :=
  match steps with
  | 0 => malformed .endInObject
  | steps + 1 => do
    let (more, s) ← nextKey first s
    if more then
      let (key, s) ← stringRest s
      let member? ← ofFault (form.accept seen key)
      let s ← colon s
      match member? with
      | some m =>
        let (set, s) ← m.read s
        membersOf form steps false (key :: seen) (set r) s
      | none =>
        let s ← skip s
        membersOf form steps false seen r s
    else
      let r ← ofFault (form.finish seen r)
      return (r, s)

def listedMembers (expected : String) (i : Nat) (members : List (Member Read R)) (r : R)
    (s : List Char) : Except JsonProblem (R × List Char) :=
  match members with
  | [] => (listEnd s).map fun s => (r, s)
  | m :: later => do
    let (more, s) ← nextItem (i == 0) s
    if more then
      let (set, s) ← m.read s
      listedMembers expected (i + 1) later (set r) s
    else
      match (m :: later).findIdx? (!·.optionalInList) with
      | some k => unfit (.wrongLength (i + k) expected)
      | none => return (r, s)

def readRecord (form : RecordForm Read R) : Read R :=
  readOpened form.title (listedMembers form.expectedLength 0 form.members form.blank)
    (some fun s => membersOf form (s.length + 1) true [] form.blank s)

end Records

end RecordComparison.Json
