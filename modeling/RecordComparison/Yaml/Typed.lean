import RecordComparison.Reading.RecordForm
import RecordComparison.Yaml.PlainValue

/-!
Reading a YAML document as a value of a given type. A problem comes with the place in the
document where it was met; a problem with a member that its reader cannot place, such as an
unknown name, belongs to the record around it.
-/
namespace RecordComparison.Yaml

inductive Step where
  | item (position : Nat)
  | key (name : List Char)
  -- The value of a key that is not a scalar.
  | unnamed
deriving DecidableEq

abbrev Place := List Step

def Step.text (leading : Bool) : Step → String
  | .item position => "[" ++ toString position ++ "]"
  | .key name => (if leading then "" else ".") ++ String.ofList name
  | .unnamed => if leading then "?" else ".?"

def placeText : Place → String
  | [] => ""
  | step :: later => step.text true ++ String.join (later.map (Step.text false))

structure Trouble where
  place : Option Place
  fault : Fault
deriving DecidableEq

def yamlWording : Wording := ⟨"unit value", .pointed⟩

def Trouble.message (t : Trouble) : String :=
  match t.place with
  | none => t.fault.message yamlWording
  | some [] => t.fault.message yamlWording
  | some place => placeText place ++ ": " ++ t.fault.message yamlWording

def Trouble.at (place : Place) (t : Trouble) : Trouble :=
  { t with place := some (t.place.getD place) }

abbrev Read (α : Type) := List (Nat × Node) → Place → Node → Except Trouble α

/-- The node itself, or that which an alias stands for. -/
def target (anchored : List (Nat × Node)) : Node → Node
  | .alias n => ((anchored.find? (·.1 == n)).map (·.2)).getD .empty
  | node => node

def unplaced {α : Type} : Except Fault α → Except Trouble α
  | .ok a => .ok a
  | .error fault => .error ⟨none, fault⟩

def placed {α : Type} (place : Place) : Except Trouble α → Except Trouble α
  | .ok a => .ok a
  | .error t => .error (t.at place)

def unexpected (node : Node) (expected : String) : Fault :=
  match node with
  | .scalar tag style text => scalarFault tag style text expected
  | .sequence _ => .wrongType .sequence expected
  | .mapping _ => .wrongType .map expected
  | .alias _ => .wrongType .absent expected

section Scalars

variable {α : Type}

def readScalar (expected : String)
    (accept : Option (List Char) → ScalarStyle → List Char → Option (Except Fault α)) :
    Read α := fun anchored place node =>
  let node := target anchored node
  let result :=
    match node with
    | .scalar tag style text => accept tag style text
    | _ => none
  placed place (unplaced (result.getD (.error (unexpected node expected))))

/-- Whether a scalar may be read as something else than a text: it is plain, or literal with
the tag of that type. -/
def mayBe (standard : StandardTag) (tag : Option (List Char)) (style : ScalarStyle) : Bool :=
  style == .plain || style == .literal && tag == some standard.name

def readText (expected : String) : Read String :=
  readScalar expected fun _ _ text => some (.ok (String.ofList text))

def readTruth (expected : String) : Read Bool :=
  readScalar expected fun tag style text =>
    if mayBe .bool tag style then (truth? text).map .ok else none

def readNatural (expected : String) (greatest : Nat) : Read Nat :=
  readScalar expected fun tag style text =>
    match if mayBe .int tag style then natural? text else none with
    | some n =>
      if n < UInt64.size then
        some (if n ≤ greatest then .ok n else .error (.wrongValue (.integer n) expected))
      else none
    | none => none

end Scalars

section Combined

variable {α β : Type}

def mapRead (f : α → β) (read : Read α) : Read β := fun anchored place node =>
  (read anchored place node).map f

def checkRead (f : α → Except Fault β) (read : Read α) : Read β :=
  fun anchored place node => do
    let a ← read anchored place node
    unplaced (f a)

def isAbsent : Node → Except Fault Bool
  | .scalar tag .plain text =>
    match tag with
    | none => .ok (text.isEmpty || isNull text)
    | some tag =>
      if tag = StandardTag.null.name then
        if isNull text then .ok true
        else .error (.wrongValue (.string (String.ofList text)) "null")
      else .ok false
  | _ => .ok false

def readOption (read : Read α) : Read (Option α) := fun anchored place node =>
  let node := target anchored node
  match isAbsent node with
  | .ok true => .ok none
  | .ok false => (read anchored place node).map some
  | .error fault => .error ⟨none, fault⟩

def readItems (read : Read α) (anchored : List (Nat × Node)) (place : Place) (i : Nat) :
    List Node → Except Trouble (List α)
  | [] => .ok []
  | node :: later => do
    let a ← read anchored (place ++ [.item i]) node
    let as ← readItems read anchored place (i + 1) later
    return a :: as

def isEmptyScalar : Node → Bool
  | .scalar _ .plain [] => true
  | _ => false

def readList (read : Read α) : Read (List α) := fun anchored place node =>
  let node := target anchored node
  placed place <|
    match node with
    | .sequence items => readItems read anchored place 0 items
    | node =>
      if isEmptyScalar node then .ok [] else unplaced (.error (unexpected node listExpected))

end Combined

section Records

variable {R : Type}

def valueStep : Node → Step
  | .scalar _ _ text => .key text
  | _ => .unnamed

def readEntries (form : RecordForm Read R) (anchored : List (Nat × Node)) (place : Place)
    (seen : List String) (r : R) : List (Node × Node) → Except Trouble R
  | [] => unplaced (form.finish seen r)
  | (keyNode, node) :: later => do
    let key ← readText "field identifier" anchored place keyNode
    match ← unplaced (form.accept seen key) with
    | some m =>
      let set ← m.read anchored (place ++ [valueStep keyNode]) node
      readEntries form anchored place (key :: seen) (set r) later
    | none => readEntries form anchored place seen r later

def readRecord (form : RecordForm Read R) : Read R := fun anchored place node =>
  let node := target anchored node
  placed place <|
    match node with
    | .mapping entries => readEntries form anchored place [] form.blank entries
    | node =>
      if isEmptyScalar node then readEntries form anchored place [] form.blank []
      else unplaced (.error (unexpected node form.title))

end Records

/-- Why a text is refused: it is not one YAML document, or not of the expected shape. -/
inductive Problem where
  | malformed
  | unfit (trouble : Trouble)
deriving DecidableEq

def whole {α : Type} (read : Read α) (text : String) : Except Problem α :=
  match Document.ofText? text with
  | none => .error .malformed
  | some document =>
    match read document.anchored [] document.root with
    | .ok a => .ok a
    | .error trouble => .error (.unfit trouble)

end RecordComparison.Yaml
