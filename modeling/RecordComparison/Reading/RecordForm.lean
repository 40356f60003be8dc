import RecordComparison.Reading.Fault

/-!
The form in which a record is written: named members, of which some may be missing. The form
does not depend on the text format, which only has to say how one member is read.
-/
namespace RecordComparison

structure Member (F : Type → Type) (R : Type) where
  name : String
  optional : Bool
  -- Whether the record may end before it when it is written as a list.
  optionalInList : Bool
  read : F (R → R)

structure RecordForm (F : Type → Type) (R : Type) where
  title : String
  strict : Bool
  blank : R
  members : List (Member F R)

namespace RecordForm

variable {F : Type → Type} {R : Type}

def names (form : RecordForm F R) : List String := form.members.map (·.name)

/-- The member that a name stands for, or none if it is to be ignored. A name may occur once,
and a strict form knows all names. -/
def accept (form : RecordForm F R) (seen : List String) (name : String) :
    Except Fault (Option (Member F R)) :=
  match form.members.find? (·.name == name) with
  | some m => if seen.contains name then .error (.duplicateMember name) else .ok (some m)
  | none => if form.strict then .error (.unknownMember name form.names) else .ok none

def missing? (form : RecordForm F R) (seen : List String) : Option String :=
  (form.members.find? fun m => !m.optional && !seen.contains m.name).map (·.name)

def finish (form : RecordForm F R) (seen : List String) (r : R) : Except Fault R :=
  match form.missing? seen with
  | some name => .error (.missingMember name)
  | none => .ok r

def expectedLength (form : RecordForm F R) : String :=
  let n := form.members.length
  form.title ++ " with " ++ toString n ++ (if n = 1 then " element" else " elements")

end RecordForm

end RecordComparison
