import RecordComparison.Decimal.Style
import RecordComparison.Text.Quoted

/-!
What can be wrong with a well-formed text that should describe a value of a certain shape,
whichever format it is written in. The format only decides how absent values and real
numbers are worded.
-/
namespace RecordComparison

inductive Found where
  | absent
  | truth (value : Bool)
  | integer (value : Int)
  -- An integer that takes more than 64 bits.
  | wideInteger (value : Int)
  | real (value : Double)
  | string (value : String)
  | sequence
  | map
  | bareVariant
deriving DecidableEq

inductive Fault where
  | wrongType (found : Found) (expected : String)
  | wrongValue (found : Found) (expected : String)
  | wrongLength (length : Nat) (expected : String)
  | unknownMember (name : String) (known : List String)
  | unknownVariant (name : String) (known : List String)
  | missingMember (name : String)
  | duplicateMember (name : String)
  | unknownKind (name : String)
  | unknownStorage (name : String)
deriving DecidableEq

/-- How a format words what it found. -/
structure Wording where
  absent : String
  real : NumberStyle

namespace Found

def text (wording : Wording) : Found → String
  | absent => wording.absent
  | truth value => "boolean `" ++ (if value then "true" else "false") ++ "`"
  | integer value => "integer `" ++ toString value ++ "`"
  | wideInteger value =>
    "integer `" ++ toString value ++ "` as " ++ (if value < 0 then "i128" else "u128")
  | real value => "floating point `" ++ value.text wording.real ++ "`"
  | string value => "string " ++ quotedText value
  | sequence => "sequence"
  | map => "map"
  | bareVariant => "unit variant"

end Found

def textExpected : String := "a string"

def truthExpected : String := "a boolean"

def listExpected : String := "a sequence"

def inBackticks (name : String) : String := "`" ++ name ++ "`"

def alternatives (names : List String) : String :=
  match names with
  | [] => "there are no fields"
  | [a] => inBackticks a
  | [a, b] => inBackticks a ++ " or " ++ inBackticks b
  | names => "one of " ++ ", ".intercalate (names.map inBackticks)

namespace Fault

def unknownKindText (name : String) : String := "unknown scalar kind: " ++ quotedText name

def unknownStorageText (name : String) : String := "unknown storage class: " ++ quotedText name

def message (wording : Wording) : Fault → String
  | wrongType found expected =>
    "invalid type: " ++ found.text wording ++ ", expected " ++ expected
  | wrongValue found expected =>
    "invalid value: " ++ found.text wording ++ ", expected " ++ expected
  | wrongLength length expected =>
    "invalid length " ++ toString length ++ ", expected " ++ expected
  | unknownMember name known =>
    "unknown field " ++ inBackticks name ++ ", expected " ++ alternatives known
  | unknownVariant name known =>
    "unknown variant " ++ inBackticks name ++ ", expected " ++ alternatives known
  | missingMember name => "missing field " ++ inBackticks name
  | duplicateMember name => "duplicate field " ++ inBackticks name
  | unknownKind name => unknownKindText name
  | unknownStorage name => unknownStorageText name

end Fault

end RecordComparison
