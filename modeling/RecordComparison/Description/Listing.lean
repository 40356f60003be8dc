import RecordComparison.Description

/-!
The listing of a description: a heading, then one row for each field with its position, its
name and its label in columns.
-/
namespace RecordComparison

def spaces (n : Nat) : String := String.ofList (List.replicate n ' ')

def padRight (width : Nat) (s : String) : String := s ++ spaces (width - s.length)

def padLeft (width : Nat) (s : String) : String := spaces (width - s.length) ++ s

namespace Description

-- In bytes, whereas names are filled up by characters.
def nameWidth (description : Description) : Nat :=
  (description.fields.map (·.name.utf8ByteSize)).foldl max 0

def row (width position : Nat) (d : Declaration) : String :=
  "  " ++ padLeft 2 (toString position) ++ "  " ++ padRight width d.name ++ "  " ++ d.label

def heading (description : Description) : String :=
  "record " ++ description.name ++ " (" ++ toString description.fields.length ++ " fields)"

def rows (width position : Nat) : List Declaration → List String
  | [] => []
  | d :: later => row width position d :: rows width (position + 1) later

def listing (description : Description) : List String :=
  description.heading :: rows description.nameWidth 0 description.fields

end Description

def linesText (lines : List String) : String := String.join (lines.map (· ++ "\n"))

end RecordComparison
