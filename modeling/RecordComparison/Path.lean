/-!
Locations inside a compared value: the field names and positions that lead from the root to
a part of it.
-/
namespace RecordComparison

inductive Segment where
  | field (name : String)
  | index (position : Nat)
deriving DecidableEq, Repr

abbrev Path := List Segment

namespace Path

def root : Path := []

def push (path : Path) (step : Segment) : Path := path ++ [step]

def parent (path : Path) : Path := path.dropLast

def isRoot (path : Path) : Bool := path.isEmpty

def depth (path : Path) : Nat := path.length

@[simp] theorem parent_push (path : Path) (step : Segment) : (path.push step).parent = path := by
  simp [push, parent]

end Path

def Segment.leadingText : Segment → String
  | .field name => name
  | .index position => "[" ++ toString position ++ "]"

def Segment.followingText : Segment → String
  | .field name => "." ++ name
  | .index position => "[" ++ toString position ++ "]"

/-- Fields are joined by dots and positions stand in brackets: `inner[0].tag`. -/
def Path.text : Path → String
  | [] => "<root>"
  | first :: later => first.leadingText ++ String.join (later.map Segment.followingText)

end RecordComparison
