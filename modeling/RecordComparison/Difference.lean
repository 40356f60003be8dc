import RecordComparison.Path

/-!
What a comparison reports: where two values disagree, and how.
-/
namespace RecordComparison

inductive Mismatch where
  | length (left right : Nat)
  | presence (left right : Bool)
  | value (left right : String)
  | kind (left right : String)
deriving DecidableEq, Repr

structure Difference where
  path : Path
  mismatch : Mismatch
deriving DecidableEq, Repr

def presenceText (present : Bool) : String := if present then "present" else "absent"

namespace Mismatch

def text : Mismatch → String
  | length left right => "length " ++ toString left ++ " != " ++ toString right
  | presence left right => presenceText left ++ " vs " ++ presenceText right
  | value left right => left ++ " != " ++ right
  | kind left right => "kind " ++ left ++ " != " ++ right

def swap : Mismatch → Mismatch
  | length left right => length right left
  | presence left right => presence right left
  | value left right => value right left
  | kind left right => kind right left

end Mismatch

namespace Difference

def text (d : Difference) : String := d.path.text ++ ": " ++ d.mismatch.text

/-- The difference as it is seen from a value that holds the compared pair at `step`. -/
def below (step : Segment) (d : Difference) : Difference := { d with path := step :: d.path }

def within (base : Path) (d : Difference) : Difference := { d with path := base ++ d.path }

end Difference

end RecordComparison
