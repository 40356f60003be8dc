/-!
What a field holds and how it is held. A field has one leaf kind; its storage decides whether
it may be absent.
-/
namespace RecordComparison

def maximalRank : Nat := 3

inductive Kind where
  | bool
  | int
  | real
  | complex
  | text
deriving DecidableEq, Repr

namespace Kind

def all : List Kind := [bool, int, real, complex, text]

def name : Kind → String
  | bool => "bool"
  | int => "int"
  | real => "real"
  | complex => "complex"
  | text => "text"

def ofName? (s : String) : Option Kind := all.find? (·.name == s)

/-- The highest rank of a field of this kind; texts have no matrices. -/
def maxRank : Kind → Nat
  | text => 1
  | _ => maximalRank

@[simp] theorem ofName?_name (k : Kind) : ofName? k.name = some k := by cases k <;> rfl

end Kind

inductive Storage where
  | value
  | pointer
  | allocatable
deriving DecidableEq, Repr

namespace Storage

def all : List Storage := [value, pointer, allocatable]

def name : Storage → String
  | value => "value"
  | pointer => "pointer"
  | allocatable => "allocatable"

def ofName? (s : String) : Option Storage := all.find? (·.name == s)

def nullable : Storage → Bool
  | value => false
  | _ => true

@[simp] theorem ofName?_name (s : Storage) : ofName? s.name = some s := by cases s <;> rfl

end Storage

end RecordComparison
