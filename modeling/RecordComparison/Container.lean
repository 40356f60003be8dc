import RecordComparison.Comparable

/-!
Containers of rank one to three. They may be ragged; the filled ones are not.
-/
namespace RecordComparison

abbrev Matrix (α : Type) := List (List α)

abbrev Tensor (α : Type) := List (Matrix α)

section Filled

variable {α : Type}

def filledArray (value : α) (length : Nat) : List α := List.replicate length value

def filledMatrix (value : α) (rows columns : Nat) : Matrix α :=
  List.replicate rows (filledArray value columns)

def filledTensor (value : α) (planes rows columns : Nat) : Tensor α :=
  List.replicate planes (filledMatrix value rows columns)

end Filled

section Equality

variable {α : Type} [Comparable α]

def equalArrays (a b : List α) : Bool := Comparable.equal a b

def equalMatrices (a b : Matrix α) : Bool := Comparable.equal a b

def equalTensors (a b : Tensor α) : Bool := Comparable.equal a b

def equalNullables (a b : Option α) : Bool := Comparable.equal a b

end Equality

end RecordComparison
