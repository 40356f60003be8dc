import RecordComparison.Container
import RecordComparison.Description.Kind
import RecordComparison.Leaves

/-!
Records whose layout is known only when the program runs: named slots that hold values of any
kind and rank, or nothing. They compare like records with a fixed layout; values of different
kinds or ranks that meet are reported as a mismatch of kind.
-/
namespace RecordComparison

inductive Scalar where
  | bool (value : Bool)
  | int (value : Int64)
  | real (value : Double)
  | complex (value : Complex)
  | text (value : String)
deriving DecidableEq, BEq

inductive FieldValue where
  | scalar (value : Scalar)
  | array (items : List Scalar)
  | matrix (rows : Matrix Scalar)
  | tensor (planes : Tensor Scalar)
deriving DecidableEq, BEq

structure Slot where
  name : String
  value : Option FieldValue
deriving DecidableEq, BEq

structure Record where
  name : String
  slots : List Slot
deriving DecidableEq, BEq

open Comparable (equal differences walk)

namespace Scalar

def kind : Scalar → Kind
  | bool _ => .bool
  | int _ => .int
  | real _ => .real
  | complex _ => .complex
  | text _ => .text

def kindMismatch (a b : Scalar) : Mismatch := .kind a.kind.name b.kind.name

protected def equal : Scalar → Scalar → Bool
  | bool a, bool b => equal a b
  | int a, int b => equal a b
  | real a, real b => equal a b
  | complex a, complex b => equal a b
  | text a, text b => equal a b
  | _, _ => false

protected def differences : Scalar → Scalar → List Difference
  | bool a, bool b => differences a b
  | int a, int b => differences a b
  | real a, real b => differences a b
  | complex a, complex b => differences a b
  | text a, text b => differences a b
  | a, b => [⟨.root, kindMismatch a b⟩]

protected def walk {σ : Type} (sink : Sink σ) : Scalar → Scalar → Walk σ
  | bool a, bool b => walk sink a b
  | int a, int b => walk sink a b
  | real a, real b => walk sink a b
  | complex a, complex b => walk sink a b
  | text a, text b => walk sink a b
  | a, b => .report sink (kindMismatch a b)

instance : Comparable Scalar where
  equal := Scalar.equal
  differences := Scalar.differences
  walk := Scalar.walk

end Scalar

namespace FieldValue

def rank : FieldValue → Nat
  | scalar _ => 0
  | array _ => 1
  | matrix _ => 2
  | tensor _ => 3

def rankText (v : FieldValue) : String := "rank " ++ toString v.rank

def rankMismatch (a b : FieldValue) : Mismatch := .kind a.rankText b.rankText

protected def equal : FieldValue → FieldValue → Bool
  | scalar a, scalar b => equal a b
  | array a, array b => equal a b
  | matrix a, matrix b => equal a b
  | tensor a, tensor b => equal a b
  | _, _ => false

protected def differences : FieldValue → FieldValue → List Difference
  | scalar a, scalar b => differences a b
  | array a, array b => differences a b
  | matrix a, matrix b => differences a b
  | tensor a, tensor b => differences a b
  | a, b => [⟨.root, rankMismatch a b⟩]

protected def walk {σ : Type} (sink : Sink σ) : FieldValue → FieldValue → Walk σ
  | scalar a, scalar b => walk sink a b
  | array a, array b => walk sink a b
  | matrix a, matrix b => walk sink a b
  | tensor a, tensor b => walk sink a b
  | a, b => .report sink (rankMismatch a b)

instance : Comparable FieldValue where
  equal := FieldValue.equal
  differences := FieldValue.differences
  walk := FieldValue.walk

end FieldValue

namespace Record

/-- The value of a slot; none if it is empty or if there is no such slot. -/
def get? (r : Record) (name : String) : Option FieldValue :=
  (r.slots.find? (·.name == name)).bind (·.value)

def hasSlot (r : Record) (name : String) : Bool := r.slots.any (·.name == name)

def setSlot (name : String) (value : Option FieldValue) : List Slot → List Slot
  | [] => []
  | s :: later =>
    if s.name = name then { s with value } :: later else s :: setSlot name value later

def set (r : Record) (name : String) (value : Option FieldValue) : Record :=
  { r with slots := setSlot name value r.slots }

def equalSlots : List Slot → List Slot → Bool
  | a :: as, b :: bs => decide (a.name = b.name) && equal a.value b.value && equalSlots as bs
  | _, _ => true

protected def equal (a b : Record) : Bool :=
  decide (a.name = b.name) && decide (a.slots.length = b.slots.length) &&
    equalSlots a.slots b.slots

def slotDifferences : List Slot → List Slot → List Difference
  | a :: as, b :: bs =>
    let here :=
      if a.name = b.name then differences a.value b.value
      else [⟨.root, .kind a.name b.name⟩]
    here.map (.below (.field a.name)) ++ slotDifferences as bs
  | _, _ => []

protected def differences (a b : Record) : List Difference :=
  if a.name ≠ b.name then [⟨.root, .kind a.name b.name⟩]
  else if a.slots.length ≠ b.slots.length then
    [⟨.root, .length a.slots.length b.slots.length⟩]
  else slotDifferences a.slots b.slots

def walkSlots {σ : Type} (sink : Sink σ) : List Slot → List Slot → Walk σ
  | a :: as, b :: bs =>
    let here :=
      if a.name = b.name then walk sink a.value b.value
      else .report sink (.kind a.name b.name)
    .andThen (.under (.field a.name) here) (walkSlots sink as bs)
  | _, _ => .done

protected def walk {σ : Type} (sink : Sink σ) (a b : Record) : Walk σ :=
  if a.name ≠ b.name then .report sink (.kind a.name b.name)
  else if a.slots.length ≠ b.slots.length then
    .report sink (.length a.slots.length b.slots.length)
  else walkSlots sink a.slots b.slots

instance : Comparable Record where
  equal := Record.equal
  differences := Record.differences
  walk := Record.walk

end Record

end RecordComparison
