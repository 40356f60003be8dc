import RecordComparison.Walk

/-!
Structural comparison. A comparable type has a predicate that stops at the first
disagreement, a full report of all differences, and a walk that feeds them to a sink one by
one. Leaves, lists, fixed arrays, optional values and records are comparable; comparison never
descends below a length or presence mismatch.
-/
namespace RecordComparison

class Comparable (α : Type) where
  equal : α → α → Bool
  /-- All differences in structural order, at paths relative to the compared pair. -/
  differences : α → α → List Difference
  walk : {σ : Type} → Sink σ → α → α → Walk σ

/-- Values that are compared as a whole and shown by their text. -/
class Leaf (α : Type) [BEq α] where
  text : α → String

def Mismatch.ofLeaves {α : Type} [BEq α] [Leaf α] (left right : α) : Mismatch :=
  .value (Leaf.text left) (Leaf.text right)

instance {α : Type} [BEq α] [Leaf α] : Comparable α where
  equal a b := a == b
  differences a b := if a == b then [] else [⟨.root, .ofLeaves a b⟩]
  walk sink a b := if a == b then .done else .report sink (.ofLeaves a b)

namespace Comparable

section Option

variable {α : Type} [Comparable α]

def equalOption : Option α → Option α → Bool
  | none, none => true
  | some a, some b => equal a b
  | _, _ => false

def optionDifferences : Option α → Option α → List Difference
  | none, none => []
  | some a, some b => differences a b
  | a, b => [⟨.root, .presence a.isSome b.isSome⟩]

def walkOption {σ : Type} (sink : Sink σ) : Option α → Option α → Walk σ
  | none, none => .done
  | some a, some b => walk sink a b
  | a, b => .report sink (.presence a.isSome b.isSome)

instance : Comparable (Option α) where
  equal := equalOption
  differences := optionDifferences
  walk := walkOption

end Option

section List

variable {α : Type} [Comparable α]

def equalList : List α → List α → Bool
  | [], [] => true
  | a :: as, b :: bs => equal a b && equalList as bs
  | _, _ => false

/-- Differences of the pairs of two lists, the first of which stands at position `i`. -/
def itemDifferences (i : Nat) : List α → List α → List Difference
  | a :: as, b :: bs =>
    (differences a b).map (.below (.index i)) ++ itemDifferences (i + 1) as bs
  | _, _ => []

def listDifferences (as bs : List α) : List Difference :=
  if as.length = bs.length then itemDifferences 0 as bs
  else [⟨.root, .length as.length bs.length⟩]

def walkItems {σ : Type} (sink : Sink σ) (i : Nat) : List α → List α → Walk σ
  | a :: as, b :: bs => .andThen (.under (.index i) (walk sink a b)) (walkItems sink (i + 1) as bs)
  | _, _ => .done

def walkList {σ : Type} (sink : Sink σ) (as bs : List α) : Walk σ :=
  if as.length = bs.length then walkItems sink 0 as bs
  else .report sink (.length as.length bs.length)

instance : Comparable (List α) where
  equal := equalList
  differences := listDifferences
  walk := walkList

instance {n : Nat} : Comparable (Vector α n) where
  equal a b := equal a.toList b.toList
  differences a b := differences a.toList b.toList
  walk sink a b := walk sink a.toList b.toList

end List

structure Field (R : Type) where
  name : String
  {Part : Type}
  [comparable : Comparable Part]
  get : R → Part

attribute [instance] Field.comparable

section Record

variable {R : Type}

def equalRecord (fields : List (Field R)) (a b : R) : Bool :=
  fields.all fun f => equal (f.get a) (f.get b)

def recordDifferences (fields : List (Field R)) (a b : R) : List Difference :=
  fields.flatMap fun f => (differences (f.get a) (f.get b)).map (.below (.field f.name))

def walkRecord {σ : Type} (sink : Sink σ) : List (Field R) → R → R → Walk σ
  | [], _, _ => .done
  | f :: fields, a, b =>
    .andThen (.under (.field f.name) (walk sink (f.get a) (f.get b))) (walkRecord sink fields a b)

abbrev ofFields (fields : List (Field R)) : Comparable R where
  equal := equalRecord fields
  differences := recordDifferences fields
  walk sink := walkRecord sink fields

end Record

section Queries

variable {α : Type} [Comparable α]

def firstDifference (a b : α) : Option Difference :=
  (walk .first a b ⟨.root, none⟩).2.state

def collect (limit : Option Nat) (a b : α) : List Difference :=
  (walk (.collector limit) a b ⟨.root, []⟩).2.state

end Queries

end Comparable

end RecordComparison
