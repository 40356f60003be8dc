import RecordComparison.Container
import RecordComparison.Proofs.Replay

/-!
Filled containers. A list of copies compares as its length and one of the copies do: nothing below
an empty list is ever looked at, and if copies differ, the first pair of them does. Arrays, matrices
and tensors are one, two and three such levels. Main statement: `filled_containers_compare`.
-/
namespace RecordComparison
open Comparable (differences equal firstDifference)

section Shapes

variable {α : Type}

def Copies (value : α) (length : Nat) (items : List α) : Prop :=
  items.length = length ∧ ∀ item ∈ items, item = value

/-- So many rows of so many copies of a value. -/
def RowsOfCopies (value : α) (rows columns : Nat) (m : Matrix α) : Prop :=
  m.length = rows ∧ ∀ row ∈ m, Copies value columns row

def PlanesOfCopies (value : α) (planes rows columns : Nat) (t : Tensor α) : Prop :=
  t.length = planes ∧ ∀ plane ∈ t, RowsOfCopies value rows columns plane

theorem filled_array_copies (value : α) (length : Nat) :
    Copies value length (filledArray value length) :=
  ⟨List.length_replicate, fun _ => List.eq_of_mem_replicate⟩

theorem filled_matrix_copies (value : α) (rows columns : Nat) :
    RowsOfCopies value rows columns (filledMatrix value rows columns) := by
  refine ⟨List.length_replicate, fun row member => ?_⟩
  rw [List.eq_of_mem_replicate member]
  exact filled_array_copies value columns

theorem filled_tensor_copies (value : α) (planes rows columns : Nat) :
    PlanesOfCopies value planes rows columns (filledTensor value planes rows columns) := by
  refine ⟨List.length_replicate, fun plane member => ?_⟩
  rw [List.eq_of_mem_replicate member]
  exact filled_matrix_copies value rows columns

end Shapes

namespace Comparable

section Copies

variable {α : Type} [Comparable α]

theorem first_of_replays (replays : Replays α) (a b : α) :
    firstDifference a b = (differences a b).head? := by
  have root : (differences a b).map (.within .root) = differences a b := List.map_id _
  rw [firstDifference, replays, Walk.replay, root]
  exact Sink.feed_first _

theorem equal_copies_iff (x y : α) (n m : Nat) :
    equal (List.replicate n x) (List.replicate m y) = true ↔
      n = m ∧ (n = 0 ∨ equal x y = true) := by
  show equalList (List.replicate n x) (List.replicate m y) = true ↔ _
  induction n generalizing m with
  | zero => cases m <;> simp [equalList, List.replicate_succ]
  | succ n ih =>
    cases m with
    | zero => simp [equalList, List.replicate_succ]
    | succ m =>
      simp only [List.replicate_succ, equalList, Bool.and_eq_true, ih, Nat.add_right_cancel_iff]
      constructor
      · rintro ⟨here, length, _⟩
        exact ⟨length, .inr here⟩
      · rintro ⟨length, empty | here⟩
        · omega
        · exact ⟨here, length, .inr here⟩

theorem first_of_copies (x y : α) (i n : Nat) :
    (itemDifferences i (List.replicate (n + 1) x) (List.replicate (n + 1) y)).head? =
      (differences x y).head?.map (.below (.index i)) := by
  induction n generalizing i with
  | zero => simp [itemDifferences]
  | succ n ih =>
    rw [List.replicate_succ, List.replicate_succ (a := y), itemDifferences, List.head?_append, ih,
      List.head?_map]
    cases (differences x y).head? <;> rfl

structure Compares (a b : α) (same : Prop) (first : Option Difference) : Prop where
  equal : equal a b = true ↔ same
  first : firstDifference a b = first

theorem Compares.copies (replays : Replays α) {x y : α} {same : Prop} {first : Option Difference}
    (pair : Compares x y same first) (n m : Nat) :
    Compares (List.replicate n x) (List.replicate m y) (n = m ∧ (n = 0 ∨ same))
      (if n ≠ m then some ⟨.root, .length n m⟩
        else if n = 0 then none
        else first.map (.below (.index 0))) := by
  constructor
  · rw [equal_copies_iff, pair.equal]
  · rw [first_of_replays (list_replays replays), ← pair.first, first_of_replays replays]
    show (listDifferences (List.replicate n x) (List.replicate m y)).head? = _
    rw [listDifferences, List.length_replicate, List.length_replicate]
    by_cases length : n = m
    · subst length
      rw [if_pos rfl, if_neg (not_not_intro rfl)]
      cases n with
      | zero => rfl
      | succ n =>
        rw [if_neg n.succ_ne_zero]
        exact first_of_copies x y 0 n
    · rw [if_neg length, if_pos length]
      rfl

end Copies

theorem Compares.leaves {α : Type} [BEq α] [Leaf α] (v w : α) :
    Compares v w ((v == w) = true) (if v == w then none else some ⟨.root, .ofLeaves v w⟩) := by
  constructor
  · exact Iff.rfl
  · rw [first_of_replays leaf_replays]
    show (if v == w then [] else [⟨.root, .ofLeaves v w⟩] : List Difference).head? = _
    split <;> rfl

end Comparable

open Comparable (Compares)

/-- Filled containers have the extents that are asked for. Two of them are equal exactly if their
extents agree, from the outermost one on until one of them is zero, and if none is, their values are
equal; if they are not equal, they are found to differ at the first place of that level. -/
theorem filled_containers_compare {α : Type} [BEq α] [Leaf α] (v w : α) :
    (∀ n m : Nat,
      Copies v n (filledArray v n) ∧
      (equalArrays (filledArray v n) (filledArray w m) = true ↔
        n = m ∧ (n = 0 ∨ (v == w) = true)) ∧
      firstDifference (filledArray v n) (filledArray w m) =
        if n ≠ m then some ⟨[], .length n m⟩
        else if n = 0 then none
        else if v == w then none
        else some ⟨[.index 0], .ofLeaves v w⟩) ∧
    (∀ n₁ n₂ m₁ m₂ : Nat,
      RowsOfCopies v n₁ n₂ (filledMatrix v n₁ n₂) ∧
      (equalMatrices (filledMatrix v n₁ n₂) (filledMatrix w m₁ m₂) = true ↔
        n₁ = m₁ ∧ (n₁ = 0 ∨ n₂ = m₂ ∧ (n₂ = 0 ∨ (v == w) = true))) ∧
      firstDifference (filledMatrix v n₁ n₂) (filledMatrix w m₁ m₂) =
        if n₁ ≠ m₁ then some ⟨[], .length n₁ m₁⟩
        else if n₁ = 0 then none
        else if n₂ ≠ m₂ then some ⟨[.index 0], .length n₂ m₂⟩
        else if n₂ = 0 then none
        else if v == w then none
        else some ⟨[.index 0, .index 0], .ofLeaves v w⟩) ∧
    (∀ n₁ n₂ n₃ m₁ m₂ m₃ : Nat,
      PlanesOfCopies v n₁ n₂ n₃ (filledTensor v n₁ n₂ n₃) ∧
      (equalTensors (filledTensor v n₁ n₂ n₃) (filledTensor w m₁ m₂ m₃) = true ↔
        n₁ = m₁ ∧ (n₁ = 0 ∨ n₂ = m₂ ∧ (n₂ = 0 ∨ n₃ = m₃ ∧ (n₃ = 0 ∨ (v == w) = true)))) ∧
      firstDifference (filledTensor v n₁ n₂ n₃) (filledTensor w m₁ m₂ m₃) =
        if n₁ ≠ m₁ then some ⟨[], .length n₁ m₁⟩
        else if n₁ = 0 then none
        else if n₂ ≠ m₂ then some ⟨[.index 0], .length n₂ m₂⟩
        else if n₂ = 0 then none
        else if n₃ ≠ m₃ then some ⟨[.index 0, .index 0], .length n₃ m₃⟩
        else if n₃ = 0 then none
        else if v == w then none
        else some ⟨[.index 0, .index 0, .index 0], .ofLeaves v w⟩) := by
  have leaves := Compares.leaves v w
  have array (n m : Nat) := leaves.copies Comparable.leaf_replays n m
  have matrix (n₁ n₂ m₁ m₂ : Nat) :=
    (array n₂ m₂).copies (Comparable.list_replays Comparable.leaf_replays) n₁ m₁
  have tensor (n₁ n₂ n₃ m₁ m₂ m₃ : Nat) := (matrix n₂ n₃ m₂ m₃).copies
    (Comparable.list_replays (Comparable.list_replays Comparable.leaf_replays)) n₁ m₁
  refine ⟨fun n m => ?_, fun n₁ n₂ m₁ m₂ => ?_, fun n₁ n₂ n₃ m₁ m₂ m₃ => ?_⟩
  · refine ⟨filled_array_copies v n, (array n m).equal, ?_⟩
    rw [filledArray, filledArray, (array n m).first]
    simp only [apply_ite (Option.map _), Option.map_none, Option.map_some]
    rfl
  · refine ⟨filled_matrix_copies v n₁ n₂, (matrix n₁ n₂ m₁ m₂).equal, ?_⟩
    rw [filledMatrix, filledMatrix, filledArray, filledArray, (matrix n₁ n₂ m₁ m₂).first]
    simp only [apply_ite (Option.map _), Option.map_none, Option.map_some]
    rfl
  · refine ⟨filled_tensor_copies v n₁ n₂ n₃, (tensor n₁ n₂ n₃ m₁ m₂ m₃).equal, ?_⟩
    rw [filledTensor, filledTensor, filledMatrix, filledMatrix, filledArray, filledArray,
      (tensor n₁ n₂ n₃ m₁ m₂ m₃).first]
    simp only [apply_ite (Option.map _), Option.map_none, Option.map_some]
    rfl

end RecordComparison
