import RecordComparison.Container
import RecordComparison.Proofs.PartialEquivalence

/-!
Nested lists as a whole. A comparison goes from list to list and looks at no more than a length and
the next pair of items; what it decides can be told from the lengths and the leaves at all places at
once, or from the shapes of the two nests and their leaves in a row. Main statement:
`ragged_equality`.
-/
namespace RecordComparison
open Comparable (PartialEquivalence equal)

abbrev Nest (α : Type) : Nat → Type
  | 0 => α
  | rank + 1 => List (Nest α rank)

namespace Nest

variable {α : Type}

instance comparable [Comparable α] : (rank : Nat) → Comparable (Nest α rank)
  | 0 => inferInstanceAs (Comparable α)
  | rank + 1 =>
    let _ := comparable rank
    inferInstanceAs (Comparable (List (Nest α rank)))

def lengthAt? : (rank : Nat) → Nest α rank → List Nat → Option Nat
  | 0, _, _ => none
  | _ + 1, items, [] => some (List.length items)
  | rank + 1, (items : List (Nest α rank)), i :: place =>
    items[i]?.bind fun item => lengthAt? rank item place

def leafAt? : (rank : Nat) → Nest α rank → List Nat → Option α
  | 0, leaf, [] => some leaf
  | 0, _, _ :: _ => none
  | _ + 1, _, [] => none
  | rank + 1, (items : List (Nest α rank)), i :: place =>
    items[i]?.bind fun item => leafAt? rank item place

def shape : (rank : Nat) → Nest α rank → Nest Unit rank
  | 0, _ => ()
  | rank + 1, (items : List (Nest α rank)) => items.map (shape rank)

def leaves : (rank : Nat) → Nest α rank → List α
  | 0, leaf => [leaf]
  | rank + 1, (items : List (Nest α rank)) => items.flatMap (leaves rank)

section Places

variable [Comparable α]

/-- The lists at every place are equally long, and the leaves at every place are equal. -/
structure AgreeByPlace (rank : Nat) (a b : Nest α rank) : Prop where
  lengths : ∀ place, lengthAt? rank a place = lengthAt? rank b place
  leaves : ∀ place x y, leafAt? rank a place = some x → leafAt? rank b place = some y →
    equal x y = true

theorem agree_by_place_zero_iff (x y : α) : AgreeByPlace 0 x y ↔ equal x y = true := by
  constructor
  · intro agree
    exact agree.leaves [] x y rfl rfl
  · intro same
    refine ⟨fun _ => rfl, ?_⟩
    intro place v w left right
    cases place with
    | nil =>
      obtain rfl := Option.some.inj left
      obtain rfl := Option.some.inj right
      exact same
    | cons => cases left

theorem agree_by_place_succ_iff {rank : Nat} (as bs : List (Nest α rank)) :
    AgreeByPlace (rank + 1) as bs ↔ List.Forall₂ (AgreeByPlace rank) as bs := by
  constructor
  · intro agree
    have lengths : as.length = bs.length := Option.some.inj (agree.lengths [])
    apply List.forall₂_iff_get.mpr
    refine ⟨lengths, fun i h h' => ⟨fun place => ?_, fun place x y left right => ?_⟩⟩
    · simpa [lengthAt?, h, h'] using agree.lengths (i :: place)
    · apply agree.leaves (i :: place) x y
      · simpa [leafAt?, h] using left
      · simpa [leafAt?, h'] using right
  · intro items
    have count := items.length_eq
    constructor
    · intro place
      cases place with
      | nil => exact congrArg some count
      | cons i place =>
        by_cases h : i < as.length
        · have here := (items.get h (count ▸ h)).lengths place
          simpa [lengthAt?, h, count ▸ h] using here
        · simp [lengthAt?, h, count ▸ h]
    · intro place x y left right
      cases place with
      | nil => cases left
      | cons i place =>
        obtain ⟨a, first, left⟩ := Option.bind_eq_some_iff.mp left
        obtain ⟨b, second, right⟩ := Option.bind_eq_some_iff.mp right
        obtain ⟨h, rfl⟩ := List.getElem?_eq_some_iff.mp first
        obtain ⟨h', rfl⟩ := List.getElem?_eq_some_iff.mp second
        exact (items.get h h').leaves place x y left right

theorem equal_iff_by_place (rank : Nat) (a b : Nest α rank) :
    equal a b = true ↔ AgreeByPlace rank a b := by
  induction rank with
  | zero => exact (agree_by_place_zero_iff a b).symm
  | succ rank ih =>
    calc equal a b = true
      _ ↔ List.Forall₂ (fun x y => equal x y = true) a b := PartialEquivalence.list_equal_iff a b
      _ ↔ List.Forall₂ (AgreeByPlace rank) a b := by simp only [ih]
      _ ↔ AgreeByPlace (rank + 1) a b := (agree_by_place_succ_iff a b).symm

end Places

section Order

theorem leaves_of_shape (rank : Nat) (a : Nest α rank) :
    leaves rank (shape rank a) = (leaves rank a).map fun _ => () := by
  induction rank with
  | zero => rfl
  | succ rank ih => simp only [leaves, shape, List.flatMap_map, List.map_flatMap, ih]

theorem leaves_length {rank : Nat} {a b : Nest α rank} (same : shape rank a = shape rank b) :
    (leaves rank a).length = (leaves rank b).length := by
  have count := congrArg (fun s => (leaves rank s).length) same
  simpa only [leaves_of_shape, List.length_map] using count

theorem related_append_iff {β γ : Type} {related : β → γ → Prop} {as cs : List β} {bs ds : List γ}
    (count : as.length = bs.length) :
    List.Forall₂ related (as ++ cs) (bs ++ ds) ↔
      List.Forall₂ related as bs ∧ List.Forall₂ related cs ds := by
  constructor
  · intro items
    have first := List.forall₂_take_append _ bs ds items
    have rest := List.forall₂_drop_append _ bs ds items
    rw [← count, List.take_left] at first
    rw [← count, List.drop_left] at rest
    exact ⟨first, rest⟩
  · rintro ⟨first, rest⟩
    exact List.rel_append first rest

variable [Comparable α]

/-- The shapes are the same, and the leaves are equal one after the other. -/
structure AgreeInOrder (rank : Nat) (a b : Nest α rank) : Prop where
  shape : shape rank a = shape rank b
  leaves : List.Forall₂ (fun x y => equal x y = true) (leaves rank a) (leaves rank b)

theorem agree_in_order_succ_iff {rank : Nat} (as bs : List (Nest α rank)) :
    AgreeInOrder (rank + 1) as bs ↔ List.Forall₂ (AgreeInOrder rank) as bs := by
  induction as generalizing bs with
  | nil =>
    cases bs with
    | nil => exact iff_of_true ⟨rfl, .nil⟩ .nil
    | cons b bs => exact iff_of_false (fun agree => nomatch agree.shape) (fun items => nomatch items)
  | cons a as ih =>
    cases bs with
    | nil => exact iff_of_false (fun agree => nomatch agree.shape) (fun items => nomatch items)
    | cons b bs =>
      rw [List.forall₂_cons, ← ih]
      constructor
      · rintro ⟨shapes, leaves⟩
        obtain ⟨here, later⟩ := List.cons.inj shapes
        obtain ⟨first, rest⟩ := (related_append_iff (leaves_length here)).mp leaves
        exact ⟨⟨here, first⟩, ⟨later, rest⟩⟩
      · rintro ⟨⟨here, first⟩, ⟨later, rest⟩⟩
        exact ⟨congrArg₂ List.cons here later,
          (related_append_iff (leaves_length here)).mpr ⟨first, rest⟩⟩

theorem equal_iff_in_order (rank : Nat) (a b : Nest α rank) :
    equal a b = true ↔ AgreeInOrder rank a b := by
  induction rank with
  | zero =>
    constructor
    · intro same
      exact ⟨rfl, .cons same .nil⟩
    · intro agree
      exact (List.forall₂_cons.mp agree.leaves).1
  | succ rank ih =>
    calc equal a b = true
      _ ↔ List.Forall₂ (fun x y => equal x y = true) a b := PartialEquivalence.list_equal_iff a b
      _ ↔ List.Forall₂ (AgreeInOrder rank) a b := by simp only [ih]
      _ ↔ AgreeInOrder (rank + 1) a b := (agree_in_order_succ_iff a b).symm

end Order

theorem equality_decided [Comparable α] (rank : Nat) (a b : Nest α rank) :
    (equal a b = true ↔ AgreeByPlace rank a b) ∧
    (equal a b = true ↔ AgreeInOrder rank a b) ∧
    (shape rank a ≠ shape rank b → equal a b = false) := by
  refine ⟨equal_iff_by_place rank a b, equal_iff_in_order rank a b, ?_⟩
  intro other
  apply Bool.eq_false_iff.mpr
  intro same
  exact other ((equal_iff_in_order rank a b).mp same).shape

end Nest

/-- Arrays, matrices and tensors are equal exactly if lists at the same place are equally long and
leaves at the same place are equal; and exactly if the shapes are the same and the leaves are equal
in their order. So the same leaves in rows of other lengths do not make equal containers. -/
theorem ragged_equality {α : Type} [Comparable α] :
    (∀ a b : List α,
      (equalArrays a b = true ↔ Nest.AgreeByPlace 1 a b) ∧
      (equalArrays a b = true ↔ Nest.AgreeInOrder 1 a b) ∧
      (Nest.shape 1 a ≠ Nest.shape 1 b → equalArrays a b = false)) ∧
    (∀ a b : Matrix α,
      (equalMatrices a b = true ↔ Nest.AgreeByPlace 2 a b) ∧
      (equalMatrices a b = true ↔ Nest.AgreeInOrder 2 a b) ∧
      (Nest.shape 2 a ≠ Nest.shape 2 b → equalMatrices a b = false)) ∧
    (∀ a b : Tensor α,
      (equalTensors a b = true ↔ Nest.AgreeByPlace 3 a b) ∧
      (equalTensors a b = true ↔ Nest.AgreeInOrder 3 a b) ∧
      (Nest.shape 3 a ≠ Nest.shape 3 b → equalTensors a b = false)) := by
  refine ⟨?_, ?_, ?_⟩
  · exact Nest.equality_decided 1
  · exact Nest.equality_decided 2
  · exact Nest.equality_decided 3

theorem same_leaves_in_other_rows :
    let a : Matrix Int32 := [[1, 2], [3], []]
    let b : Matrix Int32 := [[1], [2, 3], []]
    let s : Tensor Int32 := [[[1], [2, 3]], []]
    let t : Tensor Int32 := [[[1], [2, 3]], [[]]]
    Nest.leaves 2 a = Nest.leaves 2 b ∧ Nest.shape 2 a ≠ Nest.shape 2 b ∧
      equalMatrices a b = false ∧ ¬ Nest.AgreeByPlace 2 a b ∧
      Nest.leaves 3 s = Nest.leaves 3 t ∧ Nest.shape 3 s ≠ Nest.shape 3 t ∧
      equalTensors s t = false ∧ ¬ Nest.AgreeByPlace 3 s t := by
  intro a b s t
  obtain ⟨_, matrices, tensors⟩ := @ragged_equality Int32 _
  obtain ⟨matrixPlaces, _, matrixShapes⟩ := matrices a b
  obtain ⟨tensorPlaces, _, tensorShapes⟩ := tensors s t
  have rows : Nest.shape 2 a ≠ Nest.shape 2 b := by decide
  have planes : Nest.shape 3 s ≠ Nest.shape 3 t := by decide
  have unequal := matrixShapes rows
  have apart := tensorShapes planes
  refine ⟨rfl, rows, unequal, ?_, rfl, planes, apart, ?_⟩
  · rw [← matrixPlaces, unequal]
    exact Bool.false_ne_true
  · rw [← tensorPlaces, apart]
    exact Bool.false_ne_true

end RecordComparison
