import Mathlib.Data.List.Forall2
import RecordComparison.Description
import RecordComparison.Json.Value
import RecordComparison.Proofs.Rounding
import RecordComparison.Record

/-!
Which documents conform to a description, and what a record holds for them. `Description.Fits`
says what a document has to look like and `Slot.Reads` what it says about a field, down to each
leaf; neither mentions decoding. `nests_iff` ties the two: nested arrays are well formed exactly
if they stand for a value.
-/
namespace RecordComparison

namespace Json

def IsNumber : Json → Prop
  | integer _ => True
  | real _ => True
  | _ => False

/-- The double that a number stands for; for an integer it is the nearest one. -/
inductive Number : Json → Double → Prop where
  | integer {n : Int} {x : Double} : x.Rounds n → Number (integer n) x
  | real (x : Finite .double) : Number (real x) (.finite x)

inductive LeafFits : Kind → Json → Prop where
  | bool (b : Bool) : LeafFits .bool (bool b)
  | int {n : Int} : Int64.minValue.toInt ≤ n → n ≤ Int64.maxValue.toInt →
      LeafFits .int (integer n)
  | real {j : Json} : j.IsNumber → LeafFits .real j
  | pair {x y : Json} : x.IsNumber → y.IsNumber → LeafFits .complex (array [x, y])
  | parts {x y : Json} {members : List (String × Json)} : x.IsNumber → y.IsNumber →
      members.Perm [("re", x), ("im", y)] → LeafFits .complex (object members)
  | text (t : String) : LeafFits .text (string t)

inductive LeafReads : Kind → Json → Scalar → Prop where
  | bool (b : Bool) : LeafReads .bool (bool b) (.bool b)
  | int (n : Int64) : LeafReads .int (integer n.toInt) (.int n)
  | real {j : Json} {x : Double} : j.Number x → LeafReads .real j (.real x)
  | pair {x y : Json} {re im : Double} : x.Number re → y.Number im →
      LeafReads .complex (array [x, y]) (.complex ⟨re, im⟩)
  | parts {x y : Json} {re im : Double} {members : List (String × Json)} :
      x.Number re → y.Number im → members.Perm [("re", x), ("im", y)] →
      LeafReads .complex (object members) (.complex ⟨re, im⟩)
  | text (t : String) : LeafReads .text (string t) (.text t)

/-- Arrays nested as deep as the rank, around leaves of the kind. -/
def Nests (kind : Kind) : Nat → Json → Prop
  | 0, j => LeafFits kind j
  | rank + 1, j => ∃ items, j = array items ∧ ∀ item ∈ items, Nests kind rank item

def ListReads {α : Type} (item : Json → α → Prop) (j : Json) (as : List α) : Prop :=
  ∃ items, j = array items ∧ List.Forall₂ item items as

end Json

open Json

/-- The value that nested arrays stand for: the same lengths at every level, and at every
position the scalar of the leaf there. -/
def FieldValue.Reads (kind : Kind) (j : Json) : FieldValue → Prop
  | .scalar a => LeafReads kind j a
  | .array items => ListReads (LeafReads kind) j items
  | .matrix rows => ListReads (ListReads (LeafReads kind)) j rows
  | .tensor planes => ListReads (ListReads (ListReads (LeafReads kind))) j planes

/-- The document has no value for a key: the key is missing, or null. -/
def Absent (j? : Option Json) : Prop := j? = none ∨ j? = some .null

structure Declaration.Suits (d : Declaration) (j? : Option Json) : Prop where
  required : d.storage = .value → ¬ Absent j?
  nested : ∀ j, j? = some j → j ≠ .null → Nests d.kind d.rank j

structure Description.Fits (description : Description) (members : List (String × Json)) :
    Prop where
  declared : ∀ m ∈ members, ∃ d ∈ description.fields, d.name = m.1
  suits : ∀ d ∈ description.fields, d.Suits (member? members d.name)

structure Slot.Reads (members : List (String × Json)) (d : Declaration) (s : Slot) : Prop where
  name : s.name = d.name
  absent : s.value = none ↔ Absent (member? members d.name)
  value : ∀ v ∈ s.value, v.rank = d.rank ∧
    ∃ j, member? members d.name = some j ∧ v.Reads d.kind j

theorem is_number_iff (j : Json) : j.IsNumber ↔ ∃ x, j.Number x := by
  constructor
  · intro number
    cases j <;> simp only [IsNumber] at number
    · exact ⟨_, .integer ((Binary.double_of_int_iff _ _).mp rfl)⟩
    · exact ⟨_, .real _⟩
  · rintro ⟨_, _ | _⟩ <;> trivial

theorem int64_exact {n : Int} (low : Int64.minValue.toInt ≤ n)
    (high : n ≤ Int64.maxValue.toInt) : (Int64.ofInt n).toInt = n := by
  rw [Int64.toInt_minValue] at low
  rw [Int64.toInt_maxValue] at high
  exact Int64.toInt_ofInt_of_le low (by omega)

theorem leaf_fits_iff (kind : Kind) (j : Json) : LeafFits kind j ↔ ∃ a, LeafReads kind j a := by
  constructor
  · rintro (b | @⟨n, low, high⟩ | number | ⟨re, im⟩ | ⟨re, im, parts⟩ | t)
    · exact ⟨_, .bool b⟩
    · have exact := LeafReads.int (Int64.ofInt n)
      rw [int64_exact low high] at exact
      exact ⟨_, exact⟩
    · obtain ⟨x, reads⟩ := (is_number_iff j).mp number
      exact ⟨_, .real reads⟩
    · obtain ⟨re, first⟩ := (is_number_iff _).mp re
      obtain ⟨im, second⟩ := (is_number_iff _).mp im
      exact ⟨_, .pair first second⟩
    · obtain ⟨re, first⟩ := (is_number_iff _).mp re
      obtain ⟨im, second⟩ := (is_number_iff _).mp im
      exact ⟨_, .parts first second parts⟩
    · exact ⟨_, .text t⟩
  · rintro ⟨a, b | n | number | ⟨re, im⟩ | ⟨re, im, parts⟩ | t⟩
    · exact .bool b
    · exact .int n.minValue_le_toInt n.toInt_le
    · exact .real ((is_number_iff j).mpr ⟨_, number⟩)
    · exact .pair ((is_number_iff _).mpr ⟨_, re⟩) ((is_number_iff _).mpr ⟨_, im⟩)
    · exact .parts ((is_number_iff _).mpr ⟨_, re⟩) ((is_number_iff _).mpr ⟨_, im⟩) parts
    · exact .text t

theorem exists_related_iff {α β : Type} {related : α → β → Prop} (as : List α) :
    (∃ bs, List.Forall₂ related as bs) ↔ ∀ a ∈ as, ∃ b, related a b := by
  induction as with
  | nil => simp
  | cons a as ih =>
    simp only [List.forall₂_cons_left_iff, List.forall_mem_cons, ← ih]
    constructor
    · rintro ⟨_, b, bs, here, later, rfl⟩
      exact ⟨⟨b, here⟩, bs, later⟩
    · rintro ⟨⟨b, here⟩, bs, later⟩
      exact ⟨_, b, bs, here, later, rfl⟩

theorem list_readable_iff {α : Type} {item : Json → α → Prop} (j : Json) :
    (∃ as, ListReads item j as) ↔ ∃ js, j = array js ∧ ∀ i ∈ js, ∃ a, item i a := by
  simp only [← exists_related_iff]
  constructor
  · rintro ⟨as, js, rfl, reads⟩
    exact ⟨js, rfl, as, reads⟩
  · rintro ⟨js, rfl, as, reads⟩
    exact ⟨as, js, rfl, reads⟩

section Values

variable (kind : Kind)

section Ranks

variable (j : Json) (v : FieldValue)

@[simp] theorem reads_scalar_iff :
    v.rank = 0 ∧ v.Reads kind j ↔ ∃ a, LeafReads kind j a ∧ .scalar a = v := by
  cases v <;> simp [FieldValue.rank, FieldValue.Reads]

@[simp] theorem reads_array_iff :
    v.rank = 1 ∧ v.Reads kind j ↔ ∃ as, ListReads (LeafReads kind) j as ∧ .array as = v := by
  cases v <;> simp [FieldValue.rank, FieldValue.Reads]

@[simp] theorem reads_matrix_iff :
    v.rank = 2 ∧ v.Reads kind j ↔
      ∃ rows, ListReads (ListReads (LeafReads kind)) j rows ∧ .matrix rows = v := by
  cases v <;> simp [FieldValue.rank, FieldValue.Reads]

@[simp] theorem reads_tensor_iff :
    v.rank = 3 ∧ v.Reads kind j ↔
      ∃ planes, ListReads (ListReads (ListReads (LeafReads kind))) j planes ∧
        .tensor planes = v := by
  cases v <;> simp [FieldValue.rank, FieldValue.Reads]

end Ranks

theorem nests_succ_iff {α : Type} {item : Json → α → Prop} {rank : Nat}
    (items : ∀ j, Nests kind rank j ↔ ∃ a, item j a) (j : Json) :
    Nests kind (rank + 1) j ↔ ∃ as, ListReads item j as := by
  rw [list_readable_iff]
  simp only [Nests, items]

theorem nests_iff (rank : Nat) (low : rank ≤ maximalRank) (j : Json) :
    Nests kind rank j ↔ ∃ v : FieldValue, v.rank = rank ∧ v.Reads kind j := by
  have leaf : ∀ j, Nests kind 0 j ↔ ∃ a, LeafReads kind j a := leaf_fits_iff kind
  have array := nests_succ_iff kind leaf
  have matrix := nests_succ_iff kind array
  have tensor := nests_succ_iff kind matrix
  match rank, low with
  | 0, _ => simp [leaf, @exists_comm FieldValue]
  | 1, _ => simp [array, @exists_comm FieldValue]
  | 2, _ => simp [matrix, @exists_comm FieldValue]
  | 3, _ => simp [tensor, @exists_comm FieldValue]

end Values

theorem absent_or_present (j? : Option Json) : Absent j? ∨ ∃ j, j? = some j ∧ j ≠ .null := by
  cases j? with
  | none => exact Or.inl (Or.inl rfl)
  | some j =>
    cases j
    case null => exact Or.inl (Or.inr rfl)
    all_goals exact Or.inr ⟨_, rfl, by simp⟩

end RecordComparison
