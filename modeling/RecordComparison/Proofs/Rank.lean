import RecordComparison.Proofs.Typing

/-!
How deep the arrays of a document are nested tells the rank. Leaves can be arrays themselves, the
pairs that stand for complex numbers, but a pair is never an array of such pairs; so a value that
can be read at two ranks has no leaf. Main statement: `value_fixes_rank`.
-/
namespace RecordComparison
open Json

/-- Nothing but arrays, at most so many levels of them. -/
def Json.Hollow : Nat → Json → Prop
  | 0, _ => False
  | depth + 1, j => ∃ items, j = array items ∧ ∀ item ∈ items, Hollow depth item

section Nesting

variable {kind : Kind}

theorem number_unnested {j : Json} (number : j.IsNumber) (rank : Nat) :
    ¬ Nests .complex rank j := by
  intro nested
  cases rank with
  | zero => cases nested <;> exact number
  | succ rank =>
    obtain ⟨items, rfl, _⟩ := nested
    exact number

theorem leaf_unnested {j : Json} (leaf : LeafFits kind j) (rank : Nat) :
    ¬ Nests kind (rank + 1) j := by
  rintro ⟨items, rfl, nested⟩
  cases leaf with
  | real number => exact number
  | @pair x y re _ => exact number_unnested re rank (nested x List.mem_cons_self)

theorem hollow_nests {depth rank : Nat} (deep : depth ≤ rank) {j : Json} (hollow : Hollow depth j) :
    Nests kind rank j := by
  induction depth generalizing rank j with
  | zero => exact hollow.elim
  | succ depth ih =>
    obtain ⟨items, rfl, inner⟩ := hollow
    obtain ⟨rank, rfl⟩ := Nat.exists_eq_succ_of_ne_zero (Nat.ne_zero_of_lt deep)
    exact ⟨items, rfl, fun item member => ih (Nat.le_of_succ_le_succ deep) (inner item member)⟩

theorem nests_twice_iff {r s : Nat} (less : r < s) (j : Json) :
    Nests kind r j ∧ Nests kind s j ↔ Hollow r j := by
  -- By induction on the lower rank: where it ends there would be a leaf that is an array of leaves.
  constructor
  · rintro ⟨first, second⟩
    induction r generalizing s j with
    | zero =>
      obtain ⟨s, rfl⟩ := Nat.exists_eq_succ_of_ne_zero less.ne'
      exact leaf_unnested first s second
    | succ r ih =>
      obtain ⟨s, rfl⟩ := Nat.exists_eq_succ_of_ne_zero (Nat.ne_zero_of_lt less)
      obtain ⟨items, rfl, lower⟩ := first
      obtain ⟨others, same, higher⟩ := second
      obtain rfl := array.inj same
      exact ⟨items, rfl, fun item member =>
        ih (Nat.lt_of_succ_lt_succ less) item (lower item member) (higher item member)⟩
  · intro hollow
    exact ⟨hollow_nests (Nat.le_refl r) hollow, hollow_nests less.le hollow⟩

end Nesting

section Values

variable {kind : Kind} {j : Json}

theorem list_reads_hollow {α : Type} {item : Json → α → Prop} {P : α → Prop} {depth : Nat}
    (items : ∀ j a, Hollow depth j → item j a → P a) {as : List α} (hollow : Hollow (depth + 1) j)
    (reads : ListReads item j as) : ∀ a ∈ as, P a := by
  obtain ⟨js, rfl, related⟩ := reads
  obtain ⟨_, same, inner⟩ := hollow
  obtain rfl := array.inj same
  exact related_all (fun j a here => items j a here.1 here.2)
    ((List.forall₂_and_left _ _).mpr ⟨inner, related⟩)

theorem hollow_leafless {v : FieldValue} (hollow : Hollow v.rank j) (reads : v.Reads kind j) :
    v.scalars = [] := by
  have row (j : Json) (as : List Scalar) (hollow : Hollow 1 j)
      (reads : ListReads (LeafReads kind) j as) : as = [] :=
    List.eq_nil_iff_forall_not_mem.mpr
      (list_reads_hollow (fun _ _ leafless _ => leafless) hollow reads)
  have plane (j : Json) (rows : Matrix Scalar) (hollow : Hollow 2 j)
      (reads : ListReads (ListReads (LeafReads kind)) j rows) : rows.flatten = [] :=
    List.flatten_eq_nil_iff.mpr (list_reads_hollow row hollow reads)
  cases v with
  | scalar a => exact hollow.elim
  | array items => exact row j items hollow reads
  | matrix rows => exact plane j rows hollow reads
  | tensor planes =>
    rw [FieldValue.scalars, List.flatten_flatten, List.flatten_eq_nil_iff, List.forall_mem_map]
    exact list_reads_hollow plane hollow reads

end Values

theorem decodable_iff (kind : Kind) {rank : Nat} (low : rank ≤ maximalRank) (path : Path)
    (j : Json) :
    (∃ v, decodeValue kind rank path j = .ok v) ↔ Nests kind rank j := by
  rw [nests_iff kind rank low]
  exact exists_congr (decode_value_iff kind rank low path j)

/-- If a value decodes at two ranks, it has no leaf at the lower one, which is not zero, and is made
of nothing but arrays. So a complex number that is written as a pair is no array of complex numbers
of any rank, and an array of some complex numbers is an array of rank one only. -/
theorem value_fixes_rank (kind : Kind) (j : Json) :
    (∀ r s p q v w, r < s → s ≤ maximalRank → decodeValue kind r p j = .ok v →
      decodeValue kind s q j = .ok w → 1 ≤ r ∧ v.scalars = [] ∧ Hollow r j) ∧
    (∀ x y p v, j = array [x, y] → decodeValue .complex 0 p j = .ok v →
      ∀ rank q w, 1 ≤ rank → rank ≤ maximalRank → decodeValue .complex rank q j ≠ .ok w) ∧
    (∀ items, j = array items → items ≠ [] → (∀ item ∈ items, LeafFits .complex item) →
      ∀ rank q, rank ≤ maximalRank →
        ((∃ v, decodeValue .complex rank q j = .ok v) ↔ rank = 1)) := by
  refine ⟨?_, ?_, ?_⟩
  · intro r s p q v w less low first second
    have lower : r ≤ maximalRank := Nat.le_trans less.le low
    have once := (decodable_iff kind lower p j).mp ⟨v, first⟩
    have twice := (decodable_iff kind low q j).mp ⟨w, second⟩
    have hollow := (nests_twice_iff less j).mp ⟨once, twice⟩
    obtain ⟨rfl, reads⟩ := (decode_value_iff kind r lower p j v).mp first
    refine ⟨Nat.one_le_iff_ne_zero.mpr fun zero => ?_, hollow_leafless hollow reads, hollow⟩
    rw [zero] at hollow
    exact hollow
  · intro x y p v _ first rank q w positive low second
    have leaf := (decodable_iff .complex (Nat.zero_le _) p j).mp ⟨v, first⟩
    have nested := (decodable_iff .complex low q j).mp ⟨w, second⟩
    exact ((nests_twice_iff positive j).mp ⟨leaf, nested⟩).elim
  · rintro items rfl nonempty leaves rank q low
    have once : Nests .complex 1 (array items) := ⟨items, rfl, leaves⟩
    obtain ⟨item, member⟩ := List.exists_mem_of_ne_nil items nonempty
    rw [decodable_iff .complex low]
    constructor
    · intro nested
      rcases Nat.lt_trichotomy rank 1 with zero | here | deeper
      · obtain rfl := Nat.lt_one_iff.mp zero
        exact (leaf_unnested nested 0 once).elim
      · exact here
      · obtain ⟨_, same, inner⟩ := (nests_twice_iff deeper _).mp ⟨once, nested⟩
        obtain rfl := array.inj same
        exact (inner item member).elim
    · rintro rfl
      exact once

theorem rank_of_rows_and_pairs :
    let rows := array [array [], array []]
    let pair := array [integer 1, integer 2]
    let one : Double := .ofInt 1
    let two : Double := .ofInt 2
    decodeValue .complex 2 [] rows = .ok (.matrix [[], []]) ∧
      decodeValue .complex 3 [] rows = .ok (.tensor [[], []]) ∧
      (1 ≤ 2 ∧ (FieldValue.matrix [[], []]).scalars = [] ∧ Hollow 2 rows) ∧
      decodeValue .complex 0 [] pair = .ok (.scalar (.complex ⟨one, two⟩)) ∧
      (∀ rank q w, 1 ≤ rank → rank ≤ maximalRank → decodeValue .complex rank q pair ≠ .ok w) ∧
      LeafFits .complex pair ∧
      ∀ rank q, rank ≤ maximalRank →
        ((∃ v, decodeValue .complex rank q (array [pair]) = .ok v) ↔ rank = 1) := by
  intro rows pair one two
  have matrix : decodeValue .complex 2 [] rows = .ok (.matrix [[], []]) := rfl
  have tensor : decodeValue .complex 3 [] rows = .ok (.tensor [[], []]) := rfl
  have complex : decodeValue .complex 0 [] pair = .ok (.scalar (.complex ⟨one, two⟩)) := rfl
  have leaf : LeafFits .complex pair := .pair trivial trivial
  obtain ⟨hollow, _, _⟩ := value_fixes_rank .complex rows
  obtain ⟨_, single, _⟩ := value_fixes_rank .complex pair
  obtain ⟨_, _, listed⟩ := value_fixes_rank .complex (array [pair])
  exact ⟨matrix, tensor, hollow 2 3 [] [] _ _ (by decide) (by decide) matrix tensor, complex,
    single _ _ [] _ rfl complex, leaf, listed [pair] rfl (by simp) (by simpa using leaf)⟩

end RecordComparison
