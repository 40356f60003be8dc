import RecordComparison.Proofs.Pairing
import RecordComparison.Proofs.Replay
import RecordComparison.Proofs.Typing

/-!
How far records of one description can differ. Names, slot counts, kinds and ranks always agree,
so all that remains are values present on one side only, where the field allows it, lengths above
the leaves, and leaves. Main statement: `Description.decoded_differences_allowed`.
-/
namespace RecordComparison
open Comparable (collect differences)
open Json

def Difference.AtRank (rank : Nat) (d : Difference) : Prop :=
  match d.mismatch with
  | .length _ _ => d.path.depth < rank
  | .value _ _ => d.path.depth = rank
  | .presence _ _ => False
  | .kind _ _ => False

/-- A difference that two records may have in this field. -/
def Declaration.Allows (f : Declaration) (d : Difference) : Prop :=
  match d.mismatch with
  | .presence _ _ => d.path.depth = 1 ∧ f.nullable = true
  | .length _ _ => ∃ k < f.rank, d.path.depth = 1 + k
  | .value _ _ => d.path.depth = 1 + f.rank
  | .kind _ _ => False

section Values

variable {α : Type} {rank : Nat}

theorem leaf_differences_at_rank [BEq α] [Leaf α] (a b : α) :
    ∀ d ∈ differences a b, d.AtRank 0 := by
  intro d member
  simp only [differences] at member
  split at member
  · simp at member
  · rw [List.mem_singleton.mp member]
    rfl

theorem scalar_differences_at_rank {a b : Scalar} (same : a.kind = b.kind) :
    ∀ d ∈ differences a b, d.AtRank 0 := by
  cases a <;> cases b <;> cases same
  case bool.bool a b => exact leaf_differences_at_rank a b
  case int.int a b => exact leaf_differences_at_rank a b
  case real.real a b => exact leaf_differences_at_rank a b
  case complex.complex a b => exact leaf_differences_at_rank a b
  case text.text a b => exact leaf_differences_at_rank a b

theorem Difference.at_rank_below {d : Difference} (i : Nat) (item : d.AtRank rank) :
    (d.below (.index i)).AtRank (rank + 1) := by
  obtain ⟨path, mismatch⟩ := d
  cases mismatch <;> simp_all [AtRank, below, Path.depth]

theorem list_differences_at_rank [Comparable α] {as bs : List α}
    (items : ∀ a ∈ as, ∀ b ∈ bs, ∀ d ∈ differences a b, d.AtRank rank) :
    ∀ d ∈ differences as bs, d.AtRank (rank + 1) := by
  intro d member
  change d ∈ Comparable.listDifferences as bs at member
  rw [Comparable.listDifferences] at member
  split at member
  · rw [items_side_by_side, mem_side_by_side] at member
    obtain ⟨k, a, b, left, right, e, reported, rfl⟩ := member
    have inside := items a (List.mem_of_getElem? left) b (List.mem_of_getElem? right) e reported
    exact Difference.at_rank_below _ inside
  · rw [List.mem_singleton.mp member]
    exact Nat.succ_pos rank

theorem value_differences_at_rank {kind : Kind} {v w : FieldValue} (left : v.HasType kind rank)
    (right : w.HasType kind rank) : ∀ d ∈ differences v w, d.AtRank rank := by
  have leaf (a : Scalar) (first : a.kind = kind) (b : Scalar) (second : b.kind = kind) :
      ∀ d ∈ differences a b, d.AtRank 0 :=
    scalar_differences_at_rank (first.trans second.symm)
  have row (as : List Scalar) (first : ∀ a ∈ as, a.kind = kind) (bs : List Scalar)
      (second : ∀ b ∈ bs, b.kind = kind) : ∀ d ∈ differences as bs, d.AtRank 1 :=
    list_differences_at_rank fun a inLeft b inRight =>
      leaf a (first a inLeft) b (second b inRight)
  have plane (as : Matrix Scalar) (first : ∀ row ∈ as, ∀ a ∈ row, a.kind = kind)
      (bs : Matrix Scalar) (second : ∀ row ∈ bs, ∀ b ∈ row, b.kind = kind) :
      ∀ d ∈ differences as bs, d.AtRank 2 :=
    list_differences_at_rank fun a inLeft b inRight =>
      row a (first a inLeft) b (second b inRight)
  obtain ⟨rfl, lefts⟩ := left
  obtain ⟨same, rights⟩ := right
  cases v <;> cases w
  case scalar.scalar a b =>
    exact leaf a (lefts a (List.mem_singleton_self a)) b (rights b (List.mem_singleton_self b))
  case array.array as bs => exact row as lefts bs rights
  case matrix.matrix as bs =>
    rw [FieldValue.scalars, List.forall_mem_flatten] at lefts rights
    exact plane as lefts bs rights
  case tensor.tensor as bs =>
    rw [FieldValue.scalars, List.forall_mem_flatten, List.forall_mem_flatten] at lefts rights
    exact list_differences_at_rank fun a inLeft b inRight =>
      plane a (lefts a inLeft) b (rights b inRight)
  all_goals cases same

end Values

theorem Declaration.allows_below (f : Declaration) {d : Difference} (inside : d.AtRank f.rank) :
    f.Allows (d.below (.field f.name)) := by
  obtain ⟨path, mismatch⟩ := d
  cases mismatch with
  | length _ _ => exact ⟨path.depth, inside, Nat.add_comm path.depth 1⟩
  | presence _ _ => exact inside.elim
  | value _ _ =>
    have here : path.depth = f.rank := inside
    show path.depth + 1 = 1 + f.rank
    omega
  | kind _ _ => exact inside.elim

theorem slot_differences_allowed {f : Declaration} {a b : Slot} (left : a.OfField f)
    (right : b.OfField f) : ∀ d ∈ a.differences b, f.Allows (d.below (.field f.name)) := by
  intro d member
  rw [Slot.differences, if_pos (left.name.trans right.name.symm)] at member
  cases first : a.value <;> cases second : b.value <;> rw [first, second] at member
  case none.none => simp [differences, Comparable.optionDifferences] at member
  case some.some v w =>
    exact f.allows_below
      (value_differences_at_rank (left.value v first) (right.value w second) d member)
  -- Where presence differs, the slot that is empty tells that the field may be absent.
  case none.some w =>
    rw [List.mem_singleton.mp member]
    exact ⟨rfl, f.nullable_iff.mpr (left.absent first)⟩
  case some.none v =>
    rw [List.mem_singleton.mp member]
    exact ⟨rfl, f.nullable_iff.mpr (right.absent second)⟩

namespace Description

variable (description : Description)

theorem record_differences_allowed {a b : Record} (left : a.OfDescription description)
    (right : b.OfDescription description) {d : Difference} (member : d ∈ differences a b) :
    ∃ f ∈ description.fields, d.path.head? = some (.field f.name) ∧ f.Allows d := by
  have name : a.name = b.name := left.name.trans right.name.symm
  have count : a.slots.length = b.slots.length :=
    left.slots.length_eq.symm.trans right.slots.length_eq
  change d ∈ Record.differences a b at member
  rw [Record.differences, if_neg (not_not_intro name), if_neg (not_not_intro count),
    slots_side_by_side 0, mem_side_by_side] at member
  obtain ⟨k, s, t, first, second, e, reported, rfl⟩ := member
  obtain ⟨f, declared, ofLeft⟩ := left.slot_at first
  obtain ⟨g, also, ofRight⟩ := right.slot_at second
  obtain rfl : f = g := Option.some.inj (declared.symm.trans also)
  rw [ofLeft.name]
  exact ⟨f, List.mem_of_getElem? declared, rfl, slot_differences_allowed ofLeft ofRight e reported⟩

/-- Records decoded under one description differ inside its fields only: in presence, where the
field may be absent, in lengths above the leaves, and in leaves. So there is no difference of
kind and none at the root, and no presence differs in a field that must have a value. -/
theorem decoded_differences_allowed (valid : description.flaw? = none) {left right : Json}
    {a b : Record} (first : description.decodeRecord left = .ok a)
    (second : description.decodeRecord right = .ok b) :
    (∀ d ∈ collect none a b,
      ∃ f ∈ description.fields, d.path.head? = some (.field f.name) ∧ f.Allows d) ∧
    ∀ d ∈ collect none a b, (∀ l r, d.mismatch ≠ .kind l r) ∧ d.path ≠ .root ∧
      ∀ f ∈ description.fields, f.storage = .value → d.path.head? = some (.field f.name) →
        ∀ l r, d.mismatch ≠ .presence l r := by
  have ofLeft := description.decoded_of_description valid first
  have ofRight := description.decoded_of_description valid second
  rw [Layout.slots.collect_everything]
  have located (d : Difference) (member : d ∈ differences a b) :=
    description.record_differences_allowed ofLeft ofRight member
  refine ⟨located, ?_⟩
  intro d member
  obtain ⟨f, declared, head, allowed⟩ := located d member
  obtain ⟨path, mismatch⟩ := d
  refine ⟨?_, ?_, ?_⟩
  · rintro l r rfl
    exact allowed
  · rintro rfl
    simp [Path.root] at head
  · rintro g other required also l r rfl
    have names : f.name = g.name := by
      rw [head] at also
      exact Segment.field.inj (Option.some.inj also)
    obtain rfl := List.inj_on_of_nodup_map (description.valid_names valid) declared other names
    exact (f.nullable_iff.mp allowed.2) required

theorem decoded_grids_differ :
    let description : Description :=
      ⟨"lattice", [⟨"tag", .text, 0, .pointer⟩, ⟨"grid", .int, 2, .value⟩]⟩
    let left := object [("tag", string "a"),
      ("grid", array [array [integer 1], array [integer 2, integer 3]])]
    let right := object [
      ("grid", array [array [integer 1, integer 0], array [integer 2, integer 4]])]
    let a : Record := ⟨"lattice", [⟨"tag", some (.scalar (.text "a"))⟩,
      ⟨"grid", some (.matrix [[.int 1], [.int 2, .int 3]])⟩]⟩
    let b : Record := ⟨"lattice", [⟨"tag", none⟩,
      ⟨"grid", some (.matrix [[.int 1, .int 0], [.int 2, .int 4]])⟩]⟩
    description.flaw? = none ∧ description.decodeRecord left = .ok a ∧
      description.decodeRecord right = .ok b ∧
      collect none a b = [⟨[.field "tag"], .presence true false⟩,
        ⟨[.field "grid", .index 0], .length 1 2⟩,
        ⟨[.field "grid", .index 1, .index 1], .value "3" "4"⟩] ∧
      ∀ d ∈ collect none a b,
        ∃ f ∈ description.fields, d.path.head? = some (.field f.name) ∧ f.Allows d := by
  intro description left right a b
  have valid : description.flaw? = none := by decide +kernel
  have first : description.decodeRecord left = .ok a := by decide +kernel
  have second : description.decodeRecord right = .ok b := by decide +kernel
  have allowed := description.decoded_differences_allowed valid first second
  exact ⟨valid, first, second, by decide +kernel, allowed.1⟩

end Description

end RecordComparison
