import RecordComparison.Proofs.Agreement
import RecordComparison.Proofs.Pairing
import RecordComparison.Proofs.Reflexivity

/-!
Values that differ in one leaf. If a value holds no NaN, then a change of one of its leaves to
an unequal one is all that a comparison with the changed value reports.
-/
namespace RecordComparison
open Comparable (differences equal)

namespace Scalar

def shown : Scalar → String
  | bool b => Leaf.text b
  | int n => Leaf.text n
  | real x => Leaf.text x
  | complex z => Leaf.text z
  | text t => Leaf.text t

end Scalar

/-- The second value is the first one with the leaf at the path changed to an unequal leaf, and
the mismatch tells the old leaf from the new one. -/
inductive LeafChange :
    {α : Type} → {_ : Comparable α} → Layout α → α → α → Path → Mismatch → Prop where
  | leaf {α : Type} {_ : BEq α} {_ : Leaf α} {type : LeafType α} {a b : α} :
      (a == b) = false → LeafChange (.leaf type) a b [] (.value (Leaf.text a) (Leaf.text b))
  | item {α : Type} {_ : Comparable α} {item : Layout α} {as : List α} {i : Nat} {a b : α}
      {p : Path} {m : Mismatch} : as[i]? = some a → LeafChange item a b p m →
      LeafChange (.list item) as (as.set i b) (.index i :: p) m
  | fixed {α : Type} {_ : Comparable α} {item : Layout α} {n : Nat} {as bs : Vector α n}
      {p : Path} {m : Mismatch} : LeafChange (.list item) as.toList bs.toList p m →
      LeafChange (.fixed item n) as bs p m
  | present {α : Type} {_ : Comparable α} {item : Layout α} {a b : α} {p : Path}
      {m : Mismatch} : LeafChange item a b p m →
      LeafChange (.option item) (some a) (some b) p m
  | field {R : Type} {fields : List (Comparable.Field R)}
      {part : (i : Fin fields.length) → Layout (fields.get i).Part} {r s : R} {p : Path}
      {m : Mismatch} (i : Fin fields.length) :
      LeafChange (part i) ((fields.get i).get r) ((fields.get i).get s) p m →
      (∀ j, j ≠ i → (fields.get j).get s = (fields.get j).get r) →
      LeafChange (.record fields part) r s (.field (fields.get i).name :: p) m
  | scalar {a b : Scalar} : a.kind = b.kind → equal a b = false →
      LeafChange .scalar a b [] (.value a.shown b.shown)
  | scalarKind {a b : Scalar} : a.kind ≠ b.kind →
      LeafChange .scalar a b [] (.kind a.kind.name b.kind.name)
  | plain {a b : Scalar} {p : Path} {m : Mismatch} : LeafChange .scalar a b p m →
      LeafChange .fieldValue (.scalar a) (.scalar b) p m
  | array {as bs : List Scalar} {p : Path} {m : Mismatch} :
      LeafChange (.list .scalar) as bs p m → LeafChange .fieldValue (.array as) (.array bs) p m
  | matrix {as bs : Matrix Scalar} {p : Path} {m : Mismatch} :
      LeafChange (.list (.list .scalar)) as bs p m →
      LeafChange .fieldValue (.matrix as) (.matrix bs) p m
  | tensor {as bs : Tensor Scalar} {p : Path} {m : Mismatch} :
      LeafChange (.list (.list (.list .scalar))) as bs p m →
      LeafChange .fieldValue (.tensor as) (.tensor bs) p m
  | slot {r : Record} {i : Nat} {name : String} {v w : FieldValue} {p : Path} {m : Mismatch} :
      r.slots[i]? = some ⟨name, some v⟩ → LeafChange .fieldValue v w p m →
      LeafChange .slots r { r with slots := r.slots.set i ⟨name, some w⟩ } (.field name :: p) m

theorem Layout.silent_self {α : Type} {_ : Comparable α} (layout : Layout α) {a : α}
    (free : layout.NaNFree a) : differences a a = [] :=
  (layout.agrees a a).mp ((layout.equal_self_iff a).mpr free)

theorem Slot.silent_self (s : Slot) (free : ∀ v ∈ s.value, ∀ a ∈ v.scalars, a.NaNFree) :
    s.differences s = [] := by
  rw [Slot.differences, if_pos rfl]
  exact (Layout.option .fieldValue).silent_self free

theorem other_items_same {α : Type _} {as : List α} {i j : Nat} {b x y : α} (other : j ≠ i)
    (left : as[j]? = some x) (right : (as.set i b)[j]? = some y) : y = x := by
  rw [List.getElem?_set_ne other.symm, left] at right
  exact (Option.some.inj right).symm

theorem field_value_nan_free {v : FieldValue} (free : ∀ a ∈ v.scalars, a.NaNFree) :
    match v with
    | .scalar a => a.NaNFree
    | .array items => ∀ a ∈ items, a.NaNFree
    | .matrix rows => ∀ row ∈ rows, ∀ a ∈ row, a.NaNFree
    | .tensor planes => ∀ rows ∈ planes, ∀ row ∈ rows, ∀ a ∈ row, a.NaNFree := by
  cases v <;> simpa only [FieldValue.scalars, List.forall_mem_flatten, List.forall_mem_singleton]
    using free

theorem item_change_single {α : Type} {_ : Comparable α} (item : Layout α) {as : List α} {i : Nat}
    {a b : α} {p : Path} {m : Mismatch} (found : as[i]? = some a)
    (free : ∀ x ∈ as, item.NaNFree x) (changed : differences a b = [⟨p, m⟩]) :
    differences as (as.set i b) = [⟨.index i :: p, m⟩] := by
  have inside : i < as.length := (List.getElem?_eq_some_iff.mp found).1
  have after : (as.set i b)[i]? = some b := by simp [inside]
  show Comparable.listDifferences as (as.set i b) = _
  rw [Comparable.listDifferences, if_pos (by simp), items_side_by_side,
    side_by_side_single _ _ 0 as (as.set i b) i a b found after]
  · rw [changed, Nat.zero_add]
    rfl
  · intro j x y other left right
    rw [other_items_same other left right]
    exact item.silent_self (free x (List.mem_of_getElem? left))

theorem field_change_single {R : Type} {fields : List (Comparable.Field R)}
    (part : (i : Fin fields.length) → Layout (fields.get i).Part) {r s : R} {p : Path}
    {m : Mismatch} (i : Fin fields.length)
    (free : ∀ j, (part j).NaNFree ((fields.get j).get r))
    (changed : differences ((fields.get i).get r) ((fields.get i).get s) = [⟨p, m⟩])
    (others : ∀ j, j ≠ i → (fields.get j).get s = (fields.get j).get r) :
    Comparable.recordDifferences fields r s = [⟨.field (fields.get i).name :: p, m⟩] := by
  have found : fields[i.val]? = some (fields.get i) := by simp
  rw [fields_side_by_side 0, side_by_side_single _ _ 0 fields fields i _ _ found found]
  · rw [changed]
    rfl
  · intro j f g other left _
    obtain ⟨inside, rfl⟩ := List.getElem?_eq_some_iff.mp left
    have kept : fields[j].get s = fields[j].get r :=
      others ⟨j, inside⟩ fun same => other (Fin.mk.inj_iff.mp same)
    rw [kept]
    exact (part ⟨j, inside⟩).silent_self (free ⟨j, inside⟩)

theorem slot_change_single {r : Record} {i : Nat} {name : String} {v w : FieldValue} {p : Path}
    {m : Mismatch} (found : r.slots[i]? = some ⟨name, some v⟩) (free : Layout.slots.NaNFree r)
    (changed : differences v w = [⟨p, m⟩]) :
    differences r { r with slots := r.slots.set i ⟨name, some w⟩ } =
      [⟨.field name :: p, m⟩] := by
  have inside : i < r.slots.length := (List.getElem?_eq_some_iff.mp found).1
  have after : (r.slots.set i ⟨name, some w⟩)[i]? = some ⟨name, some w⟩ := by simp [inside]
  show Record.differences r { r with slots := r.slots.set i ⟨name, some w⟩ } = _
  rw [Record.differences, if_neg (by simp), if_neg (by simp), slots_side_by_side 0,
    side_by_side_single _ _ 0 r.slots _ i ⟨name, some v⟩ ⟨name, some w⟩ found after]
  · have here : Slot.differences ⟨name, some v⟩ ⟨name, some w⟩ = differences v w := if_pos rfl
    rw [here, changed]
    rfl
  · intro j x y other left right
    rw [other_items_same other left right]
    exact x.silent_self (free x (List.mem_of_getElem? left))

theorem scalar_change_single {a b : Scalar} (same : a.kind = b.kind) (unequal : equal a b = false) :
    differences a b = [⟨[], .value a.shown b.shown⟩] := by
  cases a <;> cases b <;> cases same
  all_goals
    simp only [equal, Scalar.equal] at unequal
    simp [differences, Scalar.differences, unequal, Mismatch.ofLeaves, Path.root, Scalar.shown]

theorem kind_change_single {a b : Scalar} (other : a.kind ≠ b.kind) :
    differences a b = [⟨[], .kind a.kind.name b.kind.name⟩] := by
  cases a <;> cases b
  case bool.bool | int.int | real.real | complex.complex | text.text => exact absurd rfl other
  all_goals rfl

theorem leaf_change_single {α : Type} {_ : Comparable α} {layout : Layout α} {a b : α}
    {p : Path} {m : Mismatch} (change : LeafChange layout a b p m)
    (free : layout.NaNFree a) : differences a b = [⟨p, m⟩] := by
  induction change with
  | leaf unequal => simp [differences, unequal, Mismatch.ofLeaves, Path.root]
  | @item α _ item as i a b p m found change ih =>
    exact item_change_single item found free (ih (free a (List.mem_of_getElem? found)))
  | fixed change ih => exact ih free
  | present change ih => exact ih (free _ rfl)
  | @field R fields part r s p m i change others ih =>
    exact field_change_single part i free (ih (free i)) others
  | scalar same unequal => exact scalar_change_single same unequal
  | scalarKind other => exact kind_change_single other
  | plain change ih => exact ih (field_value_nan_free free)
  | array change ih => exact ih (field_value_nan_free free)
  | matrix change ih => exact ih (field_value_nan_free free)
  | tensor change ih => exact ih (field_value_nan_free free)
  | slot found change ih =>
    exact slot_change_single found free (ih (free _ (List.mem_of_getElem? found) _ rfl))

end RecordComparison
