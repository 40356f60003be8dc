import Mathlib.Data.List.Forall2
import RecordComparison.Proofs.Reflexivity

/-!
Equality as a relation. It is symmetric and transitive for every comparable type, floating-point
leaves included, and leaves out only what holds a NaN: such a value does not even equal itself.
Main statement: `Layout.equality_is_partial`.
-/
namespace RecordComparison
open Comparable (equal)

namespace Binary

variable {f : BinaryFormat}

/-- The same number. There is no rule for a NaN, and the two zeros are one number. -/
inductive SameNumber : Binary f → Binary f → Prop where
  | finite (x : Finite f) : SameNumber (.finite x) (.finite x)
  | infinite (negative : Bool) : SameNumber (.infinite negative) (.infinite negative)
  | zeros {x y : Finite f} : x.isZero = true → y.isZero = true →
      SameNumber (.finite x) (.finite y)

theorem finite_equal_iff (x y : Finite f) :
    (finite x == finite y) = true ↔
      x.place = y.place ∧ (x.negative = y.negative ∨ x.isZero = true) := by
  simp [BEq.beq, Binary.equal]

theorem zero_place {x : Finite f} (zero : x.isZero = true) : x.place.val = 0 := by
  simpa [Finite.isZero] using zero

theorem equal_iff (x y : Binary f) : (x == y) = true ↔ SameNumber x y := by
  constructor
  · intro equal
    cases x <;> cases y
    case finite.finite x y =>
      obtain ⟨place, sign | zero⟩ := (finite_equal_iff x y).mp equal
      · obtain rfl : x = y := by
          cases x
          cases y
          simp_all
        exact .finite x
      · exact .zeros zero (by rwa [Finite.isZero, ← place])
    case infinite.infinite s t =>
      obtain rfl : s = t := by simpa [BEq.beq, Binary.equal] using equal
      exact .infinite s
    all_goals cases equal
  · intro same
    cases same with
    | finite x => exact (finite_equal_iff x x).mpr ⟨rfl, .inl rfl⟩
    | infinite s => simp [BEq.beq, Binary.equal]
    | @zeros x y left right =>
      have place := Fin.ext ((zero_place left).trans (zero_place right).symm)
      exact (finite_equal_iff x y).mpr ⟨place, .inr left⟩

theorem SameNumber.symm {x y : Binary f} (same : SameNumber x y) : SameNumber y x := by
  cases same with
  | finite x => exact .finite x
  | infinite s => exact .infinite s
  | zeros left right => exact .zeros right left

theorem SameNumber.trans {x y z : Binary f} (first : SameNumber x y) (second : SameNumber y z) :
    SameNumber x z := by
  cases first with
  | finite x => exact second
  | infinite s => exact second
  | zeros left middle =>
    cases second with
    | finite y => exact .zeros left middle
    | zeros _ right => exact .zeros left right

end Binary

namespace Comparable

/-- Equality of this type is symmetric and transitive, though a value need not equal itself. -/
structure PartialEquivalence (α : Type) [Comparable α] : Prop where
  symm : ∀ {a b : α}, equal a b = true → equal b a = true
  trans : ∀ {a b c : α}, equal a b = true → equal b c = true → equal a c = true

namespace PartialEquivalence

theorem of_lawful {α : Type} [BEq α] [Leaf α] [LawfulBEq α] : PartialEquivalence α where
  symm same := by
    obtain rfl := eq_of_beq same
    exact same
  trans left right := by
    obtain rfl := eq_of_beq left
    exact right

theorem binary {f : BinaryFormat} : PartialEquivalence (Binary f) where
  symm same := (Binary.equal_iff _ _).mpr ((Binary.equal_iff _ _).mp same).symm
  trans left right := by
    have both := ((Binary.equal_iff _ _).mp left).trans ((Binary.equal_iff _ _).mp right)
    exact (Binary.equal_iff _ _).mpr both

theorem complex_equal_iff (z w : Complex) :
    equal z w = true ↔ equal z.re w.re = true ∧ equal z.im w.im = true :=
  Bool.and_eq_true_iff

theorem complex : PartialEquivalence Complex where
  symm same := by
    rw [complex_equal_iff] at same ⊢
    exact ⟨binary.symm same.1, binary.symm same.2⟩
  trans left right := by
    rw [complex_equal_iff] at left right ⊢
    exact ⟨binary.trans left.1 right.1, binary.trans left.2 right.2⟩

theorem leaf {α : Type} {_ : BEq α} {_ : Leaf α} (type : LeafType α) : PartialEquivalence α := by
  cases type
  case single => exact binary
  case double => exact binary
  case complex => exact complex
  all_goals exact of_lawful

theorem items_symm {α : Type} {related : α → α → Prop} {as bs : List α}
    (items : List.Forall₂ related as bs) (symm : ∀ {a b}, related a b → related b a) :
    List.Forall₂ related bs as :=
  (items.imp fun _ _ => symm).flip

theorem items_trans {α : Type} {related : α → α → Prop} {as bs cs : List α}
    (first : List.Forall₂ related as bs) (second : List.Forall₂ related bs cs)
    (trans : ∀ {a b c}, related a b → related b c → related a c) :
    List.Forall₂ related as cs := by
  induction first generalizing cs with
  | nil => exact second
  | cons here _ ih =>
    cases second with
    | cons next later => exact .cons (trans here next) (ih later)

section Closure

variable {α : Type} [Comparable α]

theorem option (item : PartialEquivalence α) : PartialEquivalence (Option α) where
  symm {a b} same := by
    cases a <;> cases b
    case none.none => rfl
    case some.some a b => exact item.symm same
    all_goals cases same
  trans {a b c} left right := by
    cases a <;> cases b
    case none.none => exact right
    case some.some a b =>
      cases c with
      | none => cases right
      | some c => exact item.trans left right
    all_goals cases left

theorem list_equal_iff (as bs : List α) :
    equal as bs = true ↔ List.Forall₂ (fun a b => equal a b = true) as bs := by
  show equalList as bs = true ↔ _
  induction as generalizing bs with
  | nil => cases bs <;> simp [equalList]
  | cons a as ih =>
    cases bs with
    | nil => simp [equalList]
    | cons b bs => simp [equalList, ih]

theorem list (item : PartialEquivalence α) : PartialEquivalence (List α) where
  symm same := by
    rw [list_equal_iff] at same ⊢
    exact items_symm same item.symm
  trans left right := by
    rw [list_equal_iff] at left right ⊢
    exact items_trans left right item.trans

theorem fixed (item : PartialEquivalence α) (n : Nat) : PartialEquivalence (Vector α n) where
  symm same := (list item).symm same
  trans left right := (list item).trans left right

end Closure

theorem record {R : Type} (fields : List (Comparable.Field R))
    (parts : ∀ f ∈ fields, PartialEquivalence f.Part) :
    @PartialEquivalence R (.ofFields fields) := by
  let _ : Comparable R := .ofFields fields
  have equal_iff (r s : R) :
      equal r s = true ↔ ∀ f ∈ fields, equal (f.get r) (f.get s) = true := List.all_eq_true
  constructor
  · intro r s same
    rw [equal_iff] at same ⊢
    exact fun f member => (parts f member).symm (same f member)
  · intro r s t left right
    rw [equal_iff] at left right ⊢
    exact fun f member => (parts f member).trans (left f member) (right f member)

theorem scalar : PartialEquivalence Scalar where
  symm {a b} same := by
    cases a <;> cases b
    case bool.bool => exact (leaf .bool).symm same
    case int.int => exact (leaf .int64).symm same
    case real.real => exact (leaf .double).symm same
    case complex.complex => exact (leaf .complex).symm same
    case text.text => exact (leaf .text).symm same
    all_goals cases same
  trans {a b c} left right := by
    cases a <;> cases b <;> cases c
    case bool.bool.bool => exact (leaf .bool).trans left right
    case int.int.int => exact (leaf .int64).trans left right
    case real.real.real => exact (leaf .double).trans left right
    case complex.complex.complex => exact (leaf .complex).trans left right
    case text.text.text => exact (leaf .text).trans left right
    all_goals first | cases left | cases right

theorem field_value : PartialEquivalence FieldValue where
  symm {v w} same := by
    cases v <;> cases w
    case scalar.scalar => exact scalar.symm same
    case array.array => exact scalar.list.symm same
    case matrix.matrix => exact scalar.list.list.symm same
    case tensor.tensor => exact scalar.list.list.list.symm same
    all_goals cases same
  trans {u v w} left right := by
    cases u <;> cases v <;> cases w
    case scalar.scalar.scalar => exact scalar.trans left right
    case array.array.array => exact scalar.list.trans left right
    case matrix.matrix.matrix => exact scalar.list.list.trans left right
    case tensor.tensor.tensor => exact scalar.list.list.list.trans left right
    all_goals first | cases left | cases right

def SlotsEqual (s t : Slot) : Prop := s.name = t.name ∧ equal s.value t.value = true

theorem slots_equal_iff {ss ts : List Slot} (count : ss.length = ts.length) :
    Record.equalSlots ss ts = true ↔ List.Forall₂ SlotsEqual ss ts := by
  induction ss generalizing ts with
  | nil => cases ts <;> simp_all [Record.equalSlots]
  | cons s ss ih =>
    cases ts with
    | nil => simp at count
    | cons t ts => simp [Record.equalSlots, ih (Nat.succ.inj count), SlotsEqual]

theorem slotted_record_equal_iff (r s : Record) :
    equal r s = true ↔ r.name = s.name ∧ List.Forall₂ SlotsEqual r.slots s.slots := by
  have unfolded : equal r s = true ↔
      r.name = s.name ∧ r.slots.length = s.slots.length ∧
        Record.equalSlots r.slots s.slots = true := by
    show Record.equal r s = true ↔ _
    simp [Record.equal, and_assoc]
  rw [unfolded]
  refine and_congr_right fun _ => ⟨?_, ?_⟩
  · rintro ⟨count, slots⟩
    exact (slots_equal_iff count).mp slots
  · intro slots
    exact ⟨slots.length_eq, (slots_equal_iff slots.length_eq).mpr slots⟩

theorem slotted_record : PartialEquivalence Record where
  symm same := by
    rw [slotted_record_equal_iff] at same ⊢
    refine ⟨same.1.symm, items_symm same.2 ?_⟩
    exact fun slots => ⟨slots.1.symm, field_value.option.symm slots.2⟩
  trans left right := by
    rw [slotted_record_equal_iff] at left right ⊢
    refine ⟨left.1.trans right.1, items_trans left.2 right.2 ?_⟩
    exact fun one other => ⟨one.1.trans other.1, field_value.option.trans one.2 other.2⟩

end PartialEquivalence

end Comparable

namespace Layout
open Comparable

variable {α : Type} {_ : Comparable α}

theorem partial_equivalence (layout : Layout α) : PartialEquivalence α := by
  induction layout with
  | leaf type => exact .leaf type
  | list item ih => exact ih.list
  | fixed item n ih => exact ih.fixed n
  | option item ih => exact ih.option
  | record fields part ih =>
    exact .record fields (List.forall_mem_iff_forall_getElem.mpr fun i h => ih ⟨i, h⟩)
  | scalar => exact .scalar
  | fieldValue => exact .field_value
  | slots => exact .slotted_record

/-- Equality is symmetric and transitive on all values, and reflexive on just those in which no
floating-point number is a NaN. -/
theorem equality_is_partial (layout : Layout α) (a b c : α) :
    equal a b = equal b a ∧
    (equal a b = true → equal b c = true → equal a c = true) ∧
    (equal a a = true ↔ layout.NaNFree a) := by
  have related := layout.partial_equivalence
  refine ⟨?_, related.trans, layout.equal_self_iff a⟩
  rw [Bool.eq_iff_iff]
  exact ⟨related.symm, related.symm⟩

theorem zeros_equal_and_nan_not :
    let layout : Layout (List (Option Double)) := .list (.option (.leaf .double))
    let plus : Option Double := some (.ofRatio false 0 1)
    let minus : Option Double := some (.ofRatio true 0 1)
    equal [plus, none, minus] [minus, none, minus] = true ∧
      equal [minus, none, minus] [minus, none, plus] = true ∧
      equal [plus, none, minus] [minus, none, plus] = true ∧
      equal [some .nan, plus] [some .nan, minus] = equal [some .nan, minus] [some .nan, plus] ∧
      ¬ layout.NaNFree [plus, some .nan] ∧ equal [plus, some .nan] [plus, some .nan] = false := by
  intro layout plus minus
  have one : equal [plus, none, minus] [minus, none, minus] = true := by decide +kernel
  have other : equal [minus, none, minus] [minus, none, plus] = true := by decide +kernel
  obtain ⟨_, trans, _⟩ := layout.equality_is_partial _ _ [minus, none, plus]
  obtain ⟨symm, _, _⟩ := layout.equality_is_partial [some .nan, plus] [some .nan, minus] []
  obtain ⟨_, _, self⟩ := layout.equality_is_partial [plus, some .nan] [] []
  have spoiled : ¬ layout.NaNFree [plus, some .nan] := by
    intro free
    have number := free (some .nan) (by simp) .nan rfl
    contradiction
  exact ⟨one, other, trans one other, symm, spoiled, Bool.eq_false_iff.mpr (spoiled ∘ self.mp)⟩

end Layout

end RecordComparison
