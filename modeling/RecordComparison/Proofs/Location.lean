import RecordComparison.Proofs.Layout
import RecordComparison.Proofs.Pairing

/-!
Where differences come from. A comparison descends from a pair of values to pairs of their
parts, as long as the pairs agree in length, presence, rank, kind and names; where they do not,
or where two leaves are unequal, the pair clashes. The report is exactly the list of the
clashes that can be reached, each under the path that leads to it.
-/
namespace RecordComparison
open Comparable (differences)

inductive Node : Type 1 where
  | values {α : Type} {_ : Comparable α} (layout : Layout α) (left right : α)
  | slots (left right : Slot)

namespace Node

def differences : Node → List Difference
  | values _ a b => Comparable.differences a b
  | slots a b => a.differences b

/-- The first pair agrees so far that the comparison goes on to the second one, which it holds
at the end of the path. -/
inductive Holds : Node → Path → Node → Prop where
  | item {α : Type} {_ : Comparable α} {item : Layout α} {as bs : List α} {i : Nat} {a b : α} :
      as.length = bs.length → as[i]? = some a → bs[i]? = some b →
      Holds (values (.list item) as bs) [.index i] (values item a b)
  | fixedItem {α : Type} {_ : Comparable α} {item : Layout α} {n : Nat} {as bs : Vector α n}
      (i : Fin n) : Holds (values (.fixed item n) as bs) [.index i] (values item as[i] bs[i])
  | present {α : Type} {_ : Comparable α} {item : Layout α} {a b : α} :
      Holds (values (.option item) (some a) (some b)) [] (values item a b)
  | field {R : Type} {fields : List (Comparable.Field R)}
      {part : (i : Fin fields.length) → Layout (fields.get i).Part} {a b : R}
      (i : Fin fields.length) :
      Holds (values (.record fields part) a b) [.field (fields.get i).name]
        (values (part i) ((fields.get i).get a) ((fields.get i).get b))
  | bool {a b : Bool} : Holds (values .scalar (.bool a) (.bool b)) [] (values (.leaf .bool) a b)
  | int {a b : Int64} : Holds (values .scalar (.int a) (.int b)) [] (values (.leaf .int64) a b)
  | real {a b : Double} :
      Holds (values .scalar (.real a) (.real b)) [] (values (.leaf .double) a b)
  | complex {a b : Complex} :
      Holds (values .scalar (.complex a) (.complex b)) [] (values (.leaf .complex) a b)
  | text {a b : String} :
      Holds (values .scalar (.text a) (.text b)) [] (values (.leaf .text) a b)
  | scalar {a b : Scalar} :
      Holds (values .fieldValue (.scalar a) (.scalar b)) [] (values .scalar a b)
  | array {as bs : List Scalar} :
      Holds (values .fieldValue (.array as) (.array bs)) [] (values (.list .scalar) as bs)
  | matrix {as bs : Matrix Scalar} :
      Holds (values .fieldValue (.matrix as) (.matrix bs)) []
        (values (.list (.list .scalar)) as bs)
  | tensor {as bs : Tensor Scalar} :
      Holds (values .fieldValue (.tensor as) (.tensor bs)) []
        (values (.list (.list (.list .scalar))) as bs)
  | slot {r s : Record} {i : Nat} {a b : Slot} :
      r.name = s.name → r.slots.length = s.slots.length →
      r.slots[i]? = some a → s.slots[i]? = some b →
      Holds (values .slots r s) [.field a.name] (slots a b)
  | slotValue {a b : Slot} :
      a.name = b.name → Holds (slots a b) [] (values (.option .fieldValue) a.value b.value)

inductive Reaches : Node → Path → Node → Prop where
  | here (n : Node) : Reaches n [] n
  | step {n m k : Node} {p q : Path} : Holds n p m → Reaches m q k → Reaches n (p ++ q) k

inductive Clashes : Node → Mismatch → Prop where
  | leaf {α : Type} {_ : BEq α} {_ : Leaf α} {type : LeafType α} {a b : α} :
      (a == b) = false → Clashes (values (.leaf type) a b) (.value (Leaf.text a) (Leaf.text b))
  | length {α : Type} {_ : Comparable α} {item : Layout α} {as bs : List α} :
      as.length ≠ bs.length →
      Clashes (values (.list item) as bs) (.length as.length bs.length)
  | presence {α : Type} {_ : Comparable α} {item : Layout α} {a b : Option α} :
      a.isSome ≠ b.isSome → Clashes (values (.option item) a b) (.presence a.isSome b.isSome)
  | scalarKind {a b : Scalar} :
      a.kind ≠ b.kind → Clashes (values .scalar a b) (.kind a.kind.name b.kind.name)
  | rank {a b : FieldValue} :
      a.rank ≠ b.rank → Clashes (values .fieldValue a b)
        (.kind ("rank " ++ toString a.rank) ("rank " ++ toString b.rank))
  | recordName {r s : Record} :
      r.name ≠ s.name → Clashes (values .slots r s) (.kind r.name s.name)
  | slotCount {r s : Record} :
      r.name = s.name → r.slots.length ≠ s.slots.length →
      Clashes (values .slots r s) (.length r.slots.length s.slots.length)
  | slotName {a b : Slot} : a.name ≠ b.name → Clashes (slots a b) (.kind a.name b.name)

theorem holds_reports {n m : Node} {p : Path} (holds : Holds n p m) {d : Difference}
    (member : d ∈ m.differences) : d.within p ∈ n.differences := by
  cases holds with
  | @item α _ item as bs i a b same left right =>
    show _ ∈ Comparable.listDifferences as bs
    rw [Comparable.listDifferences, if_pos same, items_side_by_side, mem_side_by_side]
    exact ⟨i, a, b, left, right, d, member, by rw [Nat.zero_add]; rfl⟩
  | @fixedItem α _ item n as bs i =>
    show _ ∈ Comparable.listDifferences as.toList bs.toList
    have same : as.toList.length = bs.toList.length := by simp
    rw [Comparable.listDifferences, if_pos same, items_side_by_side, mem_side_by_side]
    exact ⟨i, as[i], bs[i], by simp, by simp, d, member, by rw [Nat.zero_add]; rfl⟩
  | present => exact member
  | @field R fields part r s i =>
    show _ ∈ Comparable.recordDifferences fields r s
    rw [fields_side_by_side 0, mem_side_by_side]
    exact ⟨i, fields.get i, fields.get i, by simp, by simp, d, member, rfl⟩
  | @slot r s i a b name count left right =>
    show _ ∈ Record.differences r s
    rw [Record.differences, if_neg (not_not_intro name), if_neg (not_not_intro count),
      slots_side_by_side 0, mem_side_by_side]
    exact ⟨i, a, b, left, right, d, member, rfl⟩
  | @slotValue a b name =>
    show _ ∈ a.differences b
    rwa [Slot.differences, if_pos name]
  | _ => exact member

theorem reaches_reports {n m : Node} {p : Path} (reaches : Reaches n p m) :
    ∀ d ∈ m.differences, d.within p ∈ n.differences := by
  induction reaches with
  | here n => exact fun d member => member
  | @step n m k p q holds _ ih =>
    intro d member
    have outer := holds_reports holds (ih d member)
    rwa [Difference.within, Difference.within, ← List.append_assoc] at outer

theorem clash_reports {n : Node} {m : Mismatch} (clash : Clashes n m) :
    ⟨.root, m⟩ ∈ n.differences := by
  cases clash with
  | leaf unequal => simp [differences, Comparable.differences, unequal, Mismatch.ofLeaves]
  | length other => simp [differences, Comparable.differences, Comparable.listDifferences, other]
  | @presence α _ item a b other =>
    cases a <;> cases b <;>
      simp_all [differences, Comparable.differences, Comparable.optionDifferences]
  | @scalarKind a b other =>
    cases a <;> cases b <;>
      simp_all [differences, Comparable.differences, Scalar.differences, Scalar.kind,
        Scalar.kindMismatch]
  | @rank a b other =>
    cases a <;> cases b <;>
      simp_all [differences, Comparable.differences, FieldValue.differences, FieldValue.rank,
        FieldValue.rankMismatch, FieldValue.rankText]
  | recordName other => simp [differences, Comparable.differences, Record.differences, other]
  | slotCount same other =>
    simp [differences, Comparable.differences, Record.differences, same, other]
  | slotName other => simp [differences, Slot.differences, other]

/-- Whatever the pair reports is a clash that is reached under the reported path. -/
def Located (n : Node) : Prop :=
  ∀ d ∈ n.differences, ∃ m, Reaches n d.path m ∧ Clashes m d.mismatch

theorem clash_located {n : Node} {m : Mismatch} (clash : Clashes n m)
    (only : n.differences = [⟨.root, m⟩]) : Located n := by
  intro d member
  obtain rfl : d = ⟨.root, m⟩ := by simpa [only] using member
  exact ⟨n, .here n, clash⟩

theorem located_through {n m : Node} {p : Path} (holds : Holds n p m) (located : Located m)
    {d : Difference} (member : d ∈ m.differences) :
    ∃ k, Reaches n (p ++ d.path) k ∧ Clashes k d.mismatch := by
  obtain ⟨k, reaches, clash⟩ := located d member
  exact ⟨k, .step holds reaches, clash⟩

theorem leaf_located {α : Type} {_ : BEq α} {_ : Leaf α} (type : LeafType α) (a b : α) :
    Located (values (.leaf type) a b) := by
  cases equal : a == b with
  | true => simp [Located, differences, Comparable.differences, equal]
  | false =>
    exact clash_located (.leaf equal) (by simp [differences, Comparable.differences, equal]; rfl)

section Closure

variable {α : Type} {_ : Comparable α} {item : Layout α}

theorem list_located (items : ∀ a b, Located (values item a b)) (as bs : List α) :
    Located (values (.list item) as bs) := by
  by_cases same : as.length = bs.length
  · intro d member
    change d ∈ Comparable.listDifferences as bs at member
    rw [Comparable.listDifferences, if_pos same, items_side_by_side, mem_side_by_side] at member
    obtain ⟨k, a, b, left, right, e, reported, rfl⟩ := member
    rw [Nat.zero_add]
    exact located_through (.item same left right) (items a b) reported
  · refine clash_located (.length same) ?_
    simp [differences, Comparable.differences, Comparable.listDifferences, same]

theorem fixed_located (items : ∀ a b, Located (values item a b)) (n : Nat)
    (as bs : Vector α n) : Located (values (.fixed item n) as bs) := by
  have same : as.toList.length = bs.toList.length := by simp
  intro d member
  change d ∈ Comparable.listDifferences as.toList bs.toList at member
  rw [Comparable.listDifferences, if_pos same, items_side_by_side, mem_side_by_side] at member
  obtain ⟨k, a, b, left, right, e, reported, rfl⟩ := member
  obtain ⟨inside, rfl⟩ := List.getElem?_eq_some_iff.mp left
  obtain ⟨_, rfl⟩ := List.getElem?_eq_some_iff.mp right
  rw [Nat.zero_add]
  have small : k < n := by simpa using inside
  have holds : Holds (values (.fixed item n) as bs) [.index k] (values item as[k] bs[k]) :=
    .fixedItem ⟨k, small⟩
  exact located_through holds (items _ _) (by simpa [differences] using reported)

theorem option_located (items : ∀ a b, Located (values item a b)) (a b : Option α) :
    Located (values (.option item) a b) := by
  cases a <;> cases b
  case none.none =>
    simp [Located, differences, Comparable.differences, Comparable.optionDifferences]
  case some.some a b => exact fun d member => located_through .present (items a b) member
  all_goals exact clash_located (.presence (by simp)) rfl

end Closure

theorem record_located {R : Type} {fields : List (Comparable.Field R)}
    {part : (i : Fin fields.length) → Layout (fields.get i).Part}
    (parts : ∀ i a b, Located (values (part i) a b)) (r s : R) :
    Located (@values R (.ofFields fields) (.record fields part) r s) := by
  intro d member
  change d ∈ Comparable.recordDifferences fields r s at member
  rw [fields_side_by_side 0, mem_side_by_side] at member
  obtain ⟨k, f, g, left, right, e, reported, rfl⟩ := member
  obtain ⟨inside, rfl⟩ := List.getElem?_eq_some_iff.mp left
  exact located_through (.field ⟨k, inside⟩) (parts ⟨k, inside⟩ _ _) reported

theorem scalar_located (a b : Scalar) : Located (values .scalar a b) := by
  cases a <;> cases b
  case bool.bool a b => exact fun d member => located_through .bool (leaf_located _ a b) member
  case int.int a b => exact fun d member => located_through .int (leaf_located _ a b) member
  case real.real a b => exact fun d member => located_through .real (leaf_located _ a b) member
  case complex.complex a b =>
    exact fun d member => located_through .complex (leaf_located _ a b) member
  case text.text a b => exact fun d member => located_through .text (leaf_located _ a b) member
  all_goals exact clash_located (.scalarKind (by simp [Scalar.kind])) rfl

theorem field_value_located (a b : FieldValue) : Located (values .fieldValue a b) := by
  cases a <;> cases b
  case scalar.scalar a b =>
    exact fun d member => located_through .scalar (scalar_located a b) member
  case array.array a b =>
    exact fun d member => located_through .array (list_located scalar_located a b) member
  case matrix.matrix a b =>
    exact fun d member =>
      located_through .matrix (list_located (list_located scalar_located) a b) member
  case tensor.tensor a b =>
    exact fun d member =>
      located_through .tensor (list_located (list_located (list_located scalar_located)) a b)
        member
  all_goals exact clash_located (.rank (by simp [FieldValue.rank])) rfl

theorem slot_located (a b : Slot) : Located (slots a b) := by
  by_cases same : a.name = b.name
  · intro d member
    have reported : d ∈ (values (.option .fieldValue) a.value b.value).differences := by
      simpa [differences, Slot.differences, same] using member
    exact located_through (.slotValue same) (option_located field_value_located _ _) reported
  · exact clash_located (.slotName same) (by simp [differences, Slot.differences, same])

theorem slotted_record_located (r s : Record) : Located (values .slots r s) := by
  by_cases name : r.name = s.name
  case neg =>
    refine clash_located (.recordName name) ?_
    simp [differences, Comparable.differences, Record.differences, name]
  by_cases count : r.slots.length = s.slots.length
  case neg =>
    refine clash_located (.slotCount name count) ?_
    simp [differences, Comparable.differences, Record.differences, name, count]
  intro d member
  change d ∈ Record.differences r s at member
  rw [Record.differences, if_neg (not_not_intro name), if_neg (not_not_intro count),
    slots_side_by_side 0, mem_side_by_side] at member
  obtain ⟨k, a, b, left, right, e, reported, rfl⟩ := member
  exact located_through (.slot name count left right) (slot_located a b) reported

end Node

namespace Layout
open Node

variable {α : Type} {_ : Comparable α}

theorem located (layout : Layout α) (a b : α) : Located (values layout a b) := by
  induction layout with
  | leaf type => exact leaf_located type a b
  | list item ih => exact list_located ih a b
  | fixed item n ih => exact fixed_located ih n a b
  | option item ih => exact option_located ih a b
  | record fields part ih => exact record_located ih a b
  | scalar => exact scalar_located a b
  | fieldValue => exact field_value_located a b
  | slots => exact slotted_record_located a b

theorem mem_differences_iff (layout : Layout α) (a b : α) (p : Path) (m : Mismatch) :
    ⟨p, m⟩ ∈ differences a b ↔ ∃ n, Reaches (values layout a b) p n ∧ Clashes n m := by
  constructor
  · exact layout.located a b ⟨p, m⟩
  · rintro ⟨n, reaches, clash⟩
    have member := reaches_reports reaches _ (clash_reports clash)
    rwa [Difference.within, Path.root, List.append_nil] at member

end Layout

end RecordComparison
