import RecordComparison.Proofs.Replay

/-!
Maps that keep comparisons. Values and their images are equal together, have the same report,
and make a walk do the same. Putting leaves into scalars, scalars into values of a rank and
values into slots are such maps, so a record whose slots are known only when the program runs is
compared as one with a fixed layout. Main statement: `dynamic_comparison_is_static`.
-/
namespace RecordComparison
open Comparable (calls collect equal walk walkRecord)

/-- Images compare exactly as the values do that they are images of. -/
structure KeepsComparison {α β : Type} [Comparable α] [Comparable β] (f : α → β) : Prop where
  equal : ∀ a b, equal (f a) (f b) = equal a b
  walk : ∀ {σ : Type} (sink : Sink σ) (a b : α), walk sink (f a) (f b) = walk sink a b

namespace KeepsComparison

variable {α β γ : Type} [Comparable α] [Comparable β] [Comparable γ] {f : α → β} {g : β → γ}

theorem report (keeps : KeepsComparison f) (limit : Option Nat) (a b : α) :
    collect limit (f a) (f b) = collect limit a b := by
  rw [collect, collect, keeps.walk]

theorem identity : KeepsComparison fun a : α => a := ⟨fun _ _ => rfl, fun _ _ _ => rfl⟩

theorem comp (outer : KeepsComparison g) (inner : KeepsComparison f) :
    KeepsComparison fun a => g (f a) where
  equal a b := (outer.equal (f a) (f b)).trans (inner.equal a b)
  walk sink a b := (outer.walk sink (f a) (f b)).trans (inner.walk sink a b)

theorem present : KeepsComparison (some : α → Option α) := ⟨fun _ _ => rfl, fun _ _ _ => rfl⟩

theorem option (keeps : KeepsComparison f) : KeepsComparison (Option.map f) where
  equal a b := by
    cases a <;> cases b
    case some.some a b => exact keeps.equal a b
    all_goals rfl
  walk sink a b := by
    cases a <;> cases b
    case some.some a b => exact keeps.walk sink a b
    all_goals rfl

theorem equal_items (keeps : KeepsComparison f) (as bs : List α) :
    Comparable.equalList (as.map f) (bs.map f) = Comparable.equalList as bs := by
  induction as generalizing bs with
  | nil => cases bs <;> rfl
  | cons a as ih =>
    cases bs with
    | nil => rfl
    | cons b bs => simp only [List.map_cons, Comparable.equalList, keeps.equal, ih]

theorem walk_items (keeps : KeepsComparison f) {σ : Type} (sink : Sink σ) (i : Nat)
    (as bs : List α) :
    Comparable.walkItems sink i (as.map f) (bs.map f) = Comparable.walkItems sink i as bs := by
  induction as generalizing i bs with
  | nil => cases bs <;> rfl
  | cons a as ih =>
    cases bs with
    | nil => rfl
    | cons b bs => simp only [List.map_cons, Comparable.walkItems, keeps.walk, ih]

theorem list (keeps : KeepsComparison f) : KeepsComparison (List.map f) where
  equal as bs := keeps.equal_items as bs
  walk sink as bs := by
    show Comparable.walkList sink (as.map f) (bs.map f) = Comparable.walkList sink as bs
    simp only [Comparable.walkList, List.length_map, keeps.walk_items]

end KeepsComparison

/-- Images are equal and are reported as the values are, also where they may be absent. -/
def ReportedAlike {α β : Type} [Comparable α] [Comparable β] (f : α → β) : Prop :=
  (∀ a b, equal (f a) (f b) = equal a b ∧ collect none (f a) (f b) = collect none a b) ∧
    ∀ a b : Option α, equal (a.map f) (b.map f) = equal a b ∧
      collect none (a.map f) (b.map f) = collect none a b

theorem KeepsComparison.reported_alike {α β : Type} [Comparable α] [Comparable β] {f : α → β}
    (keeps : KeepsComparison f) : ReportedAlike f := by
  constructor
  · intro a b
    exact ⟨keeps.equal a b, keeps.report none a b⟩
  · intro a b
    exact ⟨keeps.option.equal a b, keeps.option.report none a b⟩

section Values

/-- The maps that put a leaf into the scalar of its kind. -/
inductive Wraps : {α : Type} → [Comparable α] → (α → Scalar) → Prop where
  | bool : Wraps Scalar.bool
  | int : Wraps Scalar.int
  | real : Wraps Scalar.real
  | complex : Wraps Scalar.complex
  | text : Wraps Scalar.text

variable {α : Type} (wrap : α → Scalar)

namespace FieldValue

def ofLeaf (a : α) : FieldValue := .scalar (wrap a)

def ofArray (items : List α) : FieldValue := .array (items.map wrap)

def ofMatrix (rows : Matrix α) : FieldValue := .matrix (rows.map (List.map wrap))

def ofTensor (planes : Tensor α) : FieldValue := .tensor (planes.map (List.map (List.map wrap)))

end FieldValue

variable [Comparable α] {wrap}

theorem Wraps.keeps (wraps : Wraps wrap) : KeepsComparison wrap := by
  cases wraps <;> exact ⟨fun _ _ => rfl, fun _ _ _ => rfl⟩

namespace KeepsComparison

theorem scalar_value : KeepsComparison FieldValue.scalar :=
  ⟨fun _ _ => rfl, fun _ _ _ => rfl⟩

theorem array_value : KeepsComparison FieldValue.array := ⟨fun _ _ => rfl, fun _ _ _ => rfl⟩

theorem matrix_value : KeepsComparison FieldValue.matrix := ⟨fun _ _ => rfl, fun _ _ _ => rfl⟩

theorem tensor_value : KeepsComparison FieldValue.tensor := ⟨fun _ _ => rfl, fun _ _ _ => rfl⟩

theorem of_leaf (keeps : KeepsComparison wrap) : KeepsComparison (FieldValue.ofLeaf wrap) := by
  exact scalar_value.comp keeps

theorem of_array (keeps : KeepsComparison wrap) : KeepsComparison (FieldValue.ofArray wrap) := by
  exact array_value.comp keeps.list

theorem of_matrix (keeps : KeepsComparison wrap) :
    KeepsComparison (FieldValue.ofMatrix wrap) := by
  exact matrix_value.comp keeps.list.list

theorem of_tensor (keeps : KeepsComparison wrap) :
    KeepsComparison (FieldValue.ofTensor wrap) := by
  exact tensor_value.comp keeps.list.list.list

end KeepsComparison

end Values

section Slots

variable {R : Type}

structure SlottedField (R : Type) extends Comparable.Field R where
  value : Part → Option FieldValue
  keeps : KeepsComparison value

namespace SlottedField

def slot (f : SlottedField R) (r : R) : Slot := ⟨f.name, f.value (f.get r)⟩

@[simp] theorem slot_name (f : SlottedField R) (r : R) : (f.slot r).name = f.name := rfl

@[simp] theorem equal_slot (f : SlottedField R) (r s : R) :
    equal (f.slot r).value (f.slot s).value = equal (f.get r) (f.get s) :=
  f.keeps.equal (f.get r) (f.get s)

@[simp] theorem walk_slot (f : SlottedField R) {σ : Type} (sink : Sink σ) (r s : R) :
    walk sink (f.slot r).value (f.slot s).value = walk sink (f.get r) (f.get s) :=
  f.keeps.walk sink (f.get r) (f.get s)

end SlottedField

namespace Record

def ofFields (title : String) (fields : List (SlottedField R)) (r : R) : Record :=
  ⟨title, fields.map (·.slot r)⟩

theorem equal_slots_of_fields (fields : List (SlottedField R)) (r s : R) :
    equalSlots (fields.map (·.slot r)) (fields.map (·.slot s)) =
      Comparable.equalRecord (fields.map (·.toField)) r s := by
  induction fields with
  | nil => rfl
  | cons f fields ih =>
    simp only [Comparable.equalRecord] at ih
    simp [equalSlots, ih, Comparable.equalRecord]

theorem walk_slots_of_fields (fields : List (SlottedField R)) {σ : Type} (sink : Sink σ)
    (r s : R) :
    walkSlots sink (fields.map (·.slot r)) (fields.map (·.slot s)) =
      walkRecord sink (fields.map (·.toField)) r s := by
  induction fields with
  | nil => rfl
  | cons f fields ih =>
    simp [walkSlots, ih, walkRecord]

theorem of_fields_keeps (title : String) (fields : List (SlottedField R)) :
    @KeepsComparison R Record (.ofFields (fields.map (·.toField))) _ (ofFields title fields) :=
  let _ : Comparable R := .ofFields (fields.map (·.toField))
  { equal := fun r s => by
      show Record.equal (ofFields title fields r) (ofFields title fields s) = _
      simp only [Record.equal, ofFields, List.length_map, decide_true, Bool.true_and]
      exact equal_slots_of_fields fields r s
    walk := fun sink r s => by
      show Record.walk sink (ofFields title fields r) (ofFields title fields s) = _
      simp only [Record.walk, ofFields, List.length_map, ne_eq, not_true, if_false]
      exact walk_slots_of_fields fields sink r s }

def chain (names : List String) : List (Comparable.Field Record) :=
  names.zipIdx.map fun (name, i) => { name, get := fun r => r.slots[i]?.bind (·.value) }

def slottedChain (names : List String) : List (SlottedField Record) :=
  names.zipIdx.map fun (name, i) =>
    { name, get := fun r => r.slots[i]?.bind (·.value), value := fun v => v, keeps := .identity }

theorem fields_of_slotted_chain (names : List String) :
    (slottedChain names).map (·.toField) = chain names := by
  rw [slottedChain, List.map_map]
  rfl

theorem of_slotted_chain (r : Record) :
    ofFields r.name (slottedChain (r.slots.map (·.name))) r = r := by
  have slots : (slottedChain (r.slots.map (·.name))).map (·.slot r) = r.slots := by
    apply List.ext_getElem?
    intro i
    cases found : r.slots[i]? with
    | none => simp [slottedChain, found]
    | some s => simp [slottedChain, SlottedField.slot, found]
  rw [ofFields, slots]

end Record

end Slots

/-- Leaves of every kind, in containers of every rank, are compared alike whether they are in
scalars or not. Records with the same names are walked as a chain of fields is that has these
names and holds the values of the slots. -/
theorem dynamic_comparison_is_static :
    (∀ {α : Type} [Comparable α] (wrap : α → Scalar), Wraps wrap →
      ReportedAlike (FieldValue.ofLeaf wrap) ∧ ReportedAlike (FieldValue.ofArray wrap) ∧
        ReportedAlike (FieldValue.ofMatrix wrap) ∧ ReportedAlike (FieldValue.ofTensor wrap)) ∧
    ∀ a b : Record, a.name = b.name → a.slots.map (·.name) = b.slots.map (·.name) →
      ∀ {σ : Type} (sink : Sink σ) (cursor : Cursor σ),
        let fields := Record.chain (a.slots.map (·.name))
        walk sink a b cursor = walkRecord sink fields a b cursor ∧
          calls sink a b cursor = @calls Record σ (.ofFields fields) sink a b cursor := by
  constructor
  · intro α _ wrap wraps
    have keeps := wraps.keeps
    exact ⟨keeps.of_leaf.reported_alike, keeps.of_array.reported_alike,
      keeps.of_matrix.reported_alike, keeps.of_tensor.reported_alike⟩
  · intro a b name names σ sink cursor fields
    have same {τ : Type} (sink : Sink τ) : walk sink a b = walkRecord sink fields a b := by
      have keeps := Record.of_fields_keeps a.name (Record.slottedChain (a.slots.map (·.name)))
      have walks := @KeepsComparison.walk Record Record (.ofFields _) _ _ keeps τ sink a b
      have right := Record.of_slotted_chain b
      rw [← name, ← names] at right
      rwa [Record.of_slotted_chain a, right, Record.fields_of_slotted_chain] at walks
    refine ⟨congrFun (same sink) cursor, ?_⟩
    rw [calls, same]
    rfl

theorem dynamic_comparison_of_integers :
    let rows : Matrix Int64 := [[1], [2]]
    let others : Matrix Int64 := [[1], [3]]
    let a : Record := ⟨"beam", [⟨"n", some (.scalar (.int 1))⟩, ⟨"orbit", none⟩]⟩
    let b : Record := ⟨"beam", [⟨"n", some (.scalar (.int 2))⟩, ⟨"orbit", some (.array [])⟩]⟩
    Wraps Scalar.int ∧ a.name = b.name ∧ a.slots.map (·.name) = b.slots.map (·.name) ∧
      collect none (FieldValue.ofMatrix .int rows) (FieldValue.ofMatrix .int others) =
        [⟨[.index 1, .index 0], .value "2" "3"⟩] ∧
      walk .first a b ⟨[.index 7], none⟩ =
        (.stop, ⟨[.index 7], some ⟨[.index 7, .field "n"], .value "1" "2"⟩⟩) := by
  intro rows others a b
  obtain ⟨values, records⟩ := dynamic_comparison_is_static
  obtain ⟨_, _, matrix, _⟩ := values Scalar.int .int
  refine ⟨.int, rfl, rfl, ?_, ?_⟩
  · rw [(matrix.1 rows others).2]
    decide +kernel
  · rw [(records a b rfl rfl .first ⟨[.index 7], none⟩).1]
    rfl

end RecordComparison
