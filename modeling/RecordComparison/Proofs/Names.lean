import RecordComparison.Proofs.Location
import RecordComparison.Proofs.Typing

/-!
Names in reports. A comparison goes from records to their fields and never makes up a name: what
holds of all names inside the compared values holds of all names in the paths of the report, and
inside the pairs that clash. The names in a record of a valid description are identifiers.
-/
namespace RecordComparison

def Layout.EachName (P : String → Prop) :
    {α : Type} → {_ : Comparable α} → Layout α → α → Prop
  | _, _, .leaf _, _ => True
  | _, _, .list item, as => ∀ a ∈ as, item.EachName P a
  | _, _, .fixed item _, as => ∀ a ∈ as.toList, item.EachName P a
  | _, _, .option item, a? => ∀ a ∈ a?, item.EachName P a
  | _, _, .record fields part, r => ∀ i : Fin fields.length,
    P (fields.get i).name ∧ (part i).EachName P ((fields.get i).get r)
  | _, _, .scalar, _ => True
  | _, _, .fieldValue, _ => True
  | _, _, .slots, r => P r.name ∧ ∀ s ∈ r.slots, P s.name

def Segment.EachName (P : String → Prop) : Segment → Prop
  | field name => P name
  | index _ => True

variable {P : String → Prop}

namespace Node

def EachName (P : String → Prop) : Node → Prop
  | values layout a b => layout.EachName P a ∧ layout.EachName P b
  | slots a b => P a.name ∧ P b.name

theorem holds_each_name {n m : Node} {p : Path} (holds : Holds n p m) (named : n.EachName P) :
    m.EachName P ∧ ∀ step ∈ p, step.EachName P := by
  cases holds with
  | item _ left right =>
    have first := named.1 _ (List.mem_of_getElem? left)
    have second := named.2 _ (List.mem_of_getElem? right)
    exact ⟨⟨first, second⟩, by simp [Segment.EachName]⟩
  | fixedItem i =>
    have first := named.1 _ (Vector.mem_toList_iff.mpr (Vector.getElem_mem i.isLt))
    have second := named.2 _ (Vector.mem_toList_iff.mpr (Vector.getElem_mem i.isLt))
    exact ⟨⟨first, second⟩, by simp [Segment.EachName]⟩
  | present => exact ⟨⟨named.1 _ rfl, named.2 _ rfl⟩, by simp⟩
  | field i =>
    obtain ⟨name, first⟩ := named.1 i
    exact ⟨⟨first, (named.2 i).2⟩, by simpa [Segment.EachName] using name⟩
  | slot _ _ left right =>
    have first := named.1.2 _ (List.mem_of_getElem? left)
    have second := named.2.2 _ (List.mem_of_getElem? right)
    exact ⟨⟨first, second⟩, by simpa [Segment.EachName] using first⟩
  -- The other steps go from a value to what it is made of, where there are no names.
  | _ => exact ⟨by simp [EachName, Layout.EachName], by simp⟩

theorem reaches_each_name {n m : Node} {p : Path} (reaches : Reaches n p m)
    (named : n.EachName P) : m.EachName P ∧ ∀ step ∈ p, step.EachName P := by
  induction reaches with
  | here n => exact ⟨named, by simp⟩
  | step holds _ ih =>
    obtain ⟨below, first⟩ := holds_each_name holds named
    obtain ⟨inner, later⟩ := ih below
    exact ⟨inner, List.forall_mem_append.mpr ⟨first, later⟩⟩

end Node

/-- What a comparison reports comes from a clash whose names, and those in the path to it, have
the property that all compared names have. -/
theorem Layout.reported_each_name {α : Type} {_ : Comparable α} (layout : Layout α) {a b : α}
    (left : layout.EachName P a) (right : layout.EachName P b) :
    ∀ d ∈ Comparable.differences a b,
      (∀ step ∈ d.path, step.EachName P) ∧ ∃ n : Node, n.EachName P ∧ n.Clashes d.mismatch := by
  intro d member
  obtain ⟨n, reaches, clash⟩ := layout.located a b d member
  obtain ⟨named, path⟩ := Node.reaches_each_name reaches ⟨left, right⟩
  exact ⟨path, n, named, clash⟩

theorem Description.record_identified {description : Description}
    (valid : description.flaw? = none) {r : Record} (typed : r.OfDescription description) :
    Layout.slots.EachName (isIdentifier · = true) r := by
  obtain ⟨proper, _, fields, _⟩ := description.flaw_none_iff.mp valid
  refine ⟨typed.name ▸ proper, ?_⟩
  intro s member
  obtain ⟨k, found⟩ := List.mem_iff_getElem?.mp member
  obtain ⟨f, declared, slot⟩ := typed.slot_at found
  exact slot.name ▸ (fields f (List.mem_of_getElem? declared)).1

end RecordComparison
