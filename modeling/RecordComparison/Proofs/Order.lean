import Mathlib.Data.List.Nodup
import RecordComparison.Proofs.Location
import RecordComparison.Proofs.Replay

/-!
The order of a report. Each step of a path has a place: the position of an item in its list, or
the position at which a record declares a field. Of two paths that part, the one whose step has
the smaller place comes first. A report lists its paths in this order, and no reported path leads
into another, so the first difference is the one at the least place of all. Main statement:
`Layout.report_in_order`.
-/
namespace RecordComparison
open Comparable (collect differences firstDifference)

def Segment.place (names : List String) : Segment → Nat
  | field name => names.idxOf name
  | index position => position

namespace Path

/-- The place of the first step, and then the places inside the part to which it leads. -/
def placesBy (names : List String) (inside : Nat → Path → List Nat) : Path → List Nat
  | [] => []
  | step :: p => step.place names :: inside (step.place names) p

def itemPlaces : Path → List Nat := List.map (Segment.place [])

def noPlaces (_ : Path) : List Nat := []

end Path

namespace Layout

/-- In each record inside the value, no two fields have the same name. -/
def DistinctNames : {α : Type} → {_ : Comparable α} → Layout α → α → Prop
  | _, _, .leaf _, _ => True
  | _, _, .list item, as => ∀ a ∈ as, item.DistinctNames a
  | _, _, .fixed item _, as => ∀ a ∈ as.toList, item.DistinctNames a
  | _, _, .option item, a? => ∀ a ∈ a?, item.DistinctNames a
  | _, _, .record fields part, r =>
    (fields.map (·.name)).Nodup ∧
      ∀ i : Fin fields.length, (part i).DistinctNames ((fields.get i).get r)
  | _, _, .scalar, _ => True
  | _, _, .fieldValue, _ => True
  | _, _, .slots, r => (r.slots.map (·.name)).Nodup

/-- The places of the steps of a path that leads into the value. A value that may be absent adds
no step. -/
def places : {α : Type} → {_ : Comparable α} → Layout α → α → Path → List Nat
  | _, _, .leaf _, _ => Path.noPlaces
  | _, _, .list item, as => Path.placesBy [] fun i => as[i]?.elim Path.noPlaces item.places
  | _, _, .fixed item _, as =>
    Path.placesBy [] fun i => as.toList[i]?.elim Path.noPlaces item.places
  | _, _, .option item, a? => a?.elim Path.noPlaces item.places
  | _, _, .record fields part, r =>
    Path.placesBy (fields.map (·.name)) fun i =>
      if known : i < fields.length then
        (part ⟨i, known⟩).places ((fields.get ⟨i, known⟩).get r)
      else Path.noPlaces
  | _, _, .scalar, _ => Path.noPlaces
  | _, _, .fieldValue, _ => Path.itemPlaces
  | _, _, .slots, r => Path.placesBy (r.slots.map (·.name)) fun _ => Path.itemPlaces

/-- The first path comes before the second one: at the first step where their places differ, its
place is smaller. -/
def Precedes {α : Type} {_ : Comparable α} (layout : Layout α) (a : α) (p q : Path) : Prop :=
  layout.places a p < layout.places a q

end Layout

def Path.Apart (p q : Path) : Prop := ¬ p <+: q ∧ ¬ q <+: p

theorem Path.Apart.ne {p q : Path} (apart : p.Apart q) : p ≠ q := by
  rintro rfl
  exact apart.1 (List.prefix_refl p)

def InOrder (places : Path → List Nat) (ds : List Difference) : Prop :=
  ds.Pairwise fun d e => places d.path < places e.path ∧ d.path.Apart e.path

namespace InOrder

section Steps

variable {names : List String} {inside : Nat → Path → List Nat}

theorem nil {places : Path → List Nat} : InOrder places [] := List.Pairwise.nil

theorem single {places : Path → List Nat} (d : Difference) : InOrder places [d] :=
  List.pairwise_singleton _ d

theorem below (step : Segment) {ds : List Difference}
    (ordered : InOrder (inside (step.place names)) ds) :
    InOrder (Path.placesBy names inside) (ds.map (.below step)) := by
  refine List.pairwise_map.mpr (List.Pairwise.imp ?_ ordered)
  rintro d e ⟨less, first, second⟩
  refine ⟨List.cons_lt_cons_self.mpr less, ?_, ?_⟩
  · exact fun leads => first (List.cons_prefix_cons.mp leads).2
  · exact fun leads => second (List.cons_prefix_cons.mp leads).2

theorem below_later {s t : Segment} (less : s.place names < t.place names) (p q : Path) :
    Path.placesBy names inside (s :: p) < Path.placesBy names inside (t :: q) ∧
      Path.Apart (s :: p) (t :: q) := by
  have other : s ≠ t := by
    rintro rfl
    exact Nat.lt_irrefl _ less
  refine ⟨List.cons_lt_cons_iff.mpr (.inl less), ?_, ?_⟩
  · exact fun leads => other (List.cons_prefix_cons.mp leads).1
  · exact fun leads => other (List.cons_prefix_cons.mp leads).1.symm

variable {α β : Type _} {step : Nat → α → Segment} {report : α → β → List Difference}

theorem side_by_side_from (i : Nat) (as : List α) (bs : List β)
    (placed : ∀ k a, as[k]? = some a → (step (i + k) a).place names = i + k)
    (parts : ∀ k a b, as[k]? = some a → bs[k]? = some b → InOrder (inside (i + k)) (report a b)) :
    InOrder (Path.placesBy names inside) (sideBySide step report i as bs) := by
  induction as generalizing i bs with
  | nil => exact nil
  | cons a as ih =>
    cases bs with
    | nil => exact nil
    | cons b bs =>
      have first : (step i a).place names = i := placed 0 a rfl
      have others (k : Nat) (x : α) (left : as[k]? = some x) :
          (step (i + 1 + k) x).place names = i + 1 + k := by
        rw [Nat.add_right_comm]
        exact placed (k + 1) x (by simpa using left)
      have later := ih (i + 1) bs others fun k x y left right => by
        rw [Nat.add_right_comm]
        exact parts (k + 1) x y (by simpa using left) (by simpa using right)
      refine List.pairwise_append.mpr ⟨below _ ?_, later, ?_⟩
      · rw [first]
        exact parts 0 a b rfl rfl
      · intro d one e other
        obtain ⟨d, _, rfl⟩ := List.mem_map.mp one
        obtain ⟨k, x, _, left, _, e, _, rfl⟩ := (mem_side_by_side _ _ e _ as bs).mp other
        refine below_later ?_ d.path e.path
        rw [first, others k x left]
        omega

theorem side_by_side (as : List α) (bs : List β)
    (placed : ∀ k a, as[k]? = some a → (step k a).place names = k)
    (parts : ∀ k a b, as[k]? = some a → InOrder (inside k) (report a b)) :
    InOrder (Path.placesBy names inside) (sideBySide step report 0 as bs) := by
  refine side_by_side_from 0 as bs ?_ ?_
  · simpa only [Nat.zero_add] using placed
  · simpa only [Nat.zero_add] using fun k a b left _ => parts k a b left

end Steps

section Closure

variable {α : Type}

theorem leaf [BEq α] [Leaf α] (places : Path → List Nat) (a b : α) :
    InOrder places (differences a b) := by
  simp only [differences]
  split
  · exact nil
  · exact single _

variable [Comparable α]

theorem list {inside : Nat → Path → List Nat} {as bs : List α}
    (items : ∀ k a b, as[k]? = some a → InOrder (inside k) (differences a b)) :
    InOrder (Path.placesBy [] inside) (differences as bs) := by
  show InOrder _ (Comparable.listDifferences as bs)
  rw [Comparable.listDifferences]
  split
  · rw [items_side_by_side]
    exact side_by_side as bs (fun _ _ _ => rfl) items
  · exact single _

theorem option {places : Path → List Nat} {a b : Option α}
    (items : ∀ x ∈ a, ∀ y, InOrder places (differences x y)) :
    InOrder places (differences a b) := by
  cases a <;> cases b
  case none.none => exact nil
  case some.some a b => exact items a rfl b
  all_goals exact single _

theorem nested (items : ∀ a b : α, InOrder Path.itemPlaces (differences a b)) (as bs : List α) :
    InOrder Path.itemPlaces (differences as bs) := by
  have same : Path.itemPlaces = Path.placesBy [] fun _ => Path.itemPlaces := by
    funext p
    cases p <;> rfl
  rw [same]
  exact list fun _ a b _ => items a b

end Closure

theorem scalar (places : Path → List Nat) (a b : Scalar) : InOrder places (differences a b) := by
  cases a <;> cases b
  case bool.bool a b => exact leaf places a b
  case int.int a b => exact leaf places a b
  case real.real a b => exact leaf places a b
  case complex.complex a b => exact leaf places a b
  case text.text a b => exact leaf places a b
  all_goals exact single _

theorem field_value (a b : FieldValue) : InOrder Path.itemPlaces (differences a b) := by
  have leaf := scalar Path.itemPlaces
  cases a <;> cases b
  case scalar.scalar a b => exact leaf a b
  case array.array a b => exact nested leaf a b
  case matrix.matrix a b => exact nested (nested leaf) a b
  case tensor.tensor a b => exact nested (nested (nested leaf)) a b
  all_goals exact single _

theorem slot (a b : Slot) : InOrder Path.itemPlaces (a.differences b) := by
  rw [Slot.differences]
  split
  · exact option fun x _ y => field_value x y
  · exact single _

end InOrder

theorem field_placed {R : Type _} (name : R → String) {fields : List R}
    (distinct : (fields.map name).Nodup) (k : Nat) (f : R) (found : fields[k]? = some f) :
    (Segment.field (name f)).place (fields.map name) = k := by
  have here : (fields.map name)[k]? = some (name f) := by rw [List.getElem?_map, found]; rfl
  obtain ⟨inside, same⟩ := List.getElem?_eq_some_iff.mp here
  rw [Segment.place, ← same]
  exact distinct.idxOf_getElem k inside

namespace Layout
open Node

variable {α : Type} {_ : Comparable α}

theorem differences_in_order (layout : Layout α) (a b : α) (names : layout.DistinctNames a) :
    InOrder (layout.places a) (Comparable.differences a b) := by
  induction layout with
  | leaf type => exact .leaf _ a b
  | list item ih =>
    refine .list fun k x y found => ?_
    rw [found]
    exact ih x y (names x (List.mem_of_getElem? found))
  | fixed item n ih =>
    show InOrder _ (Comparable.differences a.toList b.toList)
    refine .list fun k x y found => ?_
    rw [found]
    exact ih x y (names x (List.mem_of_getElem? found))
  | option item ih =>
    refine .option fun x here y => ?_
    obtain rfl := Option.mem_def.mp here
    exact ih x y (names x rfl)
  | record fields part ih =>
    show InOrder _ (Comparable.recordDifferences fields a b)
    rw [fields_side_by_side 0]
    refine .side_by_side fields fields (field_placed Comparable.Field.name names.1) ?_
    intro k f g found
    obtain ⟨inside, rfl⟩ := List.getElem?_eq_some_iff.mp found
    rw [dif_pos inside]
    exact ih ⟨k, inside⟩ _ _ (names.2 ⟨k, inside⟩)
  | scalar => exact .scalar _ a b
  | fieldValue => exact .field_value a b
  | slots =>
    show InOrder _ (Record.differences a b)
    rw [Record.differences]
    split
    · exact .single _
    split
    · exact .single _
    rw [slots_side_by_side 0]
    exact .side_by_side a.slots b.slots (field_placed Slot.name names) fun _ s t _ => .slot s t

theorem Precedes.asymm {layout : Layout α} {a : α} {p q : Path} (before : layout.Precedes a p q) :
    ¬ layout.Precedes a q p :=
  List.lt_asymm before

theorem distinct_paths (layout : Layout α) (a b : α) (names : layout.DistinctNames a) :
    ((Comparable.differences a b).map (·.path)).Nodup :=
  List.pairwise_map.mpr ((layout.differences_in_order a b names).imp fun placed => placed.2.ne)

theorem first_is_least (layout : Layout α) (a b : α) (names : layout.DistinctNames a)
    (d : Difference) :
    firstDifference a b = some d ↔
      (∃ n, Reaches (values layout a b) d.path n ∧ Clashes n d.mismatch) ∧
      ∀ p m n, Reaches (values layout a b) p n → Clashes n m →
        p = d.path ∨ layout.Precedes a d.path p := by
  have ordered := layout.differences_in_order a b names
  have clash (p : Path) (m : Mismatch) := layout.mem_differences_iff a b p m
  rw [layout.first_is_head, ← clash]
  constructor
  · intro head
    obtain ⟨later, listed⟩ := List.head?_eq_some_iff.mp head
    rw [listed] at ordered ⊢
    refine ⟨List.mem_cons_self, fun p m n reaches clashes => ?_⟩
    have member : ⟨p, m⟩ ∈ d :: later := listed ▸ (clash p m).mpr ⟨n, reaches, clashes⟩
    rcases List.mem_cons.mp member with rfl | after
    · exact .inl rfl
    · exact .inr ((List.pairwise_cons.mp ordered).1 _ after).1
  · rintro ⟨member, least⟩
    cases listed : Comparable.differences a b with
    | nil => simp [listed] at member
    | cons e later =>
      have first : e ∈ Comparable.differences a b := listed ▸ List.mem_cons_self
      obtain ⟨n, reaches, clashes⟩ := (clash e.path e.mismatch).mp first
      rcases least e.path e.mismatch n reaches clashes with same | before
      · rw [List.inj_on_of_nodup_map (layout.distinct_paths a b names) first member same]
        rfl
      · rw [listed] at member ordered
        rcases List.mem_cons.mp member with rfl | after
        · rfl
        · exact absurd ((List.pairwise_cons.mp ordered).1 d after).1 before.asymm

/-- A report lists its paths in the order of the places of their steps; no two of them are the
same, and none leads into what is at the end of another. The first difference is at the least path
at which the compared pair disagrees. -/
theorem report_in_order (layout : Layout α) (a b : α) (names : layout.DistinctNames a) :
    let paths := (collect none a b).map (·.path)
    paths.Nodup ∧ paths.Pairwise (fun p q => ¬ p <+: q ∧ ¬ q <+: p) ∧
      paths.Pairwise (layout.Precedes a) ∧
      ∀ d, firstDifference a b = some d ↔
        (∃ n, Reaches (values layout a b) d.path n ∧ Clashes n d.mismatch) ∧
        ∀ p m n, Reaches (values layout a b) p n → Clashes n m →
          p = d.path ∨ layout.Precedes a d.path p := by
  have ordered := layout.differences_in_order a b names
  intro paths
  have listed : paths = (Comparable.differences a b).map (·.path) :=
    congrArg _ (layout.collect_everything a b)
  rw [listed, List.pairwise_map, List.pairwise_map]
  exact ⟨layout.distinct_paths a b names, ordered.imp fun placed => placed.2,
    ordered.imp fun placed => placed.1, layout.first_is_least a b names⟩

theorem order_of_four_differences :
    let layout : Layout (List (Option Record)) := .list (.option .slots)
    let old : Record :=
      ⟨"beam", [⟨"n", some (.scalar (.int 3))⟩, ⟨"grid", some (.matrix [[.int 1, .int 2]])⟩]⟩
    let new : Record :=
      ⟨"beam", [⟨"n", none⟩, ⟨"grid", some (.matrix [[.int 1, .text "2"]])⟩]⟩
    let a := [some old, some old, none, some old]
    let b := [some old, some new, some new, none]
    let paths : List Path := [[.index 1, .field "n"],
      [.index 1, .field "grid", .index 0, .index 1], [.index 2], [.index 3]]
    layout.DistinctNames a ∧ (collect none a b).map (·.path) = paths ∧
      paths.Pairwise (layout.Precedes a) ∧
      firstDifference a b = some ⟨[.index 1, .field "n"], .presence true false⟩ := by
  intro layout old new a b paths
  have names : layout.DistinctNames a := by
    have each : ∀ r? ∈ a, r? = some old ∨ r? = none := by simp [a]
    intro r? member r here
    rcases each r? member with rfl | rfl
    · obtain rfl := Option.some.inj here
      show (old.slots.map (·.name)).Nodup
      decide
    · contradiction
  have listed : (collect none a b).map (·.path) = paths := by decide +kernel
  obtain ⟨_, _, ordered, _⟩ := layout.report_in_order a b names
  exact ⟨names, listed, listed ▸ ordered, by decide +kernel⟩

end Layout

end RecordComparison
