import RecordComparison.Record

/-!
Reports of two lists that are compared position by position. The items of lists, the fields of
a record and the slots of two records are all reported this way, each pair below a step of its
own, and `sideBySide` is what these reports have in common.
-/
namespace RecordComparison
open Comparable (differences)

variable {α β : Type _}

/-- The reports of the pairs of two lists, the first of which stands at position `i`. -/
def sideBySide (step : Nat → α → Segment) (report : α → β → List Difference) (i : Nat) :
    List α → List β → List Difference
  | a :: as, b :: bs =>
    (report a b).map (.below (step i a)) ++ sideBySide step report (i + 1) as bs
  | _, _ => []

theorem items_side_by_side {γ : Type} [Comparable γ] (i : Nat) (as bs : List γ) :
    Comparable.itemDifferences i as bs =
      sideBySide (fun k _ => .index k) differences i as bs := by
  induction as generalizing i bs with
  | nil => rfl
  | cons a as ih =>
    cases bs with
    | nil => rfl
    | cons b bs => simp only [Comparable.itemDifferences, sideBySide, ih]

theorem fields_side_by_side {R : Type} (i : Nat) (fields : List (Comparable.Field R)) (r s : R) :
    Comparable.recordDifferences fields r s =
      sideBySide (fun _ f => .field f.name) (fun f _ => differences (f.get r) (f.get s)) i
        fields fields := by
  induction fields generalizing i with
  | nil => rfl
  | cons f fields ih =>
    simp only [sideBySide, ← ih]
    rfl

def Slot.differences (a b : Slot) : List Difference :=
  if a.name = b.name then Comparable.differences a.value b.value
  else [⟨.root, .kind a.name b.name⟩]

theorem slots_side_by_side (i : Nat) (as bs : List Slot) :
    Record.slotDifferences as bs =
      sideBySide (fun _ s => .field s.name) Slot.differences i as bs := by
  induction as generalizing i bs with
  | nil => rfl
  | cons a as ih =>
    cases bs with
    | nil => rfl
    | cons b bs =>
      simp only [Record.slotDifferences, sideBySide, ih (i + 1)]
      rfl

def Difference.inField (name : String) (d : Difference) : Bool :=
  d.path.head? == some (.field name)

theorem Difference.below_in_field (d : Difference) (name other : String) :
    (d.below (.field name)).inField other = decide (name = other) := by
  simp [inField, below, Bool.beq_eq_decide_eq]

variable (step : Nat → α → Segment) (report : α → β → List Difference)

theorem mem_side_by_side (d : Difference) (i : Nat) (as : List α) (bs : List β) :
    d ∈ sideBySide step report i as bs ↔
      ∃ (k : Nat) (a : α) (b : β), as[k]? = some a ∧ bs[k]? = some b ∧
        ∃ e ∈ report a b, d = e.below (step (i + k) a) := by
  induction as generalizing i bs with
  | nil => simp [sideBySide]
  | cons a as ih =>
    cases bs with
    | nil => simp [sideBySide]
    | cons b bs =>
      simp only [sideBySide, List.mem_append, List.mem_map, ih]
      constructor
      · rintro (⟨e, member, rfl⟩ | ⟨k, x, y, left, right, e, member, rfl⟩)
        · exact ⟨0, a, b, rfl, rfl, e, member, rfl⟩
        · exact ⟨k + 1, x, y, left, right, e, member, by rw [Nat.add_right_comm]; rfl⟩
      · rintro ⟨k, x, y, left, right, e, member, rfl⟩
        cases k with
        | zero =>
          obtain rfl : a = x := by simpa using left
          obtain rfl : b = y := by simpa using right
          exact Or.inl ⟨e, member, rfl⟩
        | succ k =>
          refine Or.inr ⟨k, x, y, by simpa using left, by simpa using right, e, member, ?_⟩
          rw [Nat.add_right_comm]
          rfl

theorem side_by_side_single (i : Nat) (as : List α) (bs : List β) (k : Nat) (a : α) (b : β)
    (left : as[k]? = some a) (right : bs[k]? = some b)
    (silent : ∀ (j : Nat) (x : α) (y : β), j ≠ k → as[j]? = some x → bs[j]? = some y →
      report x y = []) :
    sideBySide step report i as bs = (report a b).map (.below (step (i + k) a)) := by
  induction as generalizing i bs k with
  | nil => simp at left
  | cons x as ih =>
    cases bs with
    | nil => simp at right
    | cons y bs =>
      cases k with
      | zero =>
        obtain rfl : x = a := by simpa using left
        obtain rfl : y = b := by simpa using right
        have rest : sideBySide step report (i + 1) as bs = [] := by
          rw [List.eq_nil_iff_forall_not_mem]
          intro d member
          obtain ⟨j, u, v, atLeft, atRight, e, reported, _⟩ :=
            (mem_side_by_side step report d _ as bs).mp member
          rw [silent (j + 1) u v (by omega) (by simpa using atLeft) (by simpa using atRight)]
            at reported
          simp at reported
        simp only [sideBySide, rest, List.append_nil, Nat.add_zero]
      | succ k =>
        have here : report x y = [] := silent 0 x y (by omega) rfl rfl
        have later := ih (i + 1) bs k (by simpa using left) (by simpa using right)
          fun j u v other atLeft atRight =>
            silent (j + 1) u v (by omega) (by simpa using atLeft) (by simpa using atRight)
        simp only [sideBySide, here, later, List.map_nil, List.nil_append]
        rw [Nat.add_right_comm]
        rfl

end RecordComparison
