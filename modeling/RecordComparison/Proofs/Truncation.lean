import RecordComparison.Command.Reports
import RecordComparison.Proofs.Agreement

/-!
What a comparison reports when it does not report everything. A limit keeps the first differences
of the full report, and so does a comparison that stops at the first one; what is reported is
always the beginning of the full report. Main statement: `limits_truncate`.
-/
namespace RecordComparison
open Comparable (collect differences equal firstDifference walk)

namespace Sink

variable (n : Nat)

theorem record_next (given : List Difference) (d : Difference) :
    (collector (some n)).record d.path d.mismatch (given.take n) =
      (if n ≤ (given ++ [d]).length then .stop else .proceed, (given ++ [d]).take n) := by
  have length : (given.take n).length = min n given.length := List.length_take
  by_cases full : n ≤ given.length
  · have kept : (given ++ [d]).take n = given.take n := List.take_append_of_le_length full
    have answer : n ≤ given.length + 1 := Nat.le_succ_of_le full
    simp [collector, Sink.full, length, full, kept, answer]
  · have all : given.take n = given := List.take_of_length_le (by omega)
    have more : (given ++ [d]).take n = given ++ [d] := List.take_of_length_le (by simp; omega)
    simp [collector, Sink.full, all, more, full]

/-- A collector that is fed ends with the first differences of all, and stops if it is full then
and was called at all. -/
theorem feed_limited (given ds : List Difference) :
    (collector (some n)).feed ds (given.take n) =
      (if 0 < ds.length ∧ n ≤ (given ++ ds).length then .stop else .proceed,
        (given ++ ds).take n) := by
  induction ds generalizing given with
  | nil => simp [feed]
  | cons d later ih =>
    have rest := ih (given ++ [d])
    have joined : given ++ [d] ++ later = given ++ d :: later := by simp
    rw [joined] at rest
    rw [feed, record_next]
    by_cases full : n ≤ (given ++ [d]).length
    · have kept : (given ++ d :: later).take n = (given ++ [d]).take n := by
        rw [← joined, List.take_append_of_le_length full]
      have answer : 0 < (d :: later).length ∧ n ≤ (given ++ d :: later).length := by
        simp only [List.length_append, List.length_cons, List.length_nil] at full ⊢
        omega
      simp only [if_pos full, kept, if_pos answer]
    · have answer : (0 < later.length ∧ n ≤ (given ++ d :: later).length) ↔
          0 < (d :: later).length ∧ n ≤ (given ++ d :: later).length := by
        simp only [List.length_append, List.length_cons, List.length_nil] at full ⊢
        omega
      simp only [if_neg full, rest, answer]

def handAll {σ : Type} (sink : Sink σ) (ds : List Difference) (state : σ) : σ :=
  ds.foldl (fun state d => (sink.record d.path d.mismatch state).2) state

theorem hand_all_limited (given ds : List Difference) :
    (collector (some n)).handAll ds (given.take n) = (given ++ ds).take n := by
  induction ds generalizing given with
  | nil => rw [List.append_nil]; rfl
  | cons d later ih =>
    have rest := ih (given ++ [d])
    rw [List.append_assoc, List.singleton_append] at rest
    rw [← rest, handAll, List.foldl_cons, record_next]
    rfl

theorem hand_all_unlimited (given ds : List Difference) :
    (collector none).handAll ds given = given ++ ds := by
  induction ds generalizing given with
  | nil => rw [List.append_nil]; rfl
  | cons d later ih =>
    have rest := ih (given ++ [d])
    rwa [List.append_assoc, List.singleton_append] at rest

end Sink

namespace Layout

variable {α : Type} {_ : Comparable α}

theorem walk_limited (layout : Layout α) (n : Nat) (start : Path) (a b : α) :
    walk (.collector (some n)) a b ⟨start, []⟩ =
      (if max n 1 ≤ (differences a b).length then .stop else .proceed,
        ⟨start, ((differences a b).take n).map (.within start)⟩) := by
  have fed := Sink.feed_limited n [] ((differences a b).map (.within start))
  have many : (0 < (differences a b).length ∧ n ≤ (differences a b).length) ↔
      max n 1 ≤ (differences a b).length := by omega
  simp only [List.take_nil, List.nil_append, List.length_map, many] at fed
  simp only [layout.replays, Walk.replay, fed, List.map_take]

theorem collect_limited (layout : Layout α) (n : Nat) (a b : α) :
    collect (some n) a b = (differences a b).take n := by
  have same : ((differences a b).take n).map (.within .root) = (differences a b).take n :=
    List.map_id _
  rw [collect, layout.walk_limited, same]

end Layout

/-- A collector keeps the first differences of all that it is given, as many as its limit allows,
and wants no more once it is full, however often it is called; without a limit it keeps all and
always wants more. So a walk with a limit finds the first differences of the full report, seen
from where it started, and is stopped exactly if there are as many of them as the limit, and one
at least; what is collected is the beginning of the full report, and the first difference is its
head. -/
theorem limits_truncate :
    (∀ (n : Nat) (given : List Difference) (d : Difference),
      let (flow, found) := (Sink.collector (some n)).record d.path d.mismatch
        ((Sink.collector (some n)).handAll given [])
      found = (given ++ [d]).take n ∧ (flow = .stop ↔ n ≤ found.length)) ∧
    (∀ (given : List Difference) (d : Difference),
      (Sink.collector none).record d.path d.mismatch ((Sink.collector none).handAll given []) =
        (.proceed, given ++ [d])) ∧
    ∀ {α : Type} {_ : Comparable α}, Layout α → ∀ a b : α,
      (∀ (n : Nat) (start : Path), walk (.collector (some n)) a b ⟨start, []⟩ =
        (if max n 1 ≤ (collect none a b).length then .stop else .proceed,
          ⟨start, ((collect none a b).take n).map (.within start)⟩)) ∧
      (∀ n : Nat, collect (some n) a b = (collect none a b).take n) ∧
      collect none a b = differences a b ∧
      firstDifference a b = (collect none a b).head? := by
  refine ⟨?_, ?_, ?_⟩
  · intro n given d
    have kept := Sink.hand_all_limited n [] given
    rw [List.take_nil, List.nil_append] at kept
    rw [kept, Sink.record_next]
    refine ⟨rfl, ?_⟩
    rw [List.length_take, List.length_append, List.length_singleton]
    split <;> simp only [true_iff, reduceCtorEq, false_iff] <;> omega
  · intro given d
    rw [Sink.hand_all_unlimited, List.nil_append]
    rfl
  · intro α _ layout a b
    rw [layout.collect_everything]
    exact ⟨fun n start => layout.walk_limited n start a b, fun n => layout.collect_limited n a b,
      rfl, layout.first_is_head a b⟩

namespace CompareOptions

variable (options : CompareOptions) (settings : Settings) (a b : Record)

def reach (count : Nat) : Nat :=
  match options.limit.or settings.limit with
  | some n => min n count
  | none => if options.all || settings.all then count else 1

theorem reported_is_beginning :
    options.reported settings a b =
      (differences a b).take (options.reach settings (differences a b).length) := by
  rw [reported, reach]
  cases options.limit.or settings.limit with
  | some n =>
    simp only [Option.isSome_some, Bool.or_true, if_true, Layout.slots.collect_limited]
    rw [← List.take_take, List.take_length]
  | none =>
    simp only [Option.isSome_none, Bool.or_false]
    split
    · rw [Layout.slots.collect_everything, List.take_length]
    · rw [Layout.slots.first_is_head]
      cases differences a b <;> simp

theorem reach_positive (room : options.limit.or settings.limit ≠ some 0) {count : Nat}
    (many : 0 < count) : 0 < options.reach settings count := by
  rw [reach]
  rcases limit : options.limit.or settings.limit with _ | _ | n
  · simp only
    split
    · exact many
    · exact Nat.one_pos
  · exact absurd limit room
  · exact Nat.lt_min.mpr ⟨Nat.succ_pos n, many⟩

theorem nothing_reported_iff
    (room : options.limit.or settings.limit ≠ some 0 ∨ equal a b = true) :
    options.reported settings a b = [] ↔ equal a b = true := by
  rw [Layout.slots.agrees a b] at room ⊢
  rw [reported_is_beginning, List.take_eq_nil_iff]
  refine ⟨?_, .inr⟩
  rintro (unreached | same)
  · rcases room with room | same
    · have few : ¬ 0 < (differences a b).length := by
        intro many
        have positive := options.reach_positive settings room many
        omega
      exact List.eq_nil_of_length_eq_zero (Nat.eq_zero_of_not_pos few)
    · exact same
  · exact same

end CompareOptions

end RecordComparison
