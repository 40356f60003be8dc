import RecordComparison.Proofs.Layout

/-!
What a walk tells its sink. It hands over the differences of the compared pair one by one, seen
from where it started, until the sink stops it, and comes back to the path it started from. The
laws of `Walk.replay` say this of a list of differences; `Layout.replays` says that every
comparison is such a replay of its full report.
-/
namespace RecordComparison
open Comparable (collect differences firstDifference walk)

/-- What a sink was told, and what it answered. -/
structure SinkCall where
  difference : Difference
  answer : Flow
deriving DecidableEq, Repr

namespace Sink

variable {σ : Type}

def logged (sink : Sink σ) : Sink (σ × List SinkCall) where
  record path mismatch state :=
    let (answer, after) := sink.record path mismatch state.1
    (answer, after, state.2 ++ [⟨⟨path, mismatch⟩, answer⟩])

def feed (sink : Sink σ) : List Difference → σ → Flow × σ
  | [], state => (.proceed, state)
  | d :: later, state =>
    match sink.record d.path d.mismatch state with
    | (.proceed, after) => feed sink later after
    | (.stop, after) => (.stop, after)

/-- The calls that `feed` makes: the first one that is answered by a stop is the last one. -/
def heard (sink : Sink σ) : List Difference → σ → List SinkCall
  | [], _ => []
  | d :: later, state =>
    match sink.record d.path d.mismatch state with
    | (.proceed, after) => ⟨d, .proceed⟩ :: heard sink later after
    | (.stop, _) => [⟨d, .stop⟩]

@[simp] theorem feed_single (sink : Sink σ) (d : Difference) (state : σ) :
    sink.feed [d] state = sink.record d.path d.mismatch state := by
  simp only [feed]
  split <;> simp [*]

theorem feed_append (sink : Sink σ) (earlier later : List Difference) (state : σ) :
    sink.feed (earlier ++ later) state =
      match sink.feed earlier state with
      | (.proceed, after) => sink.feed later after
      | (.stop, after) => (.stop, after) := by
  induction earlier generalizing state with
  | nil => rfl
  | cons d earlier ih =>
    simp only [List.cons_append, feed]
    rcases sink.record d.path d.mismatch state with ⟨_ | _, after⟩
    · exact ih after
    · rfl

@[simp] theorem logged_record (sink : Sink σ) (path : Path) (m : Mismatch) (state : σ)
    (log : List SinkCall) :
    sink.logged.record path m (state, log) =
      ((sink.record path m state).1, (sink.record path m state).2,
        log ++ [⟨⟨path, m⟩, (sink.record path m state).1⟩]) := rfl

theorem feed_logged (sink : Sink σ) (ds : List Difference) (state : σ) (log : List SinkCall) :
    sink.logged.feed ds (state, log) =
      ((sink.feed ds state).1, (sink.feed ds state).2, log ++ sink.heard ds state) := by
  induction ds generalizing state log with
  | nil => simp [feed, heard]
  | cons d later ih =>
    simp only [feed, heard, logged_record]
    rcases sink.record d.path d.mismatch state with ⟨_ | _, after⟩
    · simp only [ih, List.append_assoc, List.singleton_append]
    · rfl

theorem feed_stops_iff (sink : Sink σ) (ds : List Difference) (state : σ) :
    (sink.feed ds state).1 = .stop ↔ ∃ call ∈ sink.heard ds state, call.answer = .stop := by
  induction ds generalizing state with
  | nil => simp [feed, heard]
  | cons d later ih =>
    simp only [feed, heard]
    rcases sink.record d.path d.mismatch state with ⟨_ | _, after⟩
    · simp [ih after]
    · simp

@[simp] theorem heard_nil_iff (sink : Sink σ) (ds : List Difference) (state : σ) :
    sink.heard ds state = [] ↔ ds = [] := by
  cases ds with
  | nil => simp [heard]
  | cons d later =>
    simp only [heard]
    rcases sink.record d.path d.mismatch state with ⟨_ | _, after⟩ <;> simp

@[simp] theorem feed_collector (ds found : List Difference) :
    (collector none).feed ds found = (.proceed, found ++ ds) := by
  induction ds generalizing found with
  | nil => simp [feed]
  | cons d later ih =>
    have step : (collector none).record d.path d.mismatch found = (.proceed, found ++ [d]) := rfl
    simp [feed, step, ih]

@[simp] theorem feed_first (ds : List Difference) : (first.feed ds none).2 = ds.head? := by
  cases ds <;> rfl

end Sink

namespace Walk

variable {σ : Type}

def replay (sink : Sink σ) (ds : List Difference) : Walk σ := fun cursor =>
  let (flow, state) := sink.feed (ds.map (.within cursor.path)) cursor.state
  (flow, { cursor with state })

@[simp] theorem replay_single (sink : Sink σ) (m : Mismatch) :
    replay sink [⟨.root, m⟩] = report sink m := by
  funext cursor
  simp only [replay, List.map_cons, List.map_nil, Difference.within, Path.root,
    List.append_nil, Sink.feed_single]
  rfl

@[simp] theorem replay_append (sink : Sink σ) (earlier later : List Difference) :
    replay sink (earlier ++ later) = andThen (replay sink earlier) (replay sink later) := by
  funext cursor
  simp only [replay, andThen, List.map_append, Sink.feed_append]
  rcases sink.feed (earlier.map (.within cursor.path)) cursor.state with ⟨_ | _, after⟩ <;> rfl

@[simp] theorem replay_below (sink : Sink σ) (step : Segment) (ds : List Difference) :
    replay sink (ds.map (.below step)) = under step (replay sink ds) := by
  funext cursor
  have moved : (ds.map (Difference.below step)).map (Difference.within cursor.path) =
      ds.map (Difference.within (cursor.path.push step)) := by
    simp [Difference.within, Difference.below, Path.push]
  simp [replay, under, moved]

end Walk

namespace Comparable

/-- The calls that a walk over a pair makes of its sink. -/
def calls {α σ : Type} [Comparable α] (sink : Sink σ) (a b : α) (cursor : Cursor σ) :
    List SinkCall :=
  (walk sink.logged a b ⟨cursor.path, cursor.state, []⟩).2.state.2

/-- Every walk over a pair of this type is the replay of their differences. -/
def Replays (α : Type) [Comparable α] : Prop :=
  ∀ {σ : Type} (sink : Sink σ) (a b : α), walk sink a b = .replay sink (differences a b)

section Closure

variable {α : Type}

theorem leaf_replays [BEq α] [Leaf α] : Replays α := by
  intro σ sink a b
  simp only [walk, differences]
  split
  · rfl
  · exact (Walk.replay_single sink _).symm

variable [Comparable α]

theorem option_replays (item : Replays α) : Replays (Option α) := by
  intro σ sink a b
  cases a <;> cases b
  case none.none => rfl
  case some.some a b => exact item sink a b
  all_goals exact (Walk.replay_single sink _).symm

theorem items_replay (item : Replays α) {σ : Type} (sink : Sink σ) (i : Nat) (as bs : List α) :
    walkItems sink i as bs = .replay sink (itemDifferences i as bs) := by
  induction as generalizing i bs with
  | nil => cases bs <;> rfl
  | cons a as ih =>
    cases bs with
    | nil => rfl
    | cons b bs =>
      simp [walkItems, itemDifferences, item sink a b, ih]

theorem list_replays (item : Replays α) : Replays (List α) := by
  intro σ sink as bs
  show walkList sink as bs = .replay sink (listDifferences as bs)
  unfold walkList listDifferences
  split
  · exact items_replay item sink 0 as bs
  · exact (Walk.replay_single sink _).symm

theorem fixed_replays (item : Replays α) (n : Nat) : Replays (Vector α n) := by
  intro σ sink as bs
  exact list_replays item sink as.toList bs.toList

end Closure

theorem record_replays {R : Type} (fields : List (Comparable.Field R))
    (parts : ∀ f ∈ fields, Replays f.Part) : @Replays R (.ofFields fields) := by
  intro σ sink a b
  show walkRecord sink fields a b = .replay sink (recordDifferences fields a b)
  induction fields with
  | nil => rfl
  | cons f fields ih =>
    have here := parts f (by simp) sink (f.get a) (f.get b)
    have later := ih fun g member => parts g (by simp [member])
    simp [walkRecord, here, later, recordDifferences]

theorem scalar_replays : Replays Scalar := by
  intro σ sink a b
  cases a <;> cases b
  case bool.bool a b => exact leaf_replays sink a b
  case int.int a b => exact leaf_replays sink a b
  case real.real a b => exact leaf_replays sink a b
  case complex.complex a b => exact leaf_replays sink a b
  case text.text a b => exact leaf_replays sink a b
  all_goals exact (Walk.replay_single sink _).symm

theorem field_value_replays : Replays FieldValue := by
  intro σ sink a b
  cases a <;> cases b
  case scalar.scalar a b => exact scalar_replays sink a b
  case array.array a b => exact list_replays scalar_replays sink a b
  case matrix.matrix a b => exact list_replays (list_replays scalar_replays) sink a b
  case tensor.tensor a b =>
    exact list_replays (list_replays (list_replays scalar_replays)) sink a b
  all_goals exact (Walk.replay_single sink _).symm

theorem slots_replay {σ : Type} (sink : Sink σ) (as bs : List Slot) :
    Record.walkSlots sink as bs = .replay sink (Record.slotDifferences as bs) := by
  induction as generalizing bs with
  | nil => cases bs <;> rfl
  | cons a as ih =>
    cases bs with
    | nil => rfl
    | cons b bs =>
      have value := option_replays field_value_replays sink a.value b.value
      simp only [Record.walkSlots, Record.slotDifferences, ih, Walk.replay_append,
        Walk.replay_below]
      split
      · rw [value]
      · rw [Walk.replay_single]

theorem slotted_record_replays : Replays Record := by
  intro σ sink a b
  show Record.walk sink a b = .replay sink (Record.differences a b)
  unfold Record.walk Record.differences
  split
  · exact (Walk.replay_single sink _).symm
  split
  · exact (Walk.replay_single sink _).symm
  · exact slots_replay sink a.slots b.slots

end Comparable

namespace Layout
open Comparable

variable {α : Type} {_ : Comparable α}

theorem replays (layout : Layout α) : Replays α := by
  induction layout with
  | leaf type => exact leaf_replays
  | list item ih => exact list_replays ih
  | fixed item n ih => exact fixed_replays ih n
  | option item ih => exact option_replays ih
  | record fields part ih =>
    exact record_replays fields (List.forall_mem_iff_forall_getElem.mpr fun i h => ih ⟨i, h⟩)
  | scalar => exact scalar_replays
  | fieldValue => exact field_value_replays
  | slots => exact slotted_record_replays

theorem logged_walk_same (layout : Layout α) (a b : α) (start : Path) {σ : Type} (sink : Sink σ)
    (state : σ) (log : List SinkCall) :
    walk sink.logged a b ⟨start, state, log⟩ =
      ((walk sink a b ⟨start, state⟩).1, ⟨(walk sink a b ⟨start, state⟩).2.path,
        (walk sink a b ⟨start, state⟩).2.state,
        log ++ sink.heard ((differences a b).map (.within start)) state⟩) := by
  simp only [layout.replays sink.logged a b, layout.replays sink a b, Walk.replay,
    Sink.feed_logged]

theorem calls_are_heard (layout : Layout α) (a b : α) (start : Path) {σ : Type} (sink : Sink σ)
    (state : σ) :
    calls sink a b ⟨start, state⟩ =
      sink.heard ((differences a b).map (.within start)) state := by
  rw [calls, layout.logged_walk_same, List.nil_append]

theorem walk_from_root (layout : Layout α) (a b : α) {σ : Type} (sink : Sink σ) (state : σ) :
    (walk sink a b ⟨.root, state⟩).2.state = (sink.feed (differences a b) state).2 := by
  have same : (differences a b).map (.within .root) = differences a b := List.map_id _
  rw [layout.replays sink a b, Walk.replay, same]

theorem collect_everything (layout : Layout α) (a b : α) : collect none a b = differences a b := by
  rw [collect, layout.walk_from_root, Sink.feed_collector, List.nil_append]

theorem first_is_head (layout : Layout α) (a b : α) :
    firstDifference a b = (differences a b).head? := by
  rw [firstDifference, layout.walk_from_root, Sink.feed_first]

/-- A walk makes the calls that feeding its sink with the full report makes, up to the first
one that is answered by a stop, has been stopped if one of them was, and comes back to its
starting path. -/
theorem walk_replays_report (layout : Layout α) (a b : α) (start : Path) {σ : Type}
    (sink : Sink σ) (state : σ) :
    let due := (collect none a b).map (.within start)
    walk sink a b ⟨start, state⟩ =
        ((sink.feed due state).1, ⟨start, (sink.feed due state).2⟩) ∧
      calls sink a b ⟨start, state⟩ = sink.heard due state ∧
      ((walk sink a b ⟨start, state⟩).1 = .stop ↔
        ∃ call ∈ calls sink a b ⟨start, state⟩, call.answer = .stop) := by
  intro due
  have full : due = (differences a b).map (.within start) := by
    rw [← layout.collect_everything]
  have run : walk sink a b ⟨start, state⟩ =
      ((sink.feed due state).1, ⟨start, (sink.feed due state).2⟩) := by
    rw [layout.replays sink a b, full]
    rfl
  have told : calls sink a b ⟨start, state⟩ = sink.heard due state := by
    rw [layout.calls_are_heard, full]
  refine ⟨run, told, ?_⟩
  rw [run, told]
  exact sink.feed_stops_iff due state

end Layout

end RecordComparison
