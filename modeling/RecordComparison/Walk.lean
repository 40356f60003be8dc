import RecordComparison.Sink

/-!
Walks over a pair of values. A walk moves a cursor, which holds the current path and the
sink's state, and ends when the pair is exhausted or the sink has had enough.
-/
namespace RecordComparison

structure Cursor (σ : Type) where
  path : Path
  state : σ

abbrev Walk (σ : Type) := Cursor σ → Flow × Cursor σ

namespace Walk

variable {σ : Type}

def done : Walk σ := fun cursor => (.proceed, cursor)

def report (sink : Sink σ) (mismatch : Mismatch) : Walk σ := fun cursor =>
  let (flow, state) := sink.record cursor.path mismatch cursor.state
  (flow, { cursor with state })

/-- Walks below `step` and comes back, whether or not the sink stopped the walk there. -/
def under (step : Segment) (inner : Walk σ) : Walk σ := fun cursor =>
  let (flow, after) := inner { cursor with path := cursor.path.push step }
  (flow, { after with path := after.path.parent })

def andThen (earlier later : Walk σ) : Walk σ := fun cursor =>
  match earlier cursor with
  | (.proceed, after) => later after
  | (.stop, after) => (.stop, after)

end Walk

end RecordComparison
