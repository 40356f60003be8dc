import RecordComparison.Difference

/-!
Receivers of differences. A sink keeps a state, takes one difference at a time and answers
whether it wants more. `Sink.first` keeps one difference, `Sink.collector` keeps a list.
-/
namespace RecordComparison

inductive Flow where
  | proceed
  | stop
deriving DecidableEq, Repr

structure Sink (σ : Type) where
  record : Path → Mismatch → σ → Flow × σ

namespace Sink

/-- Wants one difference; fed again, it keeps the later one. -/
def first : Sink (Option Difference) where
  record path mismatch _ := (.stop, some ⟨path, mismatch⟩)

def full (limit : Option Nat) (count : Nat) : Bool :=
  match limit with
  | some n => decide (n ≤ count)
  | none => false

def collector (limit : Option Nat) : Sink (List Difference) where
  record path mismatch found :=
    if full limit found.length then (.stop, found)
    else
      let found := found ++ [⟨path, mismatch⟩]
      (if full limit found.length then .stop else .proceed, found)

end Sink

end RecordComparison
