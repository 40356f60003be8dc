import RecordComparison.Binary.Rounding

/-!
The shortest decimal of a floating-point value: the fewest significant digits that read back
as the value, and of two such decimals the nearer one. Which way an exact tie goes is left
to the caller.
-/
namespace RecordComparison

structure Decimal where
  coefficient : Nat
  exponent : Int
deriving DecidableEq, Repr

inductive Tie where
  | even
  | up
deriving DecidableEq

def digitCount (n : Nat) : Nat := (toString n).length

/-- The exponent `k` with `10 ^ k ≤ numerator / denominator < 10 ^ (k + 1)`. -/
def decimalExponent (numerator denominator : Nat) : Int :=
  if denominator ≤ numerator then digitCount (numerator / denominator) - 1
  else - (digitCount ((denominator + numerator - 1) / numerator - 1) : Int)

def scaledRatio (numerator denominator : Nat) : Int → Nat × Nat
  | .ofNat e => (numerator, denominator * 10 ^ e)
  | .negSucc e => (numerator * 10 ^ (e + 1), denominator)

namespace Decimal

def strip : Nat → Decimal → Decimal
  | 0, d => d
  | fuel + 1, d =>
    if d.coefficient % 10 = 0 then strip fuel ⟨d.coefficient / 10, d.exponent + 1⟩ else d

def digits (d : Decimal) : List Char := (toString d.coefficient).toList

def leading (d : Decimal) : Int := d.exponent + (d.digits.length - 1 : Nat)

/-- The two multiples of `10 ^ exponent` next to a fraction, the preferred one first. -/
def neighbours (tie : Tie) (numerator denominator : Nat) (exponent : Int) : List Decimal :=
  let (n, d) := scaledRatio numerator denominator exponent
  let below := n / d
  let twice := 2 * (n % d)
  let downward := twice < d ∨ (twice = d ∧ tie = .even ∧ below % 2 = 0)
  let pair := if downward then [below, below + 1] else [below + 1, below]
  pair.map (⟨·, exponent⟩)

end Decimal

namespace Finite

variable {f : BinaryFormat}

def exactDecimal (x : Finite f) : Decimal :=
  match x.exponent with
  | .ofNat e => ⟨x.significand * 2 ^ e, 0⟩
  | .negSucc e => ⟨x.significand * 5 ^ (e + 1), .negSucc e⟩

def readsBack (x : Finite f) (d : Decimal) : Bool :=
  decide (Binary.ofDecimal x.negative d.coefficient d.exponent = .finite x)

def candidates (tie : Tie) (x : Finite f) : List Decimal :=
  let (n, d) := x.ratio
  let top := decimalExponent n d
  (List.range f.decimalDigits).flatMap fun (k : Nat) => Decimal.neighbours tie n d (top - k)

def shortest (tie : Tie) (x : Finite f) : Decimal :=
  if x.isZero then ⟨0, 0⟩
  else
    let found := ((x.candidates tie).find? x.readsBack).getD x.exactDecimal
    found.strip (digitCount found.coefficient)

end Finite

end RecordComparison
