import RecordComparison.Binary.Format

/-!
Rounding of exact fractions to the nearest floating-point value, a tie going to the even
significand, and the arithmetic that follows from it: the exact result, rounded once.
-/
namespace RecordComparison

def roundedQuotient (numerator denominator : Nat) : Nat :=
  let quotient := numerator / denominator
  let twice := 2 * (numerator % denominator)
  if twice < denominator ∨ (twice = denominator ∧ quotient % 2 = 0) then quotient
  else quotient + 1

def powerFits (numerator denominator : Nat) : Int → Bool
  | .ofNat e => decide (denominator * 2 ^ e ≤ numerator)
  | .negSucc e => decide (denominator ≤ numerator * 2 ^ (e + 1))

def binaryExponent (numerator denominator : Nat) : Int :=
  let guess := (numerator.log2 : Int) - denominator.log2
  if powerFits numerator denominator guess then guess else guess - 1

namespace Binary

variable {f : BinaryFormat}

def ofPlace (negative : Bool) (place : Nat) : Binary f :=
  if h : place < f.magnitudes then .finite ⟨negative, place, h⟩ else .infinite negative

/-- The value nearest to a fraction with a positive denominator. The significand is rounded
at the exponent that gives it all its bits, or at the least one; carrying into the next run
of magnitudes needs no care, since the next place is the next magnitude. -/
def ofRatio (negative : Bool) (numerator denominator : Nat) : Binary f :=
  if numerator = 0 then ofPlace negative 0
  else
    let steps := (binaryExponent numerator denominator - f.fractionBits - f.leastExponent).toNat
    let significand :=
      match f.leastExponent + steps with
      | .ofNat e => roundedQuotient numerator (denominator * 2 ^ e)
      | .negSucc e => roundedQuotient (numerator * 2 ^ (e + 1)) denominator
    ofPlace negative (significand + steps * 2 ^ f.fractionBits)

def ofInt (n : Int) : Binary f := ofRatio (decide (n < 0)) n.natAbs 1

-- The value nearest to `coefficient * 10 ^ exponent`. Past the least and greatest powers of ten
-- that the format can tell from zero and infinity the exponent itself does not matter.
def ofDecimal (negative : Bool) (coefficient : Nat) (exponent : Int) : Binary f :=
  let reach : Int := (2 ^ f.exponentBits : Nat)
  let magnitude := exponent + (toString coefficient).length
  if coefficient = 0 ∨ magnitude < -reach then ofPlace negative 0
  else if reach < magnitude then .infinite negative
  else
    match exponent with
    | .ofNat e => ofRatio negative (coefficient * 10 ^ e) 1
    | .negSucc e => ofRatio negative coefficient (10 ^ (e + 1))

end Binary

namespace Finite

variable {f : BinaryFormat}

def times (x y : Finite f) : Binary f :=
  .ofRatio (x.negative != y.negative) (x.ratio.1 * y.ratio.1) (x.ratio.2 * y.ratio.2)

def quotient (x y : Finite f) : Binary f :=
  let divisor := if y.isZero then 1 else y.ratio.1
  .ofRatio (x.negative != y.negative) (x.ratio.1 * y.ratio.2) (x.ratio.2 * divisor)

end Finite

end RecordComparison
