/-!
Binary floating-point values, without their bits: a format fixes how many fraction and
exponent bits there are, and a finite value is a sign with a place in the increasing list of
magnitudes of that format. Equality is the one of the floating-point standard.
-/
namespace RecordComparison

-- A power of a number is the one of the core library, whatever other powers are in scope.
instance (priority := 1100) naturalPower {α : Type} [NatPow α] : Pow α Nat := instPowNat

structure BinaryFormat where
  fractionBits : Nat
  exponentBits : Nat

namespace BinaryFormat

def single : BinaryFormat := ⟨23, 8⟩

def double : BinaryFormat := ⟨52, 11⟩

def magnitudes (f : BinaryFormat) : Nat := (2 ^ f.exponentBits - 1) * 2 ^ f.fractionBits

def leastExponent (f : BinaryFormat) : Int :=
  2 - (2 ^ (f.exponentBits - 1) : Nat) - (f.fractionBits : Int)

def decimalDigits (f : BinaryFormat) : Nat := (f.fractionBits + 1) * 30103 / 100000 + 2

end BinaryFormat

structure Finite (f : BinaryFormat) where
  negative : Bool
  /-- The place among the magnitudes in increasing order; zero comes first. -/
  place : Fin f.magnitudes
deriving DecidableEq

inductive Binary (f : BinaryFormat) where
  | finite (x : Finite f)
  | infinite (negative : Bool)
  | nan
deriving DecidableEq

namespace Finite

variable {f : BinaryFormat}

def isZero (x : Finite f) : Bool := x.place.val == 0

/-- Magnitudes come in runs of `2 ^ fractionBits` that have one exponent each. -/
def run (x : Finite f) : Nat := x.place.val / 2 ^ f.fractionBits

/-- The magnitude is `significand * 2 ^ exponent`. -/
def significand (x : Finite f) : Nat :=
  let fraction := x.place.val % 2 ^ f.fractionBits
  if x.run = 0 then fraction else 2 ^ f.fractionBits + fraction

def exponent (x : Finite f) : Int := f.leastExponent + (x.run - 1 : Nat)

def ratio (x : Finite f) : Nat × Nat :=
  match x.exponent with
  | .ofNat e => (x.significand * 2 ^ e, 1)
  | .negSucc e => (x.significand, 2 ^ (e + 1))

end Finite

namespace Binary

variable {f : BinaryFormat}

/-- Both zeros are equal, and nothing equals a NaN. -/
protected def equal : Binary f → Binary f → Bool
  | finite x, finite y => x.place == y.place && (x.negative == y.negative || x.isZero)
  | infinite s, infinite t => s == t
  | _, _ => false

instance : BEq (Binary f) := ⟨Binary.equal⟩

def isNaN : Binary f → Bool
  | nan => true
  | _ => false

def finite? : Binary f → Option (Finite f)
  | finite x => some x
  | _ => none

theorem equal_self (x : Binary f) : (x == x) = !x.isNaN := by
  cases x <;> simp [BEq.beq, Binary.equal, isNaN]

end Binary

abbrev Single := Binary .single

abbrev Double := Binary .double

end RecordComparison
