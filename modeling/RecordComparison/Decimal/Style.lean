import RecordComparison.Decimal.Shortest

/-!
How a decimal is written: in positional notation within a range of magnitudes, with an
exponent outside it. A `NumberStyle` holds the choices of one output format.
-/
namespace RecordComparison

structure NumberStyle where
  tie : Tie
  positional : Int → Bool
  -- Whether a positional integer keeps a zero after its point.
  pointZero : Bool
  plusSign : Bool

namespace NumberStyle

/-- Values in reports: positional from `1e-4` up to `1e16`. -/
def report : NumberStyle := ⟨.up, fun e => decide (-4 ≤ e ∧ e < 16), true, false⟩

def plain : NumberStyle := ⟨.up, fun _ => true, false, false⟩

def pointed : NumberStyle := ⟨.up, fun _ => true, true, false⟩

/-- Numbers in JSON texts: positional from `1e-5` up to `1e16`. -/
def json : NumberStyle := ⟨.even, fun e => decide (-5 ≤ e ∧ e < 16), true, true⟩

end NumberStyle

def zeros (n : Nat) : List Char := List.replicate n '0'

def positionalDigits (pointZero : Bool) (digits : List Char) (whole : Int) : List Char :=
  if whole ≤ 0 then '0' :: '.' :: zeros (-whole).toNat ++ digits
  else if digits.length ≤ whole.toNat then
    digits ++ zeros (whole.toNat - digits.length) ++ (if pointZero then ['.', '0'] else [])
  else digits.take whole.toNat ++ '.' :: digits.drop whole.toNat

def scientificDigits (plusSign : Bool) (digits : List Char) (exponent : Int) : List Char :=
  let fraction :=
    match digits.drop 1 with
    | [] => []
    | rest => '.' :: rest
  let sign := if plusSign ∧ 0 < exponent then ['+'] else []
  digits.take 1 ++ fraction ++ 'e' :: sign ++ (toString exponent).toList

namespace Decimal

def chars (style : NumberStyle) (d : Decimal) : List Char :=
  if style.positional d.leading then
    positionalDigits style.pointZero d.digits (d.leading + 1)
  else scientificDigits style.plusSign d.digits d.leading

end Decimal

namespace Finite

variable {f : BinaryFormat}

def chars (style : NumberStyle) (x : Finite f) : List Char :=
  (if x.negative then ['-'] else []) ++ (x.shortest style.tie).chars style

end Finite

namespace Binary

variable {f : BinaryFormat}

def text (style : NumberStyle) : Binary f → String
  | .finite x => String.ofList (x.chars style)
  | .infinite negative => if negative then "-inf" else "inf"
  | .nan => "NaN"

end Binary

end RecordComparison
