import RecordComparison.Binary.Rounding
import RecordComparison.Reading.Fault
import RecordComparison.Yaml.Node

/-!
What a scalar means: a plain one may be null, a truth value, an integer in one of four bases
or a real number, and is a text otherwise. A standard tag can ask for one of these.
-/
namespace RecordComparison.Yaml

section Words

def isNull (s : List Char) : Bool :=
  ["null", "Null", "NULL", "~"].any (·.toList == s)

def truth? (s : List Char) : Option Bool :=
  if ["true", "True", "TRUE"].any (·.toList == s) then some true
  else if ["false", "False", "FALSE"].any (·.toList == s) then some false
  else none

end Words

section Integers

def digitsValue? (base : Nat) (s : List Char) : Option Nat :=
  match s.mapM hexValue? with
  | some digits =>
    if digits = [] ∨ digits.any (base ≤ ·) then none
    else some (digits.foldl (fun n d => n * base + d) 0)
  | none => none

def baseOfMark? : Char → Option Nat
  | 'x' => some 16
  | 'o' => some 8
  | 'b' => some 2
  | _ => none

def markedValue? (s : List Char) : Option Nat :=
  match s with
  | '0' :: mark :: digits => (baseOfMark? mark).bind (digitsValue? · digits)
  | _ => none

def unsignedPart (s : List Char) : List Char :=
  match s with
  | '+' :: rest | '-' :: rest => rest
  | s => s

/-- Digits after a leading zero are a text and no number. -/
def isZeroPadded (s : List Char) : Bool :=
  match unsignedPart s with
  | '0' :: d :: rest => d.isDigit && rest.all Char.isDigit
  | _ => false

def withoutPlus (s : List Char) : List Char :=
  match s with
  | '+' :: rest => rest
  | s => s

def natural? (s : List Char) : Option Nat :=
  match markedValue? (withoutPlus s) with
  | some n => some n
  | none => if isZeroPadded s then none else digitsValue? 10 (withoutPlus s)

def negative? (s : List Char) : Option Int :=
  match s with
  | '-' :: rest =>
    match markedValue? rest with
    | some n => some (-(n : Int))
    | none => if isZeroPadded s then none else (digitsValue? 10 rest).map fun n => -(n : Int)
  | _ => none

/-- An integer is read as one if so many bits hold it, with or without a sign. -/
def widestBits : Nat := 128

def integer? (s : List Char) : Option Int :=
  match natural? s with
  | some n => if n < 2 ^ widestBits then some n else none
  | none =>
    match negative? s with
    | some n => if -2 ^ (widestBits - 1) ≤ n then some n else none
    | none => none

end Integers

section Reals

def natOfDigits (digits : List Char) : Nat :=
  digits.foldl (fun n c => n * 10 + (c.toNat - 48)) 0

def exponent? (s : List Char) : Option Int :=
  match s with
  | [] => some 0
  | mark :: s =>
    let digits := unsignedPart s
    if (mark = 'e' ∨ mark = 'E') ∧ digits ≠ [] ∧ digits.all Char.isDigit then
      some (if s.head? = some '-' then -(natOfDigits digits : Int) else natOfDigits digits)
    else none

def decimal? (s : List Char) : Option Double :=
  let negative := s.head? == some '-'
  let s := unsignedPart s
  let whole := s.takeWhile Char.isDigit
  let (fraction, tail) :=
    match s.dropWhile Char.isDigit with
    | '.' :: rest => (rest.takeWhile Char.isDigit, rest.dropWhile Char.isDigit)
    | rest => ([], rest)
  if whole = [] ∧ fraction = [] then none
  else
    (exponent? tail).map fun e =>
      .ofDecimal negative (natOfDigits (whole ++ fraction)) (e - fraction.length)

def isInfinityWord (s : List Char) : Bool :=
  [".inf", ".Inf", ".INF"].any (·.toList == s)

def isNaNWord (s : List Char) : Bool := [".nan", ".NaN", ".NAN"].any (·.toList == s)

/-- A real number. One that is written with digits must be finite. -/
def real? (s : List Char) : Option Double :=
  let unsigned := withoutPlus s
  if s.head? = some '+' ∧ (unsigned.head? = some '+' ∨ unsigned.head? = some '-') then none
  else if isInfinityWord unsigned then some (.infinite false)
  else if s.head? = some '-' ∧ isInfinityWord (s.drop 1) then some (.infinite true)
  else if isNaNWord s then some .nan
  else
    match decimal? unsigned with
    | some (.finite x) => some (.finite x)
    | _ => none

end Reals

section Meaning

def integerFound (n : Int) : Found :=
  if n < Int64.minValue.toInt ∨ UInt64.size ≤ n then .wideInteger n else .integer n

def plainFound (s : List Char) : Found :=
  if s = [] ∨ isNull s then .absent
  else
    match truth? s, integer? s with
    | some b, _ => .truth b
    | none, some n => integerFound n
    | none, none =>
      match if isZeroPadded s then none else real? s with
      | some x => .real x
      | none => .string (String.ofList s)

inductive StandardTag where
  | bool
  | int
  | float
  | null
deriving DecidableEq

def StandardTag.name : StandardTag → List Char
  | bool => "tag:yaml.org,2002:bool".toList
  | int => "tag:yaml.org,2002:int".toList
  | float => "tag:yaml.org,2002:float".toList
  | null => "tag:yaml.org,2002:null".toList

def StandardTag.ofName? (tag : List Char) : Option StandardTag :=
  [bool, int, float, null].find? (·.name == tag)

def standardFound (tag : StandardTag) (s : List Char) : Except String Found :=
  match tag with
  | .bool =>
    match truth? s with
    | some b => .ok (.truth b)
    | none => .error "a boolean"
  | .int =>
    match integer? s with
    | some n => .ok (integerFound n)
    | none => .error "an integer"
  | .float =>
    match real? s with
    | some x => .ok (.real x)
    | none => .error "a float"
  | .null => if isNull s then .ok .absent else .error "null"

def scalarFault (tag : Option (List Char)) (style : ScalarStyle) (s : List Char)
    (expected : String) : Fault :=
  let text := Found.string (String.ofList s)
  match tag with
  | none => .wrongType (if style = .plain then plainFound s else text) expected
  | some tag =>
    match StandardTag.ofName? tag with
    | some standard =>
      match standardFound standard s with
      | .ok found => .wrongType found expected
      | .error wanted => .wrongValue text wanted
    | none =>
      .wrongType (if tag.head? = some '!' ∧ style = .plain then plainFound s else text) expected

end Meaning

end RecordComparison.Yaml
