import RecordComparison.Json.Problem
import RecordComparison.Json.Value

/-!
The pieces of a JSON text: blanks, words, numbers and strings. Each reader takes the text
that is left and gives what it read with the text after it.
-/
namespace RecordComparison

abbrev Read (α : Type) := List Char → Except JsonProblem (α × List Char)

namespace Json

def malformed {α : Type} (m : Malformation) : Except JsonProblem α := .error (.malformed m)

def isBlank (c : Char) : Bool := c == ' ' || c == '\n' || c == '\t' || c == '\r'

def skipBlanks (s : List Char) : List Char := s.dropWhile isBlank

def word : List Char → Read Unit
  | [], s => .ok ((), s)
  | _ :: _, [] => malformed .endInValue
  | w :: ws, c :: s => if c = w then word ws s else malformed .wordExpected

def digitValue (c : Char) : Nat := c.toNat - 48

section Numbers

def fits (significand : Nat) : Bool := significand < UInt64.size

/-- Digits before the point: the significand they give, and how many it could not take. -/
def wholeDigits (significand skipped : Nat) : List Char → Nat × Nat × List Char
  | [] => (significand, skipped, [])
  | c :: s =>
    if c.isDigit then
      let next := significand * 10 + digitValue c
      if skipped = 0 ∧ fits next then wholeDigits next 0 s
      else wholeDigits significand (skipped + 1) s
    else (significand, skipped, c :: s)

def fractionDigits (significand taken : Nat) : List Char → Nat × Nat × List Char
  | [] => (significand, taken, [])
  | c :: s =>
    if c.isDigit then
      let next := significand * 10 + digitValue c
      if fits next then fractionDigits next (taken + 1) s
      else (significand, taken, s.dropWhile Char.isDigit)
    else (significand, taken, c :: s)

def exponentDigits (value : Nat) (s : List Char) : Nat × List Char :=
  ((s.takeWhile Char.isDigit).foldl (fun n c => n * 10 + digitValue c) value,
    s.dropWhile Char.isDigit)

def tenPower (k : Nat) : Double := .ofRatio false (10 ^ k) 1

def timesTenPower (x : Finite .double) (k : Nat) : Option (Finite .double) :=
  match tenPower k with
  | .finite p => (x.times p).finite?
  | _ => none

def overTenPower (x : Finite .double) (k : Nat) : Option (Finite .double) :=
  match tenPower k with
  | .finite p => (x.quotient p).finite?
  | _ => none

def largestTenPower : Nat := 308

def shrunk (x : Finite .double) : Nat → Option (Finite .double)
  | 0 => some x
  | n + 1 => if x.isZero then some x else (overTenPower x largestTenPower).bind (shrunk · n)

/-- A rounded significand times a power of ten, each step rounded to a double. Nothing is
infinite: what would be is refused. -/
def scaled (x : Finite .double) : Int → Option (Finite .double)
  | .ofNat e =>
    if e ≤ largestTenPower then timesTenPower x e else if x.isZero then some x else none
  | .negSucc e =>
    (shrunk x (e / largestTenPower)).bind (overTenPower · (e % largestTenPower + 1))

def realNumber (negative : Bool) (significand : Nat) (exponent : Int) (s : List Char) :
    Except JsonProblem (Json × List Char) :=
  match (Binary.ofRatio false significand 1 : Double) with
  | .finite x =>
    match scaled x exponent with
    | some y => .ok (.real { y with negative := negative }, s)
    | none => malformed .numberOutOfRange
  | _ => malformed .numberOutOfRange

def exponentPart (negative : Bool) (significand : Nat) (scale : Int) (s : List Char) :
    Except JsonProblem (Json × List Char) :=
  let (below, s) :=
    match s with
    | '+' :: s => (false, s)
    | '-' :: s => (true, s)
    | s => (false, s)
  match s with
  | [] => malformed .endInValue
  | c :: s =>
    if c.isDigit then
      let (e, s) := exponentDigits (digitValue c) s
      realNumber negative significand (if below then scale - e else scale + e) s
    else malformed .invalidNumber

def fractionPart (negative : Bool) (significand : Nat) (scale : Int) (s : List Char) :
    Except JsonProblem (Json × List Char) :=
  match s with
  | [] => malformed .endInValue
  | c :: _ =>
    if c.isDigit then
      let (significand, taken, s) := fractionDigits significand 0 s
      match s with
      | 'e' :: s | 'E' :: s => exponentPart negative significand (scale - taken) s
      | s => realNumber negative significand (scale - taken) s
    else malformed .invalidNumber

/-- An integer that 64 bits hold, signed or not; any other one is a real number. -/
def wholeNumber (negative : Bool) (significand skipped : Nat) (s : List Char) :
    Except JsonProblem (Json × List Char) :=
  if skipped = 0 ∧ negative = false then .ok (.integer significand, s)
  else if skipped = 0 ∧ 0 < significand ∧ Int64.minValue.toInt ≤ -(significand : Int) then
    .ok (.integer (-(significand : Int)), s)
  else realNumber negative significand skipped s

def number (negative : Bool) (s : List Char) : Except JsonProblem (Json × List Char) :=
  match s with
  | [] => malformed .endInValue
  | c :: rest =>
    if c.isDigit then
      let (significand, skipped, after) :=
        if c = '0' then (0, 0, rest) else wholeDigits 0 0 s
      match after with
      | '.' :: s => fractionPart negative significand skipped s
      | 'e' :: s | 'E' :: s => exponentPart negative significand skipped s
      | d :: s =>
        if c = '0' ∧ d.isDigit then malformed .invalidNumber
        else wholeNumber negative significand skipped (d :: s)
      | [] => wholeNumber negative significand skipped []
    else malformed .invalidNumber

end Numbers

section Strings

def hexValue? (c : Char) : Option Nat :=
  if c.isDigit then some (c.toNat - 48)
  else if 'a' ≤ c ∧ c ≤ 'f' then some (c.toNat - 87)
  else if 'A' ≤ c ∧ c ≤ 'F' then some (c.toNat - 55)
  else none

/-- Four hexadecimal digits. A text that has fewer than four bytes left has ended early. -/
def hexUnit (s : List Char) : Except JsonProblem Nat :=
  let next := s.take 4
  if (String.ofList next).utf8ByteSize < 4 then malformed .endInString
  else
    match next.mapM hexValue? with
    | some [a, b, c, d] => .ok (((a * 16 + b) * 16 + c) * 16 + d)
    | _ => malformed .invalidEscape

def isLeading (unit : Nat) : Bool := 0xd800 ≤ unit && unit < 0xdc00

def isTrailing (unit : Nat) : Bool := 0xdc00 ≤ unit && unit < 0xe000

def unicodeEscape (s : List Char) : Except JsonProblem (Char × Nat) := do
  let unit ← hexUnit s
  if isTrailing unit then malformed .loneSurrogate
  else if isLeading unit then
    match s.drop 4 with
    | [] => malformed .endInString
    | c :: rest =>
      if c = '\\' then
        match rest with
        | [] => malformed .endInString
        | d :: rest =>
          if d = 'u' then
            let low ← hexUnit rest
            if isTrailing low then
              .ok (.ofNat (0x10000 + (unit - 0xd800) * 0x400 + (low - 0xdc00)), 10)
            else malformed .loneSurrogate
          else malformed .surrogatePairUnfinished
      else malformed .surrogatePairUnfinished
  else .ok (.ofNat unit, 4)

def shortEscape? : Char → Option Char
  | '\x22' => some '\x22'
  | '\\' => some '\\'
  | '/' => some '/'
  | 'b' => some '\x08'
  | 'f' => some '\x0c'
  | 'n' => some '\n'
  | 'r' => some '\r'
  | 't' => some '\t'
  | _ => none

def escape (s : List Char) : Except JsonProblem (Char × Nat) :=
  match s with
  | [] => malformed .endInString
  | c :: rest =>
    if c = 'u' then (unicodeEscape rest).map fun (d, n) => (d, n + 1)
    else
      match shortEscape? c with
      | some d => .ok (d, 1)
      | none => malformed .invalidEscape

def stringBody (s : List Char) : Except JsonProblem (List Char × List Char) :=
  match s with
  | [] => malformed .endInString
  | c :: s =>
    if c = '\x22' then .ok ([], s)
    else if c = '\\' then
      match escape s with
      | .error e => .error e
      | .ok (d, n) => (stringBody (s.drop n)).map fun (body, rest) => (d :: body, rest)
    else if c.toNat < 0x20 then malformed .controlCharacter
    else (stringBody s).map fun (body, rest) => (c :: body, rest)
termination_by s.length
decreasing_by all_goals simp; try omega

def stringRest (s : List Char) : Except JsonProblem (String × List Char) :=
  (stringBody s).map fun (body, rest) => (String.ofList body, rest)

end Strings

end Json

end RecordComparison
