import RecordComparison.Yaml.Input

/-!
The scalars of YAML: plain, quoted once or twice, literal and folded. Each reader takes the
place after the indicator, or at the first character of a plain scalar, and gives the text
with the place after the scalar; it fails if the scalar is malformed.
-/
namespace RecordComparison.Yaml

section Plain

def endsFlowScalar (c : Char) : Bool :=
  c == ',' || c == '[' || c == ']' || c == '\x7b' || c == '\x7d'

def clashesWithColon : List Char → Bool
  | [] => false
  | c :: _ => endsFlowScalar c || c == '?'

def plainWord (inFlow : Bool) (steps : Nat) (i : Input) : Option (List Char × Input) :=
  match steps with
  | 0 => some ([], i)
  | steps + 1 =>
    match i.rest with
    | [] => some ([], i)
    | c :: after =>
      if isBlank c || isBreak c then some ([], i)
      else if inFlow && c == ':' && clashesWithColon after then none
      else if c == ':' && atGap after then some ([], i)
      else if inFlow && endsFlowScalar c then some ([], i)
      else (plainWord inFlow steps i.skip).map fun (word, i) => (c :: word, i)

/-- A plain scalar from the word after `gap` on. The truth value tells whether a line break
follows it. -/
def plainWords (inFlow : Bool) (indent steps : Nat) (gap : Gap) (i : Input) :
    Option (List Char × Bool × Input) :=
  match steps with
  | 0 => some ([], gap.broken, i)
  | steps + 1 =>
    if i.atDocumentMark || i.rest.head? == some '#' then some ([], gap.broken, i)
    else do
      let (word, i) ← plainWord inFlow i.rest.length i
      let (text, broken) := if word = [] then ([], gap.broken) else (gap.folded ++ word, false)
      if atGap i.rest && !i.rest.isEmpty then
        let (gap, i) ← Gap.extend indent i.rest.length .empty i
        if !inFlow && i.column < indent then return (text, gap.broken, i)
        let (later, broken, i) ← plainWords inFlow indent steps gap i
        return (text ++ later, broken, i)
      else return (text, broken, i)

def plainScalar (inFlow : Bool) (indent : Nat) (i : Input) : Option (List Char × Bool × Input) :=
  plainWords inFlow indent (i.rest.length + 1) .empty i

end Plain

section Quoted

def simpleEscape? : Char → Option Char
  | '0' => some '\x00'
  | 'a' => some '\x07'
  | 'b' => some '\x08'
  | 't' => some '\t'
  | '\t' => some '\t'
  | 'n' => some '\n'
  | 'v' => some '\x0b'
  | 'f' => some '\x0c'
  | 'r' => some '\r'
  | 'e' => some '\x1b'
  | ' ' => some ' '
  | '\x22' => some '\x22'
  | '/' => some '/'
  | '\\' => some '\\'
  | 'N' => some '\u0085'
  | '_' => some '\u00a0'
  | 'L' => some '\u2028'
  | 'P' => some '\u2029'
  | _ => none

def numericEscape? : Char → Option Nat
  | 'x' => some 2
  | 'u' => some 4
  | 'U' => some 8
  | _ => none

def hexValue? (c : Char) : Option Nat :=
  if c.isDigit then some (c.toNat - 48)
  else if 'a' ≤ c ∧ c ≤ 'f' then some (c.toNat - 87)
  else if 'A' ≤ c ∧ c ≤ 'F' then some (c.toNat - 55)
  else none

def hexNumber? (count : Nat) (s : List Char) : Option Nat :=
  match (s.take count).mapM hexValue? with
  | some digits =>
    if digits.length = count then some (digits.foldl (fun n d => n * 16 + d) 0) else none
  | none => none

def charOfNumber? (n : Nat) : Option Char :=
  if n.isValidChar then some (Char.ofNat n) else none

def escapedChar (s : List Char) : Option (Char × Nat) :=
  match s with
  | [] => none
  | c :: s =>
    match simpleEscape? c, numericEscape? c with
    | some d, _ => some (d, 1)
    | none, some count => do
      let d ← hexNumber? count s >>= charOfNumber?
      return (d, count + 1)
    | none, none => none

/-- One word of a quoted scalar, possibly empty. The truth value tells whether it ended at an
escaped line break, which is then passed over. -/
def quotedWord (single : Bool) (steps : Nat) (i : Input) : Option (List Char × Bool × Input) :=
  match steps with
  | 0 => some ([], false, i)
  | steps + 1 =>
    match i.rest with
    | [] => some ([], false, i)
    | c :: after =>
      if isBlank c || isBreak c then some ([], false, i)
      else if single && c == '\x27' then
        if after.head? == some '\x27' then
          (quotedWord single steps (i.skipMany 2)).map fun (word, r) => ('\x27' :: word, r)
        else some ([], false, i)
      else if !single && c == '\x22' then some ([], false, i)
      else if !single && c == '\\' then
        if after.head?.any isBreak then some ([], true, i.skip.skipBreak)
        else do
          let (d, length) ← escapedChar after
          let (word, r) ← quotedWord single steps (i.skipMany (length + 1))
          return (d :: word, r)
      else (quotedWord single steps i.skip).map fun (word, r) => (c :: word, r)

def quotedWords (single : Bool) (steps : Nat) (i : Input) : Option (List Char × Input) :=
  match steps with
  | 0 => none
  | steps + 1 =>
    if i.atDocumentMark || i.rest.isEmpty then none
    else do
      let (word, escaped, i) ← quotedWord single i.rest.length i
      if i.rest.head? == some (if single then '\x27' else '\x22') then return (word, i.skip)
      let gap := if escaped then Gap.escaped else Gap.empty
      let (gap, i) ← Gap.extend 0 i.rest.length gap i
      let (later, i) ← quotedWords single steps i
      return (word ++ gap.folded ++ later, i)

def quotedScalar (single : Bool) (i : Input) : Option (List Char × Input) :=
  quotedWords single (i.rest.length + 1) i

end Quoted

section Block

inductive Chomping where
  | strip
  | clip
  | keep
deriving DecidableEq

def chomping? : Char → Option Chomping
  | '+' => some .keep
  | '-' => some .strip
  | _ => none

def chompingAt (i : Input) : Chomping × Input :=
  match i.rest.head?.bind chomping? with
  | some chomping => (chomping, i.skip)
  | none => (.clip, i)

def indentationAt (i : Input) : Option (Nat × Input) :=
  match i.rest with
  | c :: _ =>
    if c.isDigit then
      if c = '0' then none else some (c.toNat - 48, i.skip)
    else some (0, i)
  | [] => some (0, i)

def blockHeader (i : Input) : Option (Chomping × Nat × Input) :=
  match i.rest.head?.bind chomping? with
  | some chomping => (indentationAt i.skip).map fun (n, i) => (chomping, n, i)
  | none => do
    let (n, i) ← indentationAt i
    if n = 0 then return (.clip, 0, i)
    let (chomping, i) := chompingAt i
    return (chomping, n, i)

/-- Empty lines before a line of content, and the indentation of that line. With an unknown
indentation, which is zero here, all spaces are passed over; the last number is the longest
indentation met. -/
def emptyLines (indent steps : Nat) (longest : Nat) (i : Input) :
    Option (List Char × Nat × Input) :=
  match steps with
  | 0 => some ([], longest, i)
  | steps + 1 =>
    let longest := max longest i.column
    let within := indent = 0 ∨ i.column < indent
    match i.rest with
    | [] => some ([], longest, i)
    | c :: _ =>
      if within ∧ c = ' ' then emptyLines indent steps longest i.skip
      else if within ∧ c = '\t' then none
      else if isBreak c then
        (emptyLines indent steps longest i.skipBreak).map fun (breaks, r) =>
          (breakChar c :: breaks, r)
      else some ([], longest, i)

structure BlockLines where
  text : List Char
  lastBreak : List Char
  emptyAfter : List Char

/-- The lines of content. `lastBreak` and `emptyBefore` are the breaks before the next line;
`blankBefore` tells whether the line before it began with a blank. -/
def blockLines (literal : Bool) (indent steps : Nat) (lastBreak emptyBefore : List Char)
    (blankBefore : Bool) (i : Input) : Option (BlockLines × Input) :=
  match steps with
  | 0 => some (⟨[], lastBreak, emptyBefore⟩, i)
  | steps + 1 =>
    match i.rest with
    | [] => some (⟨[], lastBreak, emptyBefore⟩, i)
    | c :: _ =>
      if i.column ≠ indent then some (⟨[], lastBreak, emptyBefore⟩, i)
      else do
        let blank := isBlank c
        let joint :=
          if !literal && lastBreak == ['\n'] && !blankBefore && !blank then
            if emptyBefore = [] then [' '] else []
          else lastBreak
        let line := i.taken Input.notBreak
        let i := i.skipWhile Input.notBreak
        let (lastBreak, i) :=
          match i.rest with
          | [] => ([], i)
          | b :: _ => ([breakChar b], i.skipBreak)
        let (emptyAfter, _, i) ← emptyLines indent i.rest.length 0 i
        let (later, i) ← blockLines literal indent steps lastBreak emptyAfter blank i
        return ({ later with text := joint ++ emptyBefore ++ line ++ later.text }, i)

def blockScalar (literal : Bool) (outer : Option Nat) (i : Input) :
    Option (List Char × Input) := do
  let (chomping, increment, i) ← blockHeader i
  let i ← i.skipLineRest
  let explicit := if increment = 0 then 0 else outer.getD 0 + increment
  let (breaks, longest, i) ← emptyLines explicit i.rest.length 0 i
  let least := match outer with
    | some n => n + 1
    | none => 1
  let indent := if explicit = 0 then max longest (max least 1) else explicit
  let (lines, i) ← blockLines literal indent (i.rest.length + 1) [] breaks false i
  let tail :=
    match chomping with
    | .strip => []
    | .clip => lines.lastBreak
    | .keep => lines.lastBreak ++ lines.emptyAfter
  return (lines.text ++ tail, i)

end Block

end RecordComparison.Yaml
