import RecordComparison.Json.Lexeme

/-!
Reading JSON values. Blanks may stand between any two pieces, lists and objects may be nested
127 deep, and of an object's members with one key the last one counts. `Json.skip` passes over
a value that nobody asked for: it checks less of it and nests without limit.
-/
namespace RecordComparison.Json

/-- More steps than the reading of a text can take. -/
def budget (s : List Char) : Nat := 2 * s.length + 2

def maximalNesting : Nat := 127

section Punctuation

def nextItem (first : Bool) (s : List Char) : Except JsonProblem (Bool × List Char) :=
  match skipBlanks s with
  | [] => malformed .endInList
  | c :: s =>
    if c = ']' then .ok (false, s)
    else if first then .ok (true, c :: s)
    else if c = ',' then
      match skipBlanks s with
      | [] => malformed .endInValue
      | ']' :: _ => malformed .trailingComma
      | s => .ok (true, s)
    else malformed .listEndExpected

/-- Looks for the next key of an object: the text after its opening quote, or that after the
end of the object. -/
def nextKey (first : Bool) (s : List Char) : Except JsonProblem (Bool × List Char) :=
  match skipBlanks s with
  | [] => malformed .endInObject
  | c :: s =>
    if c = '\x7d' then .ok (false, s)
    else if first then
      if c = '\x22' then .ok (true, s) else malformed .keyNotString
    else if c = ',' then
      match skipBlanks s with
      | [] => malformed .endInValue
      | '\x22' :: s => .ok (true, s)
      | '\x7d' :: _ => malformed .trailingComma
      | _ => malformed .keyNotString
    else malformed .objectEndExpected

def colon (s : List Char) : Except JsonProblem (List Char) :=
  match skipBlanks s with
  | [] => malformed .endInObject
  | c :: s => if c = ':' then .ok s else malformed .colonExpected

def listEnd (s : List Char) : Except JsonProblem (List Char) :=
  match skipBlanks s with
  | [] => malformed .endInList
  | c :: s =>
    if c = ']' then .ok s
    else if c = ',' then
      match skipBlanks s with
      | ']' :: _ => malformed .trailingComma
      | _ => malformed .trailingCharacters
    else malformed .trailingCharacters

end Punctuation

def scalar (c : Char) (s : List Char) : Except JsonProblem (Json × List Char) :=
  match c with
  | 'n' => (word ['u', 'l', 'l'] s).map fun (_, s) => (null, s)
  | 't' => (word ['r', 'u', 'e'] s).map fun (_, s) => (bool true, s)
  | 'f' => (word ['a', 'l', 's', 'e'] s).map fun (_, s) => (bool false, s)
  | '-' => number true s
  | '\x22' => (stringRest s).map fun (t, s) => (string t, s)
  | c => if c.isDigit then number false (c :: s) else malformed .valueExpected

section Values

mutual

def valueWithin (steps room : Nat) (s : List Char) : Except JsonProblem (Json × List Char) :=
  match steps with
  | 0 => malformed .endInValue
  | steps + 1 =>
    match skipBlanks s with
    | [] => malformed .endInValue
    | c :: s =>
      if c = '[' then
        match room with
        | 0 => malformed .tooDeep
        | room + 1 => (itemsWithin steps room true s).map fun (items, s) => (array items, s)
      else if c = '\x7b' then
        match room with
        | 0 => malformed .tooDeep
        | room + 1 => (membersWithin steps room true [] s).map fun (ms, s) => (object ms, s)
      else scalar c s

def itemsWithin (steps room : Nat) (first : Bool) (s : List Char) :
    Except JsonProblem (List Json × List Char) :=
  match steps with
  | 0 => malformed .endInValue
  | steps + 1 => do
    let (more, s) ← nextItem first s
    if more then
      let (item, s) ← valueWithin steps room s
      let (items, s) ← itemsWithin steps room false s
      return (item :: items, s)
    else return ([], s)

def membersWithin (steps room : Nat) (first : Bool) (earlier : List (String × Json))
    (s : List Char) : Except JsonProblem (List (String × Json) × List Char) :=
  match steps with
  | 0 => malformed .endInValue
  | steps + 1 => do
    let (more, s) ← nextKey first s
    if more then
      let (key, s) ← stringRest s
      let s ← colon s
      let (value, s) ← valueWithin steps room s
      membersWithin steps room false (insert key value earlier) s
    else return (earlier, s)

end

def value (room : Nat) : Read Json := fun s => valueWithin (budget s) room s

end Values

section Skipped

def skipDigits (s : List Char) : List Char := s.dropWhile Char.isDigit

def digitDue (s : List Char) : Except JsonProblem (List Char) :=
  match s with
  | [] => malformed .invalidNumber
  | c :: rest => if c.isDigit then .ok rest else malformed .invalidNumber

def skipExponent (s : List Char) : Except JsonProblem (List Char) :=
  let s :=
    match s with
    | '+' :: s | '-' :: s => s
    | s => s
  (digitDue s).map skipDigits

def skipScale (s : List Char) : Except JsonProblem (List Char) :=
  match s with
  | 'e' :: s | 'E' :: s => skipExponent s
  | s => .ok s

def skipNumber (s : List Char) : Except JsonProblem (List Char) := do
  let after ← digitDue s
  let rest :=
    match s with
    | '0' :: _ => after
    | _ => skipDigits after
  match rest with
  | '.' :: fraction => digitDue fraction >>= fun s => skipScale (skipDigits s)
  | c :: s => if c.isDigit then malformed .invalidNumber else skipScale (c :: s)
  | [] => .ok []

/-- Passes over a string after its opening quote; surrogates need not be paired. -/
def skipString (s : List Char) : Except JsonProblem (List Char) :=
  match s with
  | [] => malformed .endInString
  | c :: s =>
    if c = '\x22' then .ok s
    else if c = '\\' then
      match s with
      | [] => malformed .endInString
      | d :: s =>
        if d = 'u' then
          match hexUnit s with
          | .ok _ => skipString (s.drop 4)
          | .error e => .error e
        else if (shortEscape? d).isSome then skipString s
        else malformed .invalidEscape
    else if c.toNat < 0x20 then malformed .controlCharacter
    else skipString s
termination_by s.length
decreasing_by all_goals simp; try omega

def skipScalar (c : Char) (s : List Char) : Except JsonProblem (List Char) :=
  match c with
  | 'n' => (word ['u', 'l', 'l'] s).map Prod.snd
  | 't' => (word ['r', 'u', 'e'] s).map Prod.snd
  | 'f' => (word ['a', 'l', 's', 'e'] s).map Prod.snd
  | '-' => skipNumber s
  | '\x22' => skipString s
  | c => if c.isDigit then skipNumber (c :: s) else malformed .valueExpected

mutual

def skipWithin (steps : Nat) (s : List Char) : Except JsonProblem (List Char) :=
  match steps with
  | 0 => malformed .endInValue
  | steps + 1 =>
    match skipBlanks s with
    | [] => malformed .endInValue
    | c :: s =>
      if c = '[' then skipItems steps true s
      else if c = '\x7b' then skipMembers steps true s
      else skipScalar c s

def skipItems (steps : Nat) (first : Bool) (s : List Char) : Except JsonProblem (List Char) :=
  match steps with
  | 0 => malformed .endInValue
  | steps + 1 =>
    match skipBlanks s with
    | [] => malformed .endInList
    | c :: s =>
      if c = ']' then .ok s
      else if first then skipWithin steps (c :: s) >>= skipItems steps false
      else if c = ',' then skipWithin steps s >>= skipItems steps false
      else malformed .listEndExpected

def skipMembers (steps : Nat) (first : Bool) (s : List Char) : Except JsonProblem (List Char) :=
  match steps with
  | 0 => malformed .endInValue
  | steps + 1 =>
    match skipBlanks s with
    | [] => malformed .endInObject
    | c :: s =>
      if c = '\x7d' then .ok s
      else if first then skipMember steps (c :: s)
      else if c = ',' then skipMember steps (skipBlanks s)
      else malformed .objectEndExpected

/-- Passes over a member and all that follow it in its object. -/
def skipMember (steps : Nat) (s : List Char) : Except JsonProblem (List Char) :=
  match steps with
  | 0 => malformed .endInValue
  | steps + 1 =>
    match s with
    | [] => malformed .endInObject
    | c :: s =>
      if c = '\x22' then do
        let s ← skipString s
        let s ← colon s
        let s ← skipWithin steps s
        skipMembers steps false s
      else malformed .keyNotString

end

def skip (s : List Char) : Except JsonProblem (List Char) := skipWithin (3 * s.length + 3) s

end Skipped

def whole {α : Type} (read : Read α) (text : String) : Except JsonProblem α := do
  let (a, s) ← read text.toList
  match skipBlanks s with
  | [] => return a
  | _ => malformed .trailingCharacters

def ofText (text : String) : Except JsonProblem Json := whole (value maximalNesting) text

end RecordComparison.Json
