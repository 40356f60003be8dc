import RecordComparison.Yaml.Scalar
import RecordComparison.Yaml.Token

/-!
Anchors, aliases, tags and directives. Each reader takes the place after the indicator; it
fails on a malformed name or when the name is not properly ended. An escaped NUL ends what a
tag says.
-/
namespace RecordComparison.Yaml

section Names

def endsName : List Char → Bool
  | [] => true
  | c :: _ => isBlank c || isBreak c || ['?', ':', ',', ']', '\x7d', '%', '@', '\x60'].contains c

def anchorName (i : Input) : Option (List Char × Input) :=
  let name := i.taken isWordChar
  let i := i.skipWhile isWordChar
  if name = [] ∨ !endsName i.rest then none else some (name, i)

end Names

section Tags

def isUriChar (verbatim : Bool) (c : Char) : Bool :=
  isWordChar c || ";/?:@&=+$.%!~*'()".toList.contains c ||
    verbatim && [',', '[', ']'].contains c

def octetCount? (octet : Nat) : Option Nat :=
  if octet < 0x80 then some 1
  else if octet < 0xc0 then none
  else if octet < 0xe0 then some 2
  else if octet < 0xf0 then some 3
  else if octet < 0xf8 then some 4
  else none

def escapedOctet? (s : List Char) : Option Nat :=
  match s with
  | '%' :: s => hexNumber? 2 s
  | _ => none

def laterOctets? (count : Nat) (s : List Char) : Option (List Char) :=
  match count with
  | 0 => some []
  | count + 1 => do
    let octet ← escapedOctet? s
    if octet < 0x80 ∨ 0xc0 ≤ octet then none
    else
      let later ← laterOctets? count (s.drop 3)
      return Char.ofNat octet :: later

def escapedOctets? (s : List Char) : Option (List Char) := do
  let octet ← escapedOctet? s
  let count ← octetCount? octet
  let later ← laterOctets? (count - 1) (s.drop 3)
  return Char.ofNat octet :: later

def uriChars (verbatim : Bool) (steps : Nat) (i : Input) : Option (List Char × Input) :=
  match steps with
  | 0 => some ([], i)
  | steps + 1 =>
    match i.rest with
    | [] => some ([], i)
    | c :: _ =>
      if !isUriChar verbatim c then some ([], i)
      else if c = '%' then do
        let octets ← escapedOctets? i.rest
        let (later, i) ← uriChars verbatim steps (i.skipMany (3 * octets.length))
        return (octets ++ later, i)
      else (uriChars verbatim steps i.skip).map fun (later, i) => (c :: later, i)

def untilNul (chars : List Char) : List Char := chars.takeWhile (· != '\x00')

def uri (verbatim : Bool) (i : Input) : Option (List Char × Input) := do
  let (chars, i) ← uriChars verbatim (i.rest.length + 1) i
  if chars = [] then none else return (untilNul chars, i)

/-- A tag ends at a gap; inside flow collections a comma ends it too. -/
def endsTag (inFlow : Bool) (rest : List Char) : Bool :=
  atGap rest || inFlow && rest.head? == some ','

/-- A tag after its exclamation mark: the handle and the suffix. -/
def tagParts (i : Input) : Option ((List Char × List Char) × Input) :=
  if i.rest.head? == some '<' then do
    let (chars, i) ← uri true i.skip
    if i.rest.head? == some '>' then return (([], chars), i.skip) else none
  else
    let word := i.taken isWordChar
    let after := i.skipWhile isWordChar
    if after.rest.head? == some '!' then do
      let (chars, i) ← uri false after.skip
      return (('!' :: word ++ ['!'], chars), i)
    else do
      let (chars, i) ← uriChars false (i.rest.length + 1) i
      let suffix := untilNul chars
      return (if suffix = [] then ([], ['!']) else (['!'], suffix), i)

def tag (inFlow : Bool) (i : Input) : Option (Token × Input) := do
  let ((handle, suffix), i) ← tagParts i
  if endsTag inFlow i.rest then return (.tag handle suffix, i) else none

end Tags

section Directives

def versionNumber (i : Input) : Option (Nat × Input) :=
  let digits := i.taken Char.isDigit
  if digits = [] ∨ 9 < digits.length then none
  else some (digits.foldl (fun n c => n * 10 + (c.toNat - 48)) 0, i.skipWhile Char.isDigit)

def versionValue (i : Input) : Option (Token × Input) := do
  let (major, i) ← versionNumber i.skipBlanks
  if i.rest.head? ≠ some '.' then none
  else
    let (minor, i) ← versionNumber i.skip
    return (.version major minor, i)

def tagHandleValue (i : Input) : Option (Token × Input) := do
  let i := i.skipBlanks
  if i.rest.head? ≠ some '!' then none
  else
    let word := i.skip.taken isWordChar
    let after := i.skip.skipWhile isWordChar
    let closed := after.rest.head? == some '!'
    if !closed ∧ word ≠ [] then none
    else
      let handle := if closed then '!' :: word ++ ['!'] else ['!']
      let i := if closed then after.skip else after
      if !i.rest.head?.any isBlank then none
      else
        let (replacement, i) ← uri true i.skipBlanks
        if atGap i.rest then return (.tagHandle handle replacement, i) else none

def directive (i : Input) : Option (Token × Input) := do
  let name := i.taken isWordChar
  let i := i.skipWhile isWordChar
  if !atGap i.rest then none
  else
    let (token, i) ←
      if name = ['Y', 'A', 'M', 'L'] then versionValue i
      else if name = ['T', 'A', 'G'] then tagHandleValue i
      else none
    let i ← i.skipLineRest
    return (token, i)

end Directives

end RecordComparison.Yaml
