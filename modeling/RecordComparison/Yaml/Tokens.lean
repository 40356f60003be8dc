import RecordComparison.Yaml.Property

/-!
From the text of a stream to its tokens. What begins like a scalar may turn out to be a key
when a colon follows on the same line; then the tokens of the key go in front of it. Outside
flow collections, the columns of the open block collections decide where blocks end.
-/
namespace RecordComparison.Yaml

/-- A place at which a key may have begun. -/
structure KeyStart where
  -- Whether nothing but a key can stand there.
  required : Bool
  token : Nat
  index : Nat
  line : Nat
  column : Nat
deriving DecidableEq

structure Scan where
  input : Input
  tokens : List Token
  -- The possible starts of keys outside and inside the open flow collections, the innermost
  -- first.
  outerKeys : List (Option KeyStart)
  keyStart : Option KeyStart
  keyAllowed : Bool
  blocks : List Nat
deriving DecidableEq

namespace Scan

def start (text : String) : Scan := ⟨.ofText text, [], [], none, true, []⟩

def inFlow (s : Scan) : Bool := !s.outerKeys.isEmpty

def emit (token : Token) (s : Scan) : Scan := { s with tokens := token :: s.tokens }

def insert (n : Nat) (token : Token) (s : Scan) : Scan :=
  let later := s.tokens.length - n
  { s with tokens := s.tokens.take later ++ token :: s.tokens.drop later }

section Keys

def forgetKey (s : Scan) : Option Scan :=
  match s.keyStart with
  | some k => if k.required then none else some { s with keyStart := none }
  | none => some s

def noteKey (s : Scan) : Option Scan :=
  if s.keyAllowed then do
    let i := s.input
    let required := !s.inFlow && s.blocks.head? == some i.column
    let s ← s.forgetKey
    return { s with keyStart := some ⟨required, s.tokens.length, i.index, i.line, i.column⟩ }
  else some s

def longestKey : Nat := 1024

def expired (i : Input) (k : KeyStart) : Bool :=
  decide (k.line < i.line) || decide (k.index + longestKey < i.index)

/-- A start that is still possible; fails for one that had to be a key. -/
def checkedKey (i : Input) : Option KeyStart → Option (Option KeyStart)
  | some k => if expired i k then (if k.required then none else some none) else some (some k)
  | none => some none

def expireKeys (s : Scan) : Option Scan := do
  let outerKeys ← s.outerKeys.mapM (checkedKey s.input)
  let keyStart ← checkedKey s.input s.keyStart
  return { s with outerKeys, keyStart }

end Keys

section Blocks

def closeBlocks (n : Nat) (s : Scan) : Scan :=
  { s with tokens := List.replicate n .blockEnd ++ s.tokens, blocks := s.blocks.drop n }

def closeDeeper (column : Nat) (s : Scan) : Scan :=
  if s.inFlow then s else s.closeBlocks (s.blocks.takeWhile (column < ·)).length

def closeAll (s : Scan) : Scan := if s.inFlow then s else s.closeBlocks s.blocks.length

/-- Opens a block at a column unless there is one already; its token goes behind the first
`n` tokens. -/
def openBlock (column n : Nat) (token : Token) (s : Scan) : Scan :=
  if s.inFlow || s.blocks.head?.any (column ≤ ·) then s
  else { s.insert n token with blocks := column :: s.blocks }

end Blocks

section Fetching

/-- Past blanks, comments and line breaks. Outside flow collections a new line allows a key,
and tabs are not blanks where one is allowed. -/
def skipGap (steps : Nat) (s : Scan) : Scan :=
  match steps with
  | 0 => s
  | steps + 1 =>
    let i := s.input
    let i := if i.column = 0 ∧ i.rest.head? = some '\ufeff' then i.skip else i
    let tabs := s.inFlow || !s.keyAllowed
    let i := i.skipWhile fun c => c == ' ' || tabs && c == '\t'
    let i := i.skipComment
    if i.rest.head?.any isBreak then
      skipGap steps { s with input := i.skipBreak, keyAllowed := s.keyAllowed || !s.inFlow }
    else { s with input := i }

def indicator (token : Token) (n : Nat) (keyAllowed : Bool) (s : Scan) : Scan :=
  { s.emit token with input := s.input.skipMany n, keyAllowed }

def read (result : Option (Token × Input)) (keyAllowed : Bool) (s : Scan) : Option Scan :=
  result.map fun (token, input) => { s.emit token with input, keyAllowed }

def readDirective (s : Scan) : Option Scan := do
  let s ← s.closeAll.forgetKey
  s.read (directive s.input.skip) false

def documentMark (token : Token) (s : Scan) : Option Scan := do
  let s ← s.closeAll.forgetKey
  return s.indicator token 3 false

def openFlow (token : Token) (s : Scan) : Option Scan := do
  let s ← s.noteKey
  let s := { s with outerKeys := s.keyStart :: s.outerKeys, keyStart := none }
  return s.indicator token 1 true

def closeFlow (token : Token) (s : Scan) : Option Scan := do
  let s ← s.forgetKey
  let s :=
    match s.outerKeys with
    | [] => s
    | k :: outerKeys => { s with outerKeys, keyStart := k }
  return s.indicator token 1 false

def flowEntry (s : Scan) : Option Scan := do
  let s ← s.forgetKey
  return s.indicator .flowEntry 1 true

def blockEntry (s : Scan) : Option Scan :=
  if !s.inFlow && !s.keyAllowed then none
  else do
    let s ← (s.openBlock s.input.column s.tokens.length .blockSequenceStart).forgetKey
    return s.indicator .blockEntry 1 true

def keyIndicator (s : Scan) : Option Scan :=
  if !s.inFlow && !s.keyAllowed then none
  else do
    let s ← (s.openBlock s.input.column s.tokens.length .blockMappingStart).forgetKey
    return s.indicator .key 1 (!s.inFlow)

/-- A colon: what began at the noted start was a key, or an empty key comes before it. -/
def valueIndicator (s : Scan) : Option Scan :=
  match s.keyStart with
  | some k =>
    let s := (s.insert k.token .key).openBlock k.column k.token .blockMappingStart
    some ({ s with keyStart := none }.indicator .value 1 false)
  | none =>
    if !s.inFlow && !s.keyAllowed then none
    else
      let s := s.openBlock s.input.column s.tokens.length .blockMappingStart
      some (s.indicator .value 1 (!s.inFlow))

def readAlias (s : Scan) : Option Scan := do
  let s ← s.noteKey
  s.read ((anchorName s.input.skip).map fun (name, i) => (.alias name, i)) false

def readAnchor (s : Scan) : Option Scan := do
  let s ← s.noteKey
  s.read ((anchorName s.input.skip).map fun (name, i) => (.anchor name, i)) false

def readTag (s : Scan) : Option Scan := do
  let s ← s.noteKey
  s.read (tag s.inFlow s.input.skip) false

def readBlockScalar (literal : Bool) (s : Scan) : Option Scan := do
  let s ← s.forgetKey
  let style := if literal then ScalarStyle.literal else .folded
  let result := blockScalar literal s.blocks.head? s.input.skip
  s.read (result.map fun (text, i) => (.scalar style text, i)) true

def readQuoted (single : Bool) (s : Scan) : Option Scan := do
  let s ← s.noteKey
  s.read ((quotedScalar single s.input.skip).map fun (text, i) => (.scalar .quoted text, i)) false

def readPlain (s : Scan) : Option Scan := do
  let s ← s.noteKey
  let indent :=
    match s.blocks.head? with
    | some n => n + 1
    | none => 0
  let (text, broken, i) ← plainScalar s.inFlow indent s.input
  s.read (some (.scalar .plain text, i)) broken

def beginsPlain (inFlow : Bool) (c : Char) (after : List Char) : Bool :=
  let special := ['-', '?', ':', ',', '[', ']', '\x7b', '\x7d', '#', '&', '*', '!', '|', '>',
    '\x27', '\x22', '%', '@', '\x60'].contains c
  !(special || isBlank c || isBreak c) ||
    c == '-' && !after.head?.any isBlank ||
    !inFlow && (c == '?' || c == ':') && !atGap after

def token (c : Char) (after : List Char) (s : Scan) : Option Scan :=
  let gapFollows := atGap after
  if s.input.column = 0 ∧ c = '%' then s.readDirective
  else if s.input.startsLineWith '-' then s.documentMark .documentStart
  else if s.input.startsLineWith '.' then s.documentMark .documentEnd
  else if c = '[' then s.openFlow .flowSequenceStart
  else if c = '\x7b' then s.openFlow .flowMappingStart
  else if c = ']' then s.closeFlow .flowSequenceEnd
  else if c = '\x7d' then s.closeFlow .flowMappingEnd
  else if c = ',' then s.flowEntry
  else if c = '-' ∧ gapFollows then s.blockEntry
  else if c = '?' ∧ (s.inFlow ∨ gapFollows) then s.keyIndicator
  else if c = ':' ∧ (s.inFlow ∨ gapFollows) then s.valueIndicator
  else if c = '*' then s.readAlias
  else if c = '&' then s.readAnchor
  else if c = '!' then s.readTag
  else if c = '|' ∧ !s.inFlow then s.readBlockScalar true
  else if c = '>' ∧ !s.inFlow then s.readBlockScalar false
  else if c = '\x27' then s.readQuoted true
  else if c = '\x22' then s.readQuoted false
  else if beginsPlain s.inFlow c after then s.readPlain
  else none

def allTokens (steps : Nat) (s : Scan) : Option (List Token) :=
  match steps with
  | 0 => none
  | steps + 1 => do
    let s ← (s.skipGap (s.input.rest.length + 1)).expireKeys
    match s.input.rest with
    | [] =>
      let s ← s.closeAll.forgetKey
      return s.tokens.reverse
    | c :: after =>
      let s ← (s.closeDeeper s.input.column).token c after
      allTokens steps s

end Fetching

end Scan

def tokens? (text : String) : Option (List Token) :=
  if text.toList.all isAllowed then
    (Scan.start text).allTokens (text.toList.length + 1)
  else none

end RecordComparison.Yaml
