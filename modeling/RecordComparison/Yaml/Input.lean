/-!
The text of a YAML stream on its way through a reader: the characters that are left and the
place of the first of them. Lines end at any of five breaks, a carriage return with a line
feed being one.
-/
namespace RecordComparison.Yaml

section Characters

def isBlank (c : Char) : Bool := c == ' ' || c == '\t'

def isBreak (c : Char) : Bool :=
  c == '\n' || c == '\r' || c == '\u0085' || c == '\u2028' || c == '\u2029'

def isWordChar (c : Char) : Bool := c.isAlphanum || c == '-' || c == '_'

def isAllowed (c : Char) : Bool :=
  let n := c.toNat
  n == 0x09 || n == 0x0a || n == 0x0d || (0x20 ≤ n && n ≤ 0x7e) || n == 0x85 ||
    (0xa0 ≤ n && n ≤ 0xfffd) || 0x10000 ≤ n

/-- What a line break is read as: the separators stay, the others become line feeds. -/
def breakChar (c : Char) : Char := if c == '\u2028' || c == '\u2029' then c else '\n'

def octets (s : List Char) : Nat := s.foldl (fun n c => n + c.utf8Size) 0

def atGap : List Char → Bool
  | [] => true
  | c :: _ => isBlank c || isBreak c

end Characters

structure Input where
  rest : List Char
  index : Nat
  line : Nat
  column : Nat
deriving DecidableEq

namespace Input

def ofText (text : String) : Input := ⟨text.toList, 0, 0, 0⟩

def skipMany (n : Nat) (i : Input) : Input :=
  { i with
    rest := i.rest.drop n, index := i.index + octets (i.rest.take n), column := i.column + n }

def skip (i : Input) : Input := i.skipMany 1

def skipBreak (i : Input) : Input :=
  match i.rest with
  | '\r' :: '\n' :: rest => ⟨rest, i.index + 2, i.line + 1, 0⟩
  | rest => ⟨rest.drop 1, i.index + octets (rest.take 1), i.line + 1, 0⟩

def skipWhile (p : Char → Bool) (i : Input) : Input :=
  i.skipMany (i.rest.takeWhile p).length

def taken (p : Char → Bool) (i : Input) : List Char := i.rest.takeWhile p

def skipBlanks (i : Input) : Input := i.skipWhile isBlank

def notBreak (c : Char) : Bool := !isBreak c

def skipComment (i : Input) : Input :=
  match i.rest with
  | '#' :: _ => i.skipWhile notBreak
  | _ => i

def skipLineRest (i : Input) : Option Input :=
  let i := i.skipBlanks.skipComment
  match i.rest with
  | [] => some i
  | c :: _ => if isBreak c then some i.skipBreak else none

def startsLineWith (c : Char) (i : Input) : Bool :=
  i.column == 0 && i.rest.take 3 == [c, c, c] && atGap (i.rest.drop 3)

def atDocumentMark (i : Input) : Bool := i.startsLineWith '-' || i.startsLineWith '.'

end Input

structure Gap where
  blanks : List Char
  broken : Bool
  firstBreak : List Char
  laterBreaks : List Char
deriving DecidableEq

namespace Gap

def empty : Gap := ⟨[], false, [], []⟩

def escaped : Gap := ⟨[], true, [], []⟩

/-- What stands for the gap in the scalar: blanks stay, one line feed is a space, and of more
breaks all but the first stay. -/
def folded (g : Gap) : List Char :=
  if g.broken then
    if g.firstBreak = ['\n'] then
      if g.laterBreaks = [] then [' '] else g.laterBreaks
    else g.firstBreak ++ g.laterBreaks
  else g.blanks

/-- Reads on through blanks and breaks. Blanks at the start of a line are dropped, but a tab
before the column `indent` is not allowed there. -/
def extend (indent steps : Nat) (g : Gap) (i : Input) : Option (Gap × Input) :=
  match steps with
  | 0 => some (g, i)
  | steps + 1 =>
    match i.rest with
    | [] => some (g, i)
    | c :: _ =>
      if isBlank c then
        if g.broken then
          if c = '\t' ∧ i.column < indent then none else extend indent steps g i.skip
        else extend indent steps { g with blanks := g.blanks ++ [c] } i.skip
      else if isBreak c then
        let g :=
          if g.broken then { g with laterBreaks := g.laterBreaks ++ [breakChar c] }
          else ⟨[], true, [breakChar c], []⟩
        extend indent steps g i.skipBreak
      else some (g, i)

end Gap

end RecordComparison.Yaml
