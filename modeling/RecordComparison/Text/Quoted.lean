import RecordComparison.Text.Hidden

/-!
Quoted text: the quote and the backslash are escaped, and hidden characters are written as
their numbers, so that a quoted text stands on one line and shows what it holds.
-/
namespace RecordComparison.Quoted

def hexDigits (n : Nat) : List Char := Nat.toDigits 16 n

def escapeChar (quote c : Char) : List Char :=
  match c with
  | '\x00' => ['\\', '0']
  | '\t' => ['\\', 't']
  | '\n' => ['\\', 'n']
  | '\r' => ['\\', 'r']
  | '\\' => ['\\', '\\']
  | c =>
    if c = quote then ['\\', c]
    else if isHidden c then '\\' :: 'u' :: '\x7b' :: hexDigits c.toNat ++ ['\x7d']
    else [c]

def escape (quote : Char) (s : List Char) : List Char := s.flatMap (escapeChar quote)

def chars (quote : Char) (s : List Char) : List Char := quote :: escape quote s ++ [quote]

end RecordComparison.Quoted

namespace RecordComparison

def quotedText (s : String) : String := String.ofList (Quoted.chars '\x22' s.toList)

def quotedChar (c : Char) : String := String.ofList (Quoted.chars '\x27' [c])

end RecordComparison
