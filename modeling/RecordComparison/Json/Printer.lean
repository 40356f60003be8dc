import RecordComparison.Json.Value

/-!
Compact JSON text: no blanks, members in the order they have, and only those characters
escaped that JSON does not allow in a string.
-/
namespace RecordComparison.Json

def escapeChar (c : Char) : List Char :=
  match c with
  | '\x22' => ['\\', '\x22']
  | '\\' => ['\\', '\\']
  | '\x08' => ['\\', 'b']
  | '\x0c' => ['\\', 'f']
  | '\n' => ['\\', 'n']
  | '\r' => ['\\', 'r']
  | '\t' => ['\\', 't']
  | c =>
    if c.toNat < 0x20 then
      ['\\', 'u', '0', '0', Nat.digitChar (c.toNat / 16), Nat.digitChar (c.toNat % 16)]
    else [c]

def stringChars (s : String) : List Char := '\x22' :: s.toList.flatMap escapeChar ++ ['\x22']

mutual

def chars : Json → List Char
  | null => ['n', 'u', 'l', 'l']
  | bool true => ['t', 'r', 'u', 'e']
  | bool false => ['f', 'a', 'l', 's', 'e']
  | integer n => (toString n).toList
  | real x => x.chars .json
  | string s => stringChars s
  | array [] => ['[', ']']
  | array (item :: items) => '[' :: chars item ++ laterItems items
  | object [] => ['\x7b', '\x7d']
  | object ((key, value) :: members) =>
    '\x7b' :: stringChars key ++ ':' :: chars value ++ laterMembers members

/-- The items after the first one, and the closing bracket. -/
def laterItems : List Json → List Char
  | [] => [']']
  | item :: items => ',' :: chars item ++ laterItems items

def laterMembers : List (String × Json) → List Char
  | [] => ['\x7d']
  | (key, value) :: members =>
    ',' :: stringChars key ++ ':' :: chars value ++ laterMembers members

end

def text (j : Json) : String := String.ofList j.chars

end RecordComparison.Json
