/-!
Texts for a terminal: what could steer it is shown as an escape. Tabs and the ends of lines
stay as they are.
-/
namespace RecordComparison.Terminal

def escapeChar (c : Char) : List Char :=
  match c with
  | '\x07' => ['\\', 'x', '0', '7']
  | '\x08' => ['\\', 'x', '0', '8']
  | '\x0c' => ['\\', 'x', '0', 'c']
  | '\x1b' => ['\\', 'x', '1', 'b']
  | '\x7f' => ['\\', 'x', '7', 'f']
  | c =>
    if 0x80 ≤ c.toNat ∧ c.toNat < 0xa0 then
      '\\' :: 'u' :: '\x7b' :: Nat.toDigits 16 c.toNat ++ ['\x7d']
    else [c]

end RecordComparison.Terminal

namespace RecordComparison

def terminalText (s : String) : String := String.ofList (s.toList.flatMap Terminal.escapeChar)

end RecordComparison
