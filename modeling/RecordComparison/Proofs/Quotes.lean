import RecordComparison.Proofs.Cuts
import RecordComparison.Text.Quoted

/-!
Quoted texts can be read back, also from the front of a longer text. Every escape is shown as a
backslash with a letter or a number, which no other character is shown as, and the quote inside a
text never stands alone, so that the first one that does ends the text. Main statement:
`quoted_cut`.
-/
namespace RecordComparison.Quoted

section Numbers

def hexValue (c : Char) : Nat := if c.isDigit then c.toNat - 48 else c.toNat - 87

def hexNumber (digits : List Char) : Nat := digits.foldl (fun n c => 16 * n + hexValue c) 0

@[simp] theorem hex_number_read (n : Nat) : hexNumber (hexDigits n) = n := by
  have value : ∀ d < 16, hexValue (Nat.digitChar d) = d := by decide
  induction n using Nat.strongRecOn with
  | ind n ih =>
    rw [hexDigits, Nat.toDigits_eq_if (by decide)]
    split
    · next small => rw [hexNumber, List.foldl_cons, List.foldl_nil, value n small, Nat.zero_add]
    · next large =>
      have front : (Nat.toDigits 16 (n / 16)).foldl (fun n c => 16 * n + hexValue c) 0 = n / 16 :=
        ih (n / 16) (by omega)
      rw [hexNumber, List.foldl_append, front, List.foldl_cons, List.foldl_nil,
        value _ (Nat.mod_lt n (by decide))]
      exact Nat.div_add_mod n 16

@[simp] theorem hex_digits_unclosed (n : Nat) : '\x7d' ∉ hexDigits n := by
  have shown : ∀ d < 16, '\x7d' ≠ Nat.digitChar d := by decide
  induction n using Nat.strongRecOn with
  | ind n ih =>
    rw [hexDigits, Nat.toDigits_eq_if (by decide)]
    split
    · next small => exact mt List.mem_singleton.mp (shown n small)
    · next large =>
      rw [List.mem_append, not_or]
      exact ⟨ih (n / 16) (by omega),
        mt List.mem_singleton.mp (shown _ (Nat.mod_lt n (by decide)))⟩

end Numbers

section Characters

def lettered : Char → Char
  | '0' => '\x00'
  | 't' => '\t'
  | 'n' => '\n'
  | 'r' => '\r'
  | c => c

def unescape : List Char → Option (Char × List Char)
  | '\\' :: 'u' :: '\x7b' :: later =>
    some (.ofNat (hexNumber (before '\x7d' later)), after '\x7d' later)
  | '\\' :: c :: later => some (lettered c, later)
  | c :: later => some (c, later)
  | [] => none

/-- A character that can be told from all escapes if a backslash stands before it. -/
structure Clear (quote : Char) : Prop where
  plain : lettered quote = quote
  unnumbered : quote ≠ 'u'
  alone : quote ≠ '\\'

theorem unescape_lettered {c : Char} (unnumbered : c ≠ 'u') (later : List Char) :
    unescape ('\\' :: c :: later) = some (lettered c, later) := by
  simp [unescape, unnumbered]

theorem unescape_unescaped {c : Char} (other : c ≠ '\\') (later : List Char) :
    unescape (c :: later) = some (c, later) := by
  simp [unescape, other]

theorem unescape_numbered (c : Char) (later : List Char) :
    unescape ('\\' :: 'u' :: '\x7b' :: hexDigits c.toNat ++ ['\x7d'] ++ later) =
      some (c, later) := by
  simp only [List.cons_append, List.append_assoc, List.nil_append, unescape,
    before_found (hex_digits_unclosed _), after_found (hex_digits_unclosed _), hex_number_read,
    Char.ofNat_toNat]

theorem unescape_escaped {quote : Char} (clear : Clear quote) (c : Char) (later : List Char) :
    unescape (escapeChar quote c ++ later) = some (c, later) := by
  unfold escapeChar
  split
  case h_6 _ _ _ _ _ other =>
    split
    case isTrue same =>
      subst same
      rw [List.cons_append, List.cons_append, List.nil_append,
        unescape_lettered clear.unnumbered, clear.plain]
    split
    case isTrue hidden => exact unescape_numbered c later
    case isFalse shown => exact unescape_unescaped other later
  all_goals exact unescape_lettered (by decide) later

theorem escaped_first {quote : Char} (clear : Clear quote) (c : Char) :
    ∃ first later, escapeChar quote c = first :: later ∧ first ≠ quote := by
  unfold escapeChar
  split
  case h_6 =>
    split
    case isTrue same => exact ⟨_, _, rfl, clear.alone.symm⟩
    split
    case isTrue hidden => exact ⟨_, _, rfl, clear.alone.symm⟩
    case isFalse different shown => exact ⟨_, _, rfl, different⟩
  all_goals exact ⟨_, _, rfl, clear.alone.symm⟩

end Characters

section Texts

variable {quote : Char}

theorem closed_differs (clear : Clear quote) {c : Char} {s t : List Char} :
    quote :: s ≠ escapeChar quote c ++ t := by
  obtain ⟨first, later, spelled, other⟩ := escaped_first clear c
  rw [spelled, List.cons_append]
  intro same
  exact other (List.cons.inj same).1.symm

-- By recursion on both texts, whose first characters are read from the front.
theorem escape_cut (clear : Clear quote) : ∀ {a b s t : List Char},
    escape quote a ++ quote :: s = escape quote b ++ quote :: t → a = b ∧ s = t
  | [], [], _, _, same => ⟨rfl, (List.cons.inj same).2⟩
  | [], d :: b, _, _, same => by
    rw [escape, escape, List.flatMap_nil, List.flatMap_cons, List.append_assoc] at same
    exact absurd same (closed_differs clear)
  | c :: a, [], _, _, same => by
    rw [escape, escape, List.flatMap_nil, List.flatMap_cons, List.append_assoc] at same
    exact absurd same.symm (closed_differs clear)
  | c :: a, d :: b, s, t, same => by
    have read : unescape (escapeChar quote c ++ (escape quote a ++ quote :: s)) =
        unescape (escapeChar quote d ++ (escape quote b ++ quote :: t)) := by
      rw [← List.append_assoc, ← List.append_assoc]
      exact congrArg unescape same
    rw [unescape_escaped clear, unescape_escaped clear] at read
    obtain ⟨rfl, later⟩ := Prod.mk.inj (Option.some.inj read)
    obtain ⟨rfl, rest⟩ := escape_cut clear later
    exact ⟨rfl, rest⟩

/-- Whatever comes after them, quoted texts that begin alike are quotes of the same text. -/
theorem quoted_cut (clear : Clear quote) {a b s t : List Char}
    (same : chars quote a ++ s = chars quote b ++ t) : a = b ∧ s = t := by
  have inner : escape quote a ++ quote :: s = escape quote b ++ quote :: t := by
    simpa [chars] using same
  exact escape_cut clear inner

end Texts

theorem clear_double : Clear '\x22' := ⟨rfl, by decide, by decide⟩

theorem clear_single : Clear '\x27' := ⟨rfl, by decide, by decide⟩

end RecordComparison.Quoted

namespace RecordComparison

end RecordComparison
