import RecordComparison.Proofs.Location
import RecordComparison.Proofs.NumeralChars

/-!
Characters that can be seen. Whatever a leaf holds, its text in a report has no hidden
character in it, and so no line break; the same goes for numbers and for identifiers. What
this leaves to hide in a difference are the names of records and of their fields.
-/
namespace RecordComparison

section Characters

/-- None of the characters is hidden; in particular, none of them ends a line. -/
def Visible (s : List Char) : Prop := ∀ c ∈ s, isHidden c = false

def isPlain (c : Char) : Bool := decide (0x20 ≤ c.toNat) && decide (c.toNat < 0x7f)

theorem between_ranges {ranges : List (Nat × Nat)}
    (apart : ranges.all (fun r => decide (r.2 < 0x20) || decide (0x7f ≤ r.1)) = true)
    {c : Char} (plain : isPlain c = true) :
    (ranges.any fun (low, high) => low ≤ c.toNat && c.toNat ≤ high) = false := by
  simp only [isPlain, Bool.and_eq_true, decide_eq_true_eq] at plain
  rw [List.any_eq_false]
  rintro ⟨low, high⟩ member inside
  have outside := List.all_eq_true.mp apart _ member
  simp only [Bool.or_eq_true, Bool.and_eq_true, decide_eq_true_eq] at outside inside
  omega

theorem isHidden_of_plain {c : Char} (plain : isPlain c = true) : isHidden c = false := by
  rw [isHidden, isUnassigned, Bool.or_eq_false_iff]
  constructor
  · exact between_ranges (by decide +kernel) plain
  · exact between_ranges (by decide +kernel) plain

namespace Visible

theorem nil : Visible [] := fun _ member => nomatch member

theorem cons_iff {c : Char} {s : List Char} :
    Visible (c :: s) ↔ isHidden c = false ∧ Visible s := List.forall_mem_cons

theorem flat_map {α : Type} {as : List α} {f : α → List Char}
    (each : ∀ a ∈ as, Visible (f a)) : Visible (as.flatMap f) := by
  intro c member
  obtain ⟨a, inside, here⟩ := List.mem_flatMap.mp member
  exact each a inside c here

theorem of_plain {s : List Char} (plain : s.all isPlain = true) : Visible s :=
  fun c member => isHidden_of_plain (List.all_eq_true.mp plain c member)

theorem cons {c : Char} {s : List Char} (plain : isPlain c = true) (visible : Visible s) :
    Visible (c :: s) := cons_iff.mpr ⟨isHidden_of_plain plain, visible⟩

theorem append {s t : List Char} (left : Visible s) (right : Visible t) : Visible (s ++ t) :=
  List.forall_mem_append.mpr ⟨left, right⟩

theorem joined {s t : String} (left : Visible s.toList) (right : Visible t.toList) :
    Visible (s ++ t).toList := by
  rw [String.toList_append]
  exact append left right

theorem no_line_break {s : List Char} (visible : Visible s) : '\n' ∉ s := by
  intro member
  have hidden := isHidden_of_control '\n' (by decide)
  rw [visible '\n' member] at hidden
  contradiction

end Visible

end Characters

section Numbers

theorem digit_plain (n : Nat) : isPlain (Nat.digitChar n) = true := by
  by_cases large : 16 ≤ n
  · rw [Nat.digitChar_eq_star.mpr large]
    decide
  · have each : ∀ d < 16, isPlain (Nat.digitChar d) = true := by decide
    exact each n (Nat.lt_of_not_le large)

theorem digits_visible {base : Nat} (proper : 1 < base) (n : Nat) :
    Visible (Nat.toDigits base n) := by
  induction n using Nat.strongRecOn with
  | ind n ih =>
    rw [Nat.toDigits_eq_if proper]
    split
    · exact .cons (digit_plain n) .nil
    · next large =>
      have less : n / base < n := Nat.div_lt_self (by omega) proper
      exact .append (ih _ less) (.cons (digit_plain _) .nil)

theorem natural_visible (n : Nat) : Visible (toString n).toList := by
  rw [Nat.toString_eq_ofList_toDigits, String.toList_ofList]
  exact digits_visible (by decide) n

theorem Numeric.visible {s : List Char} (numeric : Numeric s) : Visible s := by
  have marks : numberMarks.all isPlain = true := by decide
  intro c member
  rcases numeric c member with digit | mark
  · have range : 48 ≤ c.toNat ∧ c.toNat ≤ 57 := Char.isDigit_iff_toNat.mp digit
    have plain : isPlain c = true := by
      rw [isPlain, Bool.and_eq_true, decide_eq_true_eq, decide_eq_true_eq]
      omega
    exact isHidden_of_plain plain
  · exact isHidden_of_plain (List.all_eq_true.mp marks c mark)

theorem integer_visible (n : Int) : Visible (toString n).toList := (integer_numeric n).visible

theorem finite_visible {f : BinaryFormat} (style : NumberStyle) (x : Finite f) :
    Visible (x.chars style) := (finite_numeric style x).visible

theorem binary_visible {f : BinaryFormat} (style : NumberStyle) (x : Binary f) :
    Visible (x.text style).toList := (binary_numeric style x).visible

theorem complex_visible (z : Complex) : Visible z.reportText.toList := by
  have re : Visible ("Complex \x7b re: " ++ z.re.text .report).toList :=
    .joined (.of_plain (by decide)) (binary_visible _ _)
  have im : Visible (z.im.text .report).toList := binary_visible _ _
  exact .joined (.joined (.joined re (.of_plain (by decide))) im) (.of_plain (by decide))

end Numbers

section Quotes

/-- Quoting shows every character: a hidden one as its number, the others as they are. -/
theorem quoted_char_visible {quote : Char} (shown : isHidden quote = false) (c : Char) :
    Visible (Quoted.escapeChar quote c) := by
  unfold Quoted.escapeChar
  split
  case h_6 =>
    split
    case isTrue same => exact .cons (by decide) (Visible.cons_iff.mpr ⟨same ▸ shown, .nil⟩)
    split
    case isTrue hidden =>
      refine .cons (by decide) (.cons (by decide) (.cons (by decide) ?_))
      exact .append (digits_visible (by decide) _) (.of_plain (by decide))
    case isFalse seen => exact Visible.cons_iff.mpr ⟨by simpa using seen, .nil⟩
  all_goals exact .of_plain (by decide)

theorem quoted_visible {quote : Char} (shown : isHidden quote = false) (s : List Char) :
    Visible (Quoted.chars quote s) := by
  have inner : Visible (Quoted.escape quote s) :=
    Visible.flat_map fun c _ => quoted_char_visible shown c
  have closing : Visible [quote] := Visible.cons_iff.mpr ⟨shown, .nil⟩
  exact Visible.cons_iff.mpr ⟨shown, inner.append closing⟩

theorem LeafType.text_visible {α : Type} {_ : BEq α} {_ : Leaf α} (type : LeafType α) (a : α) :
    Visible (Leaf.text a).toList := by
  cases type
  case bool => cases a <;> exact .of_plain (by decide)
  case char =>
    simp only [Leaf.text, quotedChar, String.toList_ofList]
    exact quoted_visible (isHidden_of_plain (by decide)) _
  case text =>
    simp only [Leaf.text, quotedText, String.toList_ofList]
    exact quoted_visible (isHidden_of_plain (by decide)) _
  case single => exact binary_visible _ _
  case double => exact binary_visible _ _
  case complex => exact complex_visible _
  case uint8 | uint16 | uint32 | uint64 => exact natural_visible _
  all_goals exact integer_visible _

end Quotes

section Names

theorem letter_or_digit_plain {c : Char} (inside : isLetterOrDigit c = true) :
    isPlain c = true := by
  have found : (((c.isUpper || c.isLower) || c.isDigit) || c == '_') = true := inside
  simp only [Bool.or_eq_true, beq_iff_eq] at found
  have bounds : 65 ≤ c.toNat ∧ c.toNat ≤ 90 ∨ 97 ≤ c.toNat ∧ c.toNat ≤ 122 ∨
      48 ≤ c.toNat ∧ c.toNat ≤ 57 ∨ c.toNat = 95 := by
    rcases found with ((upper | lower) | digit) | rfl
    · obtain ⟨low, high⟩ : c.val ≥ 'A'.val ∧ c.val ≤ 'Z'.val := of_decide_eq_true upper
      exact .inl ⟨UInt32.le_iff_toNat_le.mp low, UInt32.le_iff_toNat_le.mp high⟩
    · obtain ⟨low, high⟩ := Bool.and_eq_true_iff.mp lower
      have least : 'a'.val ≤ c.val := of_decide_eq_true low
      have greatest : c.val ≤ 'z'.val := of_decide_eq_true high
      exact .inr (.inl ⟨UInt32.le_iff_toNat_le.mp least, UInt32.le_iff_toNat_le.mp greatest⟩)
    · obtain ⟨low, high⟩ := Bool.and_eq_true_iff.mp digit
      have least : '0'.val ≤ c.val := of_decide_eq_true low
      have greatest : c.val ≤ '9'.val := of_decide_eq_true high
      exact .inr (.inr (.inl ⟨UInt32.le_iff_toNat_le.mp least, UInt32.le_iff_toNat_le.mp greatest⟩))
    · exact .inr (.inr (.inr rfl))
  simp only [isPlain, Bool.and_eq_true, decide_eq_true_eq]
  omega

theorem identifier_chars {name : String} (proper : isIdentifier name = true) :
    ∃ c s, name.toList = c :: s ∧ ∀ d ∈ name.toList, isLetterOrDigit d = true := by
  rw [isIdentifier] at proper
  split at proper
  · contradiction
  next c later spelled =>
    rw [Bool.and_eq_true] at proper
    have first : isLetterOrDigit c = true := by
      have letter : (c.isAlpha || c == '_') = true := proper.1
      show ((c.isAlpha || c.isDigit) || c == '_') = true
      simp only [Bool.or_eq_true] at letter ⊢
      exact letter.imp_left .inl
    refine ⟨c, later, spelled, ?_⟩
    rw [spelled]
    exact List.forall_mem_cons.mpr ⟨first, List.all_eq_true.mp proper.2⟩

theorem identifier_visible {name : String} (proper : isIdentifier name = true) :
    Visible name.toList := by
  obtain ⟨_, _, _, inside⟩ := identifier_chars proper
  exact fun c member => isHidden_of_plain (letter_or_digit_plain (inside c member))

end Names

end RecordComparison
