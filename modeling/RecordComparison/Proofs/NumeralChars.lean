import RecordComparison.Decimal.Style
import RecordComparison.Proofs.ReadBack

/-!
The characters of numbers. In whatever style a number is written, there are digits and a few marks
in its text, and its first character is a digit, a minus sign or a letter.
-/
namespace RecordComparison

section Digits

def Digits (s : List Char) : Prop := ∀ c ∈ s, c.isDigit = true

theorem Digits.append {s t : List Char} (left : Digits s) (right : Digits t) : Digits (s ++ t) :=
  List.forall_mem_append.mpr ⟨left, right⟩

theorem Digits.subset {s t : List Char} (inside : s ⊆ t) (digits : Digits t) : Digits s :=
  fun c member => digits c (inside member)

theorem Digits.absent {s : List Char} (digits : Digits s) {c : Char} (other : c.isDigit = false) :
    c ∉ s := by
  intro member
  rw [digits c member] at other
  contradiction

theorem natural_digits (n : Nat) : Digits (Nat.toDigits 10 n) :=
  fun _ member => Nat.isDigit_of_mem_toDigits (by decide) (by decide) member

theorem natural_absent (n : Nat) {c : Char} (other : c.isDigit = false) :
    c ∉ (toString n).toList := by
  have spelled : (toString n).toList = Nat.toDigits 10 n := Nat.toList_repr
  exact spelled ▸ (natural_digits n).absent other

theorem zeros_digits (n : Nat) : Digits (zeros n) := by
  intro c member
  rw [List.eq_of_mem_replicate member]
  rfl

theorem natural_chars (n : Nat) : (toString (Int.ofNat n)).toList = Nat.toDigits 10 n :=
  Nat.toList_repr

theorem negative_chars (n : Nat) :
    (toString (Int.negSucc n)).toList = '-' :: Nat.toDigits 10 (n + 1) := by
  rw [← Json.negative_spelled, Json.chars]

theorem decimal_digits (d : Decimal) : d.digits = Nat.toDigits 10 d.coefficient :=
  Nat.toList_repr

theorem decimal_digits_proper (d : Decimal) : Digits d.digits :=
  decimal_digits d ▸ natural_digits d.coefficient

theorem decimal_digits_nonempty (d : Decimal) : d.digits ≠ [] :=
  decimal_digits d ▸ Nat.toDigits_ne_nil

end Digits

section Numbers

theorem positional_chars (pointZero : Bool) {digits : List Char} (proper : Digits digits)
    (whole : Int) : ∀ c ∈ positionalDigits pointZero digits whole, c.isDigit = true ∨ c = '.' := by
  have digit {s : List Char} (inside : Digits s) : ∀ c ∈ s, c.isDigit = true ∨ c = '.' :=
    fun c member => .inl (inside c member)
  unfold positionalDigits
  split
  · exact List.forall_mem_cons.mpr ⟨by decide, List.forall_mem_cons.mpr
      ⟨by decide, digit ((zeros_digits _).append proper)⟩⟩
  split
  · refine List.forall_mem_append.mpr ⟨digit (proper.append (zeros_digits _)), ?_⟩
    cases pointZero <;> simp
  · exact List.forall_mem_append.mpr ⟨digit (proper.subset (List.take_subset _ _)),
      List.forall_mem_cons.mpr ⟨.inr rfl, digit (proper.subset (List.drop_subset _ _))⟩⟩

theorem decimal_first (style : NumberStyle) (d : Decimal) :
    ∃ c s, d.chars style = c :: s ∧ c.isDigit = true := by
  obtain ⟨first, later, spelled⟩ := List.exists_cons_of_ne_nil (decimal_digits_nonempty d)
  have digit : first.isDigit = true := decimal_digits_proper d first (spelled ▸ List.mem_cons_self)
  rw [Decimal.chars, spelled]
  split
  · unfold positionalDigits
    split
    · exact ⟨_, _, rfl, rfl⟩
    split
    · exact ⟨_, _, rfl, digit⟩
    · next positive _ =>
      obtain ⟨n, whole⟩ : ∃ n, (d.leading + 1).toNat = n + 1 := ⟨(d.leading).toNat, by omega⟩
      rw [whole]
      exact ⟨_, _, rfl, digit⟩
  · exact ⟨_, _, rfl, digit⟩

/-- The characters besides digits that the text of a value may hold. -/
def numberMarks : List Char := ['.', 'e', '+', '-', 'i', 'n', 'f', 'N', 'a']

def Numeric (s : List Char) : Prop := ∀ c ∈ s, c.isDigit = true ∨ c ∈ numberMarks

theorem Digits.numeric {s : List Char} (digits : Digits s) : Numeric s :=
  fun c member => .inl (digits c member)

theorem Numeric.append {s t : List Char} (left : Numeric s) (right : Numeric t) :
    Numeric (s ++ t) := List.forall_mem_append.mpr ⟨left, right⟩

theorem Numeric.marks {s : List Char} (marks : s.all numberMarks.contains = true) : Numeric s :=
  fun c member => .inr (List.contains_iff_mem.mp (List.all_eq_true.mp marks c member))

theorem Numeric.absent {s : List Char} (numeric : Numeric s) {c : Char}
    (other : c.isDigit = false) (unmarked : c ∉ numberMarks) : c ∉ s := by
  intro member
  rcases numeric c member with digit | mark
  · rw [other] at digit
    contradiction
  · exact unmarked mark

theorem integer_numeric (n : Int) : Numeric (toString n).toList := by
  cases n with
  | ofNat n => exact natural_chars n ▸ (natural_digits n).numeric
  | negSucc n =>
    rw [negative_chars]
    exact List.forall_mem_cons.mpr ⟨by decide, (natural_digits (n + 1)).numeric⟩

theorem positional_numeric (pointZero : Bool) {digits : List Char} (proper : Digits digits)
    (whole : Int) : Numeric (positionalDigits pointZero digits whole) := by
  intro c member
  rcases positional_chars pointZero proper whole c member with digit | rfl
  · exact .inl digit
  · exact .inr (by decide)

theorem scientific_numeric (plusSign : Bool) {digits : List Char} (proper : Digits digits)
    (exponent : Int) : Numeric (scientificDigits plusSign digits exponent) := by
  have part {s : List Char} (inside : s ⊆ digits) : Numeric s := (proper.subset inside).numeric
  have fraction : Numeric (digits.drop 1) := part (List.drop_subset _ _)
  unfold scientificDigits
  refine .append (.append (.append (part (List.take_subset _ _)) ?_) ?_) (integer_numeric exponent)
  · split
    · exact .marks rfl
    · exact List.forall_mem_cons.mpr ⟨by decide, fraction⟩
  · split
    · exact .marks (by decide)
    · exact .marks (by decide)

theorem decimal_numeric (style : NumberStyle) (d : Decimal) : Numeric (d.chars style) := by
  rw [Decimal.chars]
  split
  · exact positional_numeric _ (decimal_digits_proper d) _
  · exact scientific_numeric _ (decimal_digits_proper d) _

theorem finite_numeric {f : BinaryFormat} (style : NumberStyle) (x : Finite f) :
    Numeric (x.chars style) := by
  have sign : Numeric (if x.negative then ['-'] else []) := by
    split
    · exact .marks (by decide)
    · exact .marks rfl
  exact sign.append (decimal_numeric _ _)

theorem binary_numeric {f : BinaryFormat} (style : NumberStyle) (x : Binary f) :
    Numeric (x.text style).toList := by
  cases x with
  | finite x =>
    rw [Binary.text, String.toList_ofList]
    exact finite_numeric style x
  | infinite negative =>
    have positive : Numeric "inf".toList := .marks (by decide)
    have below : Numeric "-inf".toList := .marks (by decide)
    cases negative with
    | false => exact positive
    | true => exact below
  | nan =>
    have word : Numeric "NaN".toList := .marks (by decide)
    exact word

end Numbers

end RecordComparison
