import RecordComparison.Proofs.ReadBack
import RecordComparison.Proofs.Visible
import RecordComparison.Yaml.Scalar

/-!
Scalars of one word inside flow collections. Of a word of letters, digits and underscores nothing is
folded or escaped, and it holds no indicator, so a reader takes it as it is: between quotes up to
the closing one, and plain up to the mark that ends it.
-/
namespace RecordComparison.Yaml

def Word (s : List Char) : Prop := ∀ c ∈ s, isLetterOrDigit c = true

instance (s : List Char) : Decidable (Word s) :=
  decidable_of_iff (s.all isLetterOrDigit = true) List.all_eq_true

section Characters

/-- A character that is no mark of any kind begins nothing else. -/
theorem word_char_ne {c d : Char} (inside : isLetterOrDigit c = true)
    (mark : isLetterOrDigit d = false) : c ≠ d := by
  rintro rfl
  simp [inside] at mark

theorem word_char_bounds {c : Char} (inside : isLetterOrDigit c = true) :
    0x20 ≤ c.toNat ∧ c.toNat < 0x7f := by
  have plain := letter_or_digit_plain inside
  simpa [isPlain] using plain

theorem plain_allowed {c : Char} (plain : isPlain c = true) : isAllowed c = true := by
  simp only [isPlain, Bool.and_eq_true, decide_eq_true_eq] at plain
  simp only [isAllowed, Bool.or_eq_true, Bool.and_eq_true, decide_eq_true_eq, beq_iff_eq]
  omega

theorem word_char_unmarked {c : Char} (inside : isLetterOrDigit c = true) {marks : List Char}
    (unlike : marks.any isLetterOrDigit = false) : ∀ d ∈ marks, c ≠ d :=
  fun d mark => word_char_ne inside (eq_false_of_ne_true (List.any_eq_false.mp unlike d mark))

theorem word_char_not_gap {c : Char} (inside : isLetterOrDigit c = true) :
    isBlank c = false ∧ isBreak c = false := by
  have other : ∀ d ∈ [' ', '\t', '\n', '\r', '\u0085', '\u2028', '\u2029'], c ≠ d :=
    word_char_unmarked inside (by decide)
  simp only [List.forall_mem_cons] at other
  simp [isBlank, isBreak, other]

def inQuotes (s : List Char) : List Char := '\x22' :: s ++ ['\x22']

theorem word_unescaped {s : List Char} (word : Word s) : s.flatMap Json.escapeChar = s := by
  have each : ∀ c ∈ s, Json.escapeChar c = [c] := by
    intro c member
    have inside := word c member
    have bounds := word_char_bounds inside
    unfold Json.escapeChar
    split
    case h_8 => rw [if_neg (by omega)]
    all_goals contradiction
  rw [List.flatMap_def, List.map_congr_left each, ← List.flatMap_def, List.flatMap_singleton']

theorem word_in_quotes {t : String} (word : Word t.toList) :
    Json.stringChars t = inQuotes t.toList := by
  rw [Json.stringChars, word_unescaped word, inQuotes]

end Characters

section Places

@[simp] theorem octets_cons (c : Char) (s : List Char) :
    octets (c :: s) = c.utf8Size + octets s := by
  have shifted (s : List Char) (n : Nat) :
      s.foldl (fun n c => n + c.utf8Size) n = n + octets s := by
    induction s generalizing n with
    | nil => rfl
    | cons d s ih =>
      rw [octets, List.foldl_cons, List.foldl_cons, ih, ih, Nat.zero_add, Nat.add_assoc]
  rw [octets, List.foldl_cons, shifted, Nat.zero_add]

@[simp] theorem octets_append (s t : List Char) : octets (s ++ t) = octets s + octets t := by
  induction s with
  | nil => exact (Nat.zero_add _).symm
  | cons c s ih => rw [List.cons_append, octets_cons, octets_cons, ih, Nat.add_assoc]

@[simp] theorem octets_in_quotes (s : List Char) : octets (inQuotes s) = octets s + 2 := by
  have first : ('\x22').utf8Size = 1 := by decide
  have last : octets ['\x22'] = 1 := by decide
  rw [inQuotes, List.cons_append, octets_cons, octets_append, first, last]
  omega

namespace Input

@[simp] theorem skip_many_add (i : Input) (m n : Nat) :
    (i.skipMany m).skipMany n = i.skipMany (m + n) := by
  simp [skipMany, List.take_add, Nat.add_assoc]

theorem starts_line_differs {i : Input} {c d : Char} {later : List Char}
    (rest : i.rest = c :: later) (other : c ≠ d) : i.startsLineWith d = false := by
  have differ : (i.rest.take 3 == [d, d, d]) = false := by
    rw [rest]
    simp [other]
  rw [startsLineWith, differ, Bool.and_false, Bool.false_and]

theorem no_document_mark {i : Input} {c : Char} {later : List Char} (rest : i.rest = c :: later)
    (dash : c ≠ '-') (dot : c ≠ '.') : i.atDocumentMark = false := by
  rw [atDocumentMark, starts_line_differs rest dash, starts_line_differs rest dot]
  rfl

end Input

end Places

section Quoted

theorem quoted_word_read {w after : List Char} (word : Word w) {i : Input}
    (rest : i.rest = w ++ '\x22' :: after) {steps : Nat} (enough : w.length ≤ steps) :
    quotedWord false steps i = some (w, false, i.skipMany w.length) := by
  induction w generalizing i steps with
  | nil =>
    cases steps with
    | zero => rfl
    | succ steps =>
      rw [quotedWord, rest]
      rfl
  | cons c w ih =>
    obtain ⟨steps, rfl⟩ : ∃ n, steps = n + 1 := ⟨steps - 1, by simp at enough; omega⟩
    obtain ⟨inside, word⟩ := List.forall_mem_cons.mp word
    obtain ⟨blank, line⟩ := word_char_not_gap inside
    have quote : (c == '\x22') = false := beq_eq_false_iff_ne.mpr (word_char_ne inside rfl)
    have slash : (c == '\\') = false := beq_eq_false_iff_ne.mpr (word_char_ne inside rfl)
    have later := ih word (i := i.skipMany 1) (by simp [Input.skipMany, rest])
      (Nat.le_of_succ_le_succ enough)
    rw [Input.skip_many_add, Nat.add_comm 1] at later
    rw [quotedWord, rest, List.cons_append]
    simp [blank, line, quote, slash, later, Input.skip]

theorem quoted_scalar_read {w after : List Char} (word : Word w) {i : Input}
    (rest : i.rest = inQuotes w ++ after) :
    quotedScalar false i.skip = some (w, i.skipMany (inQuotes w).length) := by
  have rest : i.skip.rest = w ++ '\x22' :: after := by
    simp [Input.skip, Input.skipMany, rest, inQuotes]
  have mark : i.skip.atDocumentMark = false := by
    cases w with
    | nil => exact Input.no_document_mark rest (by decide) (by decide)
    | cons c w =>
      have inside := word c List.mem_cons_self
      exact Input.no_document_mark rest (word_char_ne inside rfl) (word_char_ne inside rfl)
  have nonempty : i.skip.rest.isEmpty = false := by simp [rest]
  have enough : w.length ≤ i.skip.rest.length := by simp [rest]
  have read := quoted_word_read word rest enough
  have closing : (i.skip.skipMany w.length).rest = '\x22' :: after := by
    simp [Input.skipMany, rest]
  have length : (inQuotes w).length = 1 + w.length + 1 := by simp [inQuotes]; omega
  have passed : (i.skip.skipMany w.length).skip = i.skipMany (inQuotes w).length := by
    rw [Input.skip, Input.skip, Input.skip_many_add, Input.skip_many_add, length, Nat.add_assoc]
  rw [quotedScalar, quotedWords, mark, nonempty]
  simp [read, closing, passed]

end Quoted

section Plain

theorem plain_word_read {w after : List Char} (word : Word w) (ends : Json.Follows after)
    {i : Input} (rest : i.rest = w ++ after) {steps : Nat} (enough : w.length ≤ steps) :
    plainWord true steps i = some (w, i.skipMany w.length) := by
  induction w generalizing i steps with
  | nil =>
    cases steps with
    | zero => rfl
    | succ steps =>
      rw [plainWord, rest]
      cases after with
      | nil => rfl
      | cons c after => rcases ends c rfl with rfl | rfl | rfl <;> rfl
  | cons c w ih =>
    obtain ⟨steps, rfl⟩ : ∃ n, steps = n + 1 := ⟨steps - 1, by simp at enough; omega⟩
    obtain ⟨inside, word⟩ := List.forall_mem_cons.mp word
    obtain ⟨blank, line⟩ := word_char_not_gap inside
    have other : ∀ d ∈ [':', ',', '[', ']', '\x7b', '\x7d'], c ≠ d :=
      word_char_unmarked inside (by decide)
    simp only [List.forall_mem_cons] at other
    have goesOn : endsFlowScalar c = false := by simp [endsFlowScalar, other]
    have later := ih word (i := i.skipMany 1) (by simp [Input.skipMany, rest])
      (Nat.le_of_succ_le_succ enough)
    rw [Input.skip_many_add, Nat.add_comm 1] at later
    rw [plainWord, rest, List.cons_append]
    simp [blank, line, other, goesOn, later, Input.skip]

theorem plain_scalar_read {w after : List Char} (word : Word w) (proper : w ≠ [])
    (ends : Json.Follows after) {i : Input} (rest : i.rest = w ++ after) (indent : Nat) :
    plainScalar true indent i = some (w, false, i.skipMany w.length) := by
  obtain ⟨c, later, spelled⟩ := List.exists_cons_of_ne_nil proper
  have inside : isLetterOrDigit c = true := word c (spelled ▸ List.mem_cons_self)
  have first : i.rest = c :: (later ++ after) := by rw [rest, spelled, List.cons_append]
  have mark : i.atDocumentMark = false :=
    Input.no_document_mark first (word_char_ne inside rfl) (word_char_ne inside rfl)
  have comment : (i.rest.head? == some '#') = false := by
    rw [first]
    exact beq_eq_false_iff_ne.mpr fun same => word_char_ne inside rfl (Option.some.inj same)
  have enough : w.length ≤ i.rest.length := by simp [rest]
  have read := plain_word_read word ends rest enough
  have last : (i.skipMany w.length).rest = after := by simp [Input.skipMany, rest]
  have ended : (atGap after && !after.isEmpty) = false := by
    cases after with
    | nil => rfl
    | cons d after => rcases ends d rfl with rfl | rfl | rfl <;> rfl
  rw [plainScalar, plainWords, mark, comment]
  simp only [Bool.or_self, Bool.false_eq_true, if_false, read, Option.bind_eq_bind,
    Option.bind_some, if_neg proper, last, ended]
  rfl

end Plain

end RecordComparison.Yaml
