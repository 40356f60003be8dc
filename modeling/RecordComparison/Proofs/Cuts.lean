import Mathlib.Data.List.TakeWhile

/-!
Texts that are cut in two. Where a piece of a text ends can be told by the characters: the piece
ends before the first one that it cannot hold. Texts made of such pieces and of what comes after
them are the same only if the pieces are, and so is the rest.
-/
namespace RecordComparison

section Pieces

variable {p : Char → Bool} {a b s t : List Char}

theorem piece_taken (inside : ∀ c ∈ a, p c = true)
    (stops : ∀ c, s.head? = some c → p c = false) : (a ++ s).takeWhile p = a := by
  have rest : s.takeWhile p = [] := by
    cases s with
    | nil => rfl
    | cons c s => exact List.takeWhile_cons_of_neg (by simp [stops c rfl])
  rw [List.takeWhile_append_of_pos inside, rest, List.append_nil]

theorem piece_cut (first : ∀ c ∈ a, p c = true) (second : ∀ c ∈ b, p c = true)
    (stops : ∀ c, s.head? = some c → p c = false) (stops' : ∀ c, t.head? = some c → p c = false)
    (same : a ++ s = b ++ t) : a = b ∧ s = t := by
  have pieces : a = b := by rw [← piece_taken first stops, same, piece_taken second stops']
  rw [pieces, List.append_cancel_left_eq] at same
  exact ⟨pieces, same⟩

end Pieces

section Marks

def before (c : Char) (s : List Char) : List Char := s.takeWhile (· != c)

def after (c : Char) (s : List Char) : List Char := (s.dropWhile (· != c)).drop 1

variable {c : Char} {s t u v : List Char}

theorem none_equal (absent : c ∉ s) : ∀ d ∈ s, (d != c) = true := by
  intro d member
  rw [bne_iff_ne]
  rintro rfl
  exact absent member

theorem before_found (absent : c ∉ s) (t : List Char) : before c (s ++ c :: t) = s :=
  piece_taken (none_equal absent) (by simp)

theorem after_found (absent : c ∉ s) (t : List Char) : after c (s ++ c :: t) = t := by
  rw [after, List.dropWhile_append_of_pos (none_equal absent), List.dropWhile_cons_of_neg (by simp)]
  rfl

/-- Texts that go on after the first character of a kind are alike before and after it. -/
theorem cut_first (left : c ∉ s) (right : c ∉ t) (same : s ++ c :: u = t ++ c :: v) :
    s = t ∧ u = v := by
  have front := congrArg (before c) same
  have rest := congrArg (after c) same
  rw [before_found left, before_found right] at front
  rw [after_found left, after_found right] at rest
  exact ⟨front, rest⟩

end Marks

end RecordComparison
