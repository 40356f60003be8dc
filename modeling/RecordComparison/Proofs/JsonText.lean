import RecordComparison.Proofs.Cuts
import RecordComparison.Proofs.ReadBack
import RecordComparison.Record.Decoding

/-!
The compact text of a JSON value without real numbers determines the value, even when it stands
before other text, as values inside lists and objects do. Main statement: `text_determines`.
-/
namespace RecordComparison.Json

mutual

def Discrete : Json → Prop
  | real _ => False
  | array items => DiscreteItems items
  | object members => DiscreteMembers members
  | _ => True

def DiscreteItems : List Json → Prop
  | [] => True
  | item :: items => item.Discrete ∧ DiscreteItems items

def DiscreteMembers : List (String × Json) → Prop
  | [] => True
  | (_, value) :: members => value.Discrete ∧ DiscreteMembers members

end

section Pieces

/-- The type of the values without real numbers whose text begins with this character. -/
def announced (c : Char) : String :=
  if c = 'n' then "null"
  else if c = 't' ∨ c = 'f' then "bool"
  else if c = '\x22' then "string"
  else if c = '[' then "array"
  else if c = '\x7b' then "object"
  else "int"

def isInteger (c : Char) : Bool := c.isDigit || c == '-'

theorem integer_chars (n : Int) : ∀ c ∈ (integer n).chars, isInteger c = true := by
  have digits (m : Nat) : ∀ c ∈ Nat.toDigits 10 m, isInteger c = true := by
    intro c member
    simp [isInteger, Nat.isDigit_of_mem_toDigits (by decide) (by decide) member]
  cases n with
  | ofNat n =>
    rw [Int.ofNat_eq_natCast, natural_spelled]
    exact digits n
  | negSucc n =>
    rw [negative_spelled]
    exact List.forall_mem_cons.mpr ⟨rfl, digits (n + 1)⟩

theorem integer_chars_injective {n m : Int} (same : (integer n).chars = (integer m).chars) :
    n = m := by
  have digits {a b : Nat} (same : Nat.toDigits 10 a = Nat.toDigits 10 b) : a = b := by
    have values := congrArg (Nat.ofDigitChars 10 · 0) same
    simpa [Nat.ofDigitChars_ten_toDigits] using values
  have signed (a b : Nat) : Nat.toDigits 10 a ≠ '-' :: Nat.toDigits 10 b := by
    intro same
    have digit : ('-').isDigit = true :=
      Nat.isDigit_of_mem_toDigits (by decide) (by decide) (same ▸ List.mem_cons_self)
    contradiction
  cases n with
  | ofNat n =>
    cases m with
    | ofNat m =>
      rw [Int.ofNat_eq_natCast, Int.ofNat_eq_natCast, natural_spelled, natural_spelled] at same
      rw [digits same]
    | negSucc m =>
      rw [Int.ofNat_eq_natCast, natural_spelled, negative_spelled] at same
      exact absurd same (signed _ _)
  | negSucc n =>
    cases m with
    | ofNat m =>
      rw [Int.ofNat_eq_natCast, natural_spelled, negative_spelled] at same
      exact absurd same.symm (signed _ _)
    | negSucc m =>
      rw [negative_spelled, negative_spelled] at same
      rw [Nat.succ.inj (digits (List.cons.inj same).2)]

theorem announced_integer {c : Char} (inside : isInteger c = true) :
    announced c = "int" ∧ c ≠ ']' := by
  have other {d : Char} (outside : isInteger d = false) : c ≠ d := by
    rintro rfl
    simp [inside] at outside
  constructor
  · simp [announced, other (d := 'n') (by decide), other (d := 't') (by decide),
      other (d := 'f') (by decide), other (d := '\x22') (by decide), other (d := '[') (by decide),
      other (d := '\x7b') (by decide)]
  · exact other (by decide)

theorem first_char {j : Json} (discrete : j.Discrete) :
    ∃ c s, j.chars = c :: s ∧ announced c = j.typeName ∧ c ≠ ']' := by
  cases j with
  | null => exact ⟨_, _, by rw [chars], rfl, by decide⟩
  | bool b => cases b <;> exact ⟨_, _, by rw [chars], rfl, by decide⟩
  | integer n =>
    cases spelled : (integer n).chars with
    | nil => cases n <;> simp [natural_spelled, negative_spelled, Nat.toDigits_ne_nil] at spelled
    | cons c s =>
      have inside := integer_chars n c (spelled ▸ List.mem_cons_self)
      exact ⟨c, s, rfl, announced_integer inside⟩
  | real x => exact discrete.elim
  | string t => exact ⟨_, _, by rw [chars, stringChars, List.cons_append], rfl, by decide⟩
  | array items =>
    cases items with
    | nil => exact ⟨_, _, by rw [chars], rfl, by decide⟩
    | cons item items => exact ⟨_, _, by rw [chars, List.cons_append], rfl, by decide⟩
  | object members =>
    cases members with
    | nil => exact ⟨_, _, by rw [chars], rfl, by decide⟩
    | cons m members =>
      exact ⟨_, _, by rw [chars, List.cons_append, List.cons_append], rfl, by decide⟩

theorem same_type {j k : Json} (first : j.Discrete) (second : k.Discrete) {s t : List Char}
    (same : j.chars ++ s = k.chars ++ t) : j.typeName = k.typeName := by
  obtain ⟨c, u, spelled, type, _⟩ := first_char first
  obtain ⟨d, v, other, type', _⟩ := first_char second
  rw [spelled, other, List.cons_append, List.cons_append] at same
  rw [← type, ← type', (List.cons.inj same).1]

theorem integer_cut {n m : Int} {s t : List Char} (first : Follows s) (second : Follows t)
    (same : (integer n).chars ++ s = (integer m).chars ++ t) : n = m ∧ s = t := by
  have stops {u : List Char} (follows : Follows u) :
      ∀ c, u.head? = some c → isInteger c = false := by
    intro c head
    rcases follows c head with rfl | rfl | rfl <;> rfl
  obtain ⟨spelled, rest⟩ :=
    piece_cut (integer_chars n) (integer_chars m) (stops first) (stops second) same
  exact ⟨integer_chars_injective spelled, rest⟩

theorem string_cut {a b : String} {s t : List Char}
    (same : stringChars a ++ s = stringChars b ++ t) : a = b ∧ s = t := by
  rw [string_chars_append, string_chars_append] at same
  have read := congrArg stringRest (List.cons.inj same).2
  rw [string_rest_read, string_rest_read] at read
  exact Prod.mk.inj (Except.ok.inj read)

end Pieces

section Texts

theorem closed_list_differs {j : Json} (discrete : j.Discrete) {s t : List Char} :
    ']' :: s ≠ j.chars ++ t := by
  obtain ⟨c, u, spelled, _, unclosed⟩ := first_char discrete
  rw [spelled, List.cons_append]
  intro same
  exact unclosed (List.cons.inj same).1.symm

-- By recursion on the first of two values whose texts, each with more text after it, are the same:
-- the values are the same, and so is what comes after them.
mutual

theorem chars_cut : ∀ (j : Json) {k : Json}, j.Discrete → k.Discrete → ∀ {s t : List Char},
    Follows s → Follows t → j.chars ++ s = k.chars ++ t → j = k ∧ s = t
  | null, k, first, second, _, _, _, _, same => by
    have type := same_type first second same
    cases k with
    | null => exact ⟨rfl, List.append_cancel_left same⟩
    | _ => simp [typeName] at type
  | bool b, k, first, second, _, _, _, _, same => by
    have type := same_type first second same
    cases k with
    | bool d =>
      cases b <;> cases d <;> simp [chars] at same
      · exact ⟨rfl, same⟩
      · exact ⟨rfl, same⟩
    | _ => simp [typeName] at type
  | integer n, k, first, second, _, _, before, after, same => by
    have type := same_type first second same
    cases k with
    | integer m =>
      obtain ⟨rfl, rest⟩ := integer_cut before after same
      exact ⟨rfl, rest⟩
    | _ => simp [typeName] at type
  | real _, _, first, _, _, _, _, _, _ => first.elim
  | string a, k, first, second, _, _, _, _, same => by
    have type := same_type first second same
    cases k with
    | string b =>
      rw [chars, chars] at same
      obtain ⟨rfl, rest⟩ := string_cut same
      exact ⟨rfl, rest⟩
    | _ => simp [typeName] at type
  | array items, k, first, second, s, t, _, _, same => by
    have type := same_type first second same
    cases k with
    | array others =>
      have inner := items_cut items others first second (s := s) (t := t)
      cases items with
      | nil =>
        cases others with
        | nil => exact ⟨rfl, List.append_cancel_left same⟩
        | cons other others =>
          simp only [chars, List.cons_append, List.append_assoc, List.nil_append] at same
          exact absurd (List.cons.inj same).2 (closed_list_differs second.1)
      | cons item items =>
        cases others with
        | nil =>
          simp only [chars, List.cons_append, List.append_assoc, List.nil_append] at same
          exact absurd (List.cons.inj same).2.symm (closed_list_differs first.1)
        | cons other others =>
          obtain ⟨equal, rest⟩ := inner (congrArg (',' :: ·) (List.cons.inj same).2)
          exact ⟨congrArg array equal, rest⟩
    | _ => simp [typeName] at type
  | object members, k, first, second, s, t, _, _, same => by
    have type := same_type first second same
    cases k with
    | object others =>
      have inner := members_cut members others first second (s := s) (t := t)
      cases members with
      | nil =>
        cases others with
        | nil => exact ⟨rfl, List.append_cancel_left same⟩
        | cons other others => simp [chars, stringChars] at same
      | cons m members =>
        cases others with
        | nil => simp [chars, stringChars] at same
        | cons other others =>
          obtain ⟨equal, rest⟩ := inner (congrArg (',' :: ·) (List.cons.inj same).2)
          exact ⟨congrArg object equal, rest⟩
    | _ => simp [typeName] at type

theorem items_cut : ∀ items others : List Json, DiscreteItems items → DiscreteItems others →
    ∀ {s t : List Char}, laterItems items ++ s = laterItems others ++ t → items = others ∧ s = t
  | [], others, _, _, _, _, same => by
    cases others with
    | nil => exact ⟨rfl, List.append_cancel_left same⟩
    | cons other others => simp [laterItems] at same
  | item :: items, others, first, second, _, _, same => by
    cases others with
    | nil => simp [laterItems] at same
    | cons other others =>
      simp only [laterItems, List.cons_append, List.append_assoc] at same
      obtain ⟨rfl, later⟩ := chars_cut item first.1 second.1 (later_items_follow _ _)
        (later_items_follow _ _) (List.cons.inj same).2
      obtain ⟨rfl, rest⟩ := items_cut items others first.2 second.2 later
      exact ⟨rfl, rest⟩

theorem members_cut : ∀ members others : List (String × Json), DiscreteMembers members →
    DiscreteMembers others → ∀ {s t : List Char},
    laterMembers members ++ s = laterMembers others ++ t → members = others ∧ s = t
  | [], others, _, _, _, _, same => by
    cases others with
    | nil => exact ⟨rfl, List.append_cancel_left same⟩
    | cons other others => simp [laterMembers] at same
  | (key, value) :: members, others, first, second, _, _, same => by
    cases others with
    | nil => simp [laterMembers] at same
    | cons other others =>
      simp only [laterMembers, List.cons_append, List.append_assoc] at same
      obtain ⟨name, member⟩ := string_cut (List.cons.inj same).2
      obtain ⟨content, later⟩ := chars_cut value first.1 second.1 (later_members_follow _ _)
        (later_members_follow _ _) (List.cons.inj member).2
      obtain ⟨rfl, rest⟩ := members_cut members others first.2 second.2 later
      rw [name, content]
      exact ⟨rfl, rest⟩

end

theorem text_determines {j k : Json} (first : j.Discrete) (second : k.Discrete)
    (same : j.text = k.text) : j = k := by
  have spelled : j.chars ++ [] = k.chars ++ [] :=
    congrArg (· ++ []) (String.ofList_injective same)
  exact (chars_cut j first second (by simp [Follows]) (by simp [Follows]) spelled).1

end Texts

end RecordComparison.Json
