import Mathlib.Control.Monad.Basic
import Mathlib.Data.List.Forall2
import RecordComparison.Difference.Json

/-!
Compact JSON read back. A reader finds a value in a text if it gives that value and leaves what
comes after the text, provided that it is something that may come after a value. From strings,
whole numbers and words this goes up to lists and to records with named members.
-/
namespace RecordComparison.Json

/-- What may come after a value in a compact text. -/
def Follows (rest : List Char) : Prop := ∀ c ∈ rest.head?, c = ',' ∨ c = ']' ∨ c = '\x7d'

def Finds {α : Type} (read : Read α) (s : List Char) (a : α) : Prop :=
  ∀ rest, Follows rest → read (s ++ rest) = .ok (a, rest)

theorem skip_blanks_cons {c : Char} (proper : isBlank c = false) (s : List Char) :
    skipBlanks (c :: s) = c :: s :=
  List.dropWhile_cons_of_neg (by simp [proper])

section Strings

@[simp] theorem hex_unit_take (a b c d : Char) (s : List Char) :
    hexUnit (a :: b :: c :: d :: s) = hexUnit [a, b, c, d] := rfl

theorem control_hex_unit : ∀ n < 0x20,
    hexUnit ['0', '0', Nat.digitChar (n / 16), Nat.digitChar (n % 16)] = .ok n := by
  decide +kernel

theorem string_body_escaped (c : Char) (s : List Char) :
    stringBody (escapeChar c ++ s) =
      (stringBody s).map fun (body, rest) => (c :: body, rest) := by
  unfold escapeChar
  split
  -- Neither quoted nor named by a letter: a control character, or one that stands for itself.
  case h_8 unquoted slashed _ _ _ _ _ =>
    split
    case isTrue control =>
      have unit := control_hex_unit c.toNat control
      have notTrailing : isTrailing c.toNat = false := by simp [isTrailing]; omega
      have notLeading : isLeading c.toNat = false := by simp [isLeading]; omega
      have escaped : unicodeEscape ('0' :: '0' :: Nat.digitChar (c.toNat / 16) ::
          Nat.digitChar (c.toNat % 16) :: s) = .ok (c, 4) := by
        simp [unicodeEscape, unit, bind, Except.bind, notTrailing, notLeading]
      simp only [List.cons_append, List.nil_append]
      rw [stringBody]
      simp [escape, escaped, Except.map]
    case isFalse printed =>
      have notQuote : c ≠ '\x22' := unquoted
      have notSlash : c ≠ '\\' := slashed
      rw [List.singleton_append, stringBody]
      simp [notQuote, notSlash, printed]
  all_goals
    simp only [List.cons_append, List.nil_append]
    rw [stringBody]
    simp [escape, shortEscape?]

theorem string_body_read (s rest : List Char) :
    stringBody (s.flatMap escapeChar ++ '\x22' :: rest) = .ok (s, rest) := by
  induction s with
  | nil =>
    rw [List.flatMap_nil, List.nil_append, stringBody]
    rfl
  | cons c s ih =>
    rw [List.flatMap_cons, List.append_assoc, string_body_escaped, ih]
    rfl

theorem string_rest_read (t : String) (rest : List Char) :
    stringRest (t.toList.flatMap escapeChar ++ '\x22' :: rest) = .ok (t, rest) := by
  rw [stringRest, string_body_read]
  exact congrArg (fun u => Except.ok (u, rest)) String.ofList_toList

theorem string_chars_append (t : String) (rest : List Char) :
    stringChars t ++ rest = '\x22' :: (t.toList.flatMap escapeChar ++ '\x22' :: rest) := by
  simp [stringChars]

end Strings

section Numbers

theorem whole_digits_step {n d : Nat} (low : d < 10) (room : fits (n * 10 + d) = true)
    (s : List Char) :
    wholeDigits n 0 (Nat.digitChar d :: s) = wholeDigits (n * 10 + d) 0 s := by
  have digit : (Nat.digitChar d).isDigit = true := by simpa [Nat.isDigit_digitChar] using low
  have value : digitValue (Nat.digitChar d) = d := Nat.toNat_digitChar_sub_48_of_lt_ten low
  rw [wholeDigits, if_pos digit, value]
  exact if_pos ⟨rfl, room⟩

theorem whole_digits_read (n : Nat) (room : fits n = true) (s : List Char) :
    wholeDigits 0 0 (Nat.toDigits 10 n ++ s) = wholeDigits n 0 s := by
  induction n using Nat.strongRecOn generalizing s with
  | ind n ih =>
    rw [Nat.toDigits_eq_if (by decide)]
    split
    · next small =>
      have first := whole_digits_step (n := 0) small (by simpa using room) s
      simpa using first
    · next large =>
      have whole : n / 10 * 10 + n % 10 = n := by omega
      have smaller : fits (n / 10) = true := by simp [fits] at room ⊢; omega
      have last := whole_digits_step (n := n / 10) (Nat.mod_lt n (by decide))
        (by rwa [whole]) s
      rw [List.append_assoc, ih (n / 10) (by omega) smaller, List.singleton_append, last, whole]

theorem leading_digit (n : Nat) : ∃ d later, Nat.toDigits 10 n = Nat.digitChar d :: later ∧
    d < 10 ∧ (d = 0 → n = 0 ∧ later = []) := by
  induction n using Nat.strongRecOn with
  | ind n ih =>
    rw [Nat.toDigits_eq_if (by decide)]
    split
    · next small => exact ⟨n, [], rfl, small, fun zero => ⟨zero, rfl⟩⟩
    · next large =>
      obtain ⟨d, later, spelled, low, only⟩ := ih (n / 10) (by omega)
      refine ⟨d, later ++ [Nat.digitChar (n % 10)], by rw [spelled]; rfl, low, fun zero => ?_⟩
      have single : n / 10 = 0 := (only zero).1
      omega

theorem number_read (negative : Bool) {n : Nat} (room : fits n = true) {rest : List Char}
    (follows : Follows rest) :
    number negative (Nat.toDigits 10 n ++ rest) = wholeNumber negative n 0 rest := by
  obtain ⟨d, later, spelled, low, zero⟩ := leading_digit n
  have digit : (Nat.digitChar d).isDigit = true := by simpa [Nat.isDigit_digitChar] using low
  -- What follows a number is not a part of it.
  have stops : wholeDigits n 0 rest = (n, 0, rest) := by
    cases rest with
    | nil => rfl
    | cons c rest =>
      have other : c.isDigit = false := by
        rcases follows c rfl with rfl | rfl | rfl <;> decide
      rw [wholeDigits, if_neg (by simp [other])]
  have digits : (if Nat.digitChar d = '0' then (0, 0, later ++ rest)
      else wholeDigits 0 0 (Nat.toDigits 10 n ++ rest)) = (n, 0, rest) := by
    by_cases first : d = 0
    · obtain ⟨rfl, rfl⟩ := zero first
      simp [first]
    · rw [if_neg (by simpa using first), whole_digits_read n room, stops]
  rw [spelled] at digits ⊢
  rw [List.cons_append] at digits ⊢
  simp only [number, digit, if_true, digits]
  cases rest with
  | nil => rfl
  | cons c rest => rcases follows c rfl with rfl | rfl | rfl <;> simp

end Numbers

section Scalars

def Simple : Json → Prop
  | null | bool _ | string _ => True
  | integer n => Int64.minValue.toInt ≤ n ∧ n < UInt64.size
  | _ => False

/-- A scalar can be read from what its text begins with. -/
structure ScalarAt (j : Json) (c : Char) (s : List Char) : Prop where
  spelled : j.chars = c :: s
  unblank : isBlank c = false
  unopened : c ≠ '[' ∧ c ≠ '\x7b'
  read : ∀ rest, Follows rest → scalar c (s ++ rest) = .ok (j, rest)

theorem natural_spelled (n : Nat) : (integer n).chars = Nat.toDigits 10 n := by
  rw [chars]
  exact Nat.toList_repr

theorem negative_spelled (n : Nat) :
    (integer (.negSucc n)).chars = '-' :: Nat.toDigits 10 (n + 1) := by
  rw [chars, Int.toString_eq_repr, Int.repr]
  simp [Nat.toList_repr]

theorem scalar_of_digit {c : Char} (digit : c.isDigit = true) (s : List Char) :
    scalar c s = number false (c :: s) := by
  unfold scalar
  split
  case h_6 => exact if_pos digit
  all_goals simp [Char.isDigit] at digit

theorem natural_at {n : Nat} (room : fits n = true) : ∃ c s, ScalarAt (integer n) c s := by
  obtain ⟨d, later, spelled, low, _⟩ := leading_digit n
  have digit : (Nat.digitChar d).isDigit = true := by simpa [Nat.isDigit_digitChar] using low
  have other {c : Char} (nondigit : c.isDigit = false) : Nat.digitChar d ≠ c := by
    rintro rfl
    simp [digit] at nondigit
  refine ⟨_, later, (natural_spelled n).trans spelled, ?_,
    ⟨other (by decide), other (by decide)⟩, ?_⟩
  · have space := other (c := ' ') (by decide)
    have line := other (c := '\n') (by decide)
    have tab := other (c := '\t') (by decide)
    have ret := other (c := '\r') (by decide)
    simp only [isBlank, beq_eq_false_iff_ne.mpr space, beq_eq_false_iff_ne.mpr line,
      beq_eq_false_iff_ne.mpr tab, beq_eq_false_iff_ne.mpr ret, Bool.or_self]
  · intro rest follows
    rw [scalar_of_digit digit, ← List.cons_append, ← spelled, number_read false room follows]
    rfl

theorem negative_at {n : Nat} (room : fits (n + 1) = true)
    (low : Int64.minValue.toInt ≤ Int.negSucc n) : ∃ c s, ScalarAt (integer (.negSucc n)) c s := by
  refine ⟨'-', Nat.toDigits 10 (n + 1), negative_spelled n, by decide, by decide, ?_⟩
  intro rest follows
  have bounded : Int64.minValue.toInt ≤ -((n + 1 : Nat) : Int) := low
  show number true _ = _
  rw [number_read true room follows, wholeNumber, if_neg (by simp),
    if_pos ⟨rfl, Nat.succ_pos n, bounded⟩]
  rfl

theorem scalar_at {j : Json} (simple : j.Simple) : ∃ c s, ScalarAt j c s := by
  cases j with
  | null => exact ⟨_, _, by rw [chars], by decide, by decide, fun _ _ => rfl⟩
  | bool b =>
    cases b with
    | true => exact ⟨_, _, by rw [chars], by decide, by decide, fun _ _ => rfl⟩
    | false => exact ⟨_, _, by rw [chars], by decide, by decide, fun _ _ => rfl⟩
  | string t =>
    refine ⟨'\x22', t.toList.flatMap escapeChar ++ ['\x22'], by rw [chars, stringChars]; rfl,
      by decide, by decide, fun rest _ => ?_⟩
    rw [List.append_assoc, List.singleton_append]
    simp [scalar, string_rest_read, Except.map]
  | integer n =>
    obtain ⟨low, high⟩ := simple
    cases n with
    | ofNat n => exact natural_at (by simpa [fits] using Int.ofNat_lt.mp high)
    | negSucc n =>
      have least : -(2 ^ 63 : Int) ≤ Int.negSucc n := low
      have room : n + 1 < UInt64.size := by
        have size : UInt64.size = 2 ^ 64 := rfl
        omega
      exact negative_at (by simpa [fits] using room) low
  | real _ => exact simple.elim
  | array _ => exact simple.elim
  | object _ => exact simple.elim

theorem count_simple {n : Nat} (fits : n < UInt64.size) : (ofNat n).Simple := by
  have least : Int64.minValue.toInt ≤ (n : Int) :=
    Int.le_trans (by decide) (Int.natCast_nonneg n)
  exact ⟨least, Int.ofNat_lt.mpr fits⟩

theorem to_integer_count (expected : String) {n : Nat} {high : Int} (low : (n : Int) ≤ high) :
    toInteger expected 0 high (.ofNat n) = .ok n :=
  if_pos ⟨Int.natCast_nonneg n, low⟩

variable {α : Type} {j : Json}

theorem read_scalar_finds (simple : j.Simple) {expected : String} {accept : Json → Except Fault α}
    {a : α} (accepted : accept j = .ok a) : Finds (readScalar expected accept) j.chars a := by
  obtain ⟨c, s, here⟩ := scalar_at simple
  intro rest follows
  rw [here.spelled, List.cons_append, readScalar, skip_blanks_cons here.unblank]
  simp [here.unopened, here.read rest follows, accepted, ofFault, bind, Except.bind, pure,
    Except.pure]

theorem text_finds (expected t : String) : Finds (readText expected) (string t).chars t :=
  read_scalar_finds (j := string t) trivial rfl

theorem value_finds (simple : j.Simple) (room : Nat) : Finds (value room) j.chars j := by
  obtain ⟨c, s, here⟩ := scalar_at simple
  intro rest follows
  rw [here.spelled, List.cons_append, value, budget, valueWithin, skip_blanks_cons here.unblank]
  simp [here.unopened, here.read rest follows]

end Scalars

section Combined

variable {α β : Type}

theorem Finds.map {read : Read α} {s : List Char} {a : α} (finds : Finds read s a) (f : α → β) :
    Finds (mapRead f read) s (f a) := by
  intro rest follows
  rw [mapRead, finds rest follows]
  rfl

theorem Finds.check {read : Read α} {s : List Char} {a : α} (finds : Finds read s a)
    {f : α → Except Fault β} {b : β} (accepted : f a = .ok b) : Finds (checkRead f read) s b := by
  intro rest follows
  simp [checkRead, finds rest follows, accepted, ofFault, bind, Except.bind, pure, Except.pure]

theorem whole_of_finds {read : Read α} {j : Json} {a : α} (finds : Finds read j.chars a) :
    whole read j.text = .ok a := by
  have found := finds [] (by simp [Follows])
  rw [List.append_nil] at found
  rw [whole, text, String.toList_ofList, found]
  rfl

end Combined

section Lists

def Opens (s : List Char) : Prop := ∃ c later, s = c :: later ∧ isBlank c = false ∧ c ≠ ']'

theorem Opens.append {s : List Char} (opens : Opens s) (t : List Char) : Opens (s ++ t) := by
  obtain ⟨c, later, rfl, unblank, unclosed⟩ := opens
  exact ⟨c, later ++ t, rfl, unblank, unclosed⟩

theorem next_item_end (first : Bool) (s : List Char) :
    nextItem first (']' :: s) = .ok (false, s) := by
  rw [nextItem, skip_blanks_cons (by decide)]
  rfl

theorem next_item_first {s : List Char} (opens : Opens s) : nextItem true s = .ok (true, s) := by
  obtain ⟨c, later, rfl, unblank, unclosed⟩ := opens
  rw [nextItem, skip_blanks_cons unblank]
  simp [unclosed]

theorem next_item_later {s : List Char} (opens : Opens s) :
    nextItem false (',' :: s) = .ok (true, s) := by
  obtain ⟨c, later, rfl, unblank, unclosed⟩ := opens
  rw [nextItem, skip_blanks_cons (c := ',') (by decide)]
  simp [skip_blanks_cons unblank, unclosed]

theorem later_items_follow (items : List Json) (rest : List Char) :
    Follows (laterItems items ++ rest) := by
  cases items <;> simp [laterItems, Follows]

theorem later_items_length (items : List Json) : items.length < (laterItems items).length := by
  induction items with
  | nil => simp [laterItems]
  | cons item items ih =>
    simp only [laterItems, List.cons_append, List.length_cons, List.length_append]
    omega

variable {α : Type} {read : Read α}

theorem items_end (steps : Nat) (first : Bool) (rest : List Char) :
    itemsOf read (steps + 1) first (']' :: rest) = .ok ([], rest) := by
  rw [itemsOf, next_item_end]
  rfl

theorem items_step {steps : Nat} {first : Bool} {s t u rest : List Char} {a : α} {as : List α}
    (next : nextItem first s = .ok (true, t)) (here : read t = .ok (a, u))
    (later : itemsOf read steps false u = .ok (as, rest)) :
    itemsOf read (steps + 1) first s = .ok (a :: as, rest) := by
  simp [itemsOf, next, here, later, bind, Except.bind, pure, Except.pure]

def ItemFinds (read : Read α) (a : α) (j : Json) : Prop := Finds read j.chars a ∧ Opens j.chars

theorem later_items_read {as : List α} {js : List Json}
    (each : List.Forall₂ (ItemFinds read) as js) {steps : Nat} (enough : js.length < steps)
    (rest : List Char) :
    itemsOf read steps false (laterItems js ++ rest) = .ok (as, rest) := by
  induction each generalizing steps with
  | nil =>
    cases steps with
    | zero => contradiction
    | succ steps => exact items_end steps false rest
  | @cons a j as js here _ ih =>
    obtain ⟨finds, opens⟩ := here
    cases steps with
    | zero => contradiction
    | succ steps =>
      have later := ih (Nat.lt_of_succ_lt_succ enough)
      have here := finds _ (later_items_follow js rest)
      rw [laterItems, List.cons_append, List.cons_append, List.append_assoc]
      exact items_step (next_item_later (opens.append _)) here later

theorem items_find {as : List α} {js : List Json} (each : List.Forall₂ (ItemFinds read) as js) :
    Finds (readList read) (array js).chars as := by
  intro rest _
  have opened (s : List Char) : readList read ('[' :: s) = itemsOf read (s.length + 1) true s := by
    rw [readList, readOpened, skip_blanks_cons (by decide)]
    rfl
  cases each with
  | nil =>
    rw [chars]
    exact (opened _).trans (items_end _ true rest)
  | @cons a j as js here others =>
    obtain ⟨finds, opens⟩ := here
    have length := later_items_length js
    rw [chars, List.cons_append, List.cons_append, List.append_assoc, opened]
    refine items_step (next_item_first (opens.append _))
      (finds _ (later_items_follow js rest)) (later_items_read others ?_ rest)
    simp only [List.length_append]
    omega

theorem list_finds {form : α → Json} {as : List α} (each : ∀ a ∈ as, ItemFinds read a (form a)) :
    Finds (readList read) (ofList form as).chars as :=
  items_find (List.forall₂_map_right_iff.mpr (List.forall₂_same.mpr each))

end Lists

section Records

theorem next_key_end (first : Bool) (s : List Char) :
    nextKey first ('\x7d' :: s) = .ok (false, s) := by
  rw [nextKey, skip_blanks_cons (by decide)]
  rfl

theorem next_key_first (s : List Char) : nextKey true ('\x22' :: s) = .ok (true, s) := by
  rw [nextKey, skip_blanks_cons (by decide)]
  rfl

theorem next_key_later (s : List Char) : nextKey false (',' :: '\x22' :: s) = .ok (true, s) := by
  rw [nextKey, skip_blanks_cons (c := ',') (by decide)]
  simp [skip_blanks_cons (c := '\x22') (by decide)]

theorem colon_read (s : List Char) : colon (':' :: s) = .ok s := by
  rw [colon, skip_blanks_cons (by decide)]
  rfl

theorem later_members_follow (members : List (String × Json)) (rest : List Char) :
    Follows (laterMembers members ++ rest) := by
  cases members <;> simp [laterMembers, Follows]

theorem later_members_length (members : List (String × Json)) :
    members.length < (laterMembers members).length := by
  induction members with
  | nil => simp [laterMembers]
  | cons m members ih =>
    simp only [laterMembers, List.cons_append, List.length_cons, List.length_append]
    omega

variable {R : Type}

/-- Reading these members, after others of the names that have been seen, takes one record to
another. -/
inductive Taken (form : RecordForm Read R) :
    List String → R → List (String × Json) → R → Prop where
  | done {seen : List String} {r r' : R} : form.finish seen r = .ok r' → Taken form seen r [] r'
  | member {seen : List String} {r r' : R} {key : String} {j : Json}
      {later : List (String × Json)} {m : Member Read R} {set : R → R} :
      form.accept seen key = .ok (some m) → Finds m.read j.chars set →
      Taken form (key :: seen) (set r) later r' → Taken form seen r ((key, j) :: later) r'

variable {form : RecordForm Read R} {seen : List String} {r r' : R}

theorem members_step {steps : Nat} {first : Bool} {s t : List Char} {key : String}
    {value rest : List Char} {m : Member Read R} {set : R → R}
    (next : nextKey first s = .ok (true, t))
    (named : stringRest t = .ok (key, ':' :: value))
    (known : form.accept seen key = .ok (some m)) (here : m.read value = .ok (set, rest)) :
    membersOf form (steps + 1) first seen r s =
      membersOf form steps false (key :: seen) (set r) rest := by
  simp [membersOf, next, named, known, here, colon_read, ofFault, bind, Except.bind]

theorem members_end {steps : Nat} {first : Bool} (finished : form.finish seen r = .ok r')
    (rest : List Char) :
    membersOf form (steps + 1) first seen r ('\x7d' :: rest) = .ok (r', rest) := by
  simp [membersOf, next_key_end, finished, ofFault, bind, Except.bind, pure, Except.pure]

theorem later_members_read {members : List (String × Json)} (taken : Taken form seen r members r')
    {steps : Nat} (enough : members.length < steps) (rest : List Char) :
    membersOf form steps false seen r (laterMembers members ++ rest) = .ok (r', rest) := by
  induction taken generalizing steps with
  | done finished =>
    cases steps with
    | zero => contradiction
    | succ steps => exact members_end finished rest
  | @member _ _ _ key j later _ _ known finds _ ih =>
    cases steps with
    | zero => contradiction
    | succ steps =>
      have here := finds _ (later_members_follow later rest)
      have named := string_rest_read key (':' :: (j.chars ++ (laterMembers later ++ rest)))
      have text : laterMembers ((key, j) :: later) ++ rest = ',' :: '\x22' ::
          (key.toList.flatMap escapeChar ++ '\x22' :: ':' ::
            (j.chars ++ (laterMembers later ++ rest))) := by
        simp [laterMembers, stringChars]
      rw [text, members_step (next_key_later _) named known here]
      exact ih (Nat.lt_of_succ_lt_succ enough)

theorem record_finds {members : List (String × Json)} (taken : Taken form [] form.blank members r') :
    Finds (readRecord form) (object members).chars r' := by
  intro rest _
  have opened (s : List Char) : readRecord form ('\x7b' :: s) =
      membersOf form (s.length + 1) true [] form.blank s := by
    rw [readRecord, readOpened, skip_blanks_cons (by decide)]
    rfl
  cases taken with
  | done finished =>
    rw [chars]
    exact (opened _).trans (members_end finished rest)
  | @member _ _ _ key j later _ _ known finds rest_taken =>
    have here := finds _ (later_members_follow later rest)
    have named := string_rest_read key (':' :: (j.chars ++ (laterMembers later ++ rest)))
    have length := later_members_length later
    have text : (object ((key, j) :: later)).chars ++ rest = '\x7b' :: '\x22' ::
        (key.toList.flatMap escapeChar ++ '\x22' :: ':' ::
          (j.chars ++ (laterMembers later ++ rest))) := by
      simp [chars, stringChars]
    rw [text, opened, members_step (next_key_first _) named known here]
    refine later_members_read rest_taken ?_ rest
    simp only [List.length_cons, List.length_append]
    omega

end Records

end RecordComparison.Json
