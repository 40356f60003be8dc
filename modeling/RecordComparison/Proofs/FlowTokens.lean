import RecordComparison.Proofs.FlowScalars
import RecordComparison.Yaml.Tokens

/-!
The tokens of compact JSON when it is read as YAML. Inside flow collections each mark and each
scalar of one word is a token. A scalar in front of a colon is a key, which a reader knows only when
the colon comes; its token then goes in front of the scalar. Main statement: `tokens_of_flow`.
-/
namespace RecordComparison

namespace Json
open Yaml (Token Word)

/-- The key is one word, short enough for a key in YAML with its quotes. -/
def ShortKey (key : String) : Prop :=
  Word key.toList ∧ Yaml.octets key.toList + 2 ≤ Yaml.Scan.longestKey

instance (key : String) : Decidable (ShortKey key) :=
  inferInstanceAs (Decidable (Word key.toList ∧ _))

mutual

/-- All texts in the value are single words, keys being short ones, and all numbers are natural. -/
def Wordy : Json → Prop
  | integer n => 0 ≤ n
  | real _ => False
  | string s => Word s.toList
  | array items => WordyItems items
  | object members => WordyMembers members
  | _ => True

def WordyItems : List Json → Prop
  | [] => True
  | item :: items => item.Wordy ∧ WordyItems items

def WordyMembers : List (String × Json) → Prop
  | [] => True
  | (key, value) :: members => ShortKey key ∧ value.Wordy ∧ WordyMembers members

end

def isCollection : Json → Bool
  | array _ | object _ => true
  | _ => false

def keyTokens (key : String) : List Token := [.key, .scalar .quoted key.toList, .value]

mutual

def flowTokens : Json → List Token
  | string s => [.scalar .quoted s.toList]
  | array [] => [.flowSequenceStart, .flowSequenceEnd]
  | array (item :: items) => .flowSequenceStart :: flowTokens item ++ laterItemTokens items
  | object [] => [.flowMappingStart, .flowMappingEnd]
  | object ((key, value) :: members) =>
    .flowMappingStart :: keyTokens key ++ flowTokens value ++ laterMemberTokens members
  | scalar => [.scalar .plain scalar.chars]

def laterItemTokens : List Json → List Token
  | [] => [.flowSequenceEnd]
  | item :: items => .flowEntry :: flowTokens item ++ laterItemTokens items

def laterMemberTokens : List (String × Json) → List Token
  | [] => [.flowMappingEnd]
  | (key, value) :: members =>
    .flowEntry :: keyTokens key ++ flowTokens value ++ laterMemberTokens members

end

end Json

namespace Yaml

def isSolid (c : Char) : Bool := !(isBlank c || isBreak c || c == '#' || c == '\ufeff')

namespace Scan

section Keys

/-- A place at which a key may begin and none must, after so many tokens. -/
def keyHere (before : Nat) (i : Input) : KeyStart := ⟨false, before, i.index, i.line, i.column⟩

def Optional (key : Option KeyStart) : Prop := ∀ k ∈ key, k.required = false

def inTime (i : Input) (key : Option KeyStart) : Option KeyStart := key.filter fun k => !expired i k

def fresh (s : Scan) : Scan :=
  { s with outerKeys := s.outerKeys.map (inTime s.input), keyStart := inTime s.input s.keyStart }

theorem Optional.none : Optional .none := by simp [Optional]

theorem Optional.in_time {key : Option KeyStart} (optional : Optional key) (i : Input) :
    Optional (inTime i key) := fun k member => optional k (Option.mem_filter_iff.mp member).1

theorem checked_optional {key : Option KeyStart} (optional : Optional key) (i : Input) :
    checkedKey i key = some (inTime i key) := by
  cases key with
  | none => rfl
  | some k =>
    have free : k.required = false := optional k rfl
    cases late : expired i k <;> simp [checkedKey, inTime, Option.filter, late, free]

theorem checked_all_optional {keys : List (Option KeyStart)} (optional : ∀ key ∈ keys, Optional key)
    (i : Input) : keys.mapM (checkedKey i) = some (keys.map (inTime i)) := by
  induction keys with
  | nil => rfl
  | cons key keys ih =>
    obtain ⟨first, later⟩ := List.forall_mem_cons.mp optional
    simp [List.mapM_cons, checked_optional first, ih later]

end Keys

/-- The scan is inside so many flow collections and no blocks, these tokens have been read, and no
key must begin anywhere. -/
structure Within (s : Scan) (rest : List Char) (read : List Token) (depth : Nat) (allowed : Bool) :
    Prop where
  rest : s.input.rest = rest
  tokens : s.tokens = read.reverse
  depth : s.outerKeys.length = depth
  allowed : s.keyAllowed = allowed
  blocks : s.blocks = []
  optional : Optional s.keyStart
  outerOptional : ∀ key ∈ s.outerKeys, Optional key

variable {s t u : Scan} {rest rest' after w : List Char} {read read' : List Token}
  {depth depth' : Nat} {allowed allowed' : Bool} {c : Char}

namespace Within

theorem fresh (within : s.Within rest read depth allowed) :
    s.fresh.Within rest read depth allowed where
  rest := within.rest
  tokens := within.tokens
  depth := by rw [Scan.fresh, List.length_map, within.depth]
  allowed := within.allowed
  blocks := within.blocks
  optional := within.optional.in_time s.input
  outerOptional := by
    intro key member
    obtain ⟨k, outer, rfl⟩ := List.mem_map.mp member
    exact (within.outerOptional k outer).in_time s.input

theorem expire (within : s.Within rest read depth allowed) : s.expireKeys = some s.fresh := by
  simp [expireKeys, checked_all_optional within.outerOptional, checked_optional within.optional,
    Scan.fresh]

theorem close_deeper (within : s.Within rest read depth allowed) (column : Nat) :
    s.closeDeeper column = s := by
  rw [closeDeeper, within.blocks]
  exact ite_self s

theorem close_all (within : s.Within rest read depth allowed) : s.closeAll = s := by
  rw [closeAll, within.blocks]
  exact ite_self s

theorem forget_key (within : s.Within rest read depth allowed) :
    s.forgetKey = some { s with keyStart := none } := by
  have optional := within.optional
  obtain ⟨_, _, _, key, _, _⟩ := s
  cases key with
  | none => rfl
  | some k => simp [forgetKey, optional k rfl]

theorem note_key (within : s.Within rest read depth allowed) :
    ∃ key, Optional key ∧ s.noteKey = some { s with keyStart := key } ∧
      (allowed = true → key = some (keyHere read.length s.input)) := by
  by_cases given : s.keyAllowed = true
  · refine ⟨some (keyHere read.length s.input), by simp [Optional, keyHere], ?_, fun _ => rfl⟩
    simp [noteKey, given, within.blocks, within.forget_key, within.tokens, keyHere]
  · exact ⟨s.keyStart, within.optional, if_neg given,
      fun yes => absurd (within.allowed.trans yes) given⟩

theorem in_flow (within : s.Within rest read (depth + 1) allowed) : s.inFlow = true := by
  have depth := within.depth
  cases outer : s.outerKeys with
  | nil => simp [outer] at depth
  | cons k keys => simp [inFlow, outer]

end Within

section Runs

/-- Reading on in one state comes to the other one, and if there were enough steps before, then
there still are. -/
def Leads (s t : Scan) : Prop :=
  ∀ steps, s.input.rest.length < steps →
    ∃ more, t.input.rest.length < more ∧ s.allTokens steps = t.allTokens more

theorem Leads.trans (first : s.Leads t) (later : t.Leads u) : s.Leads u := by
  intro steps enough
  obtain ⟨more, enough, same⟩ := first steps enough
  obtain ⟨still, enough, same'⟩ := later more enough
  exact ⟨still, enough, same.trans same'⟩

theorem skip_gap_end (atEnd : s.input.rest = []) (steps : Nat) : s.skipGap (steps + 1) = s := by
  have skipped (tabs : Bool) :
      s.input.skipWhile (fun c => c == ' ' || tabs && c == '\t') = s.input := by
    rw [Input.skipWhile, atEnd]
    rfl
  simp [skipGap, atEnd, skipped, Input.skipComment]

theorem skip_gap_solid (here : s.input.rest = c :: after) (solid : isSolid c = true) (steps : Nat) :
    s.skipGap (steps + 1) = s := by
  simp only [isSolid, Bool.not_eq_true', Bool.or_eq_false_iff, beq_eq_false_iff_ne] at solid
  obtain ⟨⟨⟨blank, line⟩, comment⟩, mark⟩ := solid
  have space : (c == ' ') = false := (Bool.or_eq_false_iff.mp blank).1
  have tab : (c == '\t') = false := (Bool.or_eq_false_iff.mp blank).2
  have start : ¬(s.input.column = 0 ∧ s.input.rest.head? = some '\ufeff') := by
    rw [here]
    exact fun first => mark (Option.some.inj first.2)
  have blanks (tabs : Bool) :
      s.input.skipWhile (fun c => c == ' ' || tabs && c == '\t') = s.input := by
    rw [Input.skipWhile, here, List.takeWhile_cons, space, tab, Bool.and_false]
    rfl
  have noComment : s.input.skipComment = s.input := by
    rw [Input.skipComment, here]
    split
    · next same => exact absurd (List.cons.inj same).1 comment
    · rfl
  have goesOn : s.input.rest.head?.any isBreak = false := by
    rw [here]
    exact line
  simp only [skipGap, if_neg start, blanks, noComment, goesOn, Bool.false_eq_true, if_false]

theorem all_tokens_step (within : s.Within (c :: after) read depth allowed)
    (solid : isSolid c = true) (steps : Nat) :
    s.allTokens (steps + 1) = (s.fresh.token c after).bind (·.allTokens steps) := by
  rw [allTokens, skip_gap_solid within.rest solid, within.expire]
  simp only [Option.bind_eq_bind, Option.bind_some, within.fresh.rest, within.fresh.close_deeper]

theorem Leads.token (within : s.Within (c :: after) read depth allowed) (solid : isSolid c = true)
    (next : s.fresh.token c after = some t) (shorter : t.input.rest.length ≤ after.length) :
    s.Leads t := by
  intro steps enough
  rw [within.rest, List.length_cons] at enough
  obtain ⟨steps, rfl⟩ : ∃ n, steps = n + 1 := ⟨steps - 1, by omega⟩
  refine ⟨steps, by omega, ?_⟩
  rw [all_tokens_step within solid, next, Option.bind_some]

theorem all_tokens_end (within : s.Within [] read depth allowed) (steps : Nat) :
    s.allTokens (steps + 1) = some read := by
  rw [allTokens, skip_gap_end within.rest, within.expire]
  simp [within.fresh.rest, within.fresh.close_all, within.fresh.forget_key, within.fresh.tokens]

def Reads (s : Scan) (rest : List Char) (read : List Token) (depth : Nat) (allowed : Bool) : Prop :=
  ∃ t, s.Leads t ∧ t.Within rest read depth allowed

theorem Reads.andThen (first : s.Reads rest read depth allowed)
    (next : ∀ t : Scan, t.Within rest read depth allowed →
      t.Reads rest' read' depth' allowed') :
    s.Reads rest' read' depth' allowed' := by
  obtain ⟨t, leads, within⟩ := first
  obtain ⟨u, leads', within'⟩ := next t within
  exact ⟨u, leads.trans leads', within'⟩

theorem Reads.of_token (within : s.Within (c :: after) read depth allowed)
    (solid : isSolid c = true)
    (next : ∃ t : Scan, s.fresh.token c after = some t ∧ t.Within rest' read' depth' allowed')
    (shorter : rest'.length ≤ after.length) : s.Reads rest' read' depth' allowed' := by
  obtain ⟨t, next, within'⟩ := next
  exact ⟨t, .token within solid next (by rwa [within'.rest]), within'⟩

end Runs

section Marks

theorem Within.passed (within : s.Within (w ++ after) read depth allowed) (token : Token)
    {key : Option KeyStart} (optional : Optional key) (given : Bool) :
    Within { s with
      input := s.input.skipMany w.length, tokens := token :: s.tokens, keyStart := key
      keyAllowed := given } after (read ++ [token]) depth given where
  rest := by simp [Input.skipMany, within.rest]
  tokens := by simp [within.tokens]
  depth := within.depth
  allowed := rfl
  blocks := within.blocks
  optional
  outerOptional := within.outerOptional

theorem Within.indicator (within : s.Within (c :: after) read depth allowed) (token : Token)
    (given : Bool) : (s.indicator token 1 given).Within after (read ++ [token]) depth given :=
  within.passed (w := [c]) token within.optional given

theorem Within.open_flow (within : s.Within (c :: after) read depth allowed) (token : Token) :
    ∃ t, s.openFlow token = some t ∧ t.Within after (read ++ [token]) (depth + 1) true := by
  obtain ⟨key, optional, noted, _⟩ := within.note_key
  have inside : Within { s with outerKeys := key :: s.outerKeys, keyStart := none } (c :: after)
      read (depth + 1) allowed :=
    { within with
      depth := congrArg (· + 1) within.depth
      optional := Optional.none
      outerOptional := List.forall_mem_cons.mpr ⟨optional, within.outerOptional⟩ }
  exact ⟨_, by rw [openFlow, noted]; rfl, inside.indicator token true⟩

theorem Within.close_flow (within : s.Within (c :: after) read (depth + 1) allowed)
    (token : Token) :
    ∃ t, s.closeFlow token = some t ∧ t.Within after (read ++ [token]) depth false := by
  obtain ⟨key, keys, outer⟩ := List.exists_cons_of_length_eq_add_one within.depth
  have optional := within.outerOptional
  rw [outer] at optional
  have outside : Within { s with outerKeys := keys, keyStart := key } (c :: after) read depth
      allowed :=
    { within with
      depth := by simpa [outer] using within.depth
      optional := (List.forall_mem_cons.mp optional).1
      outerOptional := (List.forall_mem_cons.mp optional).2 }
  refine ⟨_, ?_, outside.indicator token false⟩
  simp [closeFlow, within.forget_key, outer]

theorem Within.flow_entry (within : s.Within (c :: after) read depth allowed) :
    ∃ t, s.flowEntry = some t ∧ t.Within after (read ++ [.flowEntry]) depth true := by
  have forgotten : Within { s with keyStart := none } (c :: after) read depth allowed :=
    { within with optional := Optional.none }
  exact ⟨_, by rw [flowEntry, within.forget_key]; rfl, forgotten.indicator .flowEntry true⟩

theorem open_reads {token : Token}
    (opens : c = '[' ∧ token = .flowSequenceStart ∨ c = '\x7b' ∧ token = .flowMappingStart)
    (within : s.Within (c :: after) read depth allowed) :
    s.Reads after (read ++ [token]) (depth + 1) true := by
  have next : s.fresh.token c after = s.fresh.openFlow token := by
    rcases opens with ⟨rfl, rfl⟩ | ⟨rfl, rfl⟩ <;>
      simp [Scan.token, Input.starts_line_differs within.fresh.rest]
  have solid : isSolid c = true := by rcases opens with ⟨rfl, _⟩ | ⟨rfl, _⟩ <;> rfl
  exact .of_token within solid (next ▸ within.fresh.open_flow token) (Nat.le_refl _)

theorem close_reads {token : Token}
    (closes : c = ']' ∧ token = .flowSequenceEnd ∨ c = '\x7d' ∧ token = .flowMappingEnd)
    (within : s.Within (c :: after) read (depth + 1) allowed) :
    s.Reads after (read ++ [token]) depth false := by
  have next : s.fresh.token c after = s.fresh.closeFlow token := by
    rcases closes with ⟨rfl, rfl⟩ | ⟨rfl, rfl⟩ <;>
      simp [Scan.token, Input.starts_line_differs within.fresh.rest]
  have solid : isSolid c = true := by rcases closes with ⟨rfl, _⟩ | ⟨rfl, _⟩ <;> rfl
  exact .of_token within solid (next ▸ within.fresh.close_flow token) (Nat.le_refl _)

theorem comma_reads (within : s.Within (',' :: after) read depth allowed) :
    s.Reads after (read ++ [.flowEntry]) depth true := by
  have next : s.fresh.token ',' after = s.fresh.flowEntry := by
    simp [Scan.token, Input.starts_line_differs within.fresh.rest]
  exact .of_token within rfl (next ▸ within.fresh.flow_entry) (Nat.le_refl _)

end Marks

section Texts

/-- After a text in quotes it is known where the text began, if a key may have begun there. -/
theorem Within.quoted (word : Word w)
    (within : s.Within (inQuotes w ++ after) read depth allowed) :
    ∃ t, s.readQuoted false = some t ∧
      t.Within after (read ++ [.scalar .quoted w]) depth false ∧
      t.input = s.input.skipMany (inQuotes w).length ∧
      (allowed = true → t.keyStart = some (keyHere read.length s.input)) := by
  obtain ⟨key, optional, noted, start⟩ := within.note_key
  have result : s.readQuoted false = some { s with
      input := s.input.skipMany (inQuotes w).length, tokens := .scalar .quoted w :: s.tokens
      keyStart := key, keyAllowed := false } := by
    rw [readQuoted, noted]
    simp [quoted_scalar_read word within.rest, Scan.read, emit]
  exact ⟨_, result, within.passed (.scalar .quoted w) optional false, rfl, start⟩

theorem token_quote (here : s.input.rest = inQuotes w ++ after) :
    s.token '\x22' (w ++ '\x22' :: after) = s.readQuoted false := by
  have here : s.input.rest = '\x22' :: (w ++ '\x22' :: after) := by simp [here, inQuotes]
  simp [Scan.token, Input.starts_line_differs here]

theorem quoted_reads (word : Word w)
    (within : s.Within (inQuotes w ++ after) read depth allowed) :
    s.Reads after (read ++ [.scalar .quoted w]) depth false := by
  obtain ⟨t, next, within', _⟩ := within.fresh.quoted word
  rw [← token_quote within.fresh.rest] at next
  rw [inQuotes, List.cons_append, List.cons_append, List.append_assoc] at within
  exact .of_token within rfl ⟨t, next, within'⟩ (by simp; omega)

theorem Within.colon {text : Token} {k : KeyStart}
    (within : s.Within (':' :: after) (read ++ [text]) (depth + 1) allowed)
    (noted : s.keyStart = some k) (before : k.token = read.length) :
    ∃ t, s.valueIndicator = some t ∧
      t.Within after (read ++ [.key, text, .value]) (depth + 1) false := by
  have keyed : Within { s.insert k.token .key with keyStart := none } (':' :: after)
      (read ++ [.key, text]) (depth + 1) allowed :=
    { within with
      tokens := by simp [insert, within.tokens, before]
      optional := Optional.none }
  have result : s.valueIndicator =
      some ({ s.insert k.token .key with keyStart := none }.indicator .value 1 false) := by
    have inside : (s.insert k.token .key).inFlow = true := within.in_flow
    simp [valueIndicator, noted, openBlock, inside]
  have reads := keyed.indicator .value false
  rw [List.append_assoc] at reads
  exact ⟨_, result, reads⟩

theorem token_colon (here : s.input.rest = ':' :: after) (inside : s.inFlow = true) :
    s.token ':' after = s.valueIndicator := by
  simp [Scan.token, Input.starts_line_differs here, inside]

theorem key_reads (word : Word w) (short : octets w + 2 ≤ longestKey)
    (within : s.Within (inQuotes w ++ ':' :: after) read (depth + 1) true) :
    s.Reads after (read ++ [.key, .scalar .quoted w, .value]) (depth + 1) false := by
  obtain ⟨t, next, within', place, start⟩ := within.fresh.quoted word
  rw [← token_quote within.fresh.rest] at next
  -- At the colon it is not too late yet for the start of the key.
  have early : expired t.input (keyHere read.length s.input) = false := by
    have size := octets_in_quotes w
    rw [expired, place]
    simp only [keyHere, Scan.fresh, Input.skipMany, within.rest, List.take_left, size,
      Nat.lt_irrefl, decide_false, Bool.false_or, decide_eq_false_iff_not]
    omega
  have kept : t.fresh.keyStart = some (keyHere read.length s.input) := by
    show inTime t.input t.keyStart = _
    rw [start rfl]
    simp [inTime, Option.filter, Scan.fresh, early]
  have colon := within'.fresh.colon kept rfl
  rw [← token_colon within'.fresh.rest within'.fresh.in_flow] at colon
  obtain ⟨u, leads', within''⟩ := Reads.of_token within' rfl colon (Nat.le_refl _)
  rw [inQuotes, List.cons_append, List.cons_append, List.append_assoc] at within
  have leads : s.Leads t := .token within rfl next (by simp [within'.rest]; omega)
  exact ⟨u, leads.trans leads', within''⟩

theorem Within.plain (word : Word w) (proper : w ≠ []) (follows : Json.Follows after)
    (within : s.Within (w ++ after) read (depth + 1) allowed) :
    ∃ t, s.readPlain = some t ∧
      t.Within after (read ++ [.scalar .plain w]) (depth + 1) false := by
  obtain ⟨key, optional, noted, _⟩ := within.note_key
  have result : s.readPlain = some { s with
      input := s.input.skipMany w.length, tokens := .scalar .plain w :: s.tokens
      keyStart := key, keyAllowed := false } := by
    have inside : inFlow { s with keyStart := key } = true := within.in_flow
    rw [readPlain, noted]
    simp only [Option.bind_eq_bind, Option.bind_some, inside,
      plain_scalar_read word proper follows within.rest, Scan.read, Option.map_some, emit]
  exact ⟨_, result, within.passed (.scalar .plain w) optional false⟩

theorem token_word (inside : isLetterOrDigit c = true) (here : s.input.rest = c :: after) :
    s.token c after = s.readPlain := by
  have other : ∀ d ∈ ['%', '-', '.', '[', '\x7b', ']', '\x7d', ',', '?', ':', '*', '&', '!', '|',
      '>', '\x27', '\x22', '#', '@', '\x60'], c ≠ d :=
    word_char_unmarked inside (by decide)
  simp only [List.forall_mem_cons] at other
  obtain ⟨blank, line⟩ := word_char_not_gap inside
  have begins : beginsPlain s.inFlow c after = true := by simp [beginsPlain, blank, line, other]
  simp [Scan.token, Input.starts_line_differs here (d := '-'),
    Input.starts_line_differs here (d := '.'), begins, other]

theorem word_solid (inside : isLetterOrDigit c = true) : isSolid c = true := by
  obtain ⟨blank, line⟩ := word_char_not_gap inside
  simp [isSolid, blank, line, word_char_ne inside (d := '#') rfl,
    word_char_ne inside (d := '\ufeff') rfl]

theorem plain_reads (word : Word w) (proper : w ≠ []) (follows : Json.Follows after)
    (within : s.Within (w ++ after) read (depth + 1) allowed) :
    s.Reads after (read ++ [.scalar .plain w]) (depth + 1) false := by
  have next := within.fresh.plain word proper follows
  obtain ⟨c, later, rfl⟩ := List.exists_cons_of_ne_nil proper
  have inside : isLetterOrDigit c = true := word c List.mem_cons_self
  rw [← token_word inside within.fresh.rest] at next
  exact .of_token within (word_solid inside) next (by simp)

end Texts

section Values

theorem digits_word (n : Nat) : Word (Nat.toDigits 10 n) := by
  intro c member
  have digit : c.isDigit = true := natural_digits n c member
  simp [isLetterOrDigit, Char.isAlphanum, digit]

theorem scalar_word {j : Json} (wordy : j.Wordy) (scalar : j.isCollection = false)
    (plain : ∀ t, j ≠ .string t) :
    Word j.chars ∧ j.chars ≠ [] ∧ j.flowTokens = [.scalar .plain j.chars] := by
  cases j with
  | null => exact ⟨by decide, by simp [Json.chars], rfl⟩
  | bool b => cases b <;> exact ⟨by decide, by simp [Json.chars], rfl⟩
  | integer n =>
    obtain ⟨n, rfl⟩ := Int.eq_ofNat_of_zero_le wordy
    have spelled := Json.natural_spelled n
    exact ⟨spelled ▸ digits_word n, spelled ▸ Nat.toDigits_ne_nil, rfl⟩
  | real _ => exact wordy.elim
  | string t => exact absurd rfl (plain t)
  | array _ | object _ => contradiction

theorem scalar_reads {j : Json} (wordy : j.Wordy) (scalar : j.isCollection = false)
    (plain : ∀ t, j ≠ .string t) (follows : Json.Follows after)
    (within : s.Within (j.chars ++ after) read (depth + 1) allowed) :
    s.Reads after (read ++ j.flowTokens) (depth + 1) false := by
  obtain ⟨word, proper, tokens⟩ := scalar_word wordy scalar plain
  rw [tokens]
  exact plain_reads word proper follows within

theorem key_then_value {key : String} (short : Json.ShortKey key)
    (within : s.Within (Json.stringChars key ++ ':' :: after) read (depth + 1) true) :
    s.Reads after (read ++ Json.keyTokens key) (depth + 1) false := by
  rw [word_in_quotes short.1] at within
  exact key_reads short.1 short.2 within

-- By recursion on the value: its text is passed over, and its tokens are read. Inside flow
-- collections every value can be read so, outside them only collections.
mutual

theorem value_reads : ∀ (j : Json), j.Wordy → ∀ {s : Scan} {after : List Char} {read : List Token}
    {depth : Nat} {allowed : Bool}, Json.Follows after → (0 < depth ∨ j.isCollection = true) →
    s.Within (j.chars ++ after) read depth allowed →
      s.Reads after (read ++ j.flowTokens) depth false
  | .string t, word, _, _, _, _, _, _, _, within => by
    rw [Json.chars, word_in_quotes word] at within
    exact quoted_reads word within
  | .array [], _, _, _, _, _, _, _, _, within => by
    refine (open_reads (.inl ⟨rfl, rfl⟩) within).andThen fun t within => ?_
    have closed := close_reads (.inl ⟨rfl, rfl⟩) within
    simpa [Json.flowTokens] using closed
  | .array (item :: items), wordy, _, _, _, depth, _, _, _, within => by
    rw [Json.chars, List.cons_append, List.cons_append, List.append_assoc] at within
    refine (open_reads (.inl ⟨rfl, rfl⟩) within).andThen fun t within => ?_
    have first := value_reads item wordy.1 (Json.later_items_follow items _)
      (.inl (Nat.succ_pos depth)) within
    refine first.andThen fun t within => ?_
    have later := later_items_read items wordy.2 within
    simpa [Json.flowTokens] using later
  | .object [], _, _, _, _, _, _, _, _, within => by
    refine (open_reads (.inr ⟨rfl, rfl⟩) within).andThen fun t within => ?_
    have closed := close_reads (.inr ⟨rfl, rfl⟩) within
    simpa [Json.flowTokens] using closed
  | .object ((key, value) :: members), wordy, _, _, _, depth, _, _, _, within => by
    rw [Json.chars] at within
    simp only [List.cons_append, List.append_assoc] at within
    refine (open_reads (.inr ⟨rfl, rfl⟩) within).andThen fun t within => ?_
    refine (key_then_value wordy.1 within).andThen fun t within => ?_
    have first := value_reads value wordy.2.1 (Json.later_members_follow members _)
      (.inl (Nat.succ_pos depth)) within
    refine first.andThen fun t within => ?_
    have later := later_members_read members wordy.2.2 within
    simpa [Json.flowTokens] using later
  | .null, wordy, _, _, _, _ + 1, _, follows, _, within =>
    scalar_reads wordy rfl (by simp) follows within
  | .bool _, wordy, _, _, _, _ + 1, _, follows, _, within =>
    scalar_reads wordy rfl (by simp) follows within
  | .integer _, wordy, _, _, _, _ + 1, _, follows, _, within =>
    scalar_reads wordy rfl (by simp) follows within

theorem later_items_read : ∀ (items : List Json), Json.WordyItems items → ∀ {s : Scan}
    {after : List Char} {read : List Token} {depth : Nat} {allowed : Bool},
    s.Within (Json.laterItems items ++ after) read (depth + 1) allowed →
      s.Reads after (read ++ Json.laterItemTokens items) depth false
  | [], _, _, _, _, _, _, within => close_reads (.inl ⟨rfl, rfl⟩) within
  | item :: items, wordy, _, _, _, depth, _, within => by
    rw [Json.laterItems, List.cons_append, List.cons_append, List.append_assoc] at within
    refine (comma_reads within).andThen fun t within => ?_
    have first := value_reads item wordy.1 (Json.later_items_follow items _)
      (.inl (Nat.succ_pos depth)) within
    refine first.andThen fun t within => ?_
    have later := later_items_read items wordy.2 within
    simpa [Json.laterItemTokens] using later

theorem later_members_read : ∀ (members : List (String × Json)), Json.WordyMembers members →
    ∀ {s : Scan} {after : List Char} {read : List Token} {depth : Nat} {allowed : Bool},
    s.Within (Json.laterMembers members ++ after) read (depth + 1) allowed →
      s.Reads after (read ++ Json.laterMemberTokens members) depth false
  | [], _, _, _, _, _, _, within => close_reads (.inr ⟨rfl, rfl⟩) within
  | (key, value) :: members, wordy, _, _, _, depth, _, within => by
    rw [Json.laterMembers] at within
    simp only [List.cons_append, List.append_assoc] at within
    refine (comma_reads within).andThen fun t within => ?_
    refine (key_then_value wordy.1 within).andThen fun t within => ?_
    have first := value_reads value wordy.2.1 (Json.later_members_follow members _)
      (.inl (Nat.succ_pos depth)) within
    refine first.andThen fun t within => ?_
    have later := later_members_read members wordy.2.2 within
    simpa [Json.laterMemberTokens] using later

end

end Values

end Scan

section Streams

theorem word_allowed {w : List Char} (word : Word w) : w.all isAllowed = true :=
  List.all_eq_true.mpr fun c member => plain_allowed (letter_or_digit_plain (word c member))

theorem string_allowed {t : String} (word : Word t.toList) :
    (Json.stringChars t).all isAllowed = true := by
  rw [word_in_quotes word, inQuotes, List.cons_append, List.all_cons, List.all_append,
    word_allowed word]
  decide

mutual

theorem chars_allowed : ∀ j : Json, j.Wordy → j.chars.all isAllowed = true
  | .null, _ => by decide
  | .bool true, _ => by decide
  | .bool false, _ => by decide
  | .integer n, wordy => word_allowed (Scan.scalar_word (j := .integer n) wordy rfl (by simp)).1
  | .string _, word => string_allowed word
  | .array [], _ => by decide
  | .array (item :: items), wordy => by
    simp only [Json.chars, List.cons_append, List.all_cons, List.all_append,
      chars_allowed item wordy.1, later_items_allowed items wordy.2]
    decide
  | .object [], _ => by decide
  | .object ((key, value) :: members), wordy => by
    simp only [Json.chars, List.cons_append, List.all_cons, List.all_append,
      string_allowed wordy.1.1, chars_allowed value wordy.2.1,
      later_members_allowed members wordy.2.2]
    decide

theorem later_items_allowed : ∀ items : List Json, Json.WordyItems items →
    (Json.laterItems items).all isAllowed = true
  | [], _ => by decide
  | item :: items, wordy => by
    simp only [Json.laterItems, List.cons_append, List.all_cons, List.all_append,
      chars_allowed item wordy.1, later_items_allowed items wordy.2]
    decide

theorem later_members_allowed : ∀ members : List (String × Json), Json.WordyMembers members →
    (Json.laterMembers members).all isAllowed = true
  | [], _ => by decide
  | (key, value) :: members, wordy => by
    simp only [Json.laterMembers, List.cons_append, List.all_cons, List.all_append,
      string_allowed wordy.1.1, chars_allowed value wordy.2.1,
      later_members_allowed members wordy.2.2]
    decide

end

/-- The tokens of the text of a list or an object are those of the value. -/
theorem tokens_of_flow {j : Json} (wordy : j.Wordy) (collection : j.isCollection = true) :
    tokens? j.text = some j.flowTokens := by
  have proper : j.text.toList.all isAllowed = true := by
    rw [Json.text, String.toList_ofList]
    exact chars_allowed j wordy
  have within : (Scan.start j.text).Within (j.chars ++ []) [] 0 true :=
    { rest := by simp [Scan.start, Input.ofText, Json.text]
      tokens := rfl
      depth := rfl
      allowed := rfl
      blocks := rfl
      optional := Scan.Optional.none
      outerOptional := List.forall_mem_nil _ }
  obtain ⟨t, leads, within'⟩ :=
    Scan.value_reads j wordy (by simp [Json.Follows]) (.inr collection) within
  obtain ⟨more, enough, same⟩ := leads (j.text.toList.length + 1) (Nat.lt_succ_self _)
  obtain ⟨more, rfl⟩ := Nat.exists_eq_add_of_lt enough
  rw [tokens?, if_pos proper, same, Scan.all_tokens_end within']
  rfl

end Streams

end Yaml

end RecordComparison
