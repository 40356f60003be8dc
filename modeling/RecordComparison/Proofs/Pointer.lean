import RecordComparison.Record.Decoding

/-!
Pointers into documents, read as their users read them. A pointer is cut at its slashes; in the
tokens between them `~1` stands for a slash and `~0` for a tilde; each token leads on to a member
of an object or to an item of an array. The pointer of a path has the segments of the path for
tokens, whatever characters are in their names. Main statement: `Pointer.find_path`.
-/
namespace RecordComparison

namespace Pointer

def unescape? : List Char → Option (List Char)
  | [] => some []
  | '~' :: '0' :: s => (unescape? s).map ('~' :: ·)
  | '~' :: '1' :: s => (unescape? s).map ('/' :: ·)
  | '~' :: _ => none
  | c :: s => (unescape? s).map (c :: ·)

def tokens? (pointer : String) : Option (List String) :=
  match pointer.toList.splitOn '/' with
  | [] :: pieces => pieces.mapM fun piece => (unescape? piece).map String.ofList
  | _ => none

/-- The position that is written so, in digits and without leading zeros. -/
def position? (token : String) : Option Nat :=
  let position := Nat.ofDigitChars 10 token.toList 0
  if toString position = token then some position else none

def step (j : Json) (token : String) : Option Json :=
  match j with
  | .object members => Json.member? members token
  | .array items => (position? token).bind fun position => items[position]?
  | _ => none

def find? (pointer : String) (document : Json) : Option Json :=
  (tokens? pointer).bind fun tokens => tokens.foldlM step document

end Pointer

def Segment.token : Segment → String
  | .field name => name
  | .index position => toString position

def Path.tokens (path : Path) : List String := path.map Segment.token

namespace Pointer

section Tokens

theorem unescape_cons {c : Char} (plain : c ≠ '~') (s : List Char) :
    unescape? (c :: s) = (unescape? s).map (c :: ·) := by
  rw [unescape?] <;> simp [plain]

@[simp] theorem unescape_escaped (s : List Char) :
    unescape? (s.flatMap escapePointerChar) = some s := by
  induction s with
  | nil => rfl
  | cons c s ih =>
    rw [List.flatMap_cons, escapePointerChar]
    split
    next tilde =>
      subst tilde
      simp [unescape?, ih]
    next plain =>
      split
      next slash =>
        subst slash
        simp [unescape?, ih]
      next =>
        rw [List.singleton_append, unescape_cons plain, ih, Option.map_some]

theorem escaped_slashless (s : List Char) : '/' ∉ s.flatMap escapePointerChar := by
  rw [List.mem_flatMap]
  rintro ⟨c, _, slash⟩
  unfold escapePointerChar at slash
  split at slash
  next => simp at slash
  next =>
    split at slash
    next => simp at slash
    next other => exact other (List.mem_singleton.mp slash).symm

theorem numeral_unescaped (n : Nat) :
    (toString n).toList.flatMap escapePointerChar = (toString n).toList := by
  have digits : ∀ c ∈ (toString n).toList, escapePointerChar c = [c] := by
    intro c member
    have digit : c.isDigit = true := by
      rw [Nat.toString_eq_repr, Nat.toList_repr] at member
      exact Nat.isDigit_of_mem_toDigits (by decide) (by decide) member
    have plain {d : Char} (outside : d.isDigit = false) : c ≠ d := by
      rintro rfl
      simp [digit] at outside
    rw [escapePointerChar, if_neg (plain (by decide)), if_neg (plain (by decide))]
  rw [List.flatMap_def, List.map_congr_left digits, ← List.flatMap_def, List.flatMap_singleton']

@[simp] theorem segment_spelled (segment : Segment) :
    segment.pointerText.toList = '/' :: segment.token.toList.flatMap escapePointerChar := by
  cases segment with
  | field name => simp [Segment.pointerText, Segment.token]
  | index position =>
    rw [Segment.token, numeral_unescaped]
    simp [Segment.pointerText]

theorem split_pieces (pieces : List (List Char)) (whole : ∀ piece ∈ pieces, '/' ∉ piece) :
    (pieces.flatMap ('/' :: ·)).splitOn '/' = [] :: pieces := by
  have after (first : List Char) (cut : '/' ∉ first) :
      (first ++ pieces.flatMap ('/' :: ·)).splitOn '/' = first :: pieces := by
    induction pieces generalizing first with
    | nil => rw [List.flatMap_nil, List.append_nil, List.splitOn_eq_singleton cut]
    | cons piece pieces ih =>
      obtain ⟨here, later⟩ := List.forall_mem_cons.mp whole
      rw [List.flatMap_cons, List.cons_append, List.splitOn_append_cons_self_of_not_mem cut,
        ih later piece here]
  exact after [] (by simp)

@[simp] theorem tokens_of_path (path : Path) : tokens? path.pointerText = some path.tokens := by
  let pieces := path.tokens.map fun token => token.toList.flatMap escapePointerChar
  have spelled : path.pointerText.toList = pieces.flatMap ('/' :: ·) := by
    rw [Path.pointerText, String.toList_join]
    simp only [pieces, Path.tokens, List.flatMap_map, segment_spelled]
  have whole : ∀ piece ∈ pieces, '/' ∉ piece := by
    simp only [pieces, List.forall_mem_map]
    exact fun token _ => escaped_slashless token.toList
  have read : pieces.mapM (fun piece => (unescape? piece).map String.ofList) =
      some path.tokens := by
    simp only [pieces]
    induction path.tokens with
    | nil => rfl
    | cons token tokens ih => simp [ih]
  simp only [tokens?, spelled, split_pieces pieces whole, read]

/-- The tilde that is read from `~0` escapes nothing. -/
example : tokens? "/a~1b~01/" = some ["a/b~1", ""] := by decide +kernel

end Tokens

section Steps

variable {document : Json}

/-- A pointer that is written for a path leads from segment to segment of the path. -/
theorem find_path (path : Path) (document : Json) :
    find? path.pointerText document = path.tokens.foldlM step document := by
  rw [find?, tokens_of_path, Option.bind_some]

theorem find_push {path : Path} {j : Json} (leads : find? path.pointerText document = some j)
    (segment : Segment) :
    find? (path.push segment).pointerText document = step j segment.token := by
  have pushed : (path.push segment).tokens = path.tokens ++ [segment.token] := List.map_append
  rw [find_path] at leads
  rw [find_path, pushed, List.foldlM_append, leads]
  exact bind_pure (step j segment.token)

theorem find_root (document : Json) : find? Path.root.pointerText document = some document :=
  find_path .root document

theorem find_member (members : List (String × Json)) (name : String) :
    find? (Path.pointerText [.field name]) (.object members) = Json.member? members name :=
  find_push (find_root (.object members)) (.field name)

theorem position_of_numeral (n : Nat) : position? (toString n) = some n := by
  have digits : Nat.ofDigitChars 10 (toString n).toList 0 = n := by
    rw [Nat.toString_eq_repr, Nat.toList_repr, Nat.ofDigitChars_ten_toDigits]
  simp only [position?, digits, if_true]

example : position? "01" = none := by decide +kernel

theorem numeral_injective {n m : Nat} (same : toString n = toString m) : n = m := by
  have read := congrArg position? same
  rw [position_of_numeral, position_of_numeral] at read
  exact Option.some.inj read

theorem find_item {path : Path} {items : List Json}
    (leads : find? path.pointerText document = some (.array items)) (position : Nat) :
    find? (path.push (.index position)).pointerText document = items[position]? := by
  rw [find_push leads, Segment.token, step, position_of_numeral, Option.bind_some]

end Steps

end Pointer

end RecordComparison
