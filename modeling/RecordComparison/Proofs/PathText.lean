import RecordComparison.Proofs.Cuts
import RecordComparison.Proofs.Names
import RecordComparison.Proofs.Pointer
import RecordComparison.Proofs.Visible

/-!
The text of a path. Fields are identifiers, so a dot or a bracket is never part of one, and the
segments can be told from each other, and the root from all other paths. Main statement:
`path_text_injective`.
-/
namespace RecordComparison

abbrev Segment.Identified (step : Segment) : Prop := step.EachName (isIdentifier · = true)

theorem identifier_absent {name : String} (proper : isIdentifier name = true) {c : Char}
    (other : isLetterOrDigit c = false) : c ∉ name.toList := by
  obtain ⟨_, _, _, inside⟩ := identifier_chars proper
  intro member
  rw [inside c member] at other
  contradiction

def Separated (s : List Char) : Prop := ∀ c, s.head? = some c → isLetterOrDigit c = false

theorem name_cut {a b : String} (first : isIdentifier a = true) (second : isIdentifier b = true)
    {s t : List Char} (ends : Separated s) (ends' : Separated t)
    (same : a.toList ++ s = b.toList ++ t) : a = b ∧ s = t := by
  obtain ⟨_, _, _, inside⟩ := identifier_chars first
  obtain ⟨_, _, _, inside'⟩ := identifier_chars second
  obtain ⟨names, rest⟩ := piece_cut inside inside' ends ends' same
  exact ⟨String.toList_injective names, rest⟩

theorem position_chars (position : Nat) :
    (Segment.index position).leadingText.toList =
      '[' :: ((toString position).toList ++ [']']) := by
  simp [Segment.leadingText]

theorem position_cut {i j : Nat} {s t : List Char}
    (same : (Segment.index i).leadingText.toList ++ s =
      (Segment.index j).leadingText.toList ++ t) : i = j ∧ s = t := by
  rw [position_chars, position_chars, List.cons_append, List.cons_append, List.append_assoc,
    List.append_assoc] at same
  obtain ⟨digits, rest⟩ := cut_first (natural_absent i rfl) (natural_absent j rfl)
    (List.cons.inj same).2
  exact ⟨Pointer.numeral_injective (String.toList_injective digits), rest⟩

theorem leading_cut {a b : Segment} (first : a.Identified) (second : b.Identified)
    {s t : List Char} (ends : Separated s) (ends' : Separated t)
    (same : a.leadingText.toList ++ s = b.leadingText.toList ++ t) : a = b ∧ s = t := by
  have differ {name : String} {i : Nat} {u v : List Char} (proper : isIdentifier name = true) :
      name.toList ++ u ≠ (Segment.index i).leadingText.toList ++ v := by
    obtain ⟨c, later, spelled, inside⟩ := identifier_chars proper
    have letter := inside c (spelled ▸ List.mem_cons_self)
    rw [spelled, position_chars, List.cons_append, List.cons_append]
    intro same
    rw [(List.cons.inj same).1] at letter
    contradiction
  cases a with
  | field name =>
    cases b with
    | field other =>
      obtain ⟨rfl, rest⟩ := name_cut first second ends ends' same
      exact ⟨rfl, rest⟩
    | index j => exact absurd same (differ first)
  | index i =>
    cases b with
    | field other => exact absurd same.symm (differ second)
    | index j =>
      obtain ⟨rfl, rest⟩ := position_cut same
      exact ⟨rfl, rest⟩

theorem field_following (name : String) :
    (Segment.field name).followingText.toList = '.' :: (Segment.field name).leadingText.toList := by
  simp [Segment.followingText, Segment.leadingText]

theorem following_cut {a b : Segment} (first : a.Identified) (second : b.Identified)
    {s t : List Char} (ends : Separated s) (ends' : Separated t)
    (same : a.followingText.toList ++ s = b.followingText.toList ++ t) : a = b ∧ s = t := by
  have differ {name : String} {i : Nat} {u v : List Char} :
      (Segment.field name).followingText.toList ++ u ≠
        (Segment.index i).leadingText.toList ++ v := by
    rw [field_following, position_chars, List.cons_append, List.cons_append]
    intro same
    exact absurd (List.cons.inj same).1 (by decide)
  cases a with
  | field name =>
    cases b with
    | field other =>
      rw [field_following, field_following] at same
      exact leading_cut first second ends ends' (List.cons.inj same).2
    | index j => exact absurd same differ
  | index i =>
    cases b with
    | field other => exact absurd same.symm differ
    | index j => exact leading_cut first second ends ends' same

theorem following_first (step : Segment) :
    ∃ c s, step.followingText.toList = c :: s ∧ isLetterOrDigit c = false := by
  cases step with
  | field name => exact ⟨_, _, field_following name, rfl⟩
  | index position => exact ⟨_, _, position_chars position, rfl⟩

def laterChars (later : Path) : List Char := later.flatMap fun step => step.followingText.toList

theorem later_separated (later : Path) : Separated (laterChars later) := by
  cases later with
  | nil => simp [laterChars, Separated]
  | cons step later =>
    obtain ⟨c, s, spelled, other⟩ := following_first step
    rw [laterChars, List.flatMap_cons, spelled]
    rintro d ⟨⟩
    exact other

theorem later_nonempty (step : Segment) (later : Path) : laterChars (step :: later) ≠ [] := by
  obtain ⟨c, s, spelled, _⟩ := following_first step
  simp [laterChars, spelled]

-- By recursion on both paths: their first segments are cut off, for what follows a segment is no
-- part of an identifier.
theorem later_injective : ∀ {p q : Path}, (∀ step ∈ p, step.Identified) →
    (∀ step ∈ q, step.Identified) → laterChars p = laterChars q → p = q
  | [], [], _, _, _ => rfl
  | [], b :: q, _, _, same => absurd same.symm (later_nonempty b q)
  | a :: p, [], _, _, same => absurd same (later_nonempty a p)
  | a :: p, b :: q, first, second, same => by
    obtain ⟨here, later⟩ := List.forall_mem_cons.mp first
    obtain ⟨here', later'⟩ := List.forall_mem_cons.mp second
    obtain ⟨rfl, rest⟩ := following_cut here here' (later_separated p) (later_separated q) same
    rw [later_injective later later' rest]

theorem path_chars (first : Segment) (later : Path) :
    (Path.text (first :: later)).toList = first.leadingText.toList ++ laterChars later := by
  rw [Path.text, String.toList_append, String.toList_join, List.flatMap_map, laterChars]

theorem root_differs {first : Segment} (proper : first.Identified) (later : Path) :
    Path.text [] ≠ Path.text (first :: later) := by
  have leading : ∃ c s, first.leadingText.toList = c :: s ∧ c ≠ '<' := by
    cases first with
    | field name =>
      obtain ⟨c, s, spelled, inside⟩ := identifier_chars proper
      have letter := inside c (spelled ▸ List.mem_cons_self)
      refine ⟨c, s, spelled, ?_⟩
      rintro rfl
      contradiction
    | index position => exact ⟨_, _, position_chars position, by decide⟩
  obtain ⟨c, s, spelled, other⟩ := leading
  intro same
  have begins : (Path.text []).toList.head? = some '<' := by decide
  rw [same, path_chars, spelled] at begins
  exact other (Option.some.inj begins)

/-- A path can be read off its text. -/
theorem path_text_injective {p q : Path} (first : ∀ step ∈ p, step.Identified)
    (second : ∀ step ∈ q, step.Identified) (same : p.text = q.text) : p = q := by
  cases p with
  | nil =>
    cases q with
    | nil => rfl
    | cons b q => exact absurd same (root_differs (second b List.mem_cons_self) q)
  | cons a p =>
    obtain ⟨here, later⟩ := List.forall_mem_cons.mp first
    cases q with
    | nil => exact absurd same.symm (root_differs here p)
    | cons b q =>
      obtain ⟨here', later'⟩ := List.forall_mem_cons.mp second
      have chars := congrArg String.toList same
      rw [path_chars, path_chars] at chars
      obtain ⟨rfl, rest⟩ := leading_cut here here' (later_separated p) (later_separated q) chars
      rw [later_injective later later' rest]

theorem leading_no_colon {step : Segment} (proper : step.Identified) :
    ':' ∉ step.leadingText.toList := by
  cases step with
  | field name => exact identifier_absent proper rfl
  | index position =>
    rw [position_chars]
    simpa using natural_absent position (c := ':') rfl

theorem path_no_colon {path : Path} (proper : ∀ step ∈ path, step.Identified) :
    ':' ∉ path.text.toList := by
  have following {step : Segment} (proper : step.Identified) : ':' ∉ step.followingText.toList := by
    cases step with
    | field name =>
      rw [field_following]
      simpa using leading_no_colon proper
    | index position =>
      show ':' ∉ (Segment.index position).leadingText.toList
      exact leading_no_colon proper
  cases path with
  | nil => decide
  | cons first later =>
    obtain ⟨here, rest⟩ := List.forall_mem_cons.mp proper
    rw [path_chars, List.mem_append, laterChars, List.mem_flatMap]
    rintro (inside | ⟨step, member, inside⟩)
    · exact leading_no_colon here inside
    · exact following (rest step member) inside

end RecordComparison
