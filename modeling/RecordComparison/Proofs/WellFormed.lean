import RecordComparison.Proofs.Outcome
import RecordComparison.Proofs.Validity

/-!
Well-formed descriptions. What makes a description well-formed is stated by itself, with names
spelled out in characters; validation accepts exactly these descriptions, and so does every way
of loading one. A description that is refused because of a field is refused because of that field
and the ones before it alone. Main statement: `validation_is_exact`.
-/
namespace RecordComparison

def AsciiLetter (c : Char) : Prop := 65 ≤ c.toNat ∧ c.toNat ≤ 90 ∨ 97 ≤ c.toNat ∧ c.toNat ≤ 122

def AsciiDigit (c : Char) : Prop := 48 ≤ c.toNat ∧ c.toNat ≤ 57

def Identifier (name : String) : Prop :=
  ∃ first later, name.toList = first :: later ∧ (AsciiLetter first ∨ first = '_') ∧
    ∀ c ∈ later, AsciiLetter c ∨ AsciiDigit c ∨ c = '_'

structure Description.WellFormed (description : Description) : Prop where
  name : Identifier description.name
  nonempty : description.fields ≠ []
  fieldNames : ∀ d ∈ description.fields, Identifier d.name
  distinct : description.fields.Pairwise fun d e => d.name ≠ e.name
  ranks : ∀ d ∈ description.fields, d.rank ≤ 3
  texts : ∀ d ∈ description.fields, d.kind = .text → d.rank ≤ 1

section Names

theorem is_alpha_iff (c : Char) : c.isAlpha = true ↔ AsciiLetter c := by
  have bounds : c.isAlpha = (decide ('A'.val ≤ c.val ∧ c.val ≤ 'Z'.val) ||
      decide ('a'.val ≤ c.val) && decide (c.val ≤ 'z'.val)) := rfl
  rw [bounds, Bool.or_eq_true, Bool.and_eq_true]
  simp only [decide_eq_true_eq, UInt32.le_iff_toNat_le]
  rfl

theorem is_digit_iff (c : Char) : c.isDigit = true ↔ AsciiDigit c := by
  simp only [Char.isDigit, Bool.and_eq_true, decide_eq_true_eq, AsciiDigit, Char.toNat,
    UInt32.le_iff_toNat_le, ge_iff_le]
  rfl

theorem is_letter_iff (c : Char) : isLetter c = true ↔ AsciiLetter c ∨ c = '_' := by
  rw [isLetter, Bool.or_eq_true, is_alpha_iff, beq_iff_eq]

theorem is_letter_or_digit_iff (c : Char) :
    isLetterOrDigit c = true ↔ AsciiLetter c ∨ AsciiDigit c ∨ c = '_' := by
  rw [isLetterOrDigit, Char.isAlphanum, Bool.or_eq_true, Bool.or_eq_true, is_alpha_iff,
    is_digit_iff, beq_iff_eq, or_assoc]

theorem is_identifier_iff (name : String) : isIdentifier name = true ↔ Identifier name := by
  unfold isIdentifier Identifier
  cases spelled : name.toList with
  | nil => simp
  | cons c later =>
    rw [Bool.and_eq_true, is_letter_iff, List.all_eq_true]
    simp only [is_letter_or_digit_iff, List.cons.injEq]
    constructor
    · rintro ⟨first, others⟩
      exact ⟨c, later, ⟨rfl, rfl⟩, first, others⟩
    · rintro ⟨_, _, ⟨rfl, rfl⟩, first, others⟩
      exact ⟨first, others⟩

end Names

theorem Kind.rank_bound_iff (kind : Kind) (rank : Nat) :
    rank ≤ maximalRank ∧ rank ≤ kind.maxRank ↔ rank ≤ 3 ∧ (kind = .text → rank ≤ 1) := by
  cases kind <;> simp [maxRank, maximalRank]

namespace Description

theorem valid_iff (description : Description) :
    description.flaw? = none ↔ description.WellFormed := by
  rw [flaw_none_iff]
  simp only [is_identifier_iff, Kind.rank_bound_iff]
  constructor
  · rintro ⟨name, nonempty, fields, distinct⟩
    exact ⟨name, nonempty, fun d member => (fields d member).1, List.pairwise_map.mp distinct,
      fun d member => (fields d member).2.1, fun d member => (fields d member).2.2⟩
  · rintro ⟨name, nonempty, names, distinct, ranks, texts⟩
    exact ⟨name, nonempty, fun d member => ⟨names d member, ranks d member, texts d member⟩,
      List.pairwise_map.mpr distinct⟩

section Failures

/-- The search for a flaw passes the fields in front of position `k` and stops at that one. -/
inductive StopsAt : List String → List Declaration → Nat → Flaw → Prop where
  | here {earlier : List String} {d : Declaration} {later : List Declaration} {flaw : Flaw} :
      d.flaw? earlier = some flaw → StopsAt earlier (d :: later) 0 flaw
  | later {earlier : List String} {d : Declaration} {later : List Declaration} {k : Nat}
      {flaw : Flaw} : d.flaw? earlier = none → StopsAt (d.name :: earlier) later k flaw →
      StopsAt earlier (d :: later) (k + 1) flaw

theorem stops_iff (earlier : List String) (fields : List Declaration) (flaw : Flaw) :
    fieldFlaw? earlier fields = some flaw ↔ ∃ k, StopsAt earlier fields k flaw := by
  induction fields generalizing earlier with
  | nil =>
    refine iff_of_false (by simp [fieldFlaw?]) ?_
    rintro ⟨k, stops⟩
    cases stops
  | cons d later ih =>
    rw [fieldFlaw?]
    cases here : d.flaw? earlier with
    | some first =>
      constructor
      · intro same
        obtain rfl := Option.some.inj same
        exact ⟨0, .here here⟩
      · rintro ⟨k, stops⟩
        cases stops with
        | here found => rw [← found, here]
        | later passed _ => simp [here] at passed
    | none =>
      rw [ih]
      constructor
      · rintro ⟨k, stops⟩
        exact ⟨k + 1, .later here stops⟩
      · rintro ⟨k, stops⟩
        cases stops with
        | here found => simp [here] at found
        | later _ stops => exact ⟨_, stops⟩

variable {earlier : List String} {fields : List Declaration} {k : Nat} {flaw : Flaw}

theorem StopsAt.lt_length (stops : StopsAt earlier fields k flaw) : k < fields.length := by
  induction stops with
  | here _ => simp
  | later _ _ ih => simp [ih]

theorem StopsAt.before (stops : StopsAt earlier fields k flaw) :
    fieldFlaw? earlier (fields.take k) = none := by
  induction stops with
  | here _ => rfl
  | later passed _ ih => simp only [List.take_succ_cons, fieldFlaw?, passed, ih]

theorem StopsAt.same_start (stops : StopsAt earlier fields k flaw) {others : List Declaration}
    (start : others.take (k + 1) = fields.take (k + 1)) : StopsAt earlier others k flaw := by
  induction stops generalizing others with
  | here found =>
    cases others with
    | nil => simp at start
    | cons e others =>
      obtain rfl : e = _ := by simpa using start
      exact .here found
  | later passed _ ih =>
    cases others with
    | nil => simp at start
    | cons e others =>
      simp only [List.take_succ_cons, List.cons.injEq] at start
      obtain ⟨rfl, start⟩ := start
      exact .later passed (ih start)

def FailsAt (description : Description) (k : Nat) (flaw : Flaw) : Prop :=
  Identifier description.name ∧ StopsAt [] description.fields k flaw

def firstFields (description : Description) (k : Nat) : Description :=
  { description with fields := description.fields.take k }

theorem flaw_some_iff (description : Description) (flaw : Flaw) :
    description.flaw? = some flaw ↔
      ¬ Identifier description.name ∧ flaw = .recordName description.name ∨
      Identifier description.name ∧ description.fields = [] ∧ flaw = .noFields ∨
      ∃ k, description.FailsAt k flaw := by
  simp only [flaw?, FailsAt, exists_and_left, ← stops_iff, ← is_identifier_iff]
  by_cases named : isIdentifier description.name = true
  · cases listed : description.fields <;> simp [named, fieldFlaw?, eq_comm]
  · simp [named, eq_comm]

variable {description : Description}

theorem FailsAt.refused (fails : description.FailsAt k flaw) :
    description.flaw? = some flaw := (description.flaw_some_iff flaw).mpr (.inr (.inr ⟨k, fails⟩))

theorem FailsAt.first_fields_valid (fails : description.FailsAt k flaw) (later : 0 < k) :
    (description.firstFields k).WellFormed := by
  obtain ⟨name, stops⟩ := fails
  have nonempty : description.fields.take k ≠ [] := by
    apply List.ne_nil_of_length_pos
    rw [List.length_take, Nat.min_eq_left (Nat.le_of_lt stops.lt_length)]
    exact later
  rw [← valid_iff, firstFields, flaw?]
  simp [is_identifier_iff, name, nonempty, stops.before]

theorem FailsAt.same_start (fails : description.FailsAt k flaw) {other : Description}
    (name : other.name = description.name)
    (start : other.fields.take (k + 1) = description.fields.take (k + 1)) :
    other.FailsAt k flaw := by
  obtain ⟨named, stops⟩ := fails
  exact ⟨name ▸ named, stops.same_start start⟩

theorem validated_error (given : Description) (problem : LoadProblem) :
    given.validated = .error problem ↔
      ∃ flaw, given.flaw? = some flaw ∧ problem = .invalid given.name flaw := by
  rw [validated]
  cases given.flaw? <;> simp [eq_comm]

end Failures

theorem of_content_iff (path : String) (content : Except FileProblem String)
    (description : Description) :
    ofFile path content = .ok description ↔
      (∃ text format, content = .ok text ∧
        (Location.extension? path).bind Format.ofExtension? = some format ∧
          description.ReadsFrom text format) ∧ description.WellFormed := by
  -- One file decides, so the files may be taken to be all alike.
  rw [of_file_iff (fun _ => content) path description, ← valid_iff]
  exact ⟨fun loads => ⟨loads.reads, loads.valid⟩, fun ⟨reads, valid⟩ => ⟨reads, valid⟩⟩

/-- Validation accepts a description exactly if it is well-formed, and all that is loaded, made or
read is accepted exactly then. It refuses any other because of its name, because it has no
fields, or because of one field; in that case the fields in front of that one are well-formed
with the name, and whatever has the name and these fields is refused for the same reason. -/
theorem validation_is_exact :
    (∀ description : Description, description.flaw? = none ↔ description.WellFormed) ∧
    (∀ given description : Description,
      given.validated = .ok description ↔ given = description ∧ description.WellFormed) ∧
    (∀ (text : String) (description : Description),
      ofJsonText text = .ok description ↔
        Json.whole read text = .ok description ∧ description.WellFormed) ∧
    (∀ (text : String) (description : Description),
      ofYamlText text = .ok description ↔
        Yaml.whole readYaml text = .ok description ∧ description.WellFormed) ∧
    (∀ (path : String) (content : Except FileProblem String) (description : Description),
      ofFile path content = .ok description ↔
        (∃ text format, content = .ok text ∧
          (Location.extension? path).bind Format.ofExtension? = some format ∧
            description.ReadsFrom text format) ∧ description.WellFormed) ∧
    (∀ (description : Description) (flaw : Flaw), description.flaw? = some flaw ↔
      ¬ Identifier description.name ∧ flaw = .recordName description.name ∨
      Identifier description.name ∧ description.fields = [] ∧ flaw = .noFields ∨
      ∃ k, description.FailsAt k flaw) ∧
    ∀ (description : Description) (k : Nat) (flaw : Flaw), description.FailsAt k flaw →
      (0 < k → (description.firstFields k).WellFormed) ∧
      ∀ other : Description, other.name = description.name →
        other.fields.take (k + 1) = description.fields.take (k + 1) →
          other.validated = .error (.invalid description.name flaw) := by
  refine ⟨valid_iff, ?_, ?_, ?_, of_content_iff, flaw_some_iff, ?_⟩
  · intro given description
    rw [validated_iff, valid_iff]
  · intro text description
    rw [ofJsonText, of_json_iff, valid_iff, ReadsFrom]
  · intro text description
    rw [ofYamlText, of_yaml_iff, valid_iff, ReadsFrom]
  · intro description k flaw fails
    refine ⟨fails.first_fields_valid, fun other name start => ?_⟩
    have refused := (fails.same_start name start).refused
    exact (other.validated_error _).mpr ⟨flaw, refused, by rw [name]⟩

theorem text_matrix_refused :
    let good : Declaration := ⟨"x_1", .real, 3, .value⟩
    let matrix : Declaration := ⟨"_t", .text, 2, .pointer⟩
    let description : Description := ⟨"r", [good, matrix]⟩
    let longer : Description := ⟨"r", [good, matrix, good]⟩
    description.FailsAt 1 (.rankTooHighFor "_t" .text) ∧
      (description.firstFields 1).WellFormed ∧
      longer.validated = .error (.invalid "r" (.rankTooHighFor "_t" .text)) := by
  intro good matrix description longer
  have fails : description.FailsAt 1 (.rankTooHighFor "_t" .text) :=
    ⟨(is_identifier_iff "r").mp (by decide +kernel), .later (by decide +kernel)
      (.here (by decide +kernel))⟩
  obtain ⟨_, _, _, _, _, _, failures⟩ := validation_is_exact
  obtain ⟨before, alike⟩ := failures description 1 _ fails
  exact ⟨fails, before (by decide), alike longer rfl rfl⟩

end Description

end RecordComparison
