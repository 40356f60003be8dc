import RecordComparison.Proofs.Agreement
import RecordComparison.Proofs.DerivedEquality
import RecordComparison.Proofs.ReadBack
import RecordComparison.Reference.Json

/-!
Records with a fixed layout, read back. A field that may be absent is written as null if it is and
like one that is always there if it is not, and no list begins like null; so what is absent and
what is empty stay apart, at every rank. Main statement: `reference_records_read_back`.
-/
namespace RecordComparison
open Comparable (collect equal)
open Json

section Values

variable {α : Type}

structure Json.ReadsValue (read : Read α) (write : α → Json) : Prop where
  finds : ∀ a, Finds read (write a).chars a
  begins : ∀ a, ∃ c later, (write a).chars = c :: later ∧ isBlank c = false ∧ c ≠ ']' ∧ c ≠ 'n'

namespace Json.ReadsValue

variable {read : Read α} {write : α → Json}

theorem item (reads : ReadsValue read write) (a : α) : ItemFinds read a (write a) := by
  obtain ⟨c, later, spelled, unblank, unclosed, _⟩ := reads.begins a
  exact ⟨reads.finds a, c, later, spelled, unblank, unclosed⟩

theorem truth : ReadsValue readTruth bool where
  finds b := read_scalar_finds (j := bool b) trivial rfl
  begins b := by
    cases b with
    | true => exact ⟨_, _, by rw [chars], by decide, by decide, by decide⟩
    | false => exact ⟨_, _, by rw [chars], by decide, by decide, by decide⟩

theorem list (reads : ReadsValue read write) : ReadsValue (readList read) (ofList write) where
  finds _ := list_finds fun a _ => reads.item a
  begins as := by
    cases as with
    | nil => exact ⟨_, _, by rw [ofList, List.map_nil, chars], by decide, by decide, by decide⟩
    | cons a as =>
      exact ⟨_, _, by rw [ofList, List.map_cons, chars, List.cons_append], by decide, by decide,
        by decide⟩

theorem option (reads : ReadsValue read write) (a? : Option α) :
    Finds (readOption read) (ofOption write a?).chars a? := by
  intro rest follows
  cases a? with
  | none =>
    rw [ofOption, chars, List.cons_append, readOption, skip_blanks_cons (by decide)]
    rfl
  | some a =>
    obtain ⟨c, later, spelled, unblank, _, present⟩ := reads.begins a
    have here := reads.finds a rest follows
    rw [ofOption, spelled, List.cons_append] at *
    rw [readOption, skip_blanks_cons unblank]
    split
    next same => exact absurd (List.cons.inj same).1 present
    next => rw [mapRead, here]; rfl

end Json.ReadsValue

end Values

section Records

theorem int32_finds (a : Int32) :
    Finds IntegerRecord.readInt32 (integer a.toInt).chars a := by
  have low := a.minValue_le_toInt
  have high := a.toInt_le
  have simple : (integer a.toInt).Simple :=
    ⟨Int.le_trans (by decide) low, Int.lt_of_le_of_lt high (by decide)⟩
  have accepted : toInteger "i32" Int32.minValue.toInt Int32.maxValue.toInt (integer a.toInt) =
      .ok a.toInt := if_pos ⟨low, high⟩
  have found : Finds (readInteger "i32" _ _) (integer a.toInt).chars a.toInt :=
    read_scalar_finds simple accepted
  have narrowed := found.map Int32.ofInt
  rwa [Int32.ofInt_toInt] at narrowed

theorem IntegerRecord.finds (r : IntegerRecord) : Finds IntegerRecord.read r.json.chars r := by
  have a := (int32_finds r.a).map fun a (r : IntegerRecord) => { r with a }
  exact record_finds (.member rfl a (.done rfl))

namespace TruthRecord

variable {α : Type} {form : RecordForm Read TruthRecord} {seen : List String} {r r' : TruthRecord}
  {name : String} {read : Read α} {write : α → Json} {later : List (String × Json)}

theorem taken_plain {set : α → TruthRecord → TruthRecord} {a : α} (reads : ReadsValue read write)
    (known : form.accept seen name = .ok (some (plainMember textMedium name read set)))
    (rest : Taken form (name :: seen) (set a r) later r') :
    Taken form seen r ((name, write a) :: later) r' :=
  .member known ((reads.finds a).map set) rest

theorem taken_optional {set : Option α → TruthRecord → TruthRecord} {a? : Option α}
    (reads : ReadsValue read write)
    (known : form.accept seen name = .ok (some (optionalMember textMedium name read set)))
    (rest : Taken form (name :: seen) (set a? r) later r') :
    Taken form seen r ((name, ofOption write a?) :: later) r' :=
  .member known ((reads.option a?).map set) rest

theorem finds (r : TruthRecord) : Finds TruthRecord.read r.json.chars r := by
  have item := ReadsValue.truth
  have items := item.list
  have rows := items.list
  have planes := rows.list
  exact record_finds <|
    taken_plain item rfl <| taken_optional item rfl <| taken_optional item rfl <|
    taken_plain items rfl <| taken_optional items rfl <| taken_optional items rfl <|
    taken_plain rows rfl <| taken_optional rows rfl <| taken_optional rows rfl <|
    taken_plain planes rfl <| taken_optional planes rfl <| taken_optional planes rfl <| .done rfl

end TruthRecord

end Records

/-- The text that is written of a record is read as the record itself, which equals the one that
was written and has no difference from it; and unequal records never have the same text. -/
def SurvivesText {R : Type} [Comparable R] (write : R → Json) (read : Read R) : Prop :=
  (∀ r, ∃ s, whole read (write r).text = .ok s ∧ s = r ∧ equal s r = true ∧
    collect none s r = []) ∧
  ∀ r s, equal r s = false → (write r).text ≠ (write s).text

theorem survives_text {R : Type} {_ : Comparable R} (layout : Layout R) {write : R → Json}
    {read : Read R} (finds : ∀ r, Finds read (write r).chars r)
    (reflexive : ∀ r : R, equal r r = true) : SurvivesText write read := by
  have reads (r : R) : whole read (write r).text = .ok r := whole_of_finds (finds r)
  constructor
  · intro r
    have nothing := (layout.equal_iff_nothing_collected r r).mp (reflexive r)
    exact ⟨r, reads r, rfl, reflexive r, nothing⟩
  · intro r s unequal same
    have back := reads r
    rw [same, reads s] at back
    obtain rfl := Except.ok.inj back
    rw [reflexive] at unequal
    contradiction

/-- Both records with a fixed layout survive being written as JSON text and read again, whatever is
absent, empty or ragged in them. -/
theorem reference_records_read_back :
    SurvivesText TruthRecord.json TruthRecord.read ∧
      SurvivesText IntegerRecord.json IntegerRecord.read := by
  constructor
  · exact survives_text TruthRecord.layout TruthRecord.finds fun r =>
      (TruthRecord.equal_iff_same r r).mpr rfl
  · refine survives_text IntegerRecord.layout IntegerRecord.finds fun r => ?_
    exact (IntegerRecord.equal_fieldwise r r).trans (beq_self_eq_true r.a)

theorem absent_and_empty_read_back :
    let absent : TruthRecord := TruthRecord.initial
    let empty : TruthRecord := { absent with ip2 := some [] }
    let ragged : TruthRecord := { absent with ip2 := some [[], [true, false]] }
    let least : IntegerRecord := ⟨Int32.minValue⟩
    least.json.text = "\x7b\"a\":-2147483648\x7d" ∧
      (∃ r, whole IntegerRecord.read least.json.text = .ok r ∧ r = least ∧ equal r least = true ∧
        collect none r least = []) ∧
      (∃ r, whole TruthRecord.read ragged.json.text = .ok r ∧ r = ragged ∧
        equal r ragged = true ∧ collect none r ragged = []) ∧
      equal absent empty = false ∧ absent.json.text ≠ empty.json.text ∧
      equal empty ragged = false ∧ empty.json.text ≠ ragged.json.text := by
  intro absent empty ragged least
  obtain ⟨⟨truth, apart⟩, integer, _⟩ := reference_records_read_back
  have first : equal absent empty = false := by decide
  have second : equal empty ragged = false := by decide
  exact ⟨by decide +kernel, integer least, truth ragged, first, apart absent empty first, second,
    apart empty ragged second⟩

end RecordComparison
