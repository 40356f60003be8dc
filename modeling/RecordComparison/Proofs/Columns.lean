import Mathlib.Data.Nat.Digits.Defs
import Mathlib.Data.String.Basic
import RecordComparison.Proofs.Listing

/-!
The columns of a listing. In a row the words after the position are the name of the field and the
label. Names are filled to the width of the longest one, but positions only to two characters, so
rows are aligned as long as no position needs three. Main statement: `columns_of_rows`.
-/
namespace RecordComparison

section Words

/-- The columns at which words begin, from `column` on; `gap` tells whether no word is open. -/
def wordColumns (column : Nat) (gap : Bool) : List Char → List Nat
  | [] => []
  | c :: s =>
    if c = ' ' then wordColumns (column + 1) true s
    else if gap then column :: wordColumns (column + 1) false s
    else wordColumns (column + 1) false s

def nameColumn? (line : String) : Option Nat := (wordColumns 0 true line.toList)[1]?

def labelColumn? (line : String) : Option Nat := (wordColumns 0 true line.toList)[2]?

theorem blanks_passed {n : Nat} (positive : 0 < n) (column : Nat) (gap : Bool) (s : List Char) :
    wordColumns column gap (List.replicate n ' ' ++ s) = wordColumns (column + n) true s := by
  induction n generalizing column gap with
  | zero => contradiction
  | succ n ih =>
    rw [List.replicate_succ, List.cons_append, wordColumns, if_pos rfl]
    rcases Nat.eq_zero_or_pos n with rfl | later
    · rfl
    · rw [ih later, Nat.add_assoc, Nat.add_comm 1]

theorem word_passed (column : Nat) {word : List Char} (solid : ' ' ∉ word) (s : List Char) :
    wordColumns column false (word ++ s) = wordColumns (column + word.length) false s := by
  induction word generalizing column with
  | nil => rfl
  | cons c word ih =>
    obtain ⟨proper, solid⟩ := not_or.mp (List.mem_cons.not.mp solid)
    rw [List.cons_append, wordColumns, if_neg (Ne.symm proper), if_neg Bool.false_ne_true,
      ih (column + 1) solid, List.length_cons]
    congr 1
    omega

theorem word_begins (column : Nat) {word : List Char} (solid : ' ' ∉ word)
    (nonempty : word ≠ []) (s : List Char) :
    wordColumns column true (word ++ s) =
      column :: wordColumns (column + word.length) false s := by
  obtain ⟨c, later, rfl⟩ := List.exists_cons_of_ne_nil nonempty
  obtain ⟨proper, rest⟩ := not_or.mp (List.mem_cons.not.mp solid)
  rw [List.cons_append, wordColumns, if_neg (Ne.symm proper), if_pos rfl, word_passed _ rest,
    List.length_cons]
  congr 2
  omega

end Words

def Aligned (lines : List String) : Prop :=
  ∃ names labels, ∀ line ∈ lines, nameColumn? line = some names ∧ labelColumn? line = some labels

namespace Description

section Rows

theorem row_columns {width position : Nat} {d : Declaration} (named : isIdentifier d.name = true)
    (room : d.name.length ≤ width) :
    let digits := (toString position).length
    nameColumn? (row width position d) = some (4 + max 2 digits) ∧
      labelColumn? (row width position d) = some (6 + max 2 digits + width) := by
  intro digits
  have number : (toString position).toList ≠ [] := by
    rw [Nat.toString_eq_repr, Nat.toList_repr]
    exact Nat.toDigits_ne_nil
  have name : d.name.toList ≠ [] := by
    obtain ⟨_, _, spelled, _⟩ := identifier_chars named
    exact spelled ▸ List.cons_ne_nil _ _
  obtain ⟨c, later, label, letter⟩ := d.label_first
  have solid : c ≠ ' ' := by simpa using letter
  rw [nameColumn?, labelColumn?, row_chars, blanks_passed (by omega),
    word_begins _ (natural_absent position rfl) number, blanks_passed (by omega),
    word_begins _ (identifier_absent named rfl) name, blanks_passed (by omega), label, wordColumns,
    if_neg solid, if_pos rfl]
  simp only [List.getElem?_cons_succ, List.getElem?_cons_zero, Option.some.injEq,
    String.length_toList]
  omega

theorem length_le_bytes (chars : List Char) : chars.length ≤ String.utf8Len chars := by
  induction chars with
  | nil => rfl
  | cons c chars ih => exact Nat.add_le_add ih c.utf8Size_pos

theorem le_name_width {description : Description} {d : Declaration}
    (member : d ∈ description.fields) : d.name.length ≤ description.nameWidth := by
  have listed : d.name.utf8ByteSize ∈ description.fields.map (·.name.utf8ByteSize) :=
    List.mem_map_of_mem (f := (·.name.utf8ByteSize)) member
  have widest : d.name.utf8ByteSize ≤ description.nameWidth := by
    rw [nameWidth, List.foldl_max]
    exact Nat.le_trans (List.le_max?_getD_of_mem listed) (Nat.le_max_right _ _)
  have bytes : d.name.length ≤ d.name.utf8ByteSize := by
    rw [← String.length_toList, ← String.utf8Len_toList]
    exact length_le_bytes d.name.toList
  exact Nat.le_trans bytes widest

theorem rows_by_position (width position : Nat) (ds : List Declaration) (i : Nat) :
    (rows width position ds)[i]? = ds[i]?.map (row width (position + i)) := by
  induction ds generalizing position i with
  | nil => rfl
  | cons d ds ih =>
    cases i with
    | zero => rfl
    | succ i =>
      rw [rows, List.getElem?_cons_succ, List.getElem?_cons_succ, ih, Nat.add_assoc, Nat.add_comm 1]

theorem columns_at {description : Description} (valid : description.flaw? = none) {i : Nat}
    (here : i < description.fields.length) :
    let digits := (toString i).length
    ∃ line, description.listing.tail[i]? = some line ∧
      nameColumn? line = some (4 + max 2 digits) ∧
      labelColumn? line = some (6 + max 2 digits + description.nameWidth) := by
  intro digits
  have member : description.fields[i] ∈ description.fields := List.getElem_mem here
  obtain ⟨named, _⟩ := valid_fields valid _ member
  have found : description.listing.tail[i]? =
      some (row description.nameWidth i description.fields[i]) := by
    show (rows description.nameWidth 0 description.fields)[i]? = _
    rw [rows_by_position, List.getElem?_eq_getElem here, Nat.zero_add, Option.map_some]
  exact ⟨_, found, row_columns named (le_name_width member)⟩

@[simp] theorem rows_length (width position : Nat) (ds : List Declaration) :
    (rows width position ds).length = ds.length := by
  induction ds generalizing position with
  | nil => rfl
  | cons d ds ih => rw [rows, List.length_cons, ih, List.length_cons]

theorem aligned_iff {description : Description} (valid : description.flaw? = none) :
    Aligned description.listing.tail ↔ description.fields.length ≤ 100 := by
  constructor
  · rintro ⟨names, labels, aligned⟩
    by_contra many
    have first : 0 < description.fields.length := by omega
    have last : 100 < description.fields.length := by omega
    obtain ⟨line, found, name, _⟩ := columns_at valid first
    obtain ⟨line', found', name', _⟩ := columns_at valid last
    rw [(aligned line (List.mem_of_getElem? found)).1] at name
    rw [(aligned line' (List.mem_of_getElem? found')).1] at name'
    have digits : (toString 0).length = 1 ∧ (toString 100).length = 3 := by decide
    simp only [digits, Option.some.injEq] at name name'
    omega
  · intro few
    refine ⟨6, 8 + description.nameWidth, fun line member => ?_⟩
    obtain ⟨i, bound, rfl⟩ := List.getElem_of_mem member
    have here : i < description.fields.length := by
      rwa [← rows_length description.nameWidth 0 description.fields]
    have digits : (toString i).length ≤ 2 := Nat.repr_length i 2 (by decide) (by omega)
    obtain ⟨line, found, columns⟩ := columns_at valid here
    obtain rfl := Option.some.inj ((List.getElem?_eq_getElem bound).symm.trans found)
    rwa [Nat.max_eq_left digits] at columns

end Rows

/-- In the row at a position, name and label begin at columns that are set by the width of all
names and by the digits of the position if these are more than two. So all rows of a listing are
aligned exactly if there are at most a hundred of them. -/
theorem columns_of_rows (description : Description) (valid : description.flaw? = none) :
    (∀ i < description.fields.length, ∃ line, description.listing.tail[i]? = some line ∧
      nameColumn? line = some (4 + max 2 (toString i).length) ∧
      labelColumn? line = some (6 + max 2 (toString i).length + description.nameWidth)) ∧
    (Aligned description.listing.tail ↔ description.fields.length ≤ 100) :=
  ⟨fun _ here => columns_at valid here, aligned_iff valid⟩

theorem two_rows_aligned :
    let description : Description :=
      ⟨"beam", [⟨"n", .int, 0, .value⟩, ⟨"orbit", .real, 2, .allocatable⟩]⟩
    description.flaw? = none ∧ description.fields.length ≤ 100 ∧
      description.listing.tail =
        ["   0  n      int scalar", "   1  orbit  real matrix (allocatable)"] ∧
      Aligned description.listing.tail := by
  intro description
  have valid : description.flaw? = none := by decide +kernel
  have few : description.fields.length ≤ 100 := by decide
  exact ⟨valid, few, by decide +kernel, (description.columns_of_rows valid).2.mpr few⟩

def numbered (count : Nat) : Description :=
  ⟨"r", (List.range count).map fun i => ⟨"f" ++ toString i, .bool, 0, .value⟩⟩

theorem numbered_valid {count : Nat} (positive : 0 < count) : (numbered count).flaw? = none := by
  have named (i : Nat) : isIdentifier ("f" ++ toString i) = true := by
    have spelled : ("f" ++ toString i).toList = 'f' :: (toString i).toList := by simp
    have digits : ∀ c ∈ (toString i).toList, isLetterOrDigit c = true := by
      intro c member
      rw [Nat.toString_eq_repr, Nat.toList_repr] at member
      have digit : c.isDigit = true := natural_digits i c member
      simp [isLetterOrDigit, Char.isAlphanum, digit]
    rw [isIdentifier, spelled]
    exact Bool.and_eq_true_iff.mpr ⟨rfl, List.all_eq_true.mpr digits⟩
  have distinct : Function.Injective fun i : Nat => "f" ++ toString i := by
    intro i j same
    have chars := congrArg String.toList same
    simp only [String.toList_append] at chars
    exact Pointer.numeral_injective (String.toList_injective (List.append_cancel_left chars))
  have letter : isIdentifier "r" = true := by decide
  rw [flaw_none_iff]
  refine ⟨letter, ?_, ?_, ?_⟩
  · simpa [numbered] using Nat.ne_of_gt positive
  · intro d member
    obtain ⟨i, _, rfl⟩ := List.mem_map.mp member
    exact ⟨named i, Nat.zero_le _, Nat.zero_le _⟩
  · rw [numbered, List.map_map]
    exact List.nodup_range.map distinct

/-- With one field more than a hundred, the last row begins its name one column later. -/
theorem hundred_and_one_rows_misaligned :
    let description := numbered 101
    description.flaw? = none ∧
      (description.listing.tail[99]?.bind nameColumn?) = some 6 ∧
      (description.listing.tail[100]?.bind nameColumn?) = some 7 ∧
      ¬ Aligned description.listing.tail := by
  intro description
  have valid : description.flaw? = none := numbered_valid (by decide)
  have count : description.fields.length = 101 := by
    simp [description, numbered]
  obtain ⟨line, found, name, _⟩ := columns_at valid (i := 99) (by omega)
  obtain ⟨line', found', name', _⟩ := columns_at valid (i := 100) (by omega)
  refine ⟨valid, ?_, ?_, ?_⟩
  · rw [found, Option.bind_some, name]
    decide
  · rw [found', Option.bind_some, name']
    decide
  · rw [aligned_iff valid, count]
    decide

end Description

end RecordComparison
