import RecordComparison.Description.Listing
import RecordComparison.Proofs.PathText
import RecordComparison.Proofs.ReportLines

/-!
The listing read back. Every line of a listing ends where it seems to end, a name stands in front
of the first space after it, and the blanks that fill its column are cut off by the letter that a
label begins with. So the text of a listing tells everything about the description. Main statement:
`listing_text_injective`.
-/
namespace RecordComparison

section Lines

theorem lines_text_eq (lines : List String) : linesText lines = textOfLines lines := by
  apply String.toList_injective
  rw [linesText, textOfLines, String.toList_join, String.toList_ofList, List.flatMap_map]
  simp only [String.toList_append]
  rfl

theorem lines_text_injective {lines others : List String}
    (whole : ∀ line ∈ lines, '\n' ∉ line.toList) (whole' : ∀ line ∈ others, '\n' ∉ line.toList)
    (same : linesText lines = linesText others) : lines = others := by
  rw [lines_text_eq, lines_text_eq] at same
  have pieces := lines_of_output whole
  rw [same, lines_of_output whole'] at pieces
  have spelled := (List.append_cancel_right pieces).symm
  exact (List.map_inj_right fun _ _ => String.toList_injective).mp spelled

end Lines

section Labels

theorem Kind.name_injective {a b : Kind} (same : a.name = b.name) : a = b := by
  have found := a.ofName?_name
  rw [same, b.ofName?_name] at found
  exact (Option.some.inj found).symm

theorem kind_name_letters (kind : Kind) : ∀ c ∈ kind.name.toList, isLetterOrDigit c = true :=
  List.all_eq_true.mp (by cases kind <;> decide)

theorem shape_name_letters (rank : Nat) :
    ∀ c ∈ (Declaration.shapeName rank).toList, isLetterOrDigit c = true := by
  refine List.all_eq_true.mp ?_
  unfold Declaration.shapeName
  split <;> decide

theorem shape_name_injective {r s : Nat} (low : r ≤ maximalRank) (low' : s ≤ maximalRank)
    (same : Declaration.shapeName r = Declaration.shapeName s) : r = s := by
  have told : ∀ r ≤ 3, ∀ s ≤ 3, Declaration.shapeName r = Declaration.shapeName s → r = s := by
    decide
  exact told r low s low' same

def heldText (storage : Storage) : String :=
  if storage.nullable then " (" ++ storage.name ++ ")" else ""

theorem held_text_injective {a b : Storage} (same : heldText a = heldText b) : a = b := by
  have told : ∀ a b : Storage, heldText a = heldText b → a = b := by
    intro a b
    cases a <;> cases b <;> decide
  exact told a b same

theorem held_text_separated (storage : Storage) : Separated (heldText storage).toList := by
  intro c first
  cases storage
  · simp [heldText, Storage.nullable] at first
  all_goals
    obtain rfl : ' ' = c := Option.some.inj first
    rfl

namespace Declaration

theorem label_chars (d : Declaration) :
    d.label.toList =
      d.kind.name.toList ++ ' ' :: ((shapeName d.rank).toList ++ (heldText d.storage).toList) := by
  show (d.kind.name ++ " " ++ shapeName d.rank ++ heldText d.storage).toList = _
  simp

theorem label_first (d : Declaration) :
    ∃ c later, d.label.toList = c :: later ∧ (c == ' ') = false := by
  rw [label_chars]
  cases d.kind <;> exact ⟨_, _, rfl, rfl⟩

theorem label_injective {d e : Declaration} (low : d.rank ≤ maximalRank)
    (low' : e.rank ≤ maximalRank) (same : d.label = e.label) :
    d.kind = e.kind ∧ d.rank = e.rank ∧ d.storage = e.storage := by
  have chars := congrArg String.toList same
  rw [label_chars, label_chars] at chars
  have space : ∀ s : List Char, Separated (' ' :: s) := by
    rintro s c ⟨⟩
    rfl
  obtain ⟨kinds, rest⟩ := piece_cut (kind_name_letters d.kind) (kind_name_letters e.kind)
    (space _) (space _) chars
  obtain ⟨shapes, held⟩ := piece_cut (shape_name_letters d.rank) (shape_name_letters e.rank)
    (held_text_separated d.storage) (held_text_separated e.storage) (List.cons.inj rest).2
  exact ⟨Kind.name_injective (String.toList_injective kinds),
    shape_name_injective low low' (String.toList_injective shapes),
    held_text_injective (String.toList_injective held)⟩

end Declaration

end Labels

namespace Description

section Rows

theorem row_chars (width position : Nat) (d : Declaration) :
    (row width position d).toList =
      List.replicate (2 + (2 - (toString position).length)) ' ' ++ ((toString position).toList ++
        (List.replicate 2 ' ' ++ (d.name.toList ++
          (List.replicate (width - d.name.length + 2) ' ' ++ d.label.toList)))) := by
  have two : List.replicate 2 ' ' = "  ".toList := by decide
  simp only [row, padLeft, padRight, spaces, String.toList_append, String.toList_ofList,
    List.replicate_add, two, List.append_assoc]

theorem row_visible (width position : Nat) {d : Declaration}
    (named : isIdentifier d.name = true) : Visible (row width position d).toList := by
  have blanks (n : Nat) : Visible (List.replicate n ' ') := by
    intro c member
    rw [List.eq_of_mem_replicate member]
    exact isHidden_of_plain (by decide)
  have kind : Visible d.kind.name.toList := Node.kind_name_visible d.kind
  have shape : Visible (Declaration.shapeName d.rank).toList :=
    fun c member => isHidden_of_plain (letter_or_digit_plain (shape_name_letters d.rank c member))
  have held : Visible (heldText d.storage).toList := by
    cases d.storage <;> exact .of_plain (by decide)
  have label : Visible d.label.toList := by
    rw [d.label_chars]
    exact kind.append (.cons (by decide) (shape.append held))
  rw [row_chars]
  exact (blanks _).append ((natural_visible position).append
    ((blanks _).append ((identifier_visible named).append ((blanks _).append label))))

theorem blanks_separated (n : Nat) (s : List Char) :
    Separated (List.replicate (n + 1) ' ' ++ s) := by
  rintro c ⟨⟩
  rfl

/-- A row tells the field, whatever the width of the column of names is. -/
theorem row_cut {width width' position : Nat} {d e : Declaration}
    (named : isIdentifier d.name = true) (named' : isIdentifier e.name = true)
    (low : d.rank ≤ maximalRank) (low' : e.rank ≤ maximalRank)
    (same : row width position d = row width' position e) : d = e := by
  have chars := congrArg String.toList same
  rw [row_chars, row_chars] at chars
  replace chars := List.append_cancel_left (List.append_cancel_left (List.append_cancel_left chars))
  obtain ⟨names, rest⟩ :=
    name_cut named named' (blanks_separated _ _) (blanks_separated _ _) chars
  have blank (n : Nat) : ∀ c ∈ List.replicate n ' ', (c == ' ') = true := by
    intro c member
    rw [List.eq_of_mem_replicate member]
    rfl
  have stops (d : Declaration) : ∀ c, d.label.toList.head? = some c → (c == ' ') = false := by
    obtain ⟨first, later, spelled, letter⟩ := d.label_first
    rw [spelled]
    rintro c ⟨⟩
    exact letter
  obtain ⟨_, labels⟩ := piece_cut (blank _) (blank _) (stops d) (stops e) rest
  obtain ⟨kinds, ranks, storages⟩ :=
    Declaration.label_injective low low' (String.toList_injective labels)
  cases d
  cases e
  rw [Declaration.mk.injEq]
  exact ⟨names, kinds, ranks, storages⟩

theorem rows_injective {width width' : Nat} {ds es : List Declaration}
    (proper : ∀ d ∈ ds, isIdentifier d.name = true ∧ d.rank ≤ maximalRank)
    (proper' : ∀ e ∈ es, isIdentifier e.name = true ∧ e.rank ≤ maximalRank) (position : Nat)
    (same : rows width position ds = rows width' position es) : ds = es := by
  induction ds generalizing es position with
  | nil =>
    cases es with
    | nil => rfl
    | cons e es => cases same
  | cons d ds ih =>
    cases es with
    | nil => cases same
    | cons e es =>
      obtain ⟨here, later⟩ := List.cons.inj same
      obtain ⟨first, rest⟩ := List.forall_mem_cons.mp proper
      obtain ⟨first', rest'⟩ := List.forall_mem_cons.mp proper'
      rw [row_cut first.1 first'.1 first.2 first'.2 here, ih rest rest' (position + 1) later]

theorem rows_visible {width : Nat} {ds : List Declaration}
    (named : ∀ d ∈ ds, isIdentifier d.name = true) (position : Nat) :
    ∀ line ∈ rows width position ds, Visible line.toList := by
  induction ds generalizing position with
  | nil => simp [rows]
  | cons d ds ih =>
    obtain ⟨first, rest⟩ := List.forall_mem_cons.mp named
    exact List.forall_mem_cons.mpr ⟨row_visible width position first, ih rest (position + 1)⟩

end Rows

section Headings

theorem heading_chars (description : Description) :
    description.heading.toList = "record ".toList ++ (description.name.toList ++
      (" (".toList ++ ((toString description.fields.length).toList ++ " fields)".toList))) := by
  simp [heading]

theorem heading_visible {description : Description}
    (named : isIdentifier description.name = true) : Visible description.heading.toList := by
  rw [heading_chars]
  have word : Visible "record ".toList := .of_plain (by decide)
  exact word.append ((identifier_visible named).append ((Visible.of_plain (by decide)).append
    ((natural_visible _).append (.of_plain (by decide)))))

theorem heading_names {S T : Description} (named : isIdentifier S.name = true)
    (named' : isIdentifier T.name = true) (same : S.heading = T.heading) : S.name = T.name := by
  have chars := congrArg String.toList same
  rw [heading_chars, heading_chars] at chars
  have space (s : List Char) : Separated (" (".toList ++ s) := by
    rintro c ⟨⟩
    rfl
  exact (name_cut named named' (space _) (space _) (List.append_cancel_left chars)).1

end Headings

theorem valid_fields {description : Description} (valid : description.flaw? = none) :
    ∀ d ∈ description.fields, isIdentifier d.name = true ∧ d.rank ≤ maximalRank := by
  obtain ⟨_, _, fields, _⟩ := description.flaw_none_iff.mp valid
  exact fun d member => ⟨(fields d member).1, (fields d member).2.1⟩

theorem listing_visible {description : Description} (valid : description.flaw? = none) :
    ∀ line ∈ description.listing, Visible line.toList := by
  obtain ⟨name, _⟩ := description.flaw_none_iff.mp valid
  exact List.forall_mem_cons.mpr ⟨heading_visible name,
    rows_visible (fun d member => (valid_fields valid d member).1) 0⟩

/-- Valid descriptions are told by the texts of their listings. -/
theorem listing_text_injective {S T : Description} (valid : S.flaw? = none)
    (valid' : T.flaw? = none) : linesText S.listing = linesText T.listing ↔ S = T := by
  constructor
  · intro same
    have lines : S.listing = T.listing := lines_text_injective
      (fun line member => (listing_visible valid line member).no_line_break)
      (fun line member => (listing_visible valid' line member).no_line_break) same
    obtain ⟨headings, rows⟩ := List.cons.inj lines
    obtain ⟨name, _⟩ := S.flaw_none_iff.mp valid
    obtain ⟨name', _⟩ := T.flaw_none_iff.mp valid'
    have names := heading_names name name' headings
    have fields := rows_injective (valid_fields valid) (valid_fields valid') 0 rows
    cases S
    cases T
    rw [Description.mk.injEq]
    exact ⟨names, fields⟩
  · rintro rfl
    rfl

theorem lookalike_listings_differ :
    let S : Description := ⟨"record", [⟨"a", .int, 0, .value⟩, ⟨"int_scalar", .text, 1, .pointer⟩]⟩
    let T : Description := ⟨"record", [⟨"a", .int, 0, .value⟩, ⟨"int_scala", .text, 1, .pointer⟩]⟩
    S.flaw? = none ∧ T.flaw? = none ∧
      linesText S.listing = "record record (2 fields)\n   0  a           int scalar\n" ++
        "   1  int_scalar  text array (pointer)\n" ∧
      linesText T.listing = "record record (2 fields)\n   0  a          int scalar\n" ++
        "   1  int_scala  text array (pointer)\n" ∧
      linesText S.listing ≠ linesText T.listing := by
  intro S T
  have valid : S.flaw? = none := by decide +kernel
  have valid' : T.flaw? = none := by decide +kernel
  have other : S ≠ T := by decide
  exact ⟨valid, valid', by decide +kernel, by decide +kernel,
    (listing_text_injective valid valid').not.mpr other⟩

end Description

end RecordComparison
