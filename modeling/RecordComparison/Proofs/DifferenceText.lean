import RecordComparison.Difference.Json
import RecordComparison.Proofs.LeafText
import RecordComparison.Proofs.PathText
import RecordComparison.Proofs.Truncation

/-!
Lines of reports tell which differences they stand for. Names are identifiers, so the path ends at
the first colon; what disagrees is announced by the first character after it; and the left side
ends at its closing quote, or, if it is not quoted, at the first exclamation mark. Main statement:
`difference_text_tells`.
-/
namespace RecordComparison
open Comparable (collect differences)

section Sides

def reserved : List Char := ['\x22', '\x27', 'l', 'k', 'p', 'a']

/-- A text that shows where it ends if it stands on the left of a mismatch, and that it is the
text of a leaf. -/
inductive LeafSide : List Char → Prop where
  | quoted {quote : Char} (mark : quote ∈ ['\x22', '\x27']) (s : List Char) :
      LeafSide (Quoted.chars quote s)
  | plain {c : Char} {s : List Char} (free : c ∉ reserved) (single : '!' ∉ c :: s) :
      LeafSide (c :: s)

theorem quote_clear {quote : Char} (mark : quote ∈ ['\x22', '\x27']) : Quoted.Clear quote := by
  rcases List.mem_pair.mp mark with rfl | rfl
  · exact Quoted.clear_double
  · exact Quoted.clear_single

theorem plain_side_cut {a b s t : List Char} (first : '!' ∉ a) (second : '!' ∉ b)
    (same : a ++ ' ' :: '!' :: s = b ++ ' ' :: '!' :: t) : a = b ∧ s = t := by
  have spaced {u : List Char} (single : '!' ∉ u) : '!' ∉ u ++ [' '] := by simpa using single
  rw [List.append_cons, List.append_cons b] at same
  obtain ⟨sides, rest⟩ := cut_first (spaced first) (spaced second) same
  exact ⟨List.append_cancel_right sides, rest⟩

theorem leaf_side_cut {a b s t : List Char} (first : LeafSide a) (second : LeafSide b)
    (same : a ++ ' ' :: '!' :: s = b ++ ' ' :: '!' :: t) : a = b ∧ s = t := by
  -- Only quoted sides begin with a quote, and their quote tells where they end.
  have differ {quote c : Char} {u v w : List Char} (mark : quote ∈ ['\x22', '\x27'])
      (free : c ∉ reserved) : Quoted.chars quote u ++ v ≠ c :: w := by
    intro same
    rw [← (List.cons.inj same).1] at free
    rcases List.mem_pair.mp mark with rfl | rfl <;> exact free (by decide)
  cases first with
  | @quoted quote mark a =>
    cases second with
    | @quoted quote' mark' b =>
      obtain rfl : quote = quote' := (List.cons.inj same).1
      obtain ⟨rfl, rest⟩ := Quoted.quoted_cut (quote_clear mark) same
      exact ⟨rfl, (List.cons.inj (List.cons.inj rest).2).2⟩
    | plain free => exact absurd same (differ mark free)
  | plain free single =>
    cases second with
    | quoted mark => exact absurd same.symm (differ mark free)
    | plain _ single' => exact plain_side_cut single single' same

theorem digit_free {c : Char} (digit : c.isDigit = true) : c ∉ reserved := by
  intro member
  have others : reserved.all (fun c => !c.isDigit) = true := by decide
  have other := List.all_eq_true.mp others c member
  rw [digit] at other
  contradiction

theorem number_side {s : List Char} (numeric : Numeric s)
    (begins : ∃ c later, s = c :: later ∧ c ∉ reserved) : LeafSide s := by
  obtain ⟨c, later, rfl, free⟩ := begins
  exact .plain free (numeric.absent rfl (by decide))

theorem integer_side (n : Int) : LeafSide (toString n).toList := by
  refine number_side (integer_numeric n) ?_
  cases n with
  | ofNat n =>
    have nonempty : Nat.toDigits 10 n ≠ [] := Nat.toDigits_ne_nil
    obtain ⟨c, later, spelled⟩ := List.exists_cons_of_ne_nil nonempty
    have digit := natural_digits n c (spelled ▸ List.mem_cons_self)
    exact ⟨c, later, (natural_chars n).trans spelled, digit_free digit⟩
  | negSucc n => exact ⟨_, _, negative_chars n, by decide⟩

theorem binary_side {f : BinaryFormat} (x : Binary f) : LeafSide (x.text .report).toList := by
  refine number_side (binary_numeric .report x) ?_
  cases x with
  | finite x =>
    obtain ⟨c, later, spelled, digit⟩ := decimal_first .report (x.shortest NumberStyle.report.tie)
    rw [Binary.text, String.toList_ofList, Finite.chars]
    split
    · exact ⟨_, _, rfl, by decide⟩
    · exact ⟨c, later, spelled, digit_free digit⟩
  | infinite negative => cases negative <;> simp [Binary.text, reserved]
  | nan => simp [Binary.text, reserved]

theorem complex_side (z : Complex) : LeafSide z.reportText.toList := by
  have single (x : Double) : '!' ∉ (x.text .report).toList :=
    (binary_numeric .report x).absent rfl (by decide)
  have word : "Complex \x7b re: ".toList = 'C' :: "omplex \x7b re: ".toList := by decide
  rw [complex_chars, word]
  refine .plain (by decide) ?_
  simp [single z.re, single z.im]

theorem LeafType.side {α : Type} {_ : BEq α} {_ : Leaf α} (type : LeafType α) (a : α) :
    LeafSide (Leaf.text a).toList := by
  have double : '\x22' ∈ ['\x22', '\x27'] := by decide
  have single : '\x27' ∈ ['\x22', '\x27'] := by decide
  cases type with
  | bool => cases a <;> simp [Leaf.text, truthText] <;> exact .plain (by decide) (by decide)
  | char =>
    simp only [Leaf.text, quotedChar, String.toList_ofList]
    exact .quoted single _
  | text =>
    simp only [Leaf.text, quotedText, String.toList_ofList]
    exact .quoted double _
  | single => exact binary_side a
  | double => exact binary_side a
  | complex => exact complex_side a
  | uint8 => exact integer_side (.ofNat a.toNat)
  | uint16 => exact integer_side (.ofNat a.toNat)
  | uint32 => exact integer_side (.ofNat a.toNat)
  | uint64 => exact integer_side (.ofNat a.toNat)
  | _ => exact integer_side _

end Sides

section Mismatches

def Mismatch.Readable : Mismatch → Prop
  | value left _ => LeafSide left.toList
  | kind left _ => '!' ∉ left.toList
  | _ => True

def announced (text : String) : String :=
  match text.toList with
  | 'l' :: _ => "length"
  | 'k' :: _ => "kind"
  | 'p' :: _ => "presence"
  | 'a' :: _ => "presence"
  | _ => "value"

theorem sides_chars (left right : String) :
    (left ++ " != " ++ right).toList =
      left.toList ++ ' ' :: '!' :: ('=' :: ' ' :: right.toList) := by
  simp

theorem announced_name {m : Mismatch} (readable : m.Readable) : announced m.text = m.name := by
  cases m with
  | length left right => simp [announced, Mismatch.text, Mismatch.name]
  | presence left right =>
    cases left <;> simp [announced, Mismatch.text, Mismatch.name, presenceText]
  | kind left right => simp [announced, Mismatch.text, Mismatch.name]
  | value left right =>
    have side : LeafSide left.toList := readable
    rw [announced, Mismatch.text, sides_chars]
    generalize left.toList = s at side
    cases side with
    | quoted mark => rcases List.mem_pair.mp mark with rfl | rfl <;> rfl
    | plain free =>
      simp only [reserved, List.mem_cons, not_or] at free
      rw [List.cons_append]
      split <;> simp_all [Mismatch.name]

theorem worded_cut (word : String) {left right left' right' : String} (plain : '!' ∉ word.toList)
    (first : '!' ∉ left.toList) (second : '!' ∉ left'.toList)
    (same : word ++ left ++ " != " ++ right = word ++ left' ++ " != " ++ right') :
    left = left' ∧ right = right' := by
  have single {side : String} (absent : '!' ∉ side.toList) : '!' ∉ (word ++ side).toList := by
    rw [String.toList_append, List.mem_append]
    exact not_or.mpr ⟨plain, absent⟩
  have chars := congrArg String.toList same
  rw [sides_chars, sides_chars] at chars
  obtain ⟨lefts, rights⟩ := plain_side_cut (single first) (single second) chars
  rw [String.toList_append, String.toList_append] at lefts
  exact ⟨String.toList_injective (List.append_cancel_left lefts),
    String.toList_injective (List.cons.inj (List.cons.inj rights).2).2⟩

theorem mismatch_text_injective {m n : Mismatch} (first : m.Readable) (second : n.Readable)
    (same : m.text = n.text) : m = n := by
  have names : m.name = n.name := by rw [← announced_name first, same, announced_name second]
  cases m with
  | length left right =>
    cases n with
    | length left' right' =>
      obtain ⟨lefts, rights⟩ := worded_cut "length " (by decide)
        (natural_absent left rfl) (natural_absent left' rfl) same
      rw [Pointer.numeral_injective lefts, Pointer.numeral_injective rights]
    | _ => simp [Mismatch.name] at names
  | presence left right =>
    cases n with
    | presence left' right' =>
      revert same
      cases left <;> cases right <;> cases left' <;> cases right' <;> decide
    | _ => simp [Mismatch.name] at names
  | value left right =>
    cases n with
    | value left' right' =>
      have chars := congrArg String.toList same
      simp only [Mismatch.text, sides_chars] at chars
      obtain ⟨lefts, rights⟩ := leaf_side_cut first second chars
      rw [String.toList_injective lefts,
        String.toList_injective (List.cons.inj (List.cons.inj rights).2).2]
    | _ => simp [Mismatch.name] at names
  | kind left right =>
    cases n with
    | kind left' right' =>
      obtain ⟨rfl, rfl⟩ := worded_cut "kind " (by decide) first second same
      rfl
    | _ => simp [Mismatch.name] at names

end Mismatches

section Reports

theorem clash_readable {n : Node} {m : Mismatch} (clash : n.Clashes m)
    (named : n.EachName (isIdentifier · = true)) : m.Readable := by
  cases clash with
  | @leaf _ _ _ type a b _ => exact type.side a
  | @scalarKind a b _ =>
    have single (kind : Kind) : '!' ∉ kind.name.toList := by cases kind <;> decide
    exact single a.kind
  | @rank a b _ =>
    have single := natural_absent a.rank (c := '!') rfl
    simpa [Mismatch.Readable] using single
  | recordName => exact identifier_absent named.1.1 rfl
  | slotName => exact identifier_absent named.1 rfl
  | length => trivial
  | presence => trivial
  | slotCount => trivial

structure Difference.Readable (d : Difference) : Prop where
  path : ∀ step ∈ d.path, step.Identified
  mismatch : d.mismatch.Readable

theorem Layout.differences_readable {α : Type} {_ : Comparable α} (layout : Layout α) {a b : α}
    (left : layout.EachName (isIdentifier · = true) a)
    (right : layout.EachName (isIdentifier · = true) b) :
    ∀ d ∈ differences a b, d.Readable := by
  intro d member
  obtain ⟨path, n, named, clash⟩ := layout.reported_each_name left right d member
  exact ⟨path, clash_readable clash named⟩

theorem difference_text_injective {d e : Difference} (first : d.Readable) (second : e.Readable)
    (same : d.text = e.text) : d = e := by
  have spelled (d : Difference) :
      d.text.toList = d.path.text.toList ++ ':' :: ' ' :: d.mismatch.text.toList := by
    simp [Difference.text]
  have chars := congrArg String.toList same
  rw [spelled, spelled] at chars
  obtain ⟨paths, mismatches⟩ :=
    cut_first (path_no_colon first.path) (path_no_colon second.path) chars
  have path := path_text_injective first.path second.path (String.toList_injective paths)
  have mismatch := mismatch_text_injective first.mismatch second.mismatch
    (String.toList_injective (List.cons.inj mismatches).2)
  rw [Difference.mk.injEq]
  exact ⟨path, mismatch⟩

def Record.Decoded (r : Record) : Prop :=
  ∃ (description : Description) (document : Json),
    description.flaw? = none ∧ description.decodeRecord document = .ok r

theorem Record.Decoded.identified {r : Record} (decoded : r.Decoded) :
    Layout.slots.EachName (isIdentifier · = true) r := by
  obtain ⟨description, document, valid, decodes⟩ := decoded
  exact Description.record_identified valid (description.decoded_of_description valid decodes)

def Difference.Reported (d : Difference) : Prop :=
  ∃ a b : Record, a.Decoded ∧ b.Decoded ∧ ∃ limit, d ∈ collect limit a b

theorem Difference.Reported.readable {d : Difference} (reported : d.Reported) : d.Readable := by
  obtain ⟨a, b, first, second, limit, member⟩ := reported
  have full : d ∈ differences a b := by
    cases limit with
    | none => rwa [Layout.slots.collect_everything] at member
    | some n =>
      rw [Layout.slots.collect_limited] at member
      exact List.mem_of_mem_take member
  exact Layout.slots.differences_readable first.identified second.identified d full

/-- Differences that read alike are the same, whatever records they were found in; and so are paths
whose names are identifiers. -/
theorem difference_text_tells :
    (∀ d e : Difference, d.Reported → e.Reported → d.text = e.text → d = e) ∧
    ∀ p q : Path, (∀ step ∈ p, step.Identified) → (∀ step ∈ q, step.Identified) →
      p.text = q.text → p = q := by
  constructor
  · intro d e first second same
    exact difference_text_injective first.readable second.readable same
  · intro p q first second same
    exact path_text_injective first second same

/-- The same line in the reports on records of two descriptions. In a text that pretends to be the
rest of a line the quotes are shown, so the line with the same texts cut elsewhere is another. -/
theorem forged_split_shown :
    let value (s : String) : FieldValue := .array [.text "x", .text s]
    let inOne (s : String) : Record := ⟨"r", [⟨"t", some (value s)⟩]⟩
    let inTwo (s : String) : Record := ⟨"s", [⟨"n", none⟩, ⟨"t", some (value s)⟩]⟩
    let path : Path := [.field "t", .index 1]
    let d : Difference := ⟨path, .value "\"a\\\" != \\\"b\"" "\"c\""⟩
    let e : Difference := ⟨path, .value "\"a\\\" != \\\"b\"" "\"c\""⟩
    let other : Difference := ⟨path, .value "\"a\"" "\"b\\\" != \\\"c\""⟩
    collect none (inOne "a\" != \"b") (inOne "c") = [d] ∧
      collect (some 1) (inTwo "a\" != \"b") (inTwo "c") = [e] ∧
      collect none (inOne "a") (inOne "b\" != \"c") = [other] ∧
      d.Reported ∧ e.Reported ∧ other.Reported ∧
      d.text = "t[1]: \"a\\\" != \\\"b\" != \"c\"" ∧ e.text = d.text ∧ d = e ∧
      d.text ≠ other.text ∧ path.text = "t[1]" ∧ path = d.path := by
  intro value inOne inTwo path d e other
  let one : Description := ⟨"r", [⟨"t", .text, 1, .value⟩]⟩
  let two : Description := ⟨"s", [⟨"n", .int, 0, .pointer⟩, ⟨"t", .text, 1, .allocatable⟩]⟩
  let document (s : String) : Json := .object [("t", .array [.string "x", .string s])]
  let texts : List String := ["a\" != \"b", "c", "a", "b\" != \"c"]
  have readOne : ∀ s ∈ texts, one.decodeRecord (document s) = .ok (inOne s) := by decide +kernel
  have readTwo : ∀ s ∈ texts, two.decodeRecord (document s) = .ok (inTwo s) := by decide +kernel
  have decodedOne {s : String} (member : s ∈ texts) : (inOne s).Decoded :=
    ⟨one, document s, by decide +kernel, readOne s member⟩
  have decodedTwo {s : String} (member : s ∈ texts) : (inTwo s).Decoded :=
    ⟨two, document s, by decide +kernel, readTwo s member⟩
  have foundOne : collect none (inOne "a\" != \"b") (inOne "c") = [d] := by decide +kernel
  have foundTwo : collect (some 1) (inTwo "a\" != \"b") (inTwo "c") = [e] := by decide +kernel
  have foundOther : collect none (inOne "a") (inOne "b\" != \"c") = [other] := by decide +kernel
  have first : d.Reported := ⟨_, _, decodedOne (by simp [texts]), decodedOne (by simp [texts]),
    none, foundOne ▸ List.mem_cons_self⟩
  have second : e.Reported := ⟨_, _, decodedTwo (by simp [texts]), decodedTwo (by simp [texts]),
    some 1, foundTwo ▸ List.mem_cons_self⟩
  have third : other.Reported := ⟨_, _, decodedOne (by simp [texts]), decodedOne (by simp [texts]),
    none, foundOther ▸ List.mem_cons_self⟩
  obtain ⟨differences, paths⟩ := difference_text_tells
  have apart : d.text ≠ other.text := by
    intro same
    have equal := differences d other first third same
    exact absurd equal (by decide +kernel)
  have same : d.text = e.text := rfl
  have proper : isIdentifier "t" = true := by decide +kernel
  have named : ∀ step ∈ path, step.Identified := by simp [path, Segment.EachName, proper]
  exact ⟨foundOne, foundTwo, foundOther, first, second, third, by decide +kernel, same.symm,
    differences d e first second same, apart, by decide +kernel,
    paths path d.path named named rfl⟩

end Reports

end RecordComparison
