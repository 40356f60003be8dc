import RecordComparison.Difference.Json
import RecordComparison.Proofs.Names
import RecordComparison.Proofs.Visible

/-!
Differences that stay on their lines. What is compared can put names into a report, those of
records and of their fields, and nothing else but the texts of leaves; so where no name hides a
character, no difference does, in words or in JSON.
-/
namespace RecordComparison

def Segment.Legible : Segment → Prop
  | field name => Visible name.toList
  | index _ => True

def Mismatch.Legible : Mismatch → Prop
  | value left right => Visible left.toList ∧ Visible right.toList
  | kind left right => Visible left.toList ∧ Visible right.toList
  | _ => True

structure Difference.Legible (d : Difference) : Prop where
  path : ∀ step ∈ d.path, step.Legible
  mismatch : d.mismatch.Legible

/-- The names of all records inside the value, and of their fields, can be seen. -/
def Layout.Named : {α : Type} → {_ : Comparable α} → Layout α → α → Prop
  | _, _, .leaf _, _ => True
  | _, _, .list item, as => ∀ a ∈ as, item.Named a
  | _, _, .fixed item _, as => ∀ a ∈ as.toList, item.Named a
  | _, _, .option item, a? => ∀ a ∈ a?, item.Named a
  | _, _, .record fields part, r => ∀ i : Fin fields.length,
    Visible (fields.get i).name.toList ∧ (part i).Named ((fields.get i).get r)
  | _, _, .scalar, _ => True
  | _, _, .fieldValue, _ => True
  | _, _, .slots, r => Visible r.name.toList ∧ ∀ s ∈ r.slots, Visible s.name.toList

theorem Segment.legible_iff (step : Segment) :
    step.Legible ↔ step.EachName fun name => Visible name.toList := by
  cases step <;> exact Iff.rfl

theorem Layout.named_iff {α : Type} {_ : Comparable α} (layout : Layout α) (a : α) :
    layout.Named a ↔ layout.EachName (fun name => Visible name.toList) a := by
  induction layout with
  | list item ih => exact forall₂_congr fun a _ => ih a
  | fixed item n ih => exact forall₂_congr fun a _ => ih a
  | option item ih => exact forall₂_congr fun a _ => ih a
  | record fields part ih => exact forall_congr' fun i => and_congr_right fun _ => ih i _
  | _ => exact Iff.rfl

namespace Node

def Named : Node → Prop
  | values layout a b => layout.Named a ∧ layout.Named b
  | slots a b => Visible a.name.toList ∧ Visible b.name.toList

theorem named_iff (n : Node) : n.Named ↔ n.EachName fun name => Visible name.toList := by
  cases n with
  | values layout a b => exact and_congr (layout.named_iff a) (layout.named_iff b)
  | slots a b => exact Iff.rfl

theorem kind_name_visible (kind : Kind) : Visible kind.name.toList := by
  cases kind <;> exact .of_plain (by decide)

theorem clash_legible {n : Node} {m : Mismatch} (clash : Clashes n m) (named : n.Named) :
    m.Legible := by
  cases clash with
  | @leaf _ _ _ type a b _ => exact ⟨type.text_visible a, type.text_visible b⟩
  | scalarKind => exact ⟨kind_name_visible _, kind_name_visible _⟩
  | rank =>
    have word : Visible "rank ".toList := .of_plain (by decide)
    exact ⟨.joined word (natural_visible _), .joined word (natural_visible _)⟩
  | recordName => exact ⟨named.1.1, named.2.1⟩
  | slotName => exact named
  | length => trivial
  | presence => trivial
  | slotCount => trivial

end Node

theorem Layout.differences_legible {α : Type} {_ : Comparable α} (layout : Layout α) {a b : α}
    (left : layout.Named a) (right : layout.Named b) :
    ∀ d ∈ Comparable.differences a b, d.Legible := by
  intro d member
  have first := (layout.named_iff a).mp left
  have second := (layout.named_iff b).mp right
  obtain ⟨path, n, named, clash⟩ := layout.reported_each_name first second d member
  exact ⟨fun step inside => step.legible_iff.mpr (path step inside),
    Node.clash_legible clash (n.named_iff.mpr named)⟩

section Words

theorem leading_text_visible {step : Segment} (legible : step.Legible) :
    Visible step.leadingText.toList := by
  cases step with
  | field name => exact legible
  | index position =>
    exact .joined (.joined (.of_plain (by decide)) (natural_visible _)) (.of_plain (by decide))

theorem following_text_visible {step : Segment} (legible : step.Legible) :
    Visible step.followingText.toList := by
  cases step with
  | field name => exact .joined (.of_plain (by decide)) legible
  | index position =>
    exact .joined (.joined (.of_plain (by decide)) (natural_visible _)) (.of_plain (by decide))

theorem path_text_visible {path : Path} (legible : ∀ step ∈ path, step.Legible) :
    Visible path.text.toList := by
  cases path with
  | nil =>
    show Visible "<root>".toList
    exact .of_plain (by decide)
  | cons first later =>
    obtain ⟨head, rest⟩ := List.forall_mem_cons.mp legible
    refine .joined (leading_text_visible head) ?_
    rw [String.toList_join, List.flatMap_map]
    exact .flat_map fun step member => following_text_visible (rest step member)

theorem mismatch_text_visible {m : Mismatch} (legible : m.Legible) :
    Visible m.text.toList := by
  have between : Visible " != ".toList := .of_plain (by decide)
  cases m with
  | length left right =>
    have word : Visible "length ".toList := .of_plain (by decide)
    have first := word.joined (natural_visible left)
    exact .joined (.joined first between) (natural_visible right)
  | presence left right => cases left <;> cases right <;> exact .of_plain (by decide)
  | value left right => exact .joined (.joined legible.1 between) legible.2
  | kind left right =>
    have word : Visible "kind ".toList := .of_plain (by decide)
    exact .joined (.joined (word.joined legible.1) between) legible.2

theorem Difference.Legible.text_visible {d : Difference} (legible : d.Legible) :
    Visible d.text.toList := by
  have path := path_text_visible legible.path
  exact .joined (path.joined (.of_plain (by decide))) (mismatch_text_visible legible.mismatch)

end Words

namespace Json

mutual

def Legible : Json → Prop
  | string s => Visible s.toList
  | array items => LegibleItems items
  | object members => LegibleMembers members
  | _ => True

def LegibleItems : List Json → Prop
  | [] => True
  | item :: items => item.Legible ∧ LegibleItems items

def LegibleMembers : List (String × Json) → Prop
  | [] => True
  | (key, value) :: members =>
    Visible key.toList ∧ value.Legible ∧ LegibleMembers members

end

theorem legible_items_iff (items : List Json) : LegibleItems items ↔ ∀ j ∈ items, j.Legible := by
  induction items with
  | nil => simp [LegibleItems]
  | cons item items ih => rw [LegibleItems, ih, List.forall_mem_cons]

/-- What JSON escapes it writes in plain characters, and the rest as it is. -/
theorem escaped_visible {c : Char} (shown : isHidden c = false) : Visible (escapeChar c) := by
  unfold escapeChar
  split
  case h_8 =>
    split
    · have digits : Visible [Nat.digitChar (c.toNat / 16), Nat.digitChar (c.toNat % 16)] :=
        .cons (digit_plain _) (.cons (digit_plain _) .nil)
      exact .cons (by decide) (.cons (by decide) (.cons (by decide) (.cons (by decide) digits)))
    · exact Visible.cons_iff.mpr ⟨shown, .nil⟩
  all_goals exact .of_plain (by decide)

theorem string_visible {s : String} (visible : Visible s.toList) : Visible (stringChars s) := by
  have inner : Visible (s.toList.flatMap escapeChar) :=
    .flat_map fun c member => escaped_visible (visible c member)
  exact .cons (by decide) (inner.append (.of_plain (by decide)))

theorem member_visible {key : String} {value : List Char} (name : Visible key.toList)
    (shown : Visible value) : Visible (stringChars key ++ ':' :: value) :=
  (string_visible name).append (.cons (by decide) shown)

mutual

theorem chars_visible : ∀ j : Json, j.Legible → Visible j.chars
  | null, _ => .of_plain (by decide)
  | bool true, _ => .of_plain (by decide)
  | bool false, _ => .of_plain (by decide)
  | integer n, _ => integer_visible n
  | real x, _ => finite_visible .json x
  | string _, legible => string_visible legible
  | array [], _ => .of_plain (by decide)
  | array (item :: items), ⟨first, later⟩ =>
    have head := chars_visible item first
    .cons (by decide) (head.append (later_items_visible items later))
  | object [], _ => .of_plain (by decide)
  | object ((_, value) :: members), ⟨key, first, later⟩ =>
    have head := member_visible key (chars_visible value first)
    .cons (by decide) (head.append (later_members_visible members later))

theorem later_items_visible : ∀ items : List Json, LegibleItems items →
    Visible (laterItems items)
  | [], _ => .of_plain (by decide)
  | item :: items, ⟨first, later⟩ =>
    have head := chars_visible item first
    .cons (by decide) (head.append (later_items_visible items later))

theorem later_members_visible : ∀ members : List (String × Json), LegibleMembers members →
    Visible (laterMembers members)
  | [], _ => .of_plain (by decide)
  | (_, value) :: members, ⟨key, first, later⟩ =>
    have head := member_visible key (chars_visible value first)
    .cons (by decide) (head.append (later_members_visible members later))

end

end Json

section Objects

theorem segment_json_legible {step : Segment} (legible : step.Legible) : step.json.Legible := by
  have field : Visible "field".toList := .of_plain (by decide)
  have index : Visible "index".toList := .of_plain (by decide)
  cases step with
  | field name => exact ⟨field, legible, trivial⟩
  | index position => exact ⟨index, trivial, trivial⟩

theorem path_json_legible {path : Path} (legible : ∀ step ∈ path, step.Legible) :
    path.json.Legible := by
  refine (Json.legible_items_iff _).mpr fun j member => ?_
  obtain ⟨step, inside, rfl⟩ := List.mem_map.mp member
  exact segment_json_legible (legible step inside)

theorem mismatch_name_visible (m : Mismatch) : Visible m.name.toList := by
  have length : Visible "length".toList := .of_plain (by decide)
  have presence : Visible "presence".toList := .of_plain (by decide)
  have value : Visible "value".toList := .of_plain (by decide)
  have kind : Visible "kind".toList := .of_plain (by decide)
  cases m with
  | length => exact length
  | presence => exact presence
  | value => exact value
  | kind => exact kind

theorem mismatch_json_legible {m : Mismatch} (legible : m.Legible) : m.json.Legible := by
  have tag : Visible Mismatch.tagName.toList := .of_plain (by decide)
  have left : Visible "left".toList := .of_plain (by decide)
  have right : Visible "right".toList := .of_plain (by decide)
  have name : Visible m.name.toList := mismatch_name_visible m
  have sides : m.sides.1.Legible ∧ m.sides.2.Legible := by
    cases m with
    | length => exact ⟨trivial, trivial⟩
    | presence => exact ⟨trivial, trivial⟩
    | value => exact legible
    | kind => exact legible
  exact ⟨tag, name, left, sides.1, right, sides.2, trivial⟩

theorem Difference.Legible.json_visible {d : Difference} (legible : d.Legible) :
    Visible d.json.text.toList := by
  have path : Visible "path".toList := .of_plain (by decide)
  have kind : Visible "kind".toList := .of_plain (by decide)
  have inner : d.json.Legible := ⟨path, path_json_legible legible.path, kind,
    mismatch_json_legible legible.mismatch, trivial⟩
  rw [Json.text, String.toList_ofList]
  exact Json.chars_visible _ inner

end Objects

end RecordComparison
