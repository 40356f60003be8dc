import Mathlib.Data.List.Perm.Basic
import RecordComparison.Proofs.Checking
import RecordComparison.Proofs.Mirror
import RecordComparison.Proofs.Mismatched

/-!
Descriptions that declare the same fields in another order. They take the same documents and tell
the same records apart; what they say of them comes in the order of the declarations, but inside a
field it is the same, and so it is for the keys that no field declares. Main statement:
`Description.order_of_reports_only`.
-/
namespace RecordComparison
open Comparable (collect differences equal)
open Json

/-- The same items in an order that may be another one, though not for those that lie in one
field. -/
structure Regrouped {α : Type} (inField : String → α → Bool) (as bs : List α) : Prop where
  perm : as.Perm bs
  within : ∀ name, as.filter (inField name) = bs.filter (inField name)

namespace Regrouped

variable {α β : Type} {inField : String → β → Bool}

theorem append_right {as bs : List β} (regrouped : Regrouped inField as bs) (cs : List β) :
    Regrouped inField (as ++ cs) (bs ++ cs) := by
  refine ⟨regrouped.perm.append_right cs, fun name => ?_⟩
  rw [List.filter_append, List.filter_append, regrouped.within]

variable {name : α → String} {report : α → List β}
  (inside : ∀ a, ∀ b ∈ report a, ∀ other, inField other b = decide (name a = other))

include inside

theorem filter_report (a : α) (other : String) :
    (report a).filter (inField other) = if name a = other then report a else [] := by
  split
  next same =>
    refine List.filter_eq_self.mpr fun b member => ?_
    rw [inside a b member, decide_eq_true same]
  next apart =>
    refine List.filter_eq_nil_iff.mpr fun b member => ?_
    rw [inside a b member, decide_eq_false apart]
    exact Bool.false_ne_true

theorem of_reports {as bs : List α} (perm : as.Perm bs) (distinct : (as.map name).Nodup) :
    Regrouped inField (as.flatMap report) (bs.flatMap report) := by
  -- By induction on the exchanges: two neighbours have different names, so at most one of them has
  -- anything to report in a field.
  refine ⟨perm.flatMap_right report, fun other => ?_⟩
  induction perm with
  | nil => rfl
  | cons a _ ih =>
    rw [List.map_cons, List.nodup_cons] at distinct
    simp only [List.flatMap_cons, List.filter_append, ih distinct.2]
  | swap a b rest =>
    have apart : name b ≠ name a := by
      intro same
      simp [same] at distinct
    simp only [List.flatMap_cons, List.filter_append, filter_report inside]
    by_cases first : name a = other
    · rw [if_neg (first ▸ apart), if_pos first, List.nil_append, List.nil_append]
    · rw [if_neg first, List.nil_append, List.nil_append]
  | trans first _ ih ih' =>
    exact (ih distinct).trans (ih' ((first.map name).nodup_iff.mp distinct))

end Regrouped

section Related

variable {α β γ : Type} {related : α → β → Prop}

theorem perm_of_related (unique : ∀ a b c, related a b → related a c → b = c) {as cs : List α}
    {bs ds : List β} (perm : as.Perm cs) (first : List.Forall₂ related as bs)
    (second : List.Forall₂ related cs ds) : bs.Perm ds := by
  obtain ⟨es, matched, reordered⟩ := List.perm_comp_forall₂ perm.symm first
  have same : es = ds := List.right_unique_forall₂' (fun a b c => unique a b c) matched second
  exact same ▸ reordered.symm

theorem related_zip {other : α → γ → Prop} {as : List α} {bs : List β} {cs : List γ}
    (first : List.Forall₂ related as bs) (second : List.Forall₂ other as cs) :
    List.Forall₂ (fun a p => related a p.1 ∧ other a p.2) as (bs.zip cs) := by
  induction first generalizing cs with
  | nil => exact .nil
  | cons here _ ih =>
    cases second with
    | cons there later => exact .cons ⟨here, there⟩ (ih later)

end Related

def Violation.isUnknownKey (v : Violation) : Bool :=
  match v.complaint with
  | .unknownField _ => true
  | _ => false

section Faults

theorem leaf_complaint_known (kind : Kind) (path : Path) (j : Json) :
    Violation.isUnknownKey ⟨path, leafComplaint kind j⟩ = false := by
  unfold leafComplaint
  split <;> rfl

theorem Declaration.faults_known (d : Declaration) (j? : Option Json) :
    ∀ v ∈ d.faults j?, v.isUnknownKey = false := by
  refine d.faults_all j? (fun _ _ => rfl) (fun _ _ => rfl) fun j _ => ?_
  exact nested_faults_all d.kind (Q := fun _ _ => True) (fun _ _ _ _ _ _ => trivial)
    (fun path j _ _ => leaf_complaint_known d.kind path j) (fun _ _ _ _ => rfl) d.rank trivial

end Faults

namespace Description

theorem faults_filter_unknown (description : Description) (members : List (String × Json)) :
    (description.faults (object members)).filter (·.isUnknownKey) =
      description.keyFaults members := by
  have fields : (description.fields.flatMap fun d => d.faults (member? members d.name)).filter
      (·.isUnknownKey) = [] := by
    rw [List.filter_flatMap, List.flatMap_eq_nil_iff]
    intro d _
    rw [List.filter_eq_nil_iff]
    intro v member
    simp [d.faults_known _ v member]
  have keys : (description.keyFaults members).filter (·.isUnknownKey) =
      description.keyFaults members := by
    rw [List.filter_eq_self]
    intro v member
    obtain ⟨key, _, rfl⟩ := List.mem_map.mp member
    rfl
  rw [faults, List.filter_append, fields, keys, List.nil_append]

theorem unknown_faults_last (description : Description) (document : Json) :
    (description.faults document).filter (·.isUnknownKey) <:+ description.faults document := by
  cases document
  case object members =>
    rw [faults_filter_unknown]
    exact List.suffix_append _ _
  all_goals exact List.nil_suffix

theorem failure_of_error {description : Description} (valid : description.flaw? = none)
    {document : Json} {failure : DecodeFailure}
    (failed : description.decodeRecord document = .error failure) :
    failure = ⟨description.name, (description.faults document).length,
      description.faults document⟩ := by
  have refused : ¬ description.Accepts document := by
    rintro ⟨r, decoded⟩
    rw [failed] at decoded
    cases decoded
  have listed := description.decode_refused valid document refused
  rw [failed] at listed
  exact Except.error.inj listed

def SlotOf (document : Json) (d : Declaration) (s : Slot) : Prop :=
  ∃ members, document = object members ∧ d.decode (member? members d.name) = .ok s

theorem SlotOf.unique {document : Json} {d : Declaration} {s t : Slot} (first : SlotOf document d s)
    (second : SlotOf document d t) : s = t := by
  obtain ⟨members, rfl, decoded⟩ := first
  obtain ⟨others, same, again⟩ := second
  rw [← Json.object.inj same, decoded] at again
  exact Except.ok.inj again

theorem decoded_slots {description : Description} {document : Json} {r : Record}
    (decoded : description.decodeRecord document = .ok r) :
    List.Forall₂ (SlotOf document) description.fields r.slots := by
  rw [decode_record_ok_iff] at decoded
  obtain ⟨members, rfl⟩ := description.decode_object decoded
  obtain ⟨slots, _, _⟩ := (description.decode_object_iff members r).mp decoded
  exact slots.imp fun _ _ here => ⟨members, rfl, here⟩

section Reordered

variable {description : Description} {fields : List Declaration}
  (reordered : description.fields.Perm fields)

include reordered

theorem reordered_valid (valid : description.flaw? = none) :
    ({ description with fields } : Description).flaw? = none := by
  obtain ⟨name, nonempty, each, distinct⟩ := description.flaw_none_iff.mp valid
  refine (flaw_none_iff _).mpr ⟨name, ?_, ?_, ?_⟩
  · rintro rfl
    exact nonempty reordered.eq_nil
  · exact fun d member => each d (reordered.mem_iff.mpr member)
  · exact (reordered.map _).nodup_iff.mp distinct

theorem reordered_key_faults (members : List (String × Json)) :
    keyFaults { description with fields } members = description.keyFaults members := by
  have declares (key : String) :
      Declares { description with fields } key ↔ description.Declares key := by
    simp only [Declares, reordered.mem_iff]
  simp only [keyFaults, declares]

theorem reordered_faults (valid : description.flaw? = none) (document : Json) :
    Regrouped Violation.inField (description.faults document)
      (faults { description with fields } document) := by
  cases document
  case object members =>
    have inside (d : Declaration) : ∀ v ∈ d.faults (member? members d.name),
        ∀ name, v.inField name = decide (d.name = name) := by
      intro v member name
      simp [Violation.inField, d.faults_in_field _ v member, Bool.beq_eq_decide_eq]
    have grouped := Regrouped.of_reports inside reordered (description.valid_names valid)
    rw [faults, faults, reordered_key_faults reordered]
    exact grouped.append_right _
  all_goals exact ⟨.refl _, fun _ => rfl⟩

theorem reordered_unknown_faults (document : Json) :
    (faults { description with fields } document).filter (·.isUnknownKey) =
      (description.faults document).filter (·.isUnknownKey) := by
  cases document
  case object members =>
    rw [faults_filter_unknown, faults_filter_unknown, reordered_key_faults reordered]
  all_goals rfl

theorem reordered_slots {document : Json} {r s : Record}
    (decoded : description.decodeRecord document = .ok r)
    (other : decodeRecord { description with fields } document = .ok s) :
    r.slots.Perm s.slots := by
  have unique (d : Declaration) (s t : Slot) (first : SlotOf document d s)
      (second : SlotOf document d t) : s = t := first.unique second
  have after : List.Forall₂ (SlotOf document) fields s.slots := decoded_slots other
  exact perm_of_related unique reordered (decoded_slots decoded) after

theorem reordered_differences (valid : description.flaw? = none) {left right : Json}
    {a b c d : Record} (first : description.decodeRecord left = .ok a)
    (second : description.decodeRecord right = .ok b)
    (third : decodeRecord { description with fields } left = .ok c)
    (fourth : decodeRecord { description with fields } right = .ok d) :
    Regrouped Difference.inField (differences a b) (differences c d) := by
  have unique (f : Declaration) (p q : Slot × Slot)
      (one : SlotOf left f p.1 ∧ SlotOf right f p.2)
      (other : SlotOf left f q.1 ∧ SlotOf right f q.2) : p = q :=
    Prod.ext (one.1.unique other.1) (one.2.unique other.2)
  have before := related_zip (decoded_slots first) (decoded_slots second)
  have after : List.Forall₂ _ fields (c.slots.zip d.slots) :=
    related_zip (decoded_slots third) (decoded_slots fourth)
  have pairs := perm_of_related unique reordered before after
  have ofFirst := description.decoded_of_description valid first
  have ofSecond := description.decoded_of_description valid second
  have ofThird := decoded_of_description _ (reordered_valid reordered valid) third
  have ofFourth := decoded_of_description _ (reordered_valid reordered valid) fourth
  have count : a.slots.length = b.slots.length :=
    ofFirst.slots.length_eq.symm.trans ofSecond.slots.length_eq
  have distinct : ((a.slots.zip b.slots).map fun p => p.1.name).Nodup := by
    have names : (a.slots.zip b.slots).map (fun p => p.1.name) = a.slots.map (·.name) := calc
      _ = ((a.slots.zip b.slots).map Prod.fst).map (·.name) := List.map_map.symm
      _ = a.slots.map (·.name) := by rw [List.map_fst_zip count.le]
    rw [names, ofFirst.slot_names]
    exact description.valid_names valid
  rw [Record.differences_of_slots (ofFirst.name.trans ofSecond.name.symm) count,
    Record.differences_of_slots (ofThird.name.trans ofFourth.name.symm)
      (ofThird.slots.length_eq.symm.trans ofFourth.slots.length_eq),
    Record.slot_differences_by_position, Record.slot_differences_by_position]
  exact Regrouped.of_reports (fun p => p.1.report_in_field p.2) pairs distinct

end Reordered

/-- If the fields of a description are declared in another order, then the same documents decode,
and what is wrong with the others is the same, in another order. The order is that of the
declarations: the violations in one field keep theirs, and the unknown keys come last as before.
Records have the same slots in the new order; two of them are equal if they were, and their
differences are the same, those in one field in the same order. -/
theorem order_of_reports_only (description : Description) (valid : description.flaw? = none)
    {fields : List Declaration} (reordered : description.fields.Perm fields) :
    let other : Description := { description with fields }
    other.flaw? = none ∧
    (∀ document, description.Accepts document ↔ other.Accepts document) ∧
    (∀ document before after, description.decodeRecord document = .error before →
      other.decodeRecord document = .error after →
        after.record = before.record ∧ after.count = before.count ∧
        Regrouped Violation.inField before.violations after.violations ∧
        let unknown := before.violations.filter (·.isUnknownKey)
        after.violations.filter (·.isUnknownKey) = unknown ∧
          unknown <:+ before.violations ∧ unknown <:+ after.violations) ∧
    (∀ document r s, description.decodeRecord document = .ok r →
      other.decodeRecord document = .ok s →
        s.name = r.name ∧ r.slots.Perm s.slots ∧
          s.slots.map (·.name) = fields.map (·.name)) ∧
    ∀ left right a b c d, description.decodeRecord left = .ok a →
      description.decodeRecord right = .ok b → other.decodeRecord left = .ok c →
      other.decodeRecord right = .ok d →
        equal a b = equal c d ∧
          Regrouped Difference.inField (collect none a b) (collect none c d) := by
  intro other
  have also : other.flaw? = none := reordered_valid reordered valid
  refine ⟨also, ?_, ?_, ?_, ?_⟩
  · intro document
    have faults := (reordered_faults reordered valid document).perm
    rw [accepts_iff valid, accepts_iff also]
    exact ⟨fun empty => (empty ▸ faults).symm.eq_nil, fun empty => (empty ▸ faults).eq_nil⟩
  · intro document before after failed failedToo
    obtain rfl := failure_of_error valid failed
    obtain rfl := failure_of_error also failedToo
    have grouped := reordered_faults reordered valid document
    refine ⟨rfl, grouped.perm.length_eq.symm, grouped, reordered_unknown_faults reordered document,
      description.unknown_faults_last document, ?_⟩
    rw [← reordered_unknown_faults reordered document]
    exact other.unknown_faults_last document
  · intro document r s decoded decodedToo
    have ofFirst := description.decoded_of_description valid decoded
    have ofSecond := other.decoded_of_description also decodedToo
    exact ⟨ofSecond.name.trans ofFirst.name.symm, reordered_slots reordered decoded decodedToo,
      ofSecond.slot_names⟩
  · intro left right a b c d first second third fourth
    have grouped := reordered_differences reordered valid first second third fourth
    rw [Layout.slots.collect_everything, Layout.slots.collect_everything]
    refine ⟨?_, grouped⟩
    rw [Bool.eq_iff_iff, Layout.slots.agrees, Layout.slots.agrees]
    exact ⟨fun empty => (empty ▸ grouped.perm).symm.eq_nil,
      fun empty => (empty ▸ grouped.perm).eq_nil⟩

theorem reports_in_two_orders :
    let n : Declaration := ⟨"n", .int, 0, .value⟩
    let grid : Declaration := ⟨"grid", .text, 1, .pointer⟩
    let flag : Declaration := ⟨"flag", .bool, 0, .value⟩
    let description : Description := ⟨"lattice", [n, grid, flag]⟩
    let other : Description := ⟨"lattice", [grid, flag, n]⟩
    let wrong := object [("extra", null), ("grid", array [integer 1, string "a", null]),
      ("n", null), ("x", bool true)]
    let left := object [("flag", bool true), ("grid", array [string "a", string "b"]),
      ("n", integer 1)]
    let right := object [("flag", bool false), ("grid", array [string "c", string "d"]),
      ("n", integer 2)]
    let before : DecodeFailure := ⟨"lattice", 6, [⟨[.field "n"], .notNullable .value⟩,
      ⟨[.field "grid", .index 0], .wrongKind .text "int"⟩,
      ⟨[.field "grid", .index 2], .wrongKind .text "null"⟩, ⟨[.field "flag"], .missing⟩,
      ⟨[.field "extra"], .unknownField "lattice"⟩, ⟨[.field "x"], .unknownField "lattice"⟩]⟩
    let after : DecodeFailure := ⟨"lattice", 6, [
      ⟨[.field "grid", .index 0], .wrongKind .text "int"⟩,
      ⟨[.field "grid", .index 2], .wrongKind .text "null"⟩, ⟨[.field "flag"], .missing⟩,
      ⟨[.field "n"], .notNullable .value⟩,
      ⟨[.field "extra"], .unknownField "lattice"⟩, ⟨[.field "x"], .unknownField "lattice"⟩]⟩
    let number (k : Int64) : Slot := ⟨"n", some (.scalar (.int k))⟩
    let texts (s t : String) : Slot := ⟨"grid", some (.array [.text s, .text t])⟩
    let switch (b : Bool) : Slot := ⟨"flag", some (.scalar (.bool b))⟩
    let a : Record := ⟨"lattice", [number 1, texts "a" "b", switch true]⟩
    let b : Record := ⟨"lattice", [number 2, texts "c" "d", switch false]⟩
    let c : Record := ⟨"lattice", [texts "a" "b", switch true, number 1]⟩
    let d : Record := ⟨"lattice", [texts "c" "d", switch false, number 2]⟩
    let inNumber : List Difference := [⟨[.field "n"], .value "1" "2"⟩]
    let inOthers : List Difference := [⟨[.field "grid", .index 0], .value "\"a\"" "\"c\""⟩,
      ⟨[.field "grid", .index 1], .value "\"b\"" "\"d\""⟩,
      ⟨[.field "flag"], .value "true" "false"⟩]
    description.flaw? = none ∧ description.fields.Perm other.fields ∧
      description.decodeRecord wrong = .error before ∧ other.decodeRecord wrong = .error after ∧
      Regrouped Violation.inField before.violations after.violations ∧
      description.decodeRecord left = .ok a ∧ description.decodeRecord right = .ok b ∧
      other.decodeRecord left = .ok c ∧ other.decodeRecord right = .ok d ∧
      collect none a b = inNumber ++ inOthers ∧ collect none c d = inOthers ++ inNumber ∧
      equal a b = equal c d ∧
      Regrouped Difference.inField (collect none a b) (collect none c d) := by
  intro n grid flag description other wrong left right before after number texts switch a b c d
    inNumber inOthers
  have valid : description.flaw? = none := by decide +kernel
  have reordered : description.fields.Perm other.fields := by decide +kernel
  have failed : description.decodeRecord wrong = .error before := by decide +kernel
  have failedToo : other.decodeRecord wrong = .error after := by decide +kernel
  have first : description.decodeRecord left = .ok a := by decide +kernel
  have second : description.decodeRecord right = .ok b := by decide +kernel
  have third : other.decodeRecord left = .ok c := by decide +kernel
  have fourth : other.decodeRecord right = .ok d := by decide +kernel
  obtain ⟨_, _, failures, _, compared⟩ := description.order_of_reports_only valid reordered
  obtain ⟨_, _, violations, _⟩ := failures wrong before after failed failedToo
  obtain ⟨same, differing⟩ := compared left right a b c d first second third fourth
  exact ⟨valid, reordered, failed, failedToo, violations, first, second, third, fourth,
    by decide +kernel, by decide +kernel, same, differing⟩

end Description

end RecordComparison
