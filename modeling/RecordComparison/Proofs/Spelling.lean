import Mathlib.Logic.Relation
import RecordComparison.Proofs.Checking

/-!
Documents that say the same in other words. A null may stand for a missing value, a complex number
has two spellings, and where a real number is expected an integer counts as the one it is converted
to. Each such change at any place of a document leaves what is decoded as it was, the violations
included. Main statement: `decoded_in_any_spelling`.
-/
namespace RecordComparison

namespace Json

/-- An integer, and the real number that it is converted to. -/
inductive NumberSpelling : Json → Json → Prop where
  | converted {n : Int} {x : Finite .double} : (integer n).Number (.finite x) →
      NumberSpelling (integer n) (real x)

/-- Two spellings of a leaf of the kind: a number or a part of a complex one is spelled in another
way, or the parts of a complex number are named or not. -/
inductive LeafSpelling : Kind → Json → Json → Prop where
  | real {j k : Json} : NumberSpelling j k → LeafSpelling .real j k
  | item {j k : Json} {before after : List Json} : NumberSpelling j k →
      LeafSpelling .complex (array (before ++ j :: after)) (array (before ++ k :: after))
  | member {key : String} {j k : Json} {before after : List (String × Json)} :
      NumberSpelling j k → LeafSpelling .complex (object (before ++ (key, j) :: after))
        (object (before ++ (key, k) :: after))
  | named {x y : Json} {members : List (String × Json)} : x.IsNumber → y.IsNumber →
      members.Perm [("re", x), ("im", y)] → LeafSpelling .complex (array [x, y]) (object members)

inductive ValueSpelling (kind : Kind) : Nat → Json → Json → Prop where
  | leaf {j k : Json} : LeafSpelling kind j k → ValueSpelling kind 0 j k
  | item {rank : Nat} {j k : Json} {before after : List Json} : ValueSpelling kind rank j k →
      ValueSpelling kind (rank + 1) (array (before ++ j :: after)) (array (before ++ k :: after))

end Json

open Json

/-- Two spellings of a document: a null in a field that need not have a value is left out, or the
value of one field is spelled in another way. A key that is put in is none of the others. -/
inductive Description.Spelling (description : Description) : Json → Json → Prop where
  | absent {d : Declaration} {before after : List (String × Json)} : d ∈ description.fields →
      d.storage ≠ .value → (∀ m ∈ before ++ after, m.1 ≠ d.name) →
      description.Spelling (object (before ++ (d.name, null) :: after)) (object (before ++ after))
  | value {d : Declaration} {j k : Json} {before after : List (String × Json)} :
      d ∈ description.fields → ValueSpelling d.kind d.rank j k →
      description.Spelling (object (before ++ (d.name, j) :: after))
        (object (before ++ (d.name, k) :: after))

theorem member_fresh {members : List (String × Json)} {key : String}
    (fresh : ∀ m ∈ members, m.1 ≠ key) : member? members key = none := by
  rw [member?, Option.map_eq_none_iff, List.find?_eq_none]
  exact fun m inside => by simpa using fresh m inside

section Leaves

theorem Json.NumberSpelling.same_double {j k : Json} (spelling : NumberSpelling j k) :
    j.asDouble? = k.asDouble? := by
  obtain ⟨number⟩ := spelling
  exact (number_iff _ _).mpr number

theorem decode_complex_items (items : List Json) :
    decodeComplex? (array items) =
      match items.map asDouble? with
      | [some re, some im] => some ⟨re, im⟩
      | _ => none := by
  match items with
  | [] => rfl
  | [x] => cases first : x.asDouble? <;> simp [decodeComplex?, first]
  | [x, y] =>
    cases first : x.asDouble? <;> cases second : y.asDouble? <;>
      simp [decodeComplex?, first, second]
  | x :: y :: _ :: _ =>
    cases first : x.asDouble? <;> cases second : y.asDouble? <;>
      simp [decodeComplex?, first, second]

theorem Json.LeafSpelling.same_complex {j k : Json} (spelling : LeafSpelling .complex j k) :
    decodeComplex? j = decodeComplex? k ∧
      (decodeComplex? j = none → j.typeName = k.typeName) := by
  cases spelling with
  | item number =>
    refine ⟨?_, fun _ => rfl⟩
    simp only [decode_complex_items, List.map_append, List.map_cons, number.same_double]
  | @member key x y before after number =>
    refine ⟨?_, fun _ => rfl⟩
    have part (name : String) : (member? (before ++ (key, x) :: after) name).bind asDouble? =
        (member? (before ++ (key, y) :: after) name).bind asDouble? := by
      cases found : member? before name with
      | some j => simp [found]
      | none => by_cases same : key = name <;> simp [found, same, number.same_double]
    simp only [decodeComplex?, List.length_append, List.length_cons, part]
  | @named x y members first second parts =>
    obtain ⟨re, first⟩ := (is_number_iff x).mp first
    obtain ⟨im, second⟩ := (is_number_iff y).mp second
    have pair := (decode_complex_iff _ _).mpr (.pair first second)
    have named := (decode_complex_iff _ _).mpr (.parts first second parts)
    exact ⟨pair.trans named.symm, fun unread => by rw [pair] at unread; cases unread⟩

theorem Json.LeafSpelling.decode_alike {kind : Kind} {j k : Json}
    (spelling : LeafSpelling kind j k) (path : Path) :
    decodeScalar kind path j = decodeScalar kind path k := by
  cases kind with
  | bool | int | text => cases spelling
  | real =>
    cases spelling with
    | real number =>
      obtain @⟨n, x, number⟩ := number
      have integer := (decode_scalar_iff .real path _ _).mpr (.real number)
      have converted := (decode_scalar_iff .real path _ _).mpr (.real (.real x))
      exact integer.trans converted.symm
  | complex =>
    obtain ⟨same, types⟩ := spelling.same_complex
    cases found : decodeComplex? j with
    | some z => simp only [decodeScalar, ← same, found]
    | none => simp only [decodeScalar, ← same, found, types found]

end Leaves

section Arrays

variable {α : Type} {decode : Path → Json → Checked α} {j k : Json}

theorem decode_items_alike (alike : ∀ path, decode path j = decode path k) (path : Path) (i : Nat)
    (before after : List Json) :
    decodeItems decode path i (before ++ j :: after) =
      decodeItems decode path i (before ++ k :: after) := by
  induction before generalizing i with
  | nil => rw [List.nil_append, List.nil_append, decodeItems, decodeItems, alike]
  | cons first before ih =>
    rw [List.cons_append, List.cons_append, decodeItems, decodeItems, ih (i + 1)]

theorem decode_array_alike {kind : Kind} {rank : Nat}
    (items : ∀ j k, ValueSpelling kind rank j k → ∀ path, decode path j = decode path k)
    (j k : Json) (spelling : ValueSpelling kind (rank + 1) j k) (path : Path) :
    decodeArray decode path j = decodeArray decode path k := by
  cases spelling with
  | item inside => exact decode_items_alike (items _ _ inside) path 0 _ _

theorem Json.ValueSpelling.decode_alike {kind : Kind} {rank : Nat} (low : rank ≤ maximalRank)
    (spelling : ValueSpelling kind rank j k) (path : Path) :
    decodeValue kind rank path j = decodeValue kind rank path k := by
  have leaf (j k : Json) (spelling : ValueSpelling kind 0 j k) (path : Path) :
      decodeScalar kind path j = decodeScalar kind path k := by
    cases spelling with
    | leaf inside => exact inside.decode_alike path
  have array := decode_array_alike leaf
  have matrix := decode_array_alike array
  have tensor := decode_array_alike matrix
  match rank, low with
  | 0, _ => exact congrArg (Except.map FieldValue.scalar) (leaf j k spelling path)
  | 1, _ => exact congrArg (Except.map FieldValue.array) (array j k spelling path)
  | 2, _ => exact congrArg (Except.map FieldValue.matrix) (matrix j k spelling path)
  | 3, _ => exact congrArg (Except.map FieldValue.tensor) (tensor j k spelling path)

theorem Json.ValueSpelling.present {kind : Kind} {rank : Nat}
    (spelling : ValueSpelling kind rank j k) : j ≠ null ∧ k ≠ null := by
  cases spelling with
  | leaf inside =>
    cases inside with
    | real number =>
      cases number
      exact ⟨nofun, nofun⟩
    | item | member | named => exact ⟨nofun, nofun⟩
  | item => exact ⟨nofun, nofun⟩

end Arrays

namespace Description

theorem decode_alike (description : Description) {members others : List (String × Json)}
    (fields : ∀ d ∈ description.fields,
      d.decode (member? members d.name) = d.decode (member? others d.name))
    (keys : description.unknownKeys members = description.unknownKeys others) :
    description.decode (object members) = description.decode (object others) := by
  rw [decode, decode, decode_fields_alike (List.forall₂_same.mpr fields), keys]

variable {description : Description} (valid : description.flaw? = none)

include valid

theorem field_of_name {d e : Declaration} (first : d ∈ description.fields)
    (second : e ∈ description.fields) (same : e.name = d.name) : e = d :=
  List.inj_on_of_nodup_map (description.valid_names valid) second first same

theorem absent_decodes_alike {d e : Declaration} (first : d ∈ description.fields)
    (second : e ∈ description.fields) (optional : d.storage ≠ .value)
    {before after : List (String × Json)} (fresh : ∀ m ∈ before ++ after, m.1 ≠ d.name) :
    e.decode (member? (before ++ (d.name, null) :: after) e.name) =
      e.decode (member? (before ++ after) e.name) := by
  by_cases same : d.name = e.name
  · obtain rfl := field_of_name valid first second same.symm
    obtain ⟨first, second⟩ : member? before e.name = none ∧ member? after e.name = none := by
      simpa using member_fresh fresh
    have empty (j? : Option Json) (absent : Absent j?) : e.decode j? = .ok ⟨e.name, .none⟩ :=
      (e.decode_absent_iff absent _).mpr ⟨optional, rfl⟩
    simp [first, second, empty null (.inr rfl), empty none (.inl rfl)]
  · simp [same]

theorem value_decodes_alike {d e : Declaration} (first : d ∈ description.fields)
    (second : e ∈ description.fields) {j k : Json} (spelling : ValueSpelling d.kind d.rank j k)
    (before after : List (String × Json)) :
    e.decode (member? (before ++ (d.name, j) :: after) e.name) =
      e.decode (member? (before ++ (d.name, k) :: after) e.name) := by
  by_cases same : d.name = e.name
  · obtain rfl := field_of_name valid first second same.symm
    obtain ⟨left, right⟩ := spelling.present
    have inside := spelling.decode_alike (description.valid_ranks valid e first)
    have alike : e.decode (some j) = e.decode (some k) := by
      rw [e.decode_present left, e.decode_present right, inside]
    cases found : member? before e.name <;> simp [found, alike]
  · simp [same]

theorem decode_spelling {d e : Json} (spelling : description.Spelling d e) :
    description.decode d = description.decode e := by
  cases spelling with
  | @absent f before after declared optional fresh =>
    refine description.decode_alike ?_ ?_
    · exact fun g second => absent_decodes_alike valid declared second optional fresh
    · have known : (description.field? f.name).isNone = false := by
        rw [Option.isNone_eq_false_iff, Option.isSome_iff_ne_none, ne_eq, field_none_iff]
        exact not_not_intro ⟨f, declared, rfl⟩
      simp only [unknownKeys, List.map_append, List.map_cons, List.filter_append, List.filter_cons,
        known, Bool.false_eq_true, if_false]
  | @value f j k before after declared inside =>
    refine description.decode_alike ?_ ?_
    · exact fun g second => value_decodes_alike valid declared second inside before after
    · simp only [unknownKeys, List.map_append, List.map_cons]

theorem decode_respelled {d e : Json} (respelled : Relation.EqvGen description.Spelling d e) :
    description.decodeRecord d = description.decodeRecord e := by
  -- By induction on the changes, of which there may be any number in either direction.
  induction respelled with
  | rel d e spelling => rw [decodeRecord, decodeRecord, decode_spelling valid spelling]
  | refl d => rfl
  | symm d e _ ih => exact ih.symm
  | trans d e f _ _ first second => exact first.trans second

theorem refusal_alike {d e : Json} (same : description.decodeRecord d = description.decodeRecord e)
    (path : String) : description.refusal path d = description.refusal path e := by
  have accepts : description.Accepts d ↔ description.Accepts e := by rw [Accepts, Accepts, same]
  by_cases taken : description.Accepts d
  · rw [refusal, refusal, if_pos taken, if_pos (accepts.mp taken)]
  · have failed := description.decode_refused valid d taken
    have also := description.decode_refused valid e (taken ∘ accepts.mpr)
    rw [same, also] at failed
    have faults : description.faults e = description.faults d :=
      congrArg DecodeFailure.violations (Except.error.inj failed)
    rw [refusal, refusal, if_neg taken, if_neg (taken ∘ accepts.mpr), faults]

end Description

/-- If nulls are left out or put in where a field need not have a value, complex numbers have their
parts named or not, and integers change places with the real numbers that they are converted to,
however often and wherever in a document, then the outcome of decoding it stays the same: the record
or all that is said of the document. So a comparison of two documents that are spelled in another
way prints the same and ends with the same code. -/
theorem decoded_in_any_spelling (description : Description) (valid : description.flaw? = none) :
    (∀ d e, Relation.EqvGen description.Spelling d e →
      description.decodeRecord d = description.decodeRecord e) ∧
    ∀ (files others : Files) (arguments : List String) (settings? : Option String)
      (options : CompareOptions) (settings : Settings) (left right left' right' : Json),
      Call.ofArguments arguments = .ok ⟨settings?, .compare options⟩ →
      description.ChosenFrom files settings? options.description settings →
      description.ChosenFrom others settings? options.description settings →
      left.LoadsFrom files options.left → right.LoadsFrom files options.right →
      left'.LoadsFrom others options.left → right'.LoadsFrom others options.right →
      Relation.EqvGen description.Spelling left left' →
      Relation.EqvGen description.Spelling right right' →
      runProgram files arguments = runProgram others arguments := by
  refine ⟨fun d e => description.decode_respelled valid, ?_⟩
  intro files others arguments settings? options settings left right left' right' read chosen also
    first second third fourth onLeft onRight
  have sameLeft := description.decode_respelled valid onLeft
  have sameRight := description.decode_respelled valid onRight
  have one := CompareOptions.run_compare chosen first second
  have other := CompareOptions.run_compare also third fourth
  have told : options.ending settings description left right =
      options.ending settings description left' right' := by
    simp only [CompareOptions.ending, sameLeft, sameRight]
  rw [told, description.refusal_alike valid sameLeft, description.refusal_alike valid sameRight]
    at one
  unfold Script.Ends at one other
  simp only [runProgram, read, one, other]

theorem respelled_grids_compared :
    let x : Declaration := ⟨"x", .real, 1, .value⟩
    let z : Declaration := ⟨"z", .complex, 0, .value⟩
    let note : Declaration := ⟨"note", .text, 0, .pointer⟩
    let description : Description := ⟨"r", [x, z, note]⟩
    let one : Finite .double := ⟨false, 1023 * 2 ^ 52, by decide⟩
    let pair := array [integer 1, integer 2]
    let parts := object [("im", integer 2), ("re", integer 1)]
    let whole := object [("x", array [integer 1, bool true]), ("z", pair)]
    let converted := object [("x", array [real one, bool true]), ("z", pair)]
    let plain := object [("note", null), ("x", array [integer 3]), ("z", pair)]
    let named := object [("x", array [integer 3]), ("z", parts)]
    let right := object [("x", array [integer 3]), ("z", array [integer 1, integer 4])]
    let source := "name: r\nfields:\n- \x7bname: x, kind: real, rank: 1\x7d\n" ++
      "- \x7bname: z, kind: complex\x7d\n- \x7bname: note, kind: text, storage: pointer\x7d\n"
    let files (left : String) : Files := fun path =>
      if path = "r.yaml" then .ok source
      else if path = "left.json" then .ok left
      else if path = "right.json" then .ok "\x7b\"x\": [3], \"z\": [1, 4]\x7d"
      else .error .absent
    let first := files "\x7b\"note\": null, \"x\": [3], \"z\": [1, 2]\x7d"
    let second := files "\x7b\"x\": [3], \"z\": \x7b\"im\": 2, \"re\": 1\x7d\x7d"
    let arguments := ["compare", "-s", "r.yaml", "left.json", "right.json"]
    description.flaw? = none ∧ description.Spelling whole converted ∧
      description.decodeRecord converted =
        .error ⟨"r", 1, [⟨[.field "x", .index 1], .wrongKind .real "bool"⟩]⟩ ∧
      description.decodeRecord whole = description.decodeRecord converted ∧
      Relation.EqvGen description.Spelling plain named ∧
      plain.LoadsFrom first "left.json" ∧ named.LoadsFrom second "left.json" ∧
      right.LoadsFrom first "right.json" ∧ right.LoadsFrom second "right.json" ∧
      (runProgram first arguments).lines =
        ["r: z: Complex \x7b re: 1.0, im: 2.0 \x7d != Complex \x7b re: 1.0, im: 4.0 \x7d"] ∧
      runProgram first arguments = runProgram second arguments := by
  intro x z note description one pair parts whole converted plain named right source files first
    second arguments
  have valid : description.flaw? = none := by decide +kernel
  have number : NumberSpelling (integer 1) (real one) :=
    .converted ((number_iff (integer 1) (.finite one)).mp (by decide +kernel))
  have entry : ValueSpelling .real 1 (array [integer 1, bool true]) (array [real one, bool true]) :=
    @ValueSpelling.item .real 0 _ _ [] [bool true] (.leaf (.real number))
  have complex : ValueSpelling .complex 0 pair parts :=
    .leaf (.named trivial trivial (List.Perm.swap _ _ []))
  have inDocument : description.Spelling whole converted :=
    @Description.Spelling.value description x _ _ [] [("z", pair)] (by simp [description]) entry
  have dropped : description.Spelling plain (object [("x", array [integer 3]), ("z", pair)]) :=
    @Description.Spelling.absent description note [] _ (by simp [description]) (by decide)
      (by simp [note])
  have renamed : description.Spelling (object [("x", array [integer 3]), ("z", pair)]) named :=
    @Description.Spelling.value description z _ _ [("x", array [integer 3])] []
      (by simp [description]) complex
  have respelled : Relation.EqvGen description.Spelling plain named :=
    .trans _ _ _ (.rel _ _ dropped) (.rel _ _ renamed)
  have read : Call.ofArguments arguments =
      .ok ⟨none, .compare ⟨some "r.yaml", false, none, false, "left.json", "right.json"⟩⟩ := rfl
  have loadsPlain : plain.LoadsFrom first "left.json" := ⟨_, rfl, by decide +kernel⟩
  have loadsNamed : named.LoadsFrom second "left.json" := ⟨_, rfl, by decide +kernel⟩
  have loadsRight (left : String) : right.LoadsFrom (files left) "right.json" := ⟨_, rfl, by decide +kernel⟩
  have reads : Description.ofFile "r.yaml" (.ok source) = .ok description := by decide +kernel
  have chosen (left : String) :
      description.ChosenFrom (files left) none (some "r.yaml") .standard :=
    ⟨.standard, "r.yaml", rfl, (Description.of_file_iff _ _ _).mp reads⟩
  obtain ⟨documents, compared⟩ := decoded_in_any_spelling description valid
  have same := documents _ _ (.rel _ _ inDocument)
  have shown := compared first second arguments none _ _ plain right named right read (chosen _)
    (chosen _) loadsPlain (loadsRight _) loadsNamed (loadsRight _) respelled (.refl right)
  exact ⟨valid, inDocument, by decide +kernel, same, respelled, loadsPlain, loadsNamed,
    loadsRight _, loadsRight _, by decide +kernel, shown⟩

end RecordComparison
