import RecordComparison.Proofs.JsonText
import RecordComparison.Proofs.ReportLines

/-!
Differences in JSON, read back. Segments, paths, mismatches and differences are read back from
their compact text as long as positions and lengths fit into a machine word, and without any
bound no two of them have the same text; so the lines that a comparison prints in JSON stand for
the differences that it reports and for no others. Main statement: `json_stands_for_differences`.
-/
namespace RecordComparison
open Json (Finds count_simple text_finds)

/-- Whatever fits is read back from its compact text, and no other value has the same text. -/
structure ReadsBack {α : Type} (Fits : α → Prop) (form : α → Json) (read : Read α) : Prop where
  reads : ∀ a, Fits a → Json.whole read (form a).text = .ok a
  determines : Function.Injective fun a => (form a).text

theorem ReadsBack.of_finds {α : Type} {Fits : α → Prop} {form : α → Json} {read : Read α}
    (finds : ∀ a, Fits a → Finds read (form a).chars a) (discrete : ∀ a, (form a).Discrete)
    (injective : Function.Injective form) : ReadsBack Fits form read where
  reads a fits := Json.whole_of_finds (finds a fits)
  determines a b same := injective (Json.text_determines (discrete a) (discrete b) same)

section Segments

def Segment.Fits : Segment → Prop
  | field _ => True
  | index position => position < UInt64.size

def Mismatch.Fits : Mismatch → Prop
  | length left right => left < UInt64.size ∧ right < UInt64.size
  | _ => True

structure Difference.Fits (d : Difference) : Prop where
  path : ∀ step ∈ d.path, step.Fits
  mismatch : d.mismatch.Fits

theorem count_bound {n : Nat} (fits : n < UInt64.size) : (n : Int) ≤ UInt64.size - 1 := by
  have size : UInt64.size = 2 ^ 64 := rfl
  omega

theorem to_count {n : Nat} (fits : n < UInt64.size) : Mismatch.toCount (.ofNat n) = .ok n := by
  rw [Mismatch.toCount, Json.to_integer_count "usize" (count_bound fits)]
  rfl

theorem count_finds {n : Nat} (fits : n < UInt64.size) :
    Finds readCount (Json.ofNat n).chars n :=
  (Json.read_scalar_finds (count_simple fits)
    (Json.to_integer_count "usize" (count_bound fits))).map Int.toNat

theorem segment_finds_variant {name : String} {read : Read Segment} {j : Json} {step : Segment}
    (announced : Segment.variant name = .ok read) (finds : Finds read j.chars step) :
    Finds Segment.read (Json.object [(name, j)]).chars step := by
  intro rest _
  have here := finds ('\x7d' :: rest) (by simp [Json.Follows])
  have key := Json.string_rest_read name (':' :: (j.chars ++ '\x7d' :: rest))
  have text : (Json.object [(name, j)]).chars ++ rest = '\x7b' :: '\x22' ::
      (name.toList.flatMap Json.escapeChar ++ '\x22' :: ':' :: (j.chars ++ '\x7d' :: rest)) := by
    simp [Json.chars, Json.laterMembers, Json.stringChars]
  rw [text, Segment.read, Json.skip_blanks_cons (by decide)]
  simp [Segment.onlyKey, Segment.onlyEnd, Json.skip_blanks_cons, Json.isBlank, key, announced,
    Json.ofFault, Json.colon_read, here, bind, Except.bind, pure, Except.pure]

theorem segment_finds {step : Segment} (fits : step.Fits) :
    Finds Segment.read step.json.chars step := by
  cases step with
  | field name => exact segment_finds_variant rfl ((text_finds textExpected name).map Segment.field)
  | index position => exact segment_finds_variant rfl ((count_finds fits).map Segment.index)

theorem segment_opens (step : Segment) : Json.Opens step.json.chars := by
  cases step <;> exact ⟨_, _, by rw [Segment.json, Json.chars]; rfl, by decide, by decide⟩

theorem path_finds {path : Path} (fits : ∀ step ∈ path, step.Fits) :
    Finds Path.read path.json.chars path :=
  Json.list_finds fun step member => ⟨segment_finds (fits step member), segment_opens step⟩

end Segments

section Mismatches
namespace Mismatch

theorem sides_simple {m : Mismatch} (fits : m.Fits) : m.sides.1.Simple ∧ m.sides.2.Simple := by
  cases m with
  | length left right => exact ⟨count_simple fits.1, count_simple fits.2⟩
  | presence | value | kind => exact ⟨trivial, trivial⟩

theorem tag_finds {m : Mismatch} {variant : Variant} (named : Variant.ofName m.name = .ok variant) :
    Finds readTag (Json.string m.name).chars variant :=
  (text_finds "variant identifier" m.name).check named

variable {steps room : Nat} {first : Bool} {tag : Option Variant} {earlier : List (String × Json)}
  {s t value rest : List Char}

theorem members_tag {variant : Variant} (next : Json.nextKey first s = .ok (true, t))
    (key : Json.stringRest t = .ok (tagName, ':' :: value))
    (here : readTag value = .ok (variant, rest)) :
    membersOf (steps + 1) room first none earlier s =
      membersOf steps room false (some variant) earlier rest := by
  simp [membersOf, next, key, here, Json.colon_read, bind, Except.bind]

theorem members_side {name : String} {j : Json} (next : Json.nextKey first s = .ok (true, t))
    (key : Json.stringRest t = .ok (name, ':' :: value)) (other : name ≠ tagName)
    (here : Json.value room value = .ok (j, rest)) :
    membersOf (steps + 1) room first tag earlier s =
      membersOf steps room false tag (earlier ++ [(name, j)]) rest := by
  simp [membersOf, next, key, other, here, Json.colon_read, bind, Except.bind]

theorem members_end : membersOf (steps + 1) room first tag earlier ('\x7d' :: rest) =
    .ok ((tag, earlier), rest) := by
  simp [membersOf, Json.next_key_end, bind, Except.bind, pure, Except.pure]

theorem of_members {m : Mismatch} (fits : m.Fits) {variant : Variant}
    (named : Variant.ofName m.name = .ok variant) :
    variant.ofMembers [("left", m.sides.1), ("right", m.sides.2)] = .ok m := by
  cases m with
  | length left right =>
    obtain rfl : Variant.length = variant := Except.ok.inj named
    simp [Variant.ofMembers, Variant.build, sidesOfMembers, sides, to_count fits.1,
      to_count fits.2, bind, Except.bind, Except.map]
  | presence left right =>
    obtain rfl : Variant.presence = variant := Except.ok.inj named
    rfl
  | value left right =>
    obtain rfl : Variant.value = variant := Except.ok.inj named
    rfl
  | kind left right =>
    obtain rfl : Variant.kind = variant := Except.ok.inj named
    rfl

theorem finds (room : Nat) {m : Mismatch} (fits : m.Fits) : Finds (read room) m.json.chars m := by
  obtain ⟨variant, named⟩ : ∃ variant, Variant.ofName m.name = .ok variant := by
    cases m <;> exact ⟨_, rfl⟩
  obtain ⟨left, right⟩ := sides_simple fits
  intro rest _
  have last : Json.Follows ('\x7d' :: rest) := by simp [Json.Follows]
  have more (s : List Char) : Json.Follows (',' :: s) := by simp [Json.Follows]
  -- The text from each value on.
  let third := m.sides.2.chars ++ '\x7d' :: rest
  let second := m.sides.1.chars ++ ',' :: '\x22' ::
    ("right".toList.flatMap Json.escapeChar ++ '\x22' :: ':' :: third)
  let first := (Json.string m.name).chars ++ ',' :: '\x22' ::
    ("left".toList.flatMap Json.escapeChar ++ '\x22' :: ':' :: second)
  let inner := '\x22' :: (tagName.toList.flatMap Json.escapeChar ++ '\x22' :: ':' :: first)
  have text : m.json.chars ++ rest = '\x7b' :: inner := by
    simp [json, Json.chars, Json.laterMembers, Json.stringChars, inner, first, second, third]
  obtain ⟨steps, enough⟩ : ∃ steps, inner.length + 1 = steps + 1 + 1 + 1 + 1 :=
    ⟨inner.length - 3, by simp [inner, first]; omega⟩
  have members : membersOf (inner.length + 1) room true none [] inner =
      .ok ((some variant, [("left", m.sides.1), ("right", m.sides.2)]), rest) := by
    rw [enough, members_tag (Json.next_key_first _) (Json.string_rest_read _ _)
        (tag_finds named _ (more _)),
      members_side (Json.next_key_later _) (Json.string_rest_read _ _) (by decide)
        (Json.value_finds left room _ (more _)),
      members_side (Json.next_key_later _) (Json.string_rest_read _ _) (by decide)
        (Json.value_finds right room _ last),
      members_end]
    rfl
  rw [text, read, Json.readOpened, Json.skip_blanks_cons (by decide)]
  simp [readObject, members, of_members fits named, Json.ofFault, bind, Except.bind, pure,
    Except.pure]

end Mismatch
end Mismatches

theorem Difference.finds {d : Difference} (fits : d.Fits) :
    Finds Difference.read d.json.chars d := by
  have path := (path_finds fits.path).map fun path (d : Difference) => { d with path }
  have mismatch := (Mismatch.finds (Json.maximalNesting - 2) fits.mismatch).map
    fun mismatch (d : Difference) => { d with mismatch }
  exact Json.record_finds (.member rfl path (.member rfl mismatch (.done rfl)))

section Forms

theorem segment_json_injective : Function.Injective Segment.json := by
  intro a b same
  cases a <;> cases b <;> simp_all [Segment.json, Json.ofNat]

theorem path_json_injective : Function.Injective Path.json := by
  intro p q same
  exact segment_json_injective.list_map (Json.array.inj same)

theorem mismatch_json_injective : Function.Injective Mismatch.json := by
  intro m n same
  cases m <;> cases n <;> simp_all [Mismatch.json, Mismatch.name, Mismatch.sides, Json.ofNat]

theorem difference_json_injective : Function.Injective Difference.json := by
  intro d e same
  have members := Json.object.inj same
  simp only [List.cons.injEq, Prod.mk.injEq, true_and, and_true] at members
  cases d
  cases e
  rw [Difference.mk.injEq]
  exact ⟨path_json_injective members.1, mismatch_json_injective members.2⟩

theorem segment_json_discrete (step : Segment) : step.json.Discrete := by
  cases step <;> simp [Segment.json, Json.ofNat, Json.Discrete, Json.DiscreteMembers]

theorem path_json_discrete (path : Path) : path.json.Discrete := by
  show Json.DiscreteItems (path.map Segment.json)
  induction path with
  | nil => trivial
  | cons step path ih => exact ⟨segment_json_discrete step, ih⟩

theorem mismatch_json_discrete (m : Mismatch) : m.json.Discrete := by
  cases m <;> simp [Mismatch.json, Mismatch.sides, Json.ofNat, Json.Discrete, Json.DiscreteMembers]

theorem difference_json_discrete (d : Difference) : d.json.Discrete :=
  ⟨path_json_discrete d.path, mismatch_json_discrete d.mismatch, trivial⟩

theorem difference_reads_back : ReadsBack Difference.Fits Difference.json Difference.read :=
  .of_finds (fun _ => Difference.finds) difference_json_discrete difference_json_injective

end Forms

/-- Segments, paths, mismatches and differences are read back from their JSON, which is that of
nothing else. So a comparison that prints JSON prints what determines the differences it reports,
and each of its lines is read back as one. -/
theorem json_stands_for_differences :
    ReadsBack Segment.Fits Segment.json Segment.read ∧
    ReadsBack (fun path => ∀ step ∈ path, step.Fits) Path.json Path.read ∧
    (∀ room, ReadsBack Mismatch.Fits Mismatch.json (Mismatch.read room)) ∧
    ReadsBack Difference.Fits Difference.json Difference.read ∧
    ∀ (files : Files) arguments settings? (options : CompareOptions) (settings : Settings)
      (description : Description) (a b : Record),
      Call.ofArguments arguments = .ok ⟨settings?, .compare options⟩ → options.json = true →
      options.Prepared files settings? settings description a b →
      options.reported settings a b ≠ [] →
        let lines := (runProgram files arguments).lines
        let reported := options.reported settings a b
        lines = reported.map (·.json.text) ∧
        (∀ others : List Difference, lines = others.map (·.json.text) → others = reported) ∧
        ∀ d ∈ reported, d.Fits → Json.whole Difference.read d.json.text = .ok d := by
  have difference := difference_reads_back
  refine ⟨.of_finds (fun _ => segment_finds) segment_json_discrete segment_json_injective,
    .of_finds (fun _ => path_finds) path_json_discrete path_json_injective,
    fun room => .of_finds (fun _ => Mismatch.finds room) mismatch_json_discrete
      mismatch_json_injective, difference, ?_⟩
  intro files arguments settings? options settings description a b read json prepared found
    lines reported
  have shown : lines = reported.map (·.json.text) := by
    show (runProgram files arguments).lines = _
    rw [prepared.printed_if_found read found]
    exact List.map_congr_left fun d _ => if_pos json
  refine ⟨shown, ?_, fun d _ => difference.reads d⟩
  intro others same
  exact difference.determines.list_map (same.symm.trans shown)

theorem odd_difference_stands :
    let d : Difference :=
      ⟨[.field "\"\\\n\x01é", .index (2 ^ 64 - 1)], .length 0 (2 ^ 64 - 1)⟩
    let files : Files := fun path =>
      if path = "r.yaml" then .ok "name: r\nfields:\n- name: t\n  kind: text\n"
      else if path = "left.json" then .ok "\x7b\"t\": \"a\\n\"\x7d"
      else if path = "right.json" then .ok "\x7b\"t\": \"b\"\x7d"
      else .error .absent
    let arguments := ["compare", "-s", "r.yaml", "--json", "left.json", "right.json"]
    let lines := (runProgram files arguments).lines
    let shown : Difference := ⟨[.field "t"], .value "\"a\\n\"" "\"b\""⟩
    d.Fits ∧ Json.whole Difference.read d.json.text = .ok d ∧
      d.json.text = "\x7b\"path\":[\x7b\"field\":\"\\\"\\\\\\n\\u0001é\"\x7d," ++
        "\x7b\"index\":18446744073709551615\x7d],\"kind\":\x7b\"kind\":\"length\"," ++
        "\"left\":0,\"right\":18446744073709551615\x7d\x7d" ∧
      lines = [shown.json.text] ∧
      (∀ others : List Difference, lines = others.map (·.json.text) → others = [shown]) ∧
      Json.whole Difference.read shown.json.text = .ok shown := by
  intro d files arguments lines shown
  have fits : d.Fits :=
    ⟨by simp [d, Segment.Fits, UInt64.size], by simp [d, Mismatch.Fits, UInt64.size]⟩
  let options : CompareOptions := ⟨some "r.yaml", false, none, true, "left.json", "right.json"⟩
  let description : Description := ⟨"r", [⟨"t", .text, 0, .value⟩]⟩
  let a : Record := ⟨"r", [⟨"t", some (.scalar (.text "a\n"))⟩]⟩
  let b : Record := ⟨"r", [⟨"t", some (.scalar (.text "b"))⟩]⟩
  have read : Call.ofArguments arguments = .ok ⟨none, .compare options⟩ := rfl
  have described : Description.ofFile "r.yaml" (files "r.yaml") = .ok description := by
    decide +kernel
  have left : a.LoadsFrom files description "left.json" :=
    ⟨.object [("t", .string "a\n")], ⟨_, rfl, by decide +kernel⟩, by decide +kernel⟩
  have right : b.LoadsFrom files description "right.json" :=
    ⟨.object [("t", .string "b")], ⟨_, rfl, by decide +kernel⟩, by decide +kernel⟩
  have prepared : options.Prepared files none .standard description a b :=
    ⟨.standard, ⟨"r.yaml", rfl, (Description.of_file_iff files _ _).mp described⟩, left, right⟩
  have reported : options.reported .standard a b = [shown] := by decide +kernel
  obtain ⟨_, _, _, difference, printed⟩ := json_stands_for_differences
  obtain ⟨printed, determined, reads⟩ :=
    printed files arguments none options .standard description a b read rfl prepared
      (by rw [reported]; exact List.cons_ne_nil _ _)
  rw [reported] at printed determined reads
  have plain : shown.Fits := ⟨by simp [shown, Segment.Fits], trivial⟩
  exact ⟨fits, difference.reads d fits, by decide +kernel, printed, determined,
    reads shown List.mem_cons_self plain⟩

end RecordComparison
