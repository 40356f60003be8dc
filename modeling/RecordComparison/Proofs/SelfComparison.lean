import RecordComparison.Proofs.Checking
import RecordComparison.Proofs.Reflexivity
import RecordComparison.Proofs.Typing

/-!
Comparing a document with itself. The numbers of a document are finite, and rounding them gives no
NaN, so a record that is decoded holds none and equals itself. A program that is called to compare
a document with itself finds it equal, whatever it is asked to report. Main statement:
`decoded_equals_itself`.
-/
namespace RecordComparison
open Comparable (collect equal)
open Json

theorem Binary.of_place_number {f : BinaryFormat} (negative : Bool) (place : Nat) :
    (ofPlace negative place : Binary f).isNaN = false := by
  unfold ofPlace
  split
  · rfl
  · rfl

theorem Json.Number.not_nan {j : Json} {x : Double} (number : j.Number x) : x.isNaN = false := by
  cases number with
  | integer rounds =>
    obtain ⟨place, _, rfl⟩ := rounds
    exact Binary.of_place_number _ place
  | real x => rfl

theorem leaf_reads_nan_free {kind : Kind} {j : Json} {a : Scalar} (reads : LeafReads kind j a) :
    a.NaNFree := by
  have complex {x y : Json} {re im : Double} (first : x.Number re) (second : y.Number im) :
      Complex.isNaN ⟨re, im⟩ = false := by
    rw [Complex.isNaN, first.not_nan, second.not_nan]
    rfl
  cases reads with
  | bool b => trivial
  | int n => trivial
  | real number => exact number.not_nan
  | pair re im => exact complex re im
  | parts re im _ => exact complex re im
  | text t => trivial

theorem Declaration.decoded_nan_free (d : Declaration) (low : d.rank ≤ maximalRank)
    {members : List (String × Json)} {s : Slot}
    (decoded : d.decode (member? members d.name) = .ok s) :
    ∀ v ∈ s.value, ∀ a ∈ v.scalars, a.NaNFree := by
  intro v held
  obtain ⟨_, j, _, value⟩ := (d.decoded_reads low decoded).value v held
  exact scalars_all (fun _ _ => leaf_reads_nan_free) value

namespace Description

variable (description : Description) (valid : description.flaw? = none) {document : Json}
  {r : Record} (decoded : description.decodeRecord document = .ok r)

include valid decoded

theorem decoded_nan_free : Layout.slots.NaNFree r := by
  obtain ⟨_, members, slots⟩ := description.decoded_by_fields valid decoded
  have free (d : Declaration) (s : Slot)
      (here : d.rank ≤ maximalRank ∧ d.decode (member? members d.name) = .ok s) :
      ∀ v ∈ s.value, ∀ a ∈ v.scalars, a.NaNFree := d.decoded_nan_free here.1 here.2
  exact related_all free slots

theorem decoded_equal_self : equal r r = true :=
  (Layout.slots.equal_self_iff r).mpr (description.decoded_nan_free valid decoded)

end Description

namespace CompareOptions

variable {files : Files} {settings? : Option String} {options : CompareOptions}
  {settings : Settings} {description : Description} {r : Record}

theorem equal_reports_nothing {a b : Record} (same : equal a b = true) :
    options.reported settings a b = [] :=
  (options.nothing_reported_iff settings a b (.inr same)).mpr same

theorem ends_with_itself
    (chosen : description.ChosenFrom files settings? options.description settings)
    (one : files options.left = files options.right)
    (loads : r.LoadsFrom files description options.left) :
    (Call.run ⟨settings?, .compare options⟩).Ends files ["equal"] .good := by
  obtain ⟨document, ⟨text, content, understood⟩, decoded⟩ := loads
  have same : equal r r = true := description.decoded_equal_self chosen.valid decoded
  have prepared : options.Prepared files settings? settings description r r :=
    ⟨chosen.configured, chosen.described, ⟨document, ⟨text, content, understood⟩, decoded⟩,
      ⟨document, ⟨text, one ▸ content, understood⟩, decoded⟩⟩
  apply (ends_good_iff files settings? options _).mpr
  exact ⟨rfl, settings, description, r, r, prepared, equal_reports_nothing same⟩

end CompareOptions

/-- A decoded record equals itself, and nothing is reported of it. So a program that is called to
compare one document with itself says that it is equal, whatever the switches, parameters and
settings are, a limit of zero included. -/
theorem decoded_equals_itself :
    (∀ description : Description, description.flaw? = none → ∀ (document : Json) (r : Record),
      description.decodeRecord document = .ok r → equal r r = true ∧ collect none r r = []) ∧
    ∀ (files : Files) (arguments : List String) (settings? : Option String)
      (options : CompareOptions) (settings : Settings) (description : Description) (r : Record),
      Call.ofArguments arguments = .ok ⟨settings?, .compare options⟩ →
      description.ChosenFrom files settings? options.description settings →
      files options.left = files options.right →
      r.LoadsFrom files description options.left →
      runProgram files arguments = ⟨0, ["equal"], none⟩ := by
  constructor
  · intro description valid document r decoded
    have same := description.decoded_equal_self valid decoded
    exact ⟨same, (Layout.slots.equal_iff_nothing_collected r r).mp same⟩
  · intro files arguments settings? options settings description r read chosen one loads
    have ends := CompareOptions.ends_with_itself chosen one loads
    unfold Script.Ends at ends
    simp only [runProgram, read, ends]
    rfl

theorem equal_without_room :
    let text := "\x7b\"x\": [[18446744073709551615, -0.0], [], [1e300]], " ++
      "\"z\": [[0, 1.5], \x7b\"im\": 2, \"re\": -1\x7d]\x7d"
    let files : Files := fun path =>
      if path = "r.yaml" then .ok ("name: r\nfields:\n" ++
        "- \x7bname: x, kind: real, rank: 2\x7d\n- \x7bname: z, kind: complex, rank: 1\x7d\n")
      else if path = "bmx.yaml" then .ok "schema: r.yaml\nlimit: 0\n"
      else if path = "one.json" then .ok text
      else .error .absent
    let arguments := ["--config=bmx.yaml", "compare", "one.json", "one.json", "--json"]
    let options : CompareOptions := ⟨none, false, none, true, "one.json", "one.json"⟩
    let settings : Settings := ⟨some "r.yaml", false, some 0⟩
    let description : Description := ⟨"r", [⟨"x", .real, 2, .value⟩, ⟨"z", .complex, 1, .value⟩]⟩
    Call.ofArguments arguments = .ok ⟨some "bmx.yaml", .compare options⟩ ∧
      description.ChosenFrom files (some "bmx.yaml") options.description settings ∧
      files options.left = files options.right ∧
      (∃ r : Record, r.LoadsFrom files description options.left ∧
        equal r r = true ∧ collect none r r = []) ∧
      runProgram files arguments = ⟨0, ["equal"], none⟩ := by
  intro text files arguments options settings description
  have read : Call.ofArguments arguments = .ok ⟨some "bmx.yaml", .compare options⟩ := rfl
  have held : Settings.ofText "schema: r.yaml\nlimit: 0\n" = .ok settings := by decide +kernel
  have seen : settings.seenFrom "bmx.yaml" = settings := by decide +kernel
  have configured : (settings.seenFrom "bmx.yaml").LoadsFrom files (some "bmx.yaml") :=
    .file rfl held
  have reads : Description.ofFile "r.yaml" (files "r.yaml") = .ok description := by decide +kernel
  have chosen : description.ChosenFrom files (some "bmx.yaml") none settings :=
    ⟨seen ▸ configured, "r.yaml", rfl, (Description.of_file_iff files _ _).mp reads⟩
  have decodes : (match Json.ofText text with
      | .ok document => decide (description.Accepts document)
      | .error _ => false) = true := by decide +kernel
  split at decodes
  next document understood =>
    obtain ⟨r, decoded⟩ := of_decide_eq_true decodes
    have loads : r.LoadsFrom files description "one.json" :=
      ⟨document, ⟨text, rfl, understood⟩, decoded⟩
    obtain ⟨itself, compared⟩ := decoded_equals_itself
    have same := itself description chosen.valid document r decoded
    have shown := compared files arguments _ options settings description r read chosen rfl loads
    exact ⟨read, chosen, rfl, ⟨r, loads, same⟩, shown⟩
  next => cases decodes

end RecordComparison
