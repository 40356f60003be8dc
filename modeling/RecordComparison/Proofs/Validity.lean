import RecordComparison.Description

/-!
What the validity of a description comes to: the search for a broken rule finds none exactly
if all names are identifiers, field names are distinct and ranks are within their bounds.
-/
namespace RecordComparison

theorem Declaration.flaw_none_iff (d : Declaration) (earlier : List String) :
    d.flaw? earlier = none ↔
      isIdentifier d.name = true ∧ d.name ∉ earlier ∧ d.rank ≤ maximalRank ∧
        d.rank ≤ d.kind.maxRank := by
  simp only [flaw?]
  split
  next unnamed => exact iff_of_false (by simp) fun rules => by simp [rules.1] at unnamed
  next named =>
    split
    next known => exact iff_of_false (by simp) fun rules => rules.2.1 (by simpa using known)
    next fresh =>
      split
      next high => exact iff_of_false (by simp) fun rules => by omega
      next low =>
        split
        next high => exact iff_of_false (by simp) fun rules => by omega
        next bound =>
          refine iff_of_true rfl ⟨by simpa using named, by simpa using fresh, ?_, ?_⟩
          · exact Nat.le_of_not_lt low
          · exact Nat.le_of_not_lt bound

namespace Description

theorem field_flaw_none_iff (fields : List Declaration) (earlier : List String) :
    fieldFlaw? earlier fields = none ↔
      (∀ d ∈ fields, isIdentifier d.name = true ∧ d.rank ≤ maximalRank ∧
        d.rank ≤ d.kind.maxRank) ∧
      (fields.map (·.name)).Nodup ∧ ∀ d ∈ fields, d.name ∉ earlier := by
  induction fields generalizing earlier with
  | nil => simp [fieldFlaw?]
  | cons d later ih =>
    have here := d.flaw_none_iff earlier
    simp only [fieldFlaw?]
    cases flaw : d.flaw? earlier with
    | some f =>
      simp only [reduceCtorEq, false_iff]
      rintro ⟨each, _, fresh⟩
      obtain ⟨name, low, bound⟩ := each d (by simp)
      have flawless := here.mpr ⟨name, fresh d (by simp), low, bound⟩
      rw [flaw] at flawless
      contradiction
    | none =>
      obtain ⟨name, fresh, low, bound⟩ := here.mp flaw
      simp only [ih, List.forall_mem_cons, List.map_cons, List.nodup_cons, name, fresh, low,
        bound, not_false_eq_true, true_and]
      simp only [List.mem_map, List.mem_cons, not_or]
      constructor
      · rintro ⟨each, distinct, apart⟩
        refine ⟨each, ⟨?_, distinct⟩, fun e member => (apart e member).2⟩
        rintro ⟨e, member, same⟩
        exact (apart e member).1 same
      · rintro ⟨each, ⟨apart, distinct⟩, unused⟩
        refine ⟨each, distinct, fun e member => ⟨?_, unused e member⟩⟩
        exact fun same => apart ⟨e, member, same⟩

theorem flaw_none_iff (description : Description) :
    description.flaw? = none ↔
      isIdentifier description.name = true ∧ description.fields ≠ [] ∧
      (∀ d ∈ description.fields, isIdentifier d.name = true ∧ d.rank ≤ maximalRank ∧
        d.rank ≤ d.kind.maxRank) ∧
      (description.fields.map (·.name)).Nodup := by
  simp only [flaw?]
  repeat' split
  all_goals simp_all [field_flaw_none_iff]

section Valid

variable (description : Description) (valid : description.flaw? = none)

include valid

theorem valid_ranks : ∀ d ∈ description.fields, d.rank ≤ maximalRank := by
  obtain ⟨_, _, each, _⟩ := description.flaw_none_iff.mp valid
  exact fun d member => (each d member).2.1

theorem valid_names : (description.fields.map (·.name)).Nodup :=
  (description.flaw_none_iff.mp valid).2.2.2

end Valid

end Description

end RecordComparison
