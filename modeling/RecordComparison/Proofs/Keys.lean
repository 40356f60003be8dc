import RecordComparison.Json.Reader

/-!
The keys of a document. The reader puts each member in the place of its key, so the keys of what
it reads increase and none of them occurs twice. Main statement: `Json.read_keys_nodup`.
-/
namespace RecordComparison.Json

def keys : Json → List String
  | object members => members.map (·.1)
  | _ => []

def Increasing (members : List (String × Json)) : Prop := members.Pairwise fun m n => m.1 < n.1

namespace Increasing

variable {members : List (String × Json)}

theorem keys_nodup (increasing : Increasing members) : (object members).keys.Nodup := by
  refine List.pairwise_map.mpr (increasing.imp fun {m n} before same => ?_)
  rw [same] at before
  exact String.lt_irrefl n.1 before

theorem mem_insert {key : String} {value : Json} {m : String × Json}
    (member : m ∈ insert key value members) : m = (key, value) ∨ m ∈ members := by
  induction members with
  | nil => exact .inl (List.mem_singleton.mp member)
  | cons n later ih =>
    rw [Json.insert] at member
    split at member
    next => exact List.mem_cons.mp member
    next =>
      split at member
      next => exact (List.mem_cons.mp member).imp_right (List.mem_cons_of_mem n)
      next =>
        rcases List.mem_cons.mp member with rfl | inside
        · exact .inr List.mem_cons_self
        · exact (ih inside).imp_right (List.mem_cons_of_mem n)

theorem insert (increasing : Increasing members) (key : String) (value : Json) :
    Increasing (insert key value members) := by
  induction members with
  | nil => exact List.pairwise_singleton _ _
  | cons n later ih =>
    obtain ⟨below, rest⟩ := List.pairwise_cons.mp increasing
    rw [Json.insert]
    split
    next before =>
      refine .cons (List.forall_mem_cons.mpr ⟨before, fun m member => ?_⟩) increasing
      exact String.lt_trans before (below m member)
    next notBefore =>
      split
      next same =>
        subst same
        exact .cons below rest
      next other =>
        have after : n.1 < key := String.not_le.mp fun reverse =>
          other (String.le_antisymm reverse (String.not_lt.mp notBefore))
        refine .cons (fun m member => ?_) (ih rest)
        rcases mem_insert member with rfl | inside
        · exact after
        · exact below m inside

end Increasing

theorem bind_ok_iff {α β : Type} {x : Except JsonProblem α} {f : α → Except JsonProblem β} {b : β} :
    x >>= f = .ok b ↔ ∃ a, x = .ok a ∧ f a = .ok b := by
  cases x <;> simp [bind, Except.bind]

theorem map_ok_iff {α β : Type} {x : Except JsonProblem α} {f : α → β} {b : β} :
    x.map f = .ok b ↔ ∃ a, x = .ok a ∧ f a = b := by
  cases x <;> simp [Except.map]

theorem members_within_increasing {steps room : Nat} {first : Bool}
    {earlier members : List (String × Json)} {s rest : List Char} (increasing : Increasing earlier)
    (read : membersWithin steps room first earlier s = .ok (members, rest)) :
    Increasing members := by
  -- By induction on the steps: each member goes to its place among those that were read earlier.
  induction steps generalizing first earlier s with
  | zero => cases read
  | succ steps ih =>
    rw [membersWithin] at read
    obtain ⟨⟨more, s⟩, _, read⟩ := bind_ok_iff.mp read
    cases more with
    | false =>
      cases read
      exact increasing
    | true =>
      obtain ⟨⟨key, s⟩, _, read⟩ := bind_ok_iff.mp read
      obtain ⟨s, _, read⟩ := bind_ok_iff.mp read
      obtain ⟨⟨value, s⟩, _, read⟩ := bind_ok_iff.mp read
      exact ih (increasing.insert key value) read

section Scalars

def ReadsKeyless (x : Except JsonProblem (Json × List Char)) : Prop :=
  ∀ j s, x = .ok (j, s) → j.keys = []

theorem malformed_keyless (m : Malformation) : ReadsKeyless (malformed m) := nofun

theorem ok_keyless {j : Json} (keyless : j.keys = []) (s : List Char) :
    ReadsKeyless (.ok (j, s)) := by
  rintro _ _ ⟨⟩
  exact keyless

theorem map_keyless {α : Type} {f : α → Json × List Char} (keyless : ∀ a, (f a).1.keys = [])
    (x : Except JsonProblem α) : ReadsKeyless (x.map f) := by
  intro j s read
  obtain ⟨a, _, found⟩ := map_ok_iff.mp read
  have here := keyless a
  rwa [found] at here

variable (negative : Bool) (significand : Nat)

theorem real_number_keyless (exponent : Int) (s : List Char) :
    ReadsKeyless (realNumber negative significand exponent s) := by
  unfold realNumber
  split
  next =>
    split
    next => exact ok_keyless rfl s
    next => exact malformed_keyless _
  next => exact malformed_keyless _

theorem exponent_part_keyless (scale : Int) (s : List Char) :
    ReadsKeyless (exponentPart negative significand scale s) := by
  unfold exponentPart
  dsimp only
  split
  next => exact malformed_keyless _
  next =>
    split
    next => exact real_number_keyless negative significand _ _
    next => exact malformed_keyless _

theorem fraction_part_keyless (scale : Int) (s : List Char) :
    ReadsKeyless (fractionPart negative significand scale s) := by
  unfold fractionPart
  split
  next => exact malformed_keyless _
  next =>
    split
    next =>
      dsimp only
      split
      next => exact exponent_part_keyless negative _ _ _
      next => exact exponent_part_keyless negative _ _ _
      next => exact real_number_keyless negative _ _ _
    next => exact malformed_keyless _

theorem whole_number_keyless (skipped : Nat) (s : List Char) :
    ReadsKeyless (wholeNumber negative significand skipped s) := by
  unfold wholeNumber
  split
  next => exact ok_keyless rfl s
  next =>
    split
    next => exact ok_keyless rfl s
    next => exact real_number_keyless negative significand _ s

theorem number_keyless (s : List Char) : ReadsKeyless (number negative s) := by
  unfold number
  split
  next => exact malformed_keyless _
  next =>
    split
    next =>
      dsimp only
      split
      next => exact fraction_part_keyless negative _ _ _
      next => exact exponent_part_keyless negative _ _ _
      next => exact exponent_part_keyless negative _ _ _
      next =>
        split
        next => exact malformed_keyless _
        next => exact whole_number_keyless negative _ _ _
      next => exact whole_number_keyless negative _ _ _
    next => exact malformed_keyless _

theorem scalar_keyless (c : Char) (s : List Char) : ReadsKeyless (scalar c s) := by
  unfold scalar
  split
  case h_1 | h_2 | h_3 | h_5 => exact map_keyless (fun _ => rfl) _
  case h_4 => exact number_keyless true s
  case h_6 =>
    split
    next => exact number_keyless false _
    next => exact malformed_keyless _

end Scalars

theorem ReadsKeyless.keys_nodup {x : Except JsonProblem (Json × List Char)}
    (keyless : ReadsKeyless x) {j : Json} {s : List Char} (read : x = .ok (j, s)) :
    j.keys.Nodup := by
  rw [keyless j s read]
  exact List.nodup_nil

theorem value_within_keys_nodup {steps room : Nat} {s rest : List Char} {j : Json}
    (read : valueWithin steps room s = .ok (j, rest)) : j.keys.Nodup := by
  cases steps with
  | zero => cases read
  | succ steps =>
    rw [valueWithin] at read
    split at read
    next => cases read
    next c s _ =>
      split at read
      next =>
        cases room with
        | zero => cases read
        | succ room => exact (map_keyless (fun _ => rfl) _).keys_nodup read
      next =>
        split at read
        next =>
          cases room with
          | zero => cases read
          | succ room =>
            obtain ⟨⟨members, s⟩, inside, listed⟩ := map_ok_iff.mp read
            cases listed
            exact (members_within_increasing List.Pairwise.nil inside).keys_nodup
        next => exact (scalar_keyless c s).keys_nodup read

/-- No key occurs twice in a document that is read from a text. -/
theorem read_keys_nodup {text : String} {document : Json} (read : ofText text = .ok document) :
    document.keys.Nodup := by
  obtain ⟨⟨j, rest⟩, value, ends⟩ := bind_ok_iff.mp read
  dsimp only at ends
  split at ends
  next =>
    cases ends
    exact value_within_keys_nodup value
  next => cases ends

end RecordComparison.Json
