import RecordComparison.Decimal.Style

/-!
JSON values. The members of an object keep their order; `Json.insert` builds objects whose
keys increase and do not repeat.
-/
namespace RecordComparison

inductive Json where
  | null
  | bool (value : Bool)
  | integer (value : Int)
  | real (value : Finite .double)
  | string (value : String)
  | array (items : List Json)
  | object (members : List (String × Json))

namespace Json

def ofDouble : Double → Json
  | .finite x => .real x
  | _ => .null

def ofNat (n : Nat) : Json := .integer n

def ofOption {α : Type} (form : α → Json) : Option α → Json
  | some a => form a
  | none => .null

def ofList {α : Type} (form : α → Json) (items : List α) : Json := .array (items.map form)

/-- Puts a member in the place that its key has among increasing keys; a member with the same
key is replaced. -/
def insert (key : String) (value : Json) : List (String × Json) → List (String × Json)
  | [] => [(key, value)]
  | (k, v) :: rest =>
    if key < k then (key, value) :: (k, v) :: rest
    else if key = k then (key, value) :: rest
    else (k, v) :: insert key value rest

def member? (members : List (String × Json)) (key : String) : Option Json :=
  (members.find? fun m => m.1 == key).map Prod.snd

@[simp] theorem member_nil (key : String) : member? [] key = none := rfl

@[simp] theorem member_cons (k : String) (v : Json) (rest : List (String × Json)) (key : String) :
    member? ((k, v) :: rest) key = if k = key then some v else member? rest key := by
  by_cases same : k = key <;> simp [member?, same]

@[simp] theorem member_append (before after : List (String × Json)) (key : String) :
    member? (before ++ after) key = (member? before key).or (member? after key) := by
  rw [member?, member?, member?, List.find?_append]
  cases before.find? fun m => m.1 == key <;> rfl

def asDouble? : Json → Option Double
  | integer n => some (.ofInt n)
  | real x => some (.finite x)
  | _ => none

section Equality

-- Equality cannot be derived for a type that is nested in lists of itself.
mutual

def same : Json → Json → Bool
  | null, null => true
  | bool a, bool b => decide (a = b)
  | integer a, integer b => decide (a = b)
  | real a, real b => decide (a = b)
  | string a, string b => decide (a = b)
  | array as, array bs => sameItems as bs
  | object ms, object ns => sameMembers ms ns
  | _, _ => false

def sameItems : List Json → List Json → Bool
  | [], [] => true
  | a :: as, b :: bs => same a b && sameItems as bs
  | _, _ => false

def sameMembers : List (String × Json) → List (String × Json) → Bool
  | [], [] => true
  | (k, a) :: ms, (l, b) :: ns => decide (k = l) && same a b && sameMembers ms ns
  | _, _ => false

end

mutual

theorem same_iff : ∀ j k : Json, same j k = true ↔ j = k
  | null, k | bool _, k | integer _, k | real _, k | string _, k => by cases k <;> simp [same]
  | array as, k => by cases k <;> simp [same, same_items_iff as]
  | object ms, k => by cases k <;> simp [same, same_members_iff ms]

theorem same_items_iff : ∀ js ks : List Json, sameItems js ks = true ↔ js = ks
  | [], ks => by cases ks <;> simp [sameItems]
  | j :: js, ks => by cases ks <;> simp [sameItems, same_iff j, same_items_iff js]

theorem same_members_iff : ∀ ms ns : List (String × Json), sameMembers ms ns = true ↔ ms = ns
  | [], ns => by cases ns <;> simp [sameMembers]
  | (_, j) :: ms, ns => by
    cases ns <;> simp [sameMembers, Prod.ext_iff, same_iff j, same_members_iff ms]

end

instance : DecidableEq Json := fun j k => decidable_of_iff (same j k = true) (same_iff j k)

end Equality

end Json

end RecordComparison
