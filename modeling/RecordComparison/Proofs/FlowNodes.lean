import RecordComparison.Proofs.FlowTokens
import RecordComparison.Yaml.Node

/-!
The document that compact JSON is when it is read as YAML: lists are sequences, objects are mappings
whose keys are texts, and there are no anchors and no tags. Main statement: `document_of_flow`.
-/
namespace RecordComparison

namespace Json

@[simp] theorem key_tokens_length (key : String) : (keyTokens key).length = 3 := rfl

def keyNode (key : String) : Yaml.Node := .scalar none .quoted key.toList

mutual

def node : Json → Yaml.Node
  | string s => .scalar none .quoted s.toList
  | array items => .sequence (itemNodes items)
  | object members => .mapping (memberNodes members)
  | scalar => .scalar none .plain scalar.chars

def itemNodes : List Json → List Yaml.Node
  | [] => []
  | item :: items => node item :: itemNodes items

def memberNodes : List (String × Json) → List (Yaml.Node × Yaml.Node)
  | [] => []
  | (key, value) :: members => (keyNode key, node value) :: memberNodes members

end

end Json

namespace Yaml

variable {r after last : Reading} {t : Token} {rest : List Token} {handles : Handles}
  {block unindented first : Bool} {steps : Nat} {j : Json}

section Beginnings

theorem next_of (here : r.tokens = t :: rest) : r.next? = some t := by
  rw [Reading.next?, here, List.head?_cons]

theorem next_is (here : r.tokens = t :: rest) : r.nextIs t = true := by
  rw [Reading.nextIs, next_of here]
  exact beq_self_eq_true _

theorem next_differs (here : r.tokens = t :: rest) {other : Token} (differs : t ≠ other) :
    r.nextIs other = false := by
  rw [Reading.nextIs, next_of here]
  exact beq_eq_false_iff_ne.mpr fun same => differs (Option.some.inj same)

theorem skip_of (here : r.tokens = t :: rest) : r.skip = { r with tokens := rest } := by
  rw [Reading.skip, here, List.drop_one, List.tail_cons]

/-- A node without properties may begin with the token, inside flow collections as well. -/
def opensNode : Token → Bool
  | .scalar _ _ | .flowSequenceStart | .flowMappingStart => true
  | _ => false

theorem flow_begins (here : r.tokens = j.flowTokens ++ rest) :
    ∃ t later, r.tokens = t :: later ∧ opensNode t = true := by
  rw [here]
  cases j with
  | array items => cases items <;> exact ⟨_, _, rfl, rfl⟩
  | object members => cases members <;> exact ⟨_, _, rfl, rfl⟩
  | _ => exact ⟨_, _, rfl, rfl⟩

theorem flow_differs (here : r.tokens = j.flowTokens ++ rest) {other : Token}
    (shut : opensNode other = false) : r.nextIs other = false := by
  obtain ⟨t, later, spelled, opens⟩ := flow_begins here
  refine next_differs spelled ?_
  rintro rfl
  rw [opens] at shut
  contradiction

theorem no_properties (here : r.tokens = t :: rest) (opens : opensNode t = true) :
    properties handles r = some (.none, r) := by
  have next := next_of here
  cases t
  case scalar | flowSequenceStart | flowMappingStart =>
    simp [properties, anchorProperty, tagProperty, next]
  all_goals contradiction

theorem scalar_node {style : ScalarStyle} {text : List Char}
    (here : r.tokens = .scalar style text :: rest) :
    node handles block unindented (steps + 1) r =
      some (.scalar none style text, { r with tokens := rest }) := by
  simp [node, next_of here, no_properties here rfl, next_differs here, skip_of here,
    Properties.none, Properties.keep]

end Beginnings

section Sequences

variable {item : Node} {items : List Node}

theorem sequence_node (here : r.tokens = .flowSequenceStart :: rest)
    (inner : flowItems handles true steps { r with tokens := rest } = some (items, last)) :
    node handles block unindented (steps + 1) r = some (.sequence items, last) := by
  simp [node, next_of here, no_properties here rfl, next_differs here, skip_of here, inner,
    Properties.none, Properties.keep]

theorem flow_items_end (here : r.tokens = .flowSequenceEnd :: rest) :
    flowItems handles first (steps + 1) r = some ([], { r with tokens := rest }) := by
  rw [flowItems, next_is here, if_pos rfl, skip_of here]

theorem flow_items_first (here : r.tokens = j.flowTokens ++ rest) :
    flowItems handles true (steps + 1) r = flowItem handles steps r := by
  rw [flowItems, flow_differs here rfl]
  rfl

theorem flow_items_later (here : r.tokens = .flowEntry :: (j.flowTokens ++ rest)) :
    flowItems handles false (steps + 1) r =
      flowItem handles steps { r with tokens := j.flowTokens ++ rest } := by
  let atItem : Reading := { r with tokens := j.flowTokens ++ rest }
  have opens : atItem.nextIs .flowSequenceEnd = false := flow_differs (r := atItem) rfl rfl
  have passed : r.skip = atItem := skip_of here
  rw [flowItems, next_differs here (by simp), next_is here, passed, opens]
  rfl

theorem flow_item (here : r.tokens = j.flowTokens ++ rest)
    (one : node handles false false steps r = some (item, after))
    (later : flowItems handles false steps after = some (items, last)) :
    flowItem handles (steps + 1) r = some (item :: items, last) := by
  have noKey : r.nextIs .key = false := flow_differs here rfl
  simp [flowItem, noKey, one, later]

end Sequences

section Mappings

variable {value : Node} {entries : List (Node × Node)} {key : String}

theorem mapping_node (here : r.tokens = .flowMappingStart :: rest)
    (inner : flowEntries handles true steps { r with tokens := rest } = some (entries, last)) :
    node handles block unindented (steps + 1) r = some (.mapping entries, last) := by
  simp [node, next_of here, no_properties here rfl, next_differs here, skip_of here, inner,
    Properties.none, Properties.keep]

theorem flow_entries_end (here : r.tokens = .flowMappingEnd :: rest) :
    flowEntries handles first (steps + 1) r = some ([], { r with tokens := rest }) := by
  rw [flowEntries, next_is here, if_pos rfl, skip_of here]

theorem flow_entries_first (here : r.tokens = Json.keyTokens key ++ rest) :
    flowEntries handles true (steps + 1) r = flowPair handles steps r := by
  rw [flowEntries, next_differs here (by simp)]
  rfl

theorem flow_entries_later (here : r.tokens = .flowEntry :: (Json.keyTokens key ++ rest)) :
    flowEntries handles false (steps + 1) r =
      flowPair handles steps { r with tokens := Json.keyTokens key ++ rest } := by
  let atPair : Reading := { r with tokens := Json.keyTokens key ++ rest }
  have opens : atPair.nextIs .flowMappingEnd = false := next_differs rfl (by simp)
  have passed : r.skip = atPair := skip_of here
  rw [flowEntries, next_differs here (by simp), next_is here, passed, opens]
  rfl

theorem node_unless {ends : List Token} (other : ∀ t ∈ ends, r.nextIs t = false) :
    nodeUnless ends handles block unindented (steps + 1) r =
      node handles block unindented steps r := by
  have goesOn : r.nextIsOneOf ends = false := by
    rw [Reading.nextIsOneOf, List.any_eq_false]
    intro t member
    rw [other t member]
    exact Bool.false_ne_true
  rw [nodeUnless, goesOn]
  rfl

theorem flow_pair (here : r.tokens = Json.keyTokens key ++ (j.flowTokens ++ rest))
    (one : node handles false false (steps + 1) { r with tokens := j.flowTokens ++ rest } =
      some (value, after))
    (later : flowEntries handles false (steps + 2) after = some (entries, last)) :
    flowPair handles (steps + 3) r = some ((Json.keyNode key, value) :: entries, last) := by
  let atKey : Reading :=
    { r with tokens := .scalar .quoted key.toList :: .value :: (j.flowTokens ++ rest) }
  let atColon : Reading := { r with tokens := .value :: (j.flowTokens ++ rest) }
  let atValue : Reading := { r with tokens := j.flowTokens ++ rest }
  have keyRead : nodeUnless [.value, .flowEntry, .flowMappingEnd] handles false false (steps + 2)
      atKey = some (Json.keyNode key, atColon) := by
    rw [node_unless fun t member => next_differs rfl (by rintro rfl; simp at member)]
    exact scalar_node rfl
  have valueRead : nodeUnless [.flowEntry, .flowMappingEnd] handles false false (steps + 2)
      atValue = some (value, after) := by
    rw [node_unless]
    · exact one
    · intro t member
      simp only [List.mem_cons, List.not_mem_nil, or_false] at member
      rcases member with rfl | rfl <;> exact flow_differs (r := atValue) rfl rfl
  have colon : atColon.nextIs .value = true := next_is rfl
  have passed : atColon.skip = atValue := skip_of rfl
  rw [flowPair, next_is here, show r.skip = atKey from skip_of here]
  simp [keyRead, colon, passed, valueRead, later]

end Mappings

section Values

-- By recursion on the value: its tokens are passed over, and its node is read. Three steps for each
-- token are enough, because an entry of a mapping has three tokens of its own.
mutual

theorem value_node : ∀ (j : Json) {r : Reading} {rest : List Token} {block unindented : Bool}
    {steps : Nat}, r.tokens = j.flowTokens ++ rest → 3 * j.flowTokens.length ≤ steps →
    node handles block unindented steps r = some (j.node, { r with tokens := rest })
  | .string _, _, _, _, _, _ + 1, here, _ => scalar_node here
  | .null, _, _, _, _, _ + 1, here, _ => scalar_node here
  | .bool _, _, _, _, _, _ + 1, here, _ => scalar_node here
  | .integer _, _, _, _, _, _ + 1, here, _ => scalar_node here
  | .real _, _, _, _, _, _ + 1, here, _ => scalar_node here
  | .array [], _, _, _, _, _ + 2, here, _ => sequence_node here (flow_items_end rfl)
  | .object [], _, _, _, _, _ + 2, here, _ => mapping_node here (flow_entries_end rfl)
  | .array (item :: items), _, _, _, _, steps, here, enough => by
    simp only [Json.flowTokens, List.cons_append, List.length_cons, List.length_append,
      List.append_assoc] at here enough
    obtain ⟨steps, rfl⟩ : ∃ n, steps = n + 3 := ⟨steps - 3, by omega⟩
    refine sequence_node here ?_
    rw [flow_items_first rfl]
    exact flow_item rfl (value_node item rfl (by omega)) (later_items_nodes items rfl (by omega))
  | .object ((key, value) :: members), _, _, _, _, steps, here, enough => by
    simp only [Json.flowTokens, List.cons_append, List.length_cons, List.length_append,
      List.append_assoc, Json.key_tokens_length] at here enough
    obtain ⟨steps, rfl⟩ : ∃ n, steps = n + 5 := ⟨steps - 5, by omega⟩
    refine mapping_node here ?_
    rw [flow_entries_first rfl]
    exact flow_pair rfl (value_node value rfl (by omega))
      (later_members_nodes members rfl (by omega))

theorem later_items_nodes : ∀ (items : List Json) {r : Reading} {rest : List Token} {steps : Nat},
    r.tokens = Json.laterItemTokens items ++ rest →
    3 * (Json.laterItemTokens items).length ≤ steps →
    flowItems handles false steps r = some (Json.itemNodes items, { r with tokens := rest })
  | [], _, _, _ + 1, here, _ => flow_items_end here
  | item :: items, _, _, steps, here, enough => by
    simp only [Json.laterItemTokens, List.cons_append, List.length_cons, List.length_append,
      List.append_assoc] at here enough
    obtain ⟨steps, rfl⟩ : ∃ n, steps = n + 2 := ⟨steps - 2, by omega⟩
    rw [flow_items_later here]
    exact flow_item rfl (value_node item rfl (by omega)) (later_items_nodes items rfl (by omega))

theorem later_members_nodes : ∀ (members : List (String × Json)) {r : Reading} {rest : List Token}
    {steps : Nat}, r.tokens = Json.laterMemberTokens members ++ rest →
    3 * (Json.laterMemberTokens members).length ≤ steps →
    flowEntries handles false steps r = some (Json.memberNodes members, { r with tokens := rest })
  | [], _, _, _ + 1, here, _ => flow_entries_end here
  | (key, value) :: members, _, _, steps, here, enough => by
    simp only [Json.laterMemberTokens, List.cons_append, List.length_cons, List.length_append,
      List.append_assoc, Json.key_tokens_length] at here enough
    obtain ⟨steps, rfl⟩ : ∃ n, steps = n + 4 := ⟨steps - 4, by omega⟩
    rw [flow_entries_later here]
    exact flow_pair rfl (value_node value rfl (by omega))
      (later_members_nodes members rfl (by omega))

end

theorem bare_document {root : Node} (opens : opensNode t = true)
    (read : node standardHandles true false (3 * (t :: rest).length + 3) (.ofTokens (t :: rest)) =
      some (root, .ofTokens [])) :
    Document.ofTokens? (t :: rest) = some ⟨root, []⟩ := by
  have begun : content standardHandles (t :: rest) = some (root, .ofTokens []) := by
    rw [← read]
    cases t
    case scalar | flowSequenceStart | flowMappingStart => rfl
    all_goals contradiction
  cases t
  case scalar | flowSequenceStart | flowMappingStart =>
    simp [Document.ofTokens?, endsContent, begun, Reading.ofTokens]
  all_goals contradiction

/-- The text of a list or an object is one document. -/
theorem document_of_flow {j : Json} (wordy : j.Wordy) (collection : j.isCollection = true) :
    Document.ofText? j.text = some ⟨j.node, []⟩ := by
  have read : node standardHandles true false (3 * j.flowTokens.length + 3)
      (.ofTokens j.flowTokens) = some (j.node, .ofTokens []) :=
    value_node j (List.append_nil _).symm (Nat.le_add_right _ 3)
  obtain ⟨t, later, first, opens⟩ :=
    flow_begins (r := .ofTokens j.flowTokens) (List.append_nil _).symm
  have first : j.flowTokens = t :: later := first
  rw [first] at read
  rw [Document.ofText?, tokens_of_flow wordy collection, first]
  exact bare_document opens read

end Values

end Yaml

end RecordComparison
