import RecordComparison.Yaml.Tokens

/-!
YAML documents. A document is a tree of scalars, sequences and mappings. Anchors have numbers,
which count the different names before them, and an alias has the number that its name has
where it stands; it means the last node of the whole document whose anchor has that number. A
stream must hold one document, and an empty stream counts as a document with an empty scalar.
-/
namespace RecordComparison.Yaml

inductive Node where
  | scalar (tag : Option (List Char)) (style : ScalarStyle) (text : List Char)
  | sequence (items : List Node)
  | mapping (entries : List (Node × Node))
  | alias (target : Nat)

def Node.empty : Node := .scalar none .plain []

structure Document where
  root : Node
  -- The nodes that have an anchor, by number. Those that begin later come first.
  anchored : List (Nat × Node)

abbrev Handles := List (List Char × List Char)

def standardHandles : Handles :=
  [(['!'], ['!']), (['!', '!'], "tag:yaml.org,2002:".toList)]

def resolveTag (handles : Handles) (handle suffix : List Char) : Option (List Char) :=
  if handle = [] then some suffix
  else (handles.find? (·.1 == handle)).map fun (_, replacement) => replacement ++ suffix

structure Anchor where
  number : Nat
  position : Nat
deriving DecidableEq

structure Reading where
  tokens : List Token
  -- The different names of anchors with the numbers that they have now.
  names : List (List Char × Nat)
  anchors : Nat
  -- The finished nodes that have an anchor, by falling position.
  anchored : List (Anchor × Node)

namespace Reading

def next? (r : Reading) : Option Token := r.tokens.head?

def skip (r : Reading) : Reading := { r with tokens := r.tokens.drop 1 }

def nextIs (token : Token) (r : Reading) : Bool := r.next? == some token

def nextIsOneOf (tokens : List Token) (r : Reading) : Bool := tokens.any r.nextIs

def ofTokens (tokens : List Token) : Reading := ⟨tokens, [], 0, []⟩

def nextAnchor (r : Reading) : Anchor := ⟨r.names.length, r.anchors⟩

/-- Takes in the next anchor. A name that is used again gets a new number. -/
def bind (name : List Char) (r : Reading) : Reading :=
  { r with
    names := (name, r.nextAnchor.number) :: r.names.filter (·.1 ≠ name)
    anchors := r.anchors + 1 }

def keep (anchor : Anchor) (node : Node) (r : Reading) : Reading :=
  let comesLater (other : Anchor × Node) : Bool := anchor.position < other.1.position
  { r with
    anchored :=
      r.anchored.takeWhile comesLater ++ (anchor, node) :: r.anchored.dropWhile comesLater }

end Reading

structure Properties where
  anchor : Option Anchor
  tag : Option (List Char)

def Properties.none : Properties := ⟨.none, .none⟩

section Properties

def anchorProperty (p : Properties) (r : Reading) : Properties × Reading :=
  match r.next? with
  | some (.anchor name) => ({ p with anchor := some r.nextAnchor }, r.skip.bind name)
  | _ => (p, r)

def tagProperty (handles : Handles) (p : Properties) (r : Reading) :
    Option (Properties × Reading) :=
  match r.next? with
  | some (.tag handle suffix) =>
    (resolveTag handles handle suffix).map fun tag => ({ p with tag := some tag }, r.skip)
  | _ => some (p, r)

def properties (handles : Handles) (r : Reading) : Option (Properties × Reading) :=
  match r.next? with
  | some (.tag _ _) => (tagProperty handles .none r).map fun (p, r) => anchorProperty p r
  | _ =>
    let (p, r) := anchorProperty .none r
    tagProperty handles p r

def Properties.given (p : Properties) : Bool := p.anchor.isSome || p.tag.isSome

def Properties.keep (p : Properties) (result : Node × Reading) : Node × Reading :=
  match p.anchor with
  | some anchor => (result.1, result.2.keep anchor result.1)
  | .none => result

end Properties

section Nodes

mutual

/-- A node. Inside blocks it may be a block collection; as a value in a mapping it may also be
a sequence whose entries are not indented. -/
def node (handles : Handles) (block unindented : Bool) (steps : Nat) (r : Reading) :
    Option (Node × Reading) :=
  match steps with
  | 0 => none
  | steps + 1 =>
    match r.next? with
    | some (.alias name) =>
      (r.names.find? (·.1 == name)).map fun (_, n) => (.alias n, r.skip)
    | _ => do
      let (p, r) ← properties handles r
      if unindented && r.nextIs .blockEntry then
        let (items, r) ← unindentedItems handles steps r
        return p.keep (.sequence items, r)
      match r.next? with
      | some (.scalar style text) => return p.keep (.scalar p.tag style text, r.skip)
      | some .flowSequenceStart =>
        let (items, r) ← flowItems handles true steps r.skip
        return p.keep (.sequence items, r)
      | some .flowMappingStart =>
        let (entries, r) ← flowEntries handles true steps r.skip
        return p.keep (.mapping entries, r)
      | some .blockSequenceStart =>
        if block then
          let (items, r) ← blockItems handles steps r.skip
          return p.keep (.sequence items, r)
        else none
      | some .blockMappingStart =>
        if block then
          let (entries, r) ← blockEntries handles steps r.skip
          return p.keep (.mapping entries, r)
        else none
      | _ => if p.given then return p.keep (.scalar p.tag .plain [], r) else none

def nodeUnless (ends : List Token) (handles : Handles) (block unindented : Bool) (steps : Nat)
    (r : Reading) : Option (Node × Reading) :=
  match steps with
  | 0 => none
  | steps + 1 =>
    if r.nextIsOneOf ends then some (.empty, r) else node handles block unindented steps r

def blockItems (handles : Handles) (steps : Nat) (r : Reading) :
    Option (List Node × Reading) :=
  match steps with
  | 0 => none
  | steps + 1 =>
    match r.next? with
    | some .blockEntry => do
      let (item, r) ← nodeUnless [.blockEntry, .blockEnd] handles true false steps r.skip
      let (items, r) ← blockItems handles steps r
      return (item :: items, r)
    | some .blockEnd => some ([], r.skip)
    | _ => none

/-- Entries at the indentation of the mapping around them; they end where no entry follows. -/
def unindentedItems (handles : Handles) (steps : Nat) (r : Reading) :
    Option (List Node × Reading) :=
  match steps with
  | 0 => none
  | steps + 1 =>
    match r.next? with
    | some .blockEntry => do
      let (item, r) ←
        nodeUnless [.blockEntry, .key, .value, .blockEnd] handles true false steps r.skip
      let (items, r) ← unindentedItems handles steps r
      return (item :: items, r)
    | _ => some ([], r)

def blockEntries (handles : Handles) (steps : Nat) (r : Reading) :
    Option (List (Node × Node) × Reading) :=
  match steps with
  | 0 => none
  | steps + 1 =>
    match r.next? with
    | some .key => do
      let (key, r) ← nodeUnless [.key, .value, .blockEnd] handles true true steps r.skip
      let (value, r) ← blockValue handles steps r
      let (entries, r) ← blockEntries handles steps r
      return ((key, value) :: entries, r)
    | some .blockEnd => some ([], r.skip)
    | _ => none

def blockValue (handles : Handles) (steps : Nat) (r : Reading) : Option (Node × Reading) :=
  match steps with
  | 0 => none
  | steps + 1 =>
    match r.next? with
    | some .value => nodeUnless [.key, .value, .blockEnd] handles true true steps r.skip
    | _ => some (.empty, r)

def flowItems (handles : Handles) (first : Bool) (steps : Nat) (r : Reading) :
    Option (List Node × Reading) :=
  match steps with
  | 0 => none
  | steps + 1 =>
    if r.nextIs .flowSequenceEnd then some ([], r.skip)
    else if first then flowItem handles steps r
    else if r.nextIs .flowEntry then
      if r.skip.nextIs .flowSequenceEnd then some ([], r.skip.skip)
      else flowItem handles steps r.skip
    else none

def flowItem (handles : Handles) (steps : Nat) (r : Reading) : Option (List Node × Reading) :=
  match steps with
  | 0 => none
  | steps + 1 => do
    let (item, r) ←
      if r.nextIs .key then singleEntry handles steps r.skip
      else node handles false false steps r
    let (items, r) ← flowItems handles false steps r
    return (item :: items, r)

/-- A mapping of one entry after its key token. If the key is missing, the token that comes in
its place is passed over. -/
def singleEntry (handles : Handles) (steps : Nat) (r : Reading) : Option (Node × Reading) :=
  match steps with
  | 0 => none
  | steps + 1 => do
    let (key, r) ←
      if r.nextIsOneOf [.value, .flowEntry, .flowSequenceEnd] then some (.empty, r.skip)
      else node handles false false steps r
    let (value, r) ←
      if r.nextIs .value then
        nodeUnless [.flowEntry, .flowSequenceEnd] handles false false steps r.skip
      else some (.empty, r)
    return (.mapping [(key, value)], r)

def flowEntries (handles : Handles) (first : Bool) (steps : Nat) (r : Reading) :
    Option (List (Node × Node) × Reading) :=
  match steps with
  | 0 => none
  | steps + 1 =>
    if r.nextIs .flowMappingEnd then some ([], r.skip)
    else if first then flowPair handles steps r
    else if r.nextIs .flowEntry then
      if r.skip.nextIs .flowMappingEnd then some ([], r.skip.skip)
      else flowPair handles steps r.skip
    else none

def flowPair (handles : Handles) (steps : Nat) (r : Reading) :
    Option (List (Node × Node) × Reading) :=
  match steps with
  | 0 => none
  | steps + 1 => do
    let ((key, value), r) ←
      if r.nextIs .key then do
        let (key, r) ←
          nodeUnless [.value, .flowEntry, .flowMappingEnd] handles false false steps r.skip
        let (value, r) ←
          if r.nextIs .value then
            nodeUnless [.flowEntry, .flowMappingEnd] handles false false steps r.skip
          else some (.empty, r)
        some ((key, value), r)
      else (node handles false false steps r).map fun (key, r) => ((key, .empty), r)
    let (entries, r) ← flowEntries handles false steps r
    return ((key, value) :: entries, r)

end

end Nodes

section Documents

def directives (versionSeen : Bool) (handles : Handles) :
    List Token → Option (Handles × List Token)
  | .version major minor :: later =>
    if !versionSeen && major == 1 && (minor == 1 || minor == 2) then
      directives true handles later
    else none
  | .tagHandle handle replacement :: later =>
    if handles.any (·.1 == handle) then none
    else directives versionSeen (handles ++ [(handle, replacement)]) later
  | tokens => some (handles, tokens)

def withStandard (handles : Handles) : Handles := handles ++ standardHandles

def endsContent : Option Token → Bool
  | none => true
  | some .documentStart => true
  | some .documentEnd => true
  | some (.version _ _) => true
  | some (.tagHandle _ _) => true
  | _ => false

def content (handles : Handles) (tokens : List Token) : Option (Node × Reading) :=
  let r := Reading.ofTokens tokens
  if endsContent tokens.head? then some (.empty, r)
  else node handles true false (3 * tokens.length + 3) r

def Document.ofTokens? (tokens : List Token) : Option Document := do
  let (root, r) ←
    match tokens.head? with
    | none => some (.empty, .ofTokens [])
    | some .documentEnd => none
    | some first =>
      if endsContent (some first) then
        match directives false [] tokens with
        | some (handles, .documentStart :: tokens) => content (withStandard handles) tokens
        | _ => none
      else content standardHandles tokens
  if (r.tokens.dropWhile (· == .documentEnd)).isEmpty then
    return ⟨root, r.anchored.map fun (anchor, node) => (anchor.number, node)⟩
  else none

def Document.ofText? (text : String) : Option Document := tokens? text >>= Document.ofTokens?

end Documents

end RecordComparison.Yaml
