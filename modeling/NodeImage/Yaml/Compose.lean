import NodeImage.Yaml.Scanner
import NodeImage.Yaml.Resolve

/-!
# From tokens to a document tree

A recursive-descent reading of the token list into one document: a tree of scalar, sequence
and mapping nodes, each with its resolved tag. The grammar is YAML's: block collections
between their start token and `blockEnd`, flow collections between brackets, a sequence
written without indentation as a mapping value, a single-pair mapping inside a flow
sequence, and an empty scalar wherever a node may be left out.

Anchors name nodes and aliases repeat them; an alias must name an anchor met earlier in the
document, and an anchor may not be given twice. Every node gets a number of its own, and an
alias is the very node it names, number included; an alias to a collection that is still
being read, which makes the document contain itself, is a back reference to that number. A tag `!!name` stands for `tag:yaml.org,2002:name`, and `%TAG`
directives may define other handles. A node without a tag gets one from its kind and, for a
plain scalar, from its text (`implicitTag`).

The text must hold at most one document: after it only document end markers may follow.

Every reading function takes fuel, passed down one less on every call. Each call reads a
token or descends into a node that does, so twice the number of tokens is enough.
-/

namespace NodeImage.Yaml

/-- A node of a YAML document with its number and resolved tag. -/
inductive Node where
  | scalar (id : Nat) (tag : String) (text : String)
  | seq (id : Nat) (tag : String) (items : List Node)
  | map (id : Nat) (tag : String) (pairs : List (Node × Node))
  /-- An alias to the collection numbered `id`, met while that collection is read. -/
  | backRef (id : Nat)
deriving Inhabited

/-- The number of a node. -/
def Node.id : Node → Nat
  | .scalar i _ _ | .seq i _ _ | .map i _ _ | .backRef i => i

/-- The state of reading tokens into nodes. -/
structure Composer where
  tokens : Array Token
  pos : Nat := 0
  anchors : List (String × Node) := []
  pending : List (String × Nat) := []
  nextId : Nat := 0
  handles : List (String × String) := [("!", "!"), ("!!", coreTag "")]

/-- Reading steps; `none` when the tokens do not form a document. -/
abbrev ComposeM := StateT Composer Option

namespace Compose

/-- The current token. -/
def current : ComposeM Token := do
  let s ← get
  pure (s.tokens.getD s.pos .streamEnd)

/-- Moves to the next token. -/
def advance : ComposeM Unit := modify fun s => { s with pos := s.pos + 1 }

/-- Whether the current token is of one of the kinds given. -/
def atAny (kinds : List Token) : ComposeM Bool := do
  let t ← current
  pure (kinds.any t.sameKind)

/-- A number for a new node. -/
def freshId : ComposeM Nat := do
  let s ← get
  set { s with nextId := s.nextId + 1 }
  pure s.nextId

/-- The empty scalar that stands for a node left out. -/
def emptyNode : ComposeM Node := do pure (.scalar (← freshId) (implicitTag "") "")

/-- The tag of a node given by a tag token, through the tag handles. -/
def tagOf (handle : Option String) (suffix : String) : ComposeM String := do
  match handle with
  | none => pure suffix
  | some h =>
    match (← get).handles.lookup h with
    | some pfx => pure (pfx ++ suffix)
    | none => failure

/-- The anchor and the tag before a node, in either order. -/
def properties : ComposeM (Option String × Option String) := do
  match ← current with
  | .anchor a =>
    advance
    match ← current with
    | .tag h s => advance; pure (some a, some (← tagOf h s))
    | _ => pure (some a, none)
  | .tag h s =>
    advance
    let tag ← tagOf h s
    match ← current with
    | .anchor a => advance; pure (some a, some tag)
    | _ => pure (none, some tag)
  | _ => pure (none, none)

/-- The tag of a collection: its own, or the kind's when it has none. -/
def collectionTag (tag : Option String) (kind : String) : String :=
  match tag with
  | none => coreTag kind
  | some t => if t == "!" then coreTag kind else t

/-- Starts a collection numbered `id` with an anchor: an alias to the anchor inside it is a
back reference. -/
def openAnchor (id : Nat) : Option String → ComposeM Unit
  | none => pure ()
  | some a => modify fun s => { s with pending := (a, id) :: s.pending }

/-- Gives a finished node its anchor. -/
def closeAnchor (anchor : Option String) (node : Node) : ComposeM Node := do
  match anchor with
  | none => pure node
  | some a =>
    modify fun s => { s with anchors := (a, node) :: s.anchors,
                              pending := s.pending.filter (·.1 != a) }
    pure node

mutual

/-- A node. `block` allows block collections; `indentless` allows a sequence written
without indentation. -/
def node (block indentless : Bool) : Nat → ComposeM Node
  | 0 => failure
  | n + 1 => do
    match ← current with
    | .aliasOf name =>
      advance
      let s ← get
      match s.pending.lookup name with
      | some id => pure (.backRef id)
      | none =>
        match s.anchors.lookup name with
        | some found => pure found
        | none => failure
    | _ =>
      let (anchor, tag) ← properties
      if let some a := anchor then
        let s ← get
        if (s.pending.lookup a).isSome || (s.anchors.lookup a).isSome then failure
      let t ← current
      let id ← freshId
      if indentless && t.sameKind .blockEntry then
        openAnchor id anchor
        let items ← indentlessEntries n []
        closeAnchor anchor (.seq id (collectionTag tag "seq") items)
      else
        match t with
        | .scalar text plain =>
          advance
          let resolved := match tag with
            | none => if plain then implicitTag text else coreTag "str"
            | some g => if g == "!" then implicitTag text else g
          closeAnchor anchor (.scalar id resolved text)
        | .flowSequenceStart =>
          advance
          openAnchor id anchor
          let items ← flowSeqEntries n true []
          closeAnchor anchor (.seq id (collectionTag tag "seq") items)
        | .flowMappingStart =>
          advance
          openAnchor id anchor
          let pairs ← flowMapEntries n true []
          closeAnchor anchor (.map id (collectionTag tag "map") pairs)
        | .blockSequenceStart =>
          if !block then failure
          advance
          openAnchor id anchor
          let items ← blockSeqEntries n []
          closeAnchor anchor (.seq id (collectionTag tag "seq") items)
        | .blockMappingStart =>
          if !block then failure
          advance
          openAnchor id anchor
          let pairs ← blockMapEntries n []
          closeAnchor anchor (.map id (collectionTag tag "map") pairs)
        | _ =>
          if anchor.isNone && tag.isNone then failure
          let resolved := match tag with
            | none => implicitTag ""
            | some g => if g == "!" then implicitTag "" else g
          closeAnchor anchor (.scalar id resolved "")

/-- The entries of a block sequence, up to its `blockEnd`. -/
def blockSeqEntries : Nat → List Node → ComposeM (List Node)
  | 0, _ => failure
  | n + 1, acc => do
    match ← current with
    | .blockEntry =>
      advance
      if ← atAny [.blockEntry, .blockEnd] then blockSeqEntries n (acc ++ [← emptyNode])
      else
        let item ← node true false n
        blockSeqEntries n (acc ++ [item])
    | .blockEnd => advance; pure acc
    | _ => failure

/-- The entries of a sequence written without indentation, up to the first token that is
not an entry. -/
def indentlessEntries : Nat → List Node → ComposeM (List Node)
  | 0, _ => failure
  | n + 1, acc => do
    match ← current with
    | .blockEntry =>
      advance
      if ← atAny [.blockEntry, .key, .value, .blockEnd] then indentlessEntries n (acc ++ [← emptyNode])
      else
        let item ← node true false n
        indentlessEntries n (acc ++ [item])
    | _ => pure acc

/-- The pairs of a block mapping, up to its `blockEnd`. -/
def blockMapEntries : Nat → List (Node × Node) → ComposeM (List (Node × Node))
  | 0, _ => failure
  | n + 1, acc => do
    match ← current with
    | .key =>
      advance
      let k ← if ← atAny [.key, .value, .blockEnd] then emptyNode else node true true n
      let v ← if (← current).sameKind .value then do
          advance
          if ← atAny [.key, .value, .blockEnd] then emptyNode else node true true n
        else emptyNode
      blockMapEntries n (acc ++ [(k, v)])
    | .blockEnd => advance; pure acc
    | _ => failure

/-- The entries of a flow sequence, up to its closing bracket. An entry `k: v` is a
mapping of one pair. -/
def flowSeqEntries : Nat → Bool → List Node → ComposeM (List Node)
  | 0, _, _ => failure
  | n + 1, first, acc => do
    if (← current).sameKind .flowSequenceEnd then
      advance
      return acc
    if !first then
      if (← current).sameKind .flowEntry then advance else failure
    match ← current with
    | .key =>
      advance
      let k ← if ← atAny [.value, .flowEntry, .flowSequenceEnd] then emptyNode
        else node false false n
      let v ← if (← current).sameKind .value then do
          advance
          if ← atAny [.flowEntry, .flowSequenceEnd] then emptyNode else node false false n
        else emptyNode
      flowSeqEntries n false (acc ++ [.map (← freshId) (coreTag "map") [(k, v)]])
    | .flowSequenceEnd => advance; pure acc
    | _ =>
      let item ← node false false n
      flowSeqEntries n false (acc ++ [item])

/-- The pairs of a flow mapping, up to its closing brace. An entry without `:` has an
empty value. -/
def flowMapEntries : Nat → Bool → List (Node × Node) → ComposeM (List (Node × Node))
  | 0, _, _ => failure
  | n + 1, first, acc => do
    if (← current).sameKind .flowMappingEnd then
      advance
      return acc
    if !first then
      if (← current).sameKind .flowEntry then advance else failure
    match ← current with
    | .key =>
      advance
      let k ← if ← atAny [.value, .flowEntry, .flowMappingEnd] then emptyNode
        else node false false n
      let v ← if (← current).sameKind .value then do
          advance
          if ← atAny [.flowEntry, .flowMappingEnd] then emptyNode else node false false n
        else emptyNode
      flowMapEntries n false (acc ++ [(k, v)])
    | .flowMappingEnd => advance; pure acc
    | _ =>
      let k ← node false false n
      flowMapEntries n false (acc ++ [(k, ← emptyNode)])

end

/-- Skips document end markers. -/
def skipDocumentEnds : Nat → ComposeM Unit
  | 0 => pure ()
  | n + 1 => do
    if (← current).sameKind .documentEnd then
      advance
      skipDocumentEnds n

/-- Reads the directives before an explicit document: at most one `%YAML` directive, of
major version 1, and `%TAG` directives that define each handle once. -/
def directives : Nat → Bool → List (String × String) → ComposeM Unit
  | 0, _, _ => failure
  | n + 1, seenVersion, defined => do
    match ← current with
    | .directive _ (.version major _) =>
      if seenVersion || major != 1 then failure
      advance
      directives n true defined
    | .directive _ (.tagHandle handle pfx) =>
      if (defined.lookup handle).isSome then failure
      advance
      directives n seenVersion (defined ++ [(handle, pfx)])
    | .directive _ .ignored =>
      advance
      directives n seenVersion defined
    | _ =>
      let defaults := [("!", "!"), ("!!", coreTag "")].filter fun d => (defined.lookup d.1).isNone
      modify fun s => { s with handles := defined ++ defaults }

/-- The single document of the tokens, `some none` when there is none. -/
def document (fuel : Nat) : ComposeM (Option Node) := do
  advance
  let root ← if ← atAny [.directive "" .ignored, .documentStart, .streamEnd] then do
      skipDocumentEnds fuel
      if (← current).sameKind .streamEnd then return none
      directives fuel false []
      if !(← current).sameKind .documentStart then failure
      advance
      if ← atAny [.directive "" .ignored, .documentStart, .documentEnd, .streamEnd] then
        emptyNode
      else node true false fuel
    else node true false fuel
  skipDocumentEnds fuel
  if !(← current).sameKind .streamEnd then failure
  pure (some root)

end Compose

/-- Why a text is not one YAML document: it does not read as one, or an escape in it names
a code point beyond the last one. -/
inductive ComposeStop where
  | malformed
  | codePointTooLarge
deriving Repr, DecidableEq

/-- The document of a YAML text with the count of numbers given to its nodes: `none` for a
text with no document. -/
def compose (text : String) : Except ComposeStop (Option (Node × Nat)) :=
  match tokenize text with
  | .error .codePointTooLarge => .error .codePointTooLarge
  | .error (.stuck _) => .error .malformed
  | .ok tokens =>
    let fuel := 2 * tokens.length + 10
    match (Compose.document fuel).run { tokens := tokens.toArray } with
    | none => .error .malformed
    | some (none, _) => .ok none
    | some (some root, s) => .ok (some (root, s.nextId))

end NodeImage.Yaml
