import ClusterTrials.Yaml.Node
import ClusterTrials.Yaml.Token.Lexer
/-!
# From tokens to documents

`Document.ofTokens?` reads a stream that holds exactly one document, or none, which counts as an empty
one. Every reader takes at least one token before it calls another one on what the first has left, or
calls one that does; `steps` bounds the calls.
-/

namespace ClusterTrials.Yaml

structure Reading where
  tokens : List Token
  /-- The handles of tags, with what they stand for. -/
  prefixes : List (String × TagPart) := []
  /-- The slot of each name that was ever an anchor. -/
  slotOf : List (String × Nat) := []
  /-- How many nodes with anchors have begun. -/
  begun : Nat := 0
  /-- Which node with an anchor, in the order of their beginnings, took a slot last. -/
  taken : List (Nat × Nat) := []
  /-- The nodes with anchors that are complete. -/
  anchored : List (Nat × Node) := []

abbrev Reader := StateT Reading Option

namespace Reader

def peek : Reader (Option Token) := return (← get).tokens.head?

def skip : Reader Unit := modify fun r => { r with tokens := r.tokens.drop 1 }

def fail {α : Type} : Reader α := fun _ => none

def expect (t : Token) : Reader Unit := do
  if (← peek) = some t then skip else fail

def reference (name : String) : Reader Node := do
  match (← get).slotOf.lookup name with
  | some slot => return .reference slot
  | none => fail

/-- Begins a node with an anchor. A name gets the slot numbered by how many different names came before
it; a name that comes again moves to a later slot, which the next new name then shares. -/
def beginAnchor (name : String) : Reader Nat := do
  let r ← get
  let slot := r.slotOf.length
  let others := r.slotOf.filter fun (other, _) => other != name
  set { r with
    slotOf := (name, slot) :: others, begun := r.begun + 1
    taken := (slot, r.begun) :: r.taken }
  return r.begun

def endAnchor (anchor : Option Nat) (node : Node) : Reader Node := do
  if let some begun := anchor then
    modify fun r => { r with anchored := (begun, node) :: r.anchored }
  return node

def tagName (handle : Option String) (suffix : TagPart) : Reader TagPart := do
  match handle with
  | none => return suffix
  | some handle =>
    match (← get).prefixes.lookup handle with
    | some start => return start ++ suffix
    | none => fail

/-- Takes an anchor and a tag, in either order, as far as they are there. -/
def properties : Reader (Option String × Option TagPart) := do
  match ← peek with
  | some (.anchor name) =>
    skip
    match ← peek with
    | some (.tag handle suffix) =>
      skip
      return (some name, some (← tagName handle suffix))
    | _ => return (some name, none)
  | some (.tag handle suffix) =>
    skip
    match ← peek with
    | some (.anchor name) =>
      skip
      return (some name, some (← tagName handle suffix))
    | _ => return (none, some (← tagName handle suffix))
  | _ => return (none, none)

def scalarNode (text : String) (style : ScalarStyle) (tag : Option TagPart) : Node :=
  .scalar { text, style, tag }

mutual

/-- Reads a node. Block collections are read only in a block context, and one whose entries are not
indented only where a mapping's key or value stands. -/
def node (inBlock unindented : Bool) : (steps : Nat) → Reader Node
  | 0 => fail
  | steps + 1 => do
    match ← peek with
    | some (.alias name) =>
      skip
      reference name
    | _ =>
      let (name, tag) ← properties
      let anchor ← match name with
        | some name => some <$> beginAnchor name
        | none => pure none
      let content ← match ← peek with
        | some .blockEntry =>
          if unindented then .sequence <$> unindentedItems steps
          else if name.isSome || tag.isSome then pure (scalarNode "" .plain tag)
          else fail
        | some (.scalar text style) => do
          skip
          pure (scalarNode text style tag)
        | some .flowSequenceStart => do
          skip
          .sequence <$> flowItems true steps
        | some .flowMappingStart => do
          skip
          .mapping <$> flowEntries true steps
        | some .blockSequenceStart =>
          if inBlock then do
            skip
            .sequence <$> blockItems steps
          else if name.isSome || tag.isSome then pure (scalarNode "" .plain tag)
          else fail
        | some .blockMappingStart =>
          if inBlock then do
            skip
            .mapping <$> blockEntries steps
          else if name.isSome || tag.isSome then pure (scalarNode "" .plain tag)
          else fail
        | _ => if name.isSome || tag.isSome then pure (scalarNode "" .plain tag) else fail
      endAnchor anchor content

/-- Reads a node, unless one of the given tokens comes first: then there is none. -/
def nodeUnless (ends : List Token) (inBlock unindented : Bool) : (steps : Nat) → Reader Node
  | 0 => fail
  | steps + 1 => do
    if (← peek).all (· ∈ ends) then return .empty else node inBlock unindented steps

def blockItems : (steps : Nat) → Reader (List Node)
  | 0 => fail
  | steps + 1 => do
    match ← peek with
    | some .blockEntry =>
      skip
      let item ← nodeUnless [.blockEntry, .blockEnd] true false steps
      return item :: (← blockItems steps)
    | some .blockEnd =>
      skip
      return []
    | _ => fail

def unindentedItems : (steps : Nat) → Reader (List Node)
  | 0 => fail
  | steps + 1 => do
    match ← peek with
    | some .blockEntry =>
      skip
      let item ← nodeUnless [.blockEntry, .key, .value, .blockEnd] true false steps
      return item :: (← unindentedItems steps)
    | _ => return []

def blockEntries : (steps : Nat) → Reader (List (Node × Node))
  | 0 => fail
  | steps + 1 => do
    match ← peek with
    | some .key =>
      skip
      let key ← nodeUnless [.key, .value, .blockEnd] true true steps
      let value ← match ← peek with
        | some .value => do
          skip
          nodeUnless [.key, .value, .blockEnd] true true steps
        | _ => pure .empty
      return (key, value) :: (← blockEntries steps)
    | some .blockEnd =>
      skip
      return []
    | _ => fail

/-- Reads the items of a flow sequence. An item may be a single entry of a mapping. -/
def flowItems (first : Bool) : (steps : Nat) → Reader (List Node)
  | 0 => fail
  | steps + 1 => do
    if (← peek) = some .flowSequenceEnd then
      skip
      return []
    unless first do expect .flowEntry
    match ← peek with
    | some .flowSequenceEnd =>
      skip
      return []
    | some .key =>
      skip
      let entry ← flowPair steps
      return .mapping [entry] :: (← flowItems false steps)
    | _ =>
      let item ← node false false steps
      return item :: (← flowItems false steps)

/-- Reads an entry that stands alone in a flow sequence. Where its key is missing, the token that comes
instead is lost. -/
def flowPair : (steps : Nat) → Reader (Node × Node)
  | 0 => fail
  | steps + 1 => do
    let key ← do
      if (← peek).all (· ∈ [Token.value, .flowEntry, .flowSequenceEnd]) then do
        skip
        pure .empty
      else node false false steps
    let value ← match ← peek with
      | some .value => do
        skip
        nodeUnless [.flowEntry, .flowSequenceEnd] false false steps
      | _ => pure .empty
    return (key, value)

def flowEntries (first : Bool) : (steps : Nat) → Reader (List (Node × Node))
  | 0 => fail
  | steps + 1 => do
    if (← peek) = some .flowMappingEnd then
      skip
      return []
    unless first do expect .flowEntry
    match ← peek with
    | some .flowMappingEnd =>
      skip
      return []
    | some .key =>
      skip
      let key ← nodeUnless [.value, .flowEntry, .flowMappingEnd] false false steps
      let value ← match ← peek with
        | some .value => do
          skip
          nodeUnless [.flowEntry, .flowMappingEnd] false false steps
        | _ => pure .empty
      return (key, value) :: (← flowEntries false steps)
    | _ =>
      let key ← node false false steps
      return (key, .empty) :: (← flowEntries false steps)

end

/-- Takes the directives before a document, and tells whether there were any. -/
def directives : List Token → (versionSeen : Bool) → List (String × TagPart) →
    Option (List Token × List (String × TagPart))
  | .version major minor :: rest, versionSeen, prefixes =>
    if versionSeen || major ≠ 1 || (minor ≠ 1 && minor ≠ 2) then none
    else directives rest true prefixes
  | .tagPrefix handle start :: rest, versionSeen, prefixes =>
    if (prefixes.lookup handle).isSome then none
    else directives rest versionSeen ((handle, start) :: prefixes)
  | rest, _, prefixes => some (rest, prefixes)

def commonPrefixes : List (String × TagPart) :=
  [("!", Text.encode "!"), ("!!", Text.encode "tag:yaml.org,2002:")]

def content (steps : Nat) : Reader Node := do
  match ← peek with
  | some (.version ..) | some (.tagPrefix ..) | some .documentStart | some .documentEnd
  | some .streamEnd | none => return .empty
  | _ => node true false steps

def finish (root : Node) : Reader Document := do
  let r ← get
  return { root, slots := r.taken.filterMap fun (slot, begun) =>
    (r.anchored.lookup begun).map fun node => (slot, node) }

/-- Takes the marks after a document, behind which nothing may follow. -/
def endOfStream : Reader Unit := do
  modify fun r => { r with tokens := r.tokens.dropWhile (· = .documentEnd) }
  expect .streamEnd

end Reader

def Document.ofTokens? (tokens : List Token) : Option Document := do
  if tokens.head? = some .streamEnd then return { root := .empty }
  let steps := 4 * tokens.length + 4
  let (rest, prefixes) ← Reader.directives tokens false []
  let explicit := rest.head? = some .documentStart
  guard (explicit || rest.length = tokens.length)
  let reading : Reading :=
    { tokens := if explicit then rest.drop 1 else rest
      prefixes := prefixes ++ Reader.commonPrefixes }
  let reader : Reader Document := do
    let root ← if explicit then Reader.content steps else Reader.node true false steps
    let document ← Reader.finish root
    Reader.endOfStream
    return document
  (reader.run reading).map (·.1)

def Document.ofText? (text : String) : Option Document := do
  ofTokens? (← Token.ofSource? (← source? text))

end ClusterTrials.Yaml
