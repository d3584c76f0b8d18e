import Steering.Yaml.Lexer

/-!
# Reading YAML documents

A document is a tree of scalars, sequences and mappings. A node may have an anchor, by which other
places refer to it, also from within the node itself; the nodes with anchors are kept beside the
tree.
-/

namespace Steering.Yaml

inductive Node where
  | scalar (text : String) (style : ScalarStyle) (tag : Option String)
  | sequence (items : List Node)
  | mapping (entries : List (Node × Node))
  /-- Another place of the node with this number. -/
  | alias (number : Nat)
deriving Inhabited

/-- What a text says; it may say nothing at all. -/
structure Document where
  root : Option Node := none
  anchored : List (Nat × Node) := []

/-- The node meant by a node, which is another one if it is an alias. An alias within the node
that it means has no end, and is taken for an empty sequence. -/
def Document.target (d : Document) : Node → Node
  | .alias number => (d.anchored.lookup number).getD (.sequence [])
  | node => node

/-- Tokens that are being read. -/
structure Reading where
  tokens : List Token
  /-- What tags with a handle begin with. -/
  handles : List (String × String) := []
  /-- The numbers of the anchors seen. -/
  numbers : List (String × Nat) := []
  anchored : List (Nat × Node) := []

abbrev Read := StateT Reading Option

namespace Read

/-- The next token, which is left to be read. -/
def peek : Read (Option Token) := do return (← get).tokens.head?

def skip : Read Unit := modify fun r => { r with tokens := r.tokens.drop 1 }

/-- Reads the given token, if it is next. -/
def accept (token : Token) : Read Bool := do
  if (← peek) == some token then
    skip
    return true
  else return false

/-- What a tag says in full. -/
def fullTag (handle name : String) : Read String := do
  if handle.isEmpty then return name
  match (← get).handles.lookup handle with
  | some start => return start ++ name
  | none => failure

/-- Numbers an anchor by how many names there have been before. -/
def numberOf (name : String) : Read Nat := do
  let r ← get
  let number := r.numbers.length
  let others := r.numbers.filter fun entry => entry.1 != name
  set { r with numbers := (name, number) :: others }
  return number

/-- The anchor and the tag in front of a node, in any order. -/
def properties : Read (Option Nat × Option String) := do
  match ← peek with
  | some (.anchor name) =>
    skip
    match ← peek with
    | some (.tag handle tag) =>
      skip
      let tag ← fullTag handle tag
      return (some (← numberOf name), some tag)
    | _ => return (some (← numberOf name), none)
  | some (.tag handle tag) =>
    skip
    match ← peek with
    | some (.anchor name) =>
      skip
      let tag ← fullTag handle tag
      return (some (← numberOf name), some tag)
    | _ => return (none, some (← fullTag handle tag))
  | _ => return (none, none)

def emptyNode : Node := .scalar "" .plain none

/-- Whether one of the given tokens is next. -/
def isNext (tokens : List Token) : Read Bool := do return (← peek).any tokens.contains

/-- Keeps a node that has an anchor. -/
def keep (number : Option Nat) (node : Node) : Read Node := do
  if let some n := number then
    modify fun r => { r with anchored := (n, node) :: r.anchored }
  return node

mutual

/-- A node. Block collections are not allowed between brackets. A sequence that is the value of a
mapping need not be indented more than the mapping. -/
def node (block unindented : Bool) : Nat → Read Node
  | 0 => failure
  | fuel + 1 => do
    if let some (.alias name) ← peek then
      skip
      match (← get).numbers.lookup name with
      | some number => return .alias number
      | none => failure
    else
      let (number, tag) ← properties
      match ← peek with
      | some (.scalar text style) =>
        skip
        keep number (.scalar text style tag)
      | some .flowSequenceStart =>
        skip
        keep number (.sequence (← flowItems true fuel))
      | some .flowMappingStart =>
        skip
        keep number (.mapping (← flowEntries true fuel))
      | next =>
        if unindented && next == some .blockEntry then
          keep number (.sequence (← unindentedItems fuel))
        else if block && next == some .blockSequenceStart then
          skip
          keep number (.sequence (← blockItems fuel))
        else if block && next == some .blockMappingStart then
          skip
          keep number (.mapping (← blockEntries fuel))
        else if number.isSome || tag.isSome then keep number (.scalar "" .plain tag)
        else failure

/-- A node, or an empty one if a token is next that cannot begin it. -/
def nodeUnless (stops : List Token) (block unindented : Bool) : Nat → Read Node
  | 0 => failure
  | fuel + 1 => do
    if ← isNext stops then return emptyNode
    else node block unindented fuel

def blockItems : Nat → Read (List Node)
  | 0 => failure
  | fuel + 1 => do
    if ← accept .blockEntry then
      let item ← nodeUnless [.blockEntry, .blockEnd] true false fuel
      return item :: (← blockItems fuel)
    else if ← accept .blockEnd then return []
    else failure

def unindentedItems : Nat → Read (List Node)
  | 0 => failure
  | fuel + 1 => do
    if ← accept .blockEntry then
      let item ← nodeUnless [.blockEntry, .key, .value, .blockEnd] true false fuel
      return item :: (← unindentedItems fuel)
    else return []

def blockEntries : Nat → Read (List (Node × Node))
  | 0 => failure
  | fuel + 1 => do
    if ← accept .key then
      let key ← nodeUnless [.key, .value, .blockEnd] true true fuel
      let value ←
        if ← accept .value then nodeUnless [.key, .value, .blockEnd] true true fuel
        else pure emptyNode
      return (key, value) :: (← blockEntries fuel)
    else if ← accept .blockEnd then return []
    else failure

/-- The items after an opening bracket, or after an item. A key makes an item that is a mapping
with one entry. -/
def flowItems (first : Bool) : Nat → Read (List Node)
  | 0 => failure
  | fuel + 1 => do
    if ← accept .flowSequenceEnd then return []
    if !first then
      if !(← accept .flowEntry) then failure
    if ← accept .flowSequenceEnd then return []
    if ← accept .key then
      let entry ← flowPair fuel
      return .mapping [entry] :: (← flowItems false fuel)
    let item ← node false false fuel
    return item :: (← flowItems false fuel)

/-- A key and its value between square brackets. -/
def flowPair : Nat → Read (Node × Node)
  | 0 => failure
  | fuel + 1 => do
    let stops := [.value, .flowEntry, .flowSequenceEnd]
    let key ←
      if ← isNext stops then
        skip
        pure emptyNode
      else node false false fuel
    let value ←
      if ← accept .value then nodeUnless [.flowEntry, .flowSequenceEnd] false false fuel
      else pure emptyNode
    return (key, value)

def flowEntries (first : Bool) : Nat → Read (List (Node × Node))
  | 0 => failure
  | fuel + 1 => do
    if ← accept .flowMappingEnd then return []
    if !first then
      if !(← accept .flowEntry) then failure
    if ← accept .flowMappingEnd then return []
    if ← accept .key then
      let key ← nodeUnless [.value, .flowEntry, .flowMappingEnd] false false fuel
      let value ←
        if ← accept .value then nodeUnless [.flowEntry, .flowMappingEnd] false false fuel
        else pure emptyNode
      return (key, value) :: (← flowEntries false fuel)
    let key ← node false false fuel
    return (key, emptyNode) :: (← flowEntries false fuel)

end

/-! ### Documents -/

/-- The directives in front of a document. There may be one version, of the two that are alike,
and one meaning for each handle. -/
def directives : Nat → Bool → Read Unit
  | 0, _ => failure
  | fuel + 1, versioned => do
    match ← peek with
    | some (.version major minor) =>
      if versioned || major != 1 || (minor != 1 && minor != 2) then failure
      skip
      directives fuel true
    | some (.tagHandle handle start) =>
      let r ← get
      if (r.handles.lookup handle).isSome then failure
      set { r with handles := (handle, start) :: r.handles }
      skip
      directives fuel versioned
    | _ =>
      modify fun r =>
        { r with handles := r.handles ++ [("!", "!"), ("!!", "tag:yaml.org,2002:")] }

/-- Whether the next token stands outside of documents. -/
def isOutside : Option Token → Bool
  | none | some (.version _ _) | some (.tagHandle _ _) | some .documentStart
  | some .documentEnd => true
  | _ => false

/-- The only document of a text. It may be marked at its start, and has to be after
directives. -/
def document : Read Document := do
  let fuel := 4 * (← get).tokens.length + 4
  let first ← peek
  if first.isNone then return {}
  directives fuel false
  let root ←
    if isOutside first && first != some .documentEnd then
      if !(← accept .documentStart) then failure
      if isOutside (← peek) then pure emptyNode else node true false fuel
    else node true false fuel
  let r ← get
  if r.tokens.all (· == .documentEnd) then return { root := some root, anchored := r.anchored }
  else failure

end Read

/-- Reads a text, which must have no more than one document. -/
def Document.ofText? (text : String) : Option Document := do
  let tokens ← tokens? text
  let (d, _) ← Read.document.run { tokens }
  some d

end Steering.Yaml
