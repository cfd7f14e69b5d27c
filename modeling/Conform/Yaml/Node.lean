import Conform.Yaml.Token

/-! The nodes that the tokens of a stream make up. -/

namespace Conform.Yaml

/-- A scalar: its tag, written out, its style and its text. -/
structure Scalar where
  tag : Option (List Char)
  style : Style
  text : List Char
deriving DecidableEq

/-- A node as it stands in the stream. An alias names the slot of an anchor. -/
inductive Node where
  | scalar (scalar : Scalar)
  | sequence (tag : Option (List Char)) (items : List Node)
  | mapping (tag : Option (List Char)) (members : List (Node × Node))
  | reference (slot : Nat)

instance : Inhabited Node := ⟨.reference 0⟩

/-- The scalar that is not written at all. -/
def Scalar.empty : Scalar := ⟨none, .plain, []⟩

/-- Anchors, by slots. The slot of an anchor is the number of names that were known before it, and so
a name that is given again shares its slot with the name that comes next. -/
structure Anchors where
  /-- The slot that each name leads to. -/
  names : List (List Char × Nat)
  /-- For each slot the place of its node among all anchored nodes, the last one first. -/
  slots : List (Nat × Nat)
  /-- How many nodes have an anchor. -/
  count : Nat
  /-- The anchored nodes that are complete, by their places. -/
  nodes : List (Nat × Node)

/-- The tokens that are left, and what was learnt from those before. -/
structure Reading where
  tokens : List Token
  /-- What the tag handles abbreviate. -/
  handles : List (List Char × List Char)
  anchors : Anchors
  /-- How many steps the document takes so far: a collection takes one at either end. -/
  steps : Nat

/-- Reads something from the tokens. -/
abbrev NodeReader (α : Type) := StateT Reading Option α

namespace NodeReader

/-- The next token. -/
def next? : NodeReader (Option Token) := do
  return (← get).tokens.head?

/-- Goes over the next token. -/
def skip : NodeReader Unit :=
  modify fun reading => { reading with tokens := reading.tokens.tail }

/-- Counts some steps. -/
def count (steps : Nat) : NodeReader Unit :=
  modify fun reading => { reading with steps := reading.steps + steps }

/-- Goes over a token that has to come next. -/
def expect (token : Token) : NodeReader Unit := do
  if (← next?) = some token then skip else failure

/-- Whether the next token is one of these. -/
def sees (tokens : List Token) : NodeReader Bool := do
  return (← next?).any tokens.contains

/-- A scalar that is not written. -/
def missing : NodeReader Node := do
  count 1
  return .scalar .empty

/-- Gives an anchor to the node that begins here; the answer is its place. -/
def anchor (name : List Char) : NodeReader Nat := do
  let reading ← get
  let anchors := reading.anchors
  let slot := anchors.names.length
  -- A name that is given again leads to the later node from here on.
  let names := (name, slot) :: anchors.names.filter (·.1 != name)
  set { reading with
    anchors := { anchors with
      names := names
      slots := (slot, anchors.count) :: anchors.slots
      count := anchors.count + 1 } }
  return anchors.count

/-- Keeps the node that an anchor was given to. -/
def keep (place : Option Nat) (node : Node) : NodeReader Node := do
  match place with
  | none => return node
  | some place =>
    modify fun reading =>
      { reading with
        anchors := { reading.anchors with nodes := (place, node) :: reading.anchors.nodes } }
    return node

/-- The tag that a handle and a suffix make. -/
def resolveTag (handle suffix : List Char) : NodeReader (List Char) := do
  if handle = [] then return suffix
  else
    match (← get).handles.lookup handle with
    | some start => return start ++ suffix
    | none => failure

/-- The anchor and the tag in front of a node, in either order. -/
def readProperties : NodeReader (Option (List Char) × Option (List Char)) := do
  match ← next? with
  | some (.anchor name) => do
    skip
    match ← next? with
    | some (.tag handle suffix) => do
      skip
      return (some name, some (← resolveTag handle suffix))
    | _ => return (some name, none)
  | some (.tag handle suffix) => do
    skip
    match ← next? with
    | some (.anchor name) => do
      skip
      return (some name, some (← resolveTag handle suffix))
    | _ => return (none, some (← resolveTag handle suffix))
  | _ => return (none, none)

/-- The tag of a scalar: a lone exclamation mark is none, and the style of a plain scalar decides what
it means. -/
def scalarTag (tag : Option (List Char)) : Option (List Char) :=
  if tag = some ['!'] then none else tag

mutual

/-- A node, in at most `steps` nested steps. Block collections stand where `inBlock` allows, and
elements that are not indented stand where `loose` allows. -/
def readNode : Nat → Bool → Bool → NodeReader Node
  | 0, _, _ => failure
  | steps + 1, inBlock, loose => do
    match ← next? with
    | some (.reference name) => do
      skip
      count 1
      match (← get).anchors.names.lookup name with
      | some slot => return .reference slot
      | none => failure
    | _ => do
      let (name, tag) ← readProperties
      let place ← name.mapM anchor
      match ← next? with
      | some (.scalar style text) => do
        skip
        count 1
        keep place (.scalar ⟨scalarTag tag, style, text⟩)
      | some .hyphen =>
        if loose then do
          count 2
          keep place (.sequence tag (← readLooseItems steps))
        else readMissing place name tag
      | some .openBracket => do
        skip
        count 2
        keep place (.sequence tag (← readFlowItems steps true))
      | some .openBrace => do
        skip
        count 2
        keep place (.mapping tag (← readFlowMembers steps true))
      | some .blockSequence =>
        if inBlock then do
          skip
          count 2
          keep place (.sequence tag (← readBlockItems steps))
        else readMissing place name tag
      | some .blockMapping =>
        if inBlock then do
          skip
          count 2
          keep place (.mapping tag (← readBlockMembers steps))
        else readMissing place name tag
      | _ => readMissing place name tag

/-- A node of which only an anchor or a tag is written. -/
def readMissing (place : Option Nat) (name tag : Option (List Char)) : NodeReader Node := do
  if name.isNone ∧ tag.isNone then failure
  else
    count 1
    keep place (.scalar ⟨tag, .plain, []⟩)

/-- A node within a block collection, which is missing if one of some tokens comes next. -/
def readPart : Nat → Bool → List Token → NodeReader Node
  | 0, _, _ => failure
  | steps + 1, loose, ends => do
    if ← sees ends then missing else readNode steps true loose

/-- The elements of a block sequence. -/
def readBlockItems : Nat → NodeReader (List Node)
  | 0 => failure
  | steps + 1 => do
    if ← sees [.hyphen] then
      skip
      let item ← readPart steps false [.hyphen, .blockEnd]
      return item :: (← readBlockItems steps)
    else do
      expect .blockEnd
      return []

/-- The elements of a block sequence that is not indented. -/
def readLooseItems : Nat → NodeReader (List Node)
  | 0 => failure
  | steps + 1 => do
    if ← sees [.hyphen] then
      skip
      let item ← readPart steps false [.hyphen, .key, .value, .blockEnd]
      return item :: (← readLooseItems steps)
    else return []

/-- The members of a block mapping. -/
def readBlockMembers : Nat → NodeReader (List (Node × Node))
  | 0 => failure
  | steps + 1 => do
    if ← sees [.key] then
      skip
      let key ← readPart steps true [.key, .value, .blockEnd]
      let value ←
        if ← sees [.value] then do
          skip
          readPart steps true [.key, .value, .blockEnd]
        else missing
      return (key, value) :: (← readBlockMembers steps)
    else do
      expect .blockEnd
      return []

/-- The value of a member within brackets, if a colon introduces one. -/
def readFlowValue : Nat → Token → NodeReader Node
  | 0, _ => failure
  | steps + 1, close => do
    if ← sees [.value] then
      skip
      if ← sees [.comma, close] then missing else readNode steps false false
    else missing

/-- The elements of a flow sequence; all but the first follow a comma. A member without braces is a
mapping of its own. -/
def readFlowItems : Nat → Bool → NodeReader (List Node)
  | 0, _ => failure
  | steps + 1, first => do
    if ← sees [.closeBracket] then
      skip
      return []
    else do
      if !first then expect .comma
      if ← sees [.key] then
        skip
        count 2
        let key ←
          -- A key that is missing takes the place of the token that stands there.
          if ← sees [.value, .comma, .closeBracket] then do
            skip
            missing
          else readNode steps false false
        let value ← readFlowValue steps .closeBracket
        return .mapping none [(key, value)] :: (← readFlowItems steps false)
      else if ← sees [.closeBracket] then
        skip
        return []
      else do
        let item ← readNode steps false false
        return item :: (← readFlowItems steps false)

/-- The members of a flow mapping; all but the first follow a comma. A key may stand alone. -/
def readFlowMembers : Nat → Bool → NodeReader (List (Node × Node))
  | 0, _ => failure
  | steps + 1, first => do
    if ← sees [.closeBrace] then
      skip
      return []
    else do
      if !first then expect .comma
      if ← sees [.key] then
        skip
        let key ←
          if ← sees [.value, .comma, .closeBrace] then missing else readNode steps false false
        let value ← readFlowValue steps .closeBrace
        return (key, value) :: (← readFlowMembers steps false)
      else if ← sees [.closeBrace] then
        skip
        return []
      else do
        let key ← readNode steps false false
        let value ← missing
        return (key, value) :: (← readFlowMembers steps false)

end

/-- The directives before a document. The version, given once at most, is one of two, and no tag handle
is given twice; two handles have a meaning from the start. -/
def readDirectives : Nat → Bool → List (List Char × List Char) →
    NodeReader (List (List Char × List Char))
  | 0, _, _ => failure
  | steps + 1, versioned, handles => do
    match ← next? with
    | some (.version major minor) =>
      if versioned ∨ major ≠ 1 ∨ (minor ≠ 1 ∧ minor ≠ 2) then failure
      else do
        skip
        readDirectives steps true handles
    | some (.handle handle start) =>
      if (handles.lookup handle).isSome then failure
      else do
        skip
        readDirectives steps versioned ((handle, start) :: handles)
    | _ => return handles ++ [(['!'], ['!']), (['!', '!'], "tag:yaml.org,2002:".toList)]

/-- Whether the token shows that a document begins. -/
def startsDocument : Token → Bool
  | .version .. => true
  | .handle .. => true
  | .documentStart => true
  | _ => false

/-- The one document of a stream, or none if the stream is empty. -/
def readStream : NodeReader (Option Node) := do
  -- Every token takes a few nested steps at most.
  let steps := 4 * ((← get).tokens.length + 1)
  match ← next? with
  | none => return none
  | some first => do
    let handles ← readDirectives steps false []
    modify fun reading => { reading with handles := handles }
    let explicit := startsDocument first
    if explicit then expect .documentStart
    let isEmpty := (← next?).all fun token => startsDocument token || token == .documentEnd
    let root ← if explicit && isEmpty then missing else readNode steps true false
    -- Nothing may follow but the ends of the document.
    let rest := (← get).tokens
    if rest.all (· == .documentEnd) then return some root else failure

end NodeReader

/-- The document of a stream, with what its aliases stand for. -/
structure Document where
  /-- None in an empty stream. -/
  root : Option Node
  anchors : Anchors
  steps : Nat

/-- The document that tokens make up. -/
def Document.ofTokens? (tokens : List Token) : Option Document := do
  let start : Reading := ⟨tokens, [], ⟨[], [], 0, []⟩, 0⟩
  let (root, reading) ← NodeReader.readStream.run start
  return ⟨root, reading.anchors, reading.steps⟩

end Conform.Yaml
