import VariantRepair.Yaml.Token
import VariantRepair.Yaml.Meaning

/-!
The nodes of a YAML document: scalars, sequences and mappings with the kinds of data that they stand
for. Nodes are known by numbers, because an alias stands for the very node that was anchored, which
may be one that it is part of.
-/

namespace VariantRepair.Yaml

/-- The number of a node. -/
abbrev NodeId := Nat

/-- What a node consists of. -/
inductive Shape where
  | scalar (points : List Nat)
  | sequence (items : List NodeId)
  | mapping (pairs : List (NodeId × NodeId))
deriving Repr, Inhabited

/-- A node. A tag of no known kind has none. -/
structure Node where
  kind : Option Kind
  shape : Shape
deriving Repr, Inhabited

/-- The nodes of a document, each at its number. -/
abbrev Graph := Array Node

/-- The node with a number; what is no node is an empty scalar of no kind. -/
def Graph.node (g : Graph) (n : NodeId) : Node :=
  g[n]?.getD { kind := none, shape := .scalar [] }

/-- What reading nodes keeps. -/
structure Compose where
  rest : List Token
  /-- What the handles of tags stand for. -/
  handles : List (String × String)
  anchors : List (String × NodeId)
  graph : Graph

abbrev ComposeM := StateT Compose (Except Error)

/-- The next token; a fault in its place ends the reading. -/
def next : ComposeM Token := do
  match (← get).rest with
  | .fault e :: _ => throw e
  | t :: _ => return t
  | [] => throw .malformed

/-- Is the next token one of these? -/
def nextIsOne (ts : List Token) : ComposeM Bool :=
  return ts.contains (← next)

/-- Take a token. -/
def drop : ComposeM Unit :=
  modify fun s => { s with rest := s.rest.drop 1 }

/-- Take the token if it is this one. -/
def takeIf (t : Token) : ComposeM Bool := do
  if (← next) == t then
    drop
    return true
  else return false

/-- Take this token. -/
def expect (t : Token) : ComposeM Unit := do
  if !(← takeIf t) then throw .malformed

/-- Add a node. -/
def add (kind : Option Kind) (shape : Shape) : ComposeM NodeId := do
  let s ← get
  set { s with graph := s.graph.push { kind, shape } }
  return s.graph.size

/-- Give a node its parts. -/
def complete (n : NodeId) (shape : Shape) : ComposeM Unit :=
  modify fun s => { s with graph := s.graph.modify n fun node => { node with shape } }

/-- Let an anchor stand for a node. -/
def anchorAt (anchor : Option String) (n : NodeId) : ComposeM Unit :=
  match anchor with
  | none => pure ()
  | some a => modify fun s => { s with anchors := (a, n) :: s.anchors }

/-- An empty scalar. -/
def emptyNode : ComposeM NodeId :=
  add (some .null) (.scalar [])

/-- The full tag for a tag as written. -/
def fullTag (t : TagText) : ComposeM String := do
  match t.handle with
  | none => return t.ending
  | some h =>
    match (← get).handles.lookup h with
    | some start => return start ++ t.ending
    | none => throw .malformed

/-- Anchor and tag before a node, in either order. -/
def properties : ComposeM (Option String × Option String) := do
  match ← next with
  | .anchor a =>
    drop
    match ← next with
    | .tag t =>
      drop
      return (some a, some (← fullTag t))
    | _ => return (some a, none)
  | .tag t =>
    drop
    match ← next with
    | .anchor a =>
      drop
      return (some a, some (← fullTag t))
    | _ => return (none, some (← fullTag t))
  | _ => return (none, none)

/-- How a node begins. -/
inductive Opening where
  | scalar (isPlain : Bool) (points : List Nat)
  | flowSequence
  | flowMapping
  | blockSequence
  | flatSequence
  | blockMapping
deriving Repr, DecidableEq

/-- Find out how a node begins; `inBlock` says whether blocks may begin, and `flat` whether entries
may stand without indentation. A node may be empty when it is `marked`: when an anchor or a tag
came. -/
def opening (inBlock flat marked : Bool) : ComposeM Opening := do
  let empty : ComposeM Opening :=
    if marked then return .scalar true [] else throw .malformed
  match ← next with
  | .blockEntry => if flat then return .flatSequence else empty
  | .scalar isPlain points =>
    drop
    return .scalar isPlain points
  | .flowSequenceStart =>
    drop
    return .flowSequence
  | .flowMappingStart =>
    drop
    return .flowMapping
  | .sequenceStart =>
    if inBlock then
      drop
      return .blockSequence
    else empty
  | .mappingStart =>
    if inBlock then
      drop
      return .blockMapping
    else empty
  | _ => empty

/-- The kind of a scalar. Without a tag it is found from the form of a plain scalar; the tag of a
mere exclamation mark asks for the form in any case. -/
def scalarKind (tag : Option String) (isPlain : Bool) (points : List Nat) : Option Kind :=
  match tag with
  | none => if isPlain then plainKind points else some .text
  | some "!" => plainKind points
  | some t => Kind.ofTag? t

/-- The kind of a collection; without a tag it is its own. -/
def collectionKind (tag : Option String) (own : Kind) : Option Kind :=
  match tag with
  | none | some "!" => some own
  | some t => Kind.ofTag? t

mutual

/-- A node. -/
def node (inBlock flat : Bool) : (fuel : Nat) → ComposeM NodeId
  | 0 => throw .malformed
  | fuel + 1 => do
    match ← next with
    | .alias name =>
      drop
      match (← get).anchors.lookup name with
      | some n => return n
      | none => throw .malformed
    | _ =>
      let (anchor, tag) ← properties
      let o ← opening inBlock flat (anchor.isSome || tag.isSome)
      if let some a := anchor then
        if ((← get).anchors.lookup a).isSome then throw .malformed
      content anchor tag o fuel

/-- The node that begins in some way. A collection can be an alias's node while it is read. -/
def content (anchor tag : Option String) (o : Opening) : (fuel : Nat) → ComposeM NodeId
  | 0 => throw .malformed
  | fuel + 1 => do
    let sequence (items : ComposeM (List NodeId)) : ComposeM NodeId := do
      let n ← add (collectionKind tag .sequence) (.sequence [])
      anchorAt anchor n
      complete n (.sequence (← items))
      return n
    let mapping (pairs : ComposeM (List (NodeId × NodeId))) : ComposeM NodeId := do
      let n ← add (collectionKind tag .mapping) (.mapping [])
      anchorAt anchor n
      complete n (.mapping (← pairs))
      return n
    match o with
    | .scalar isPlain points =>
      let n ← add (scalarKind tag isPlain points) (.scalar points)
      anchorAt anchor n
      return n
    | .flowSequence => sequence (flowItems true fuel)
    | .blockSequence => sequence (blockItems fuel)
    | .flatSequence => sequence (flatItems fuel)
    | .flowMapping => mapping (flowPairs true fuel)
    | .blockMapping => mapping (blockPairs fuel)

/-- The items of a block sequence. -/
def blockItems : (fuel : Nat) → ComposeM (List NodeId)
  | 0 => throw .malformed
  | fuel + 1 => do
    if ← takeIf .blockEntry then
      let n ← if ← nextIsOne [.blockEntry, .blockEnd] then emptyNode else node true false fuel
      return n :: (← blockItems fuel)
    else
      expect .blockEnd
      return []

/-- The items of a sequence that is not indented under its key. -/
def flatItems : (fuel : Nat) → ComposeM (List NodeId)
  | 0 => throw .malformed
  | fuel + 1 => do
    if ← takeIf .blockEntry then
      let n ←
        if ← nextIsOne [.blockEntry, .key, .value, .blockEnd] then emptyNode
        else node true false fuel
      return n :: (← flatItems fuel)
    else return []

/-- The pairs of a block mapping. -/
def blockPairs : (fuel : Nat) → ComposeM (List (NodeId × NodeId))
  | 0 => throw .malformed
  | fuel + 1 => do
    if ← takeIf .key then
      let k ←
        if ← nextIsOne [.key, .value, .blockEnd] then emptyNode else node true true fuel
      let v ←
        if ← takeIf .value then
          if ← nextIsOne [.key, .value, .blockEnd] then emptyNode else node true true fuel
        else emptyNode
      return (k, v) :: (← blockPairs fuel)
    else
      expect .blockEnd
      return []

/-- The items of a flow sequence; an item may be a single pair. -/
def flowItems (first : Bool) : (fuel : Nat) → ComposeM (List NodeId)
  | 0 => throw .malformed
  | fuel + 1 => do
    if ← takeIf .flowSequenceEnd then return []
    if !first then expect .flowEntry
    if ← takeIf .key then
      let n ← add (some .mapping) (.mapping [])
      let k ←
        if ← nextIsOne [.value, .flowEntry, .flowSequenceEnd] then emptyNode
        else node false false fuel
      let v ←
        if ← takeIf .value then
          if ← nextIsOne [.flowEntry, .flowSequenceEnd] then emptyNode
          else node false false fuel
        else emptyNode
      complete n (.mapping [(k, v)])
      return n :: (← flowItems false fuel)
    else if ← takeIf .flowSequenceEnd then return []
    else
      let n ← node false false fuel
      return n :: (← flowItems false fuel)

/-- The pairs of a flow mapping; a value may be missing. -/
def flowPairs (first : Bool) : (fuel : Nat) → ComposeM (List (NodeId × NodeId))
  | 0 => throw .malformed
  | fuel + 1 => do
    if ← takeIf .flowMappingEnd then return []
    if !first then expect .flowEntry
    if ← takeIf .key then
      let k ←
        if ← nextIsOne [.value, .flowEntry, .flowMappingEnd] then emptyNode
        else node false false fuel
      let v ←
        if ← takeIf .value then
          if ← nextIsOne [.flowEntry, .flowMappingEnd] then emptyNode
          else node false false fuel
        else emptyNode
      return (k, v) :: (← flowPairs false fuel)
    else if ← takeIf .flowMappingEnd then return []
    else
      let k ← node false false fuel
      return (k, ← emptyNode) :: (← flowPairs false fuel)

end

/-! ### Documents -/

/-- The handles of tags that every document has. -/
def standardHandles : List (String × String) :=
  [("!", "!"), ("!!", "tag:yaml.org,2002:")]

/-- The directives before a document; each at most once, and the version has to be one. -/
def directives (hasVersion : Bool) (own : List (String × String)) :
    (fuel : Nat) → ComposeM (List (String × String))
  | 0 => throw .malformed
  | fuel + 1 => do
    match ← next with
    | .directive d =>
      drop
      match d with
      | .version major _ =>
        if hasVersion || major != 1 then throw .malformed
        directives true own fuel
      | .handle name start =>
        if (own.lookup name).isSome then throw .malformed
        directives hasVersion ((name, start) :: own) fuel
      | .other => directives hasVersion own fuel
    | _ => return own

/-- Nothing but marks of its end may follow the document. What begins another one is read, for a
fault may be found in it, up to where that one would be. -/
def endOfText : (fuel : Nat) → ComposeM Unit
  | 0 => throw .malformed
  | fuel + 1 => do
    if ← takeIf .documentEnd then endOfText fuel
    else if ← nextIsOne [.streamEnd] then drop
    else
      let _ ← directives false [] (fuel + 1)
      let _ ← next
      throw .malformed

/-- Does a document stop where it would begin? -/
def isStop : Token → Bool
  | .directive _ | .documentStart | .documentEnd | .streamEnd => true
  | _ => false

/-- The root of the document, if there is one; more than one document is refused. -/
def document (fuel : Nat) : ComposeM (Option NodeId) := do
  match ← next with
  | .streamEnd => return none
  | .directive _ | .documentStart =>
    let own ← directives false [] fuel
    expect .documentStart
    modify fun s => { s with handles := own ++ standardHandles }
    let n ← if isStop (← next) then emptyNode else node true false fuel
    endOfText fuel
    return some n
  | _ =>
    let n ← node true false fuel
    endOfText fuel
    return some n

/-- The nodes of a stream of tokens and the root among them. -/
def Graph.ofTokens (ts : List Token) : Except Error (Option NodeId × Graph) :=
  let start : Compose := { rest := ts, handles := standardHandles, anchors := [], graph := #[] }
  ((document (4 * ts.length + 4)).run start).map fun (root, s) => (root, s.graph)

end VariantRepair.Yaml
