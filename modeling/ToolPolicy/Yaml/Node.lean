import ToolPolicy.Yaml.Indicator
import ToolPolicy.Yaml.Tag

/-!
# Nodes

The tokens of a document make up a graph of nodes: scalars, sequences and mappings. A node is known
by its number, so that an alias can stand for a node that is there already, even for one that is
still being read. `Graph.ofTokens` reads the only document of a source.

Main statement: `size_add` (a node that is added is one more).
-/

namespace ToolPolicy.Yaml

/-- The number of a node in its graph. -/
abbrev NodeId := Nat

/-- What a node is made of. -/
inductive Content where
  | scalar (text : Text)
  | sequence (items : List NodeId)
  | mapping (entries : List (NodeId × NodeId))
  deriving DecidableEq, Repr

/-- The name of a form of node. -/
def Content.kind : Content → Text
  | scalar _ => "scalar"
  | sequence _ => "sequence"
  | mapping _ => "mapping"

/-- A node: its tag, what it is made of, and where it begins. -/
structure Node where
  tag : Tag
  content : Content
  start : Mark
  deriving DecidableEq, Repr

/-- Nodes by their numbers. -/
structure Graph where
  nodes : Array Node := #[]
  deriving Repr

namespace Graph

/-- The node with a number. -/
def node? (g : Graph) (id : NodeId) : Option Node := g.nodes[id]?

/-- The graph with one more node. -/
def add (g : Graph) (n : Node) : Graph := ⟨g.nodes.push n⟩

/-- The graph with a node in the place of another one. -/
def set (g : Graph) (id : NodeId) (n : Node) : Graph := ⟨g.nodes.setIfInBounds id n⟩

/-- How many nodes there are. -/
def size (g : Graph) : Nat := g.nodes.size

@[simp] theorem size_add (g : Graph) (n : Node) : (g.add n).size = g.size + 1 := by
  simp [add, size]

end Graph

/-! ## Reading nodes -/

/-- The state of reading: the tokens to come, what handles stand for, the anchors
so far, and the nodes. -/
structure Builder where
  tokens : List Token
  failure : Option Failure := none
  handles : List (Text × Text) := []
  anchors : List (Text × NodeId) := []
  graph : Graph := {}
  deriving Repr

/-- A step of reading nodes. -/
abbrev Build := StateT Builder (Except Failure)

namespace Build

/-- Stops because of a flaw. -/
def failAt {α : Type} (activity : Option Activity) (start : Option Mark) (cause : Flaw.Cause)
    (place : Mark) : Build α :=
  throw (.flaw ⟨cause, place, activity, start⟩)

/-- The token that comes next. -/
def peek : Build Token := do
  let s ← get
  liftM (Tokens.first ⟨s.tokens, s.failure⟩)

/-- Goes past the token that comes next. -/
def skip : Build Unit := modify fun s => { s with tokens := s.tokens.tail }

/-- Whether the token that comes next is one of some kinds. -/
def isNext (kinds : List Token.Kind) : Build Bool := return kinds.contains (← peek).kind

/-- The node with a number; there always is one for the numbers that are handed out. -/
def nodeAt (id : NodeId) : Build Node :=
  return ((← get).graph.node? id).getD ⟨.null, .scalar [], {}⟩

/-- Adds a node, and its anchor if it has one. -/
def add (anchor : Option Text) (n : Node) : Build NodeId := do
  let s ← get
  let id := s.graph.size
  let anchors := match anchor with
    | some name => (name, id) :: s.anchors
    | none => s.anchors
  set { s with graph := s.graph.add n, anchors }
  return id

/-- Gives a node its content. -/
def fill (id : NodeId) (content : Content) : Build Unit := do
  let n ← nodeAt id
  modify fun s => { s with graph := s.graph.set id { n with content } }

/-- A node for nothing. -/
def empty (place : Mark) : Build NodeId := add none ⟨.null, .scalar [], place⟩

/-- Checks that an anchor is not taken. -/
def checkAnchor (anchor : Option Text) (start : Mark) : Build Unit := do
  match anchor with
  | none => return
  | some name =>
    match (← get).anchors.lookup name with
    | none => return
    | some id =>
      failAt (some (.duplicateAnchor name)) (some (← nodeAt id).start) .secondOccurrence start

/-- What stands in front of a node. -/
structure Properties where
  anchor : Option Text := none
  tag : Option TagName := none
  /-- Where the first of them begins. -/
  start : Option Mark := none
  tagMark : Option Mark := none
  deriving Repr

/-- The anchor and the tag that come next, in either order. -/
def properties : Build Properties := do
  let t ← peek
  match t.kind with
  | .anchor name =>
    skip
    let u ← peek
    match u.kind with
    | .tag tag =>
      skip
      return ⟨some name, some tag, some t.start, some u.start⟩
    | _ => return ⟨some name, none, some t.start, none⟩
  | .tag tag =>
    skip
    let u ← peek
    match u.kind with
    | .anchor name =>
      skip
      return ⟨some name, some tag, some t.start, some t.start⟩
    | _ => return ⟨none, some tag, some t.start, some t.start⟩
  | _ => return {}

/-- The tag that is written in front of a node; an exclamation mark leaves it open. -/
def writtenTag (p : Properties) : Build (Option Text) := do
  match p.tag with
  | none => return none
  | some ⟨none, suffix⟩ => return some suffix
  | some ⟨some handle, suffix⟩ =>
    match (← get).handles.lookup handle with
    | some start => return some (start ++ suffix)
    | none =>
      failAt (some (.parsing "a node")) p.start (.unknownHandle handle) (p.tagMark.getD {})

/-- An exclamation mark as a tag. -/
def openTag : Text := [33]

/-- The tag of a node, given the one that it has if none is written. -/
def tagOr (written : Option Text) (fallback : Tag) : Tag :=
  match written with
  | none => fallback
  | some t => if t = openTag then fallback else .ofText t

/-- The tag of a scalar. -/
def scalarTag (written : Option Text) (text : Text) (isPlain : Bool) : Tag :=
  match written with
  | none => if isPlain then .ofPlain text else .str
  | some t => if t = openTag then .ofPlain text else .ofText t

/-- Where a node may stand. -/
inductive Place where
  | flow
  | block
  /-- In a block, where a sequence need not be further in. -/
  | entry
  deriving DecidableEq, Repr

/-- The words for reading a node at a place. -/
def Place.activity : Place → Activity
  | flow => .parsing "a flow node"
  | _ => .parsing "a block node"

/-- How deep nodes may be nested. -/
def depthLimit : Nat := 480

mutual

/-- The node that comes next. -/
def node : Nat → Nat → Place → Build NodeId
  | 0, _, _ => throw (.fault .nestedTooDeeply)
  | fuel + 1, depth, place => do
    if depthLimit < depth then throw (.fault .nestedTooDeeply)
    let t ← peek
    match t.kind with
    | .reference name =>
      skip
      match (← get).anchors.lookup name with
      | some id => return id
      | none => failAt none none (.unknownAlias name) t.start
    | _ =>
      let p ← properties
      let written ← writtenTag p
      let t ← peek
      let start := p.start.getD t.start
      let collection (tag : Tag) (content : Content) : Build NodeId := do
        checkAnchor p.anchor start
        add p.anchor ⟨tagOr written tag, content, start⟩
      let fillWith (read : Build Content) : Build NodeId := do
        let id ← collection .seq (.sequence [])
        fill id (← read)
        return id
      let fillMapping (read : Build (List (NodeId × NodeId))) : Build NodeId := do
        let id ← collection .map (.mapping [])
        fill id (.mapping (← read))
        return id
      match t.kind, place with
      | .blockEntry, .entry => fillWith (return .sequence (← hyphenEntries fuel depth []))
      | .scalar text isPlain, _ =>
        skip
        checkAnchor p.anchor start
        add p.anchor ⟨scalarTag written text isPlain, .scalar text, start⟩
      | .flowSequenceStart, _ =>
        fillWith do
          skip
          return .sequence (← flowItems fuel depth t.start true [])
      | .flowMappingStart, _ =>
        fillMapping do
          skip
          flowEntries fuel depth t.start true []
      | kind, place =>
        if kind == .blockSequenceStart && place != .flow then
          fillWith do
            skip
            return .sequence (← blockItems fuel depth t.start [])
        else if kind == .blockMappingStart && place != .flow then
          fillMapping do
            skip
            blockEntries fuel depth t.start []
        else if p.anchor.isSome || written.isSome then do
          checkAnchor p.anchor start
          add p.anchor ⟨scalarTag written [] true, .scalar [], start⟩
        else
          failAt (some place.activity) (some start)
            (.expectedToken "the node content" kind.name) t.start

/-- The node after an indicator, or nothing if a token of some kinds comes first. -/
def nodeOr : Nat → Nat → Place → List Token.Kind → Mark → Build NodeId
  | 0, _, _, _, _ => throw (.fault .nestedTooDeeply)
  | fuel + 1, depth, place, stops, stop => do
    if ← isNext stops then empty stop else node fuel (depth + 1) place

/-- The value of an entry whose key has been read. -/
def valueNode : Nat → Nat → Place → List Token.Kind → Build NodeId
  | 0, _, _, _ => throw (.fault .nestedTooDeeply)
  | fuel + 1, depth, place, stops => do
    let t ← peek
    if t.kind == .value then
      skip
      nodeOr fuel depth place stops t.stop
    else empty t.start

/-- The rest of the items of a sequence that is no further in than what it belongs to. -/
def hyphenEntries : Nat → Nat → List NodeId → Build (List NodeId)
  | 0, _, _ => throw (.fault .nestedTooDeeply)
  | fuel + 1, depth, items => do
    let t ← peek
    if t.kind == .blockEntry then
      skip
      let id ← nodeOr fuel depth .block [.blockEntry, .key, .value, .blockEnd] t.stop
      hyphenEntries fuel depth (id :: items)
    else return items.reverse

/-- The rest of the items of a sequence in a block. -/
def blockItems : Nat → Nat → Mark → List NodeId → Build (List NodeId)
  | 0, _, _, _ => throw (.fault .nestedTooDeeply)
  | fuel + 1, depth, start, items => do
    let t ← peek
    if t.kind == .blockEntry then
      skip
      let id ← nodeOr fuel depth .block [.blockEntry, .blockEnd] t.stop
      blockItems fuel depth start (id :: items)
    else if t.kind == .blockEnd then
      skip
      return items.reverse
    else
      failAt (some (.parsing "a block collection")) (some start)
        (.expectedToken "<block end>" t.kind.name) t.start

/-- The rest of the entries of a mapping in a block. -/
def blockEntries : Nat → Nat → Mark → List (NodeId × NodeId) → Build (List (NodeId × NodeId))
  | 0, _, _, _ => throw (.fault .nestedTooDeeply)
  | fuel + 1, depth, start, entries => do
    let t ← peek
    if t.kind == .key then
      skip
      let key ← nodeOr fuel depth .entry [.key, .value, .blockEnd] t.stop
      let value ← valueNode fuel depth .entry [.key, .value, .blockEnd]
      blockEntries fuel depth start ((key, value) :: entries)
    else if t.kind == .blockEnd then
      skip
      return entries.reverse
    else
      failAt (some (.parsing "a block mapping")) (some start)
        (.expectedToken "<block end>" t.kind.name) t.start

/-- The rest of the items of a sequence in brackets. -/
def flowItems : Nat → Nat → Mark → Bool → List NodeId → Build (List NodeId)
  | 0, _, _, _, _ => throw (.fault .nestedTooDeeply)
  | fuel + 1, depth, start, isFirst, items => do
    let t ← peek
    if t.kind == .flowSequenceEnd then
      skip
      return items.reverse
    if !isFirst then
      if t.kind == .flowEntry then skip
      else
        failAt (some (.parsing "a flow sequence")) (some start)
          (.expectedDelimiter "',' or ']'" t.kind.name) t.start
    let t ← peek
    if t.kind == .key then
      let id ← pair fuel (depth + 1) t
      flowItems fuel depth start false (id :: items)
    else if t.kind == .flowSequenceEnd then
      skip
      return items.reverse
    else
      let id ← node fuel (depth + 1) .flow
      flowItems fuel depth start false (id :: items)

/-- A mapping with one entry, written without brackets of its own; it begins
with the given token. -/
def pair : Nat → Nat → Token → Build NodeId
  | 0, _, _ => throw (.fault .nestedTooDeeply)
  | fuel + 1, depth, t => do
    if depthLimit < depth then throw (.fault .nestedTooDeeply)
    let id ← add none ⟨.map, .mapping [], t.start⟩
    skip
    let key ← nodeOr fuel depth .flow [.value, .flowEntry, .flowSequenceEnd] t.stop
    let value ← valueNode fuel depth .flow [.flowEntry, .flowSequenceEnd]
    fill id (.mapping [(key, value)])
    return id

/-- The rest of the entries of a mapping in brackets. -/
def flowEntries : Nat → Nat → Mark → Bool → List (NodeId × NodeId) → Build (List (NodeId × NodeId))
  | 0, _, _, _, _ => throw (.fault .nestedTooDeeply)
  | fuel + 1, depth, start, isFirst, entries => do
    let t ← peek
    if t.kind == .flowMappingEnd then
      skip
      return entries.reverse
    if !isFirst then
      if t.kind == .flowEntry then skip
      else
        failAt (some (.parsing "a flow mapping")) (some start)
          (.expectedDelimiter "',' or '\x7d'" t.kind.name) t.start
    let t ← peek
    if t.kind == .key then
      skip
      let key ← nodeOr fuel depth .flow [.value, .flowEntry, .flowMappingEnd] t.stop
      let value ← valueNode fuel depth .flow [.flowEntry, .flowMappingEnd]
      flowEntries fuel depth start false ((key, value) :: entries)
    else if t.kind == .flowMappingEnd then
      skip
      return entries.reverse
    else
      let key ← node fuel (depth + 1) .flow
      let value ← empty (← peek).start
      flowEntries fuel depth start false ((key, value) :: entries)

end

/-! ## Documents -/

/-- What the usual handles stand for. -/
def usualHandles : List (Text × Text) := [([33], [33]), ([33, 33], Tag.home)]

/-- The directions in front of a document: whether its version is given, and
what handles stand for. -/
def directives : Nat → Bool → List (Text × Text) → Build (List (Text × Text))
  | 0, _, handles => return handles
  | fuel + 1, hasVersion, handles => do
    let t ← peek
    match t.kind with
    | .directive d =>
      skip
      match d with
      | .version major _ =>
        if hasVersion then failAt none none .repeatedVersion t.start
        if major != 1 then failAt none none .otherVersion t.start
        directives fuel true handles
      | .tag handle start =>
        if (handles.lookup handle).isSome then failAt none none (.repeatedHandle handle) t.start
        directives fuel hasVersion (handles ++ [(handle, start)])
      | .other => directives fuel hasVersion handles
    | _ => return handles ++ usualHandles

/-- Goes past the ends of documents. -/
def skipEnds : Nat → Build Unit
  | 0 => return
  | fuel + 1 => do
    if (← peek).kind == .documentEnd then
      skip
      skipEnds fuel

/-- Begins a document that has a beginning of its own, unless the stream ends;
says where it begins. -/
def beginDocument (fuel : Nat) : Build (Option Mark) := do
  skipEnds fuel
  let t ← peek
  if t.kind == .streamEnd then return none
  let handles ← directives fuel false []
  let u ← peek
  if u.kind == .documentStart then
    skip
    modify fun s => { s with handles }
    return some t.start
  else failAt none none (.expectedToken "'<document start>'" u.kind.name) u.start

/-- The root of a document that has a beginning of its own. -/
def afterStart (fuel : Nat) : Build NodeId := do
  let t ← peek
  match t.kind with
  | .directive _ | .documentStart | .documentEnd | .streamEnd => empty t.start
  | _ => node fuel 1 .block

/-- The root of the first document, if there is one. -/
def firstDocument (fuel : Nat) : Build (Option NodeId) := do
  match (← peek).kind with
  | .directive _ | .documentStart | .streamEnd =>
    match ← beginDocument fuel with
    | some _ => return some (← afterStart fuel)
    | none => return none
  | _ =>
    modify fun s => { s with handles := usualHandles }
    return some (← node fuel 1 .block)

/-- The root of the only document, if there is one. -/
def document (fuel : Nat) : Build (Option NodeId) := do
  match ← firstDocument fuel with
  | none => return none
  | some id =>
    match ← beginDocument fuel with
    | none => return some id
    | some place =>
      failAt (some .singleDocument) (some (← nodeAt id).start) .secondDocument place

end Build

/-- The graph of the only document and its root, if there is a document. -/
def Graph.ofTokens (ts : Tokens) : Except Failure (Option NodeId × Graph) := do
  let (root, s) ← (Build.document (8 * ts.tokens.length + 32)).run
    { tokens := ts.tokens, failure := ts.failure }
  return (root, s.graph)

end ToolPolicy.Yaml
