import ToolPolicy.Yaml.ScalarValue

/-!
# Values of documents

The graph of a document becomes a value. Containers are filled one after another in the order in
which they are met, level by level, so of two flaws the one further out counts. Before a mapping is
filled, its merge keys are replaced by the entries that they bring in; an entry of its own wins over
those. When every container is filled, the value is put together; where a container is met within
itself, the value refers back to it.
-/

namespace ToolPolicy.Yaml

/-- A value that may be a key. Not-a-number is equal to nothing by its value, so `ownNan` tells
one from another: it is the scalar it comes from, or nothing where it is written by its word,
which is the same everywhere. -/
structure Key where
  value : Value
  ownNan : Option NodeId := none
  deriving Repr

/-- Whether two keys count as one. -/
def Key.same (a b : Key) : Bool :=
  match a.value, b.value with
  | .float .nan, .float .nan => a.ownNan == b.ownNan
  | v, w => Value.same v w

/-- A node that has become a value, with its parts still by their numbers. -/
inductive Filled where
  | scalar (k : Key)
  | list (items : List NodeId)
  | mapping (entries : List (Value × NodeId))
  | set (items : List Value)
  | pairs (entries : List (NodeId × NodeId))
  deriving Repr

/-- The state of filling: the graph, the nodes that have been met and what has become of them, and
the containers that are still to be filled. -/
structure Filling where
  graph : Graph
  met : List (NodeId × Filled) := []
  waiting : List NodeId := []
  deriving Repr

/-- A step of filling. -/
abbrev Fill := StateT Filling (Except Failure)

namespace Fill

/-- Stops because of a flaw. -/
def failAt {α : Type} (activity : Option Activity) (start : Option Mark) (cause : Flaw.Cause)
    (place : Mark) : Fill α :=
  throw (.flaw ⟨cause, place, activity, start⟩)

/-- The node with a number. -/
def nodeAt (id : NodeId) : Fill Node :=
  return ((← get).graph.node? id).getD ⟨.null, .scalar [], {}⟩

/-- Puts a node in the place of another one. -/
def setNode (id : NodeId) (n : Node) : Fill Unit :=
  modify fun s => { s with graph := s.graph.set id n }

/-- Remembers what a node has become. -/
def keep (id : NodeId) (f : Filled) : Fill Unit :=
  modify fun s => { s with met := (id, f) :: s.met }

/-- How deep default values, or merge keys, may be nested. -/
def nestingLimit : Nat := 960

/-! ## Scalars -/

/-- The text of a node that counts as a scalar: a mapping does if it has a default value. -/
def scalarText : Nat → NodeId → Fill Text
  | 0, _ => throw (.fault .nestedTooDeeply)
  | depth + 1, id => do
    let n ← nodeAt id
    let refuse : Fill Text :=
      failAt none none (.expectedNode "a scalar node" n.content.kind) n.start
    match n.content with
    | .scalar text => return text
    | .sequence _ => refuse
    | .mapping entries =>
      let isDefault (e : NodeId × NodeId) : Fill Bool := return (← nodeAt e.1).tag == .value
      match ← entries.filterM isDefault with
      | (_, value) :: _ => scalarText depth value
      | [] => refuse

/-- Meets a node: a scalar becomes its value, a container will be filled later. -/
def meet (id : NodeId) : Fill Unit := do
  let s ← get
  if (s.met.lookup id).isSome then return
  let n ← nodeAt id
  if n.tag.isContainer then
    keep id (.list [])
    modify fun s => { s with waiting := s.waiting ++ [id] }
  else
    match n.tag with
    | .merge | .value | .yaml | .other _ => failAt none none (.unknownTag n.tag.text) n.start
    | tag =>
      let text ← scalarText nestingLimit id
      match tag, n.content with
      | .timestamp, .mapping _ => throw (.fault .timestampOfMapping)
      | _, _ =>
        let v ← liftM (ScalarValue.ofText n.start tag text)
        keep id (.scalar ⟨v, if ScalarValue.isNanWord text then none else some id⟩)

/-- The value of a node as a key, if it may be one. -/
def keyOf? (id : NodeId) : Fill (Option Key) := do
  match (← get).met.lookup id with
  | some (.scalar k) => return some k
  | _ => return none

/-! ## Merge keys -/

/-- The flaw of a merge key with a value that is no mapping. -/
def failMerge {α : Type} (start : Mark) (what : String) (n : Node) : Fill α :=
  failAt (some (.constructing "a mapping")) (some start) (.expectedNode what n.content.kind) n.start

/-- The entries of a node that is a mapping. -/
def entriesOf (id : NodeId) : Fill (List (NodeId × NodeId)) := do
  match (← nodeAt id).content with
  | .mapping entries => return entries
  | _ => return []

/-- Gives a mapping other entries. -/
def setEntries (id : NodeId) (entries : List (NodeId × NodeId)) : Fill Unit := do
  setNode id { ← nodeAt id with content := .mapping entries }

/-- The entries that each of the items of a merge key brings in, given how a
mapping is flattened. -/
def broughtInByAll (flatten : NodeId → Fill Unit) (start : Mark) :
    List NodeId → Fill (List (List (NodeId × NodeId)))
  | [] => return []
  | id :: rest => do
    let n ← nodeAt id
    match n.content with
    | .mapping _ =>
      flatten id
      let entries ← entriesOf id
      return entries :: (← broughtInByAll flatten start rest)
    | _ => failMerge start "a mapping for merging" n

/-- The entries that the value of a merge key brings in, given how a mapping is flattened. -/
def broughtIn (flatten : NodeId → Fill Unit) (start : Mark) (id : NodeId) :
    Fill (List (NodeId × NodeId)) := do
  let n ← nodeAt id
  match n.content with
  | .mapping _ =>
    flatten id
    entriesOf id
  | .sequence items => return (← broughtInByAll flatten start items).reverse.flatten
  | .scalar _ => failMerge start "a mapping or list of mappings for merging" n

/-- The entries that the merge keys of a mapping bring in, from an entry on, given how another
mapping is flattened. A step is taken for each entry. Only if the mapping is flattened once more on
the way can there be further entries, and then no key among them is left to be replaced. -/
def flattenFrom (flatten : NodeId → Fill Unit) (id : NodeId) :
    Nat → Nat → List (NodeId × NodeId) → Fill (List (NodeId × NodeId))
  | 0, _, merged => return merged
  | steps + 1, index, merged => do
    let entries ← entriesOf id
    match entries[index]? with
    | none => return merged
    | some (key, value) =>
      let k ← nodeAt key
      match k.tag with
      | .merge =>
        setEntries id (entries.eraseIdx index)
        let more ← broughtIn flatten (← nodeAt id).start value
        flattenFrom flatten id steps index (merged ++ more)
      | .value =>
        setNode key { k with tag := .str }
        flattenFrom flatten id steps (index + 1) merged
      | _ => flattenFrom flatten id steps (index + 1) merged

/-- Replaces the merge keys of a mapping, down to some depth of merge keys
within what they bring in. -/
def flatten : Nat → NodeId → Fill Unit
  | 0, _ => throw (.fault .nestedTooDeeply)
  | depth + 1, id => do
    let merged ← flattenFrom (flatten depth) id (← entriesOf id).length 0 []
    if !merged.isEmpty then setEntries id (merged ++ (← entriesOf id))

/-! ## Containers -/

/-- The entries with one more; a key that is there already keeps its place. -/
def put (key : Key) (id : NodeId) : List (Key × NodeId) → List (Key × NodeId)
  | [] => [(key, id)]
  | (k, i) :: rest => if Key.same k key then (k, id) :: rest else (k, i) :: put key id rest

/-- The entries of a mapping, whose nodes are met on the way. -/
def fillEntries (start : Mark) (filled : List (Key × NodeId)) :
    List (NodeId × NodeId) → Fill (List (Key × NodeId))
  | [] => return filled
  | (key, value) :: rest => do
    meet key
    match ← keyOf? key with
    | none =>
      failAt (some (.constructing "a mapping")) (some start) .unhashableKey (← nodeAt key).start
    | some k =>
      meet value
      fillEntries start (put k value filled) rest

/-- The entries of a node that has to be a mapping. -/
def fillMapping (id : NodeId) : Fill (List (Key × NodeId)) := do
  let n ← nodeAt id
  match n.content with
  | .mapping _ =>
    flatten nestingLimit id
    fillEntries n.start [] (← entriesOf id)
  | content => failAt none none (.expectedNode "a mapping node" content.kind) n.start

/-- The pairs of a sequence of mappings with one entry each. -/
def fillPairs (what : String) (start : Mark) : List NodeId → Fill (List (NodeId × NodeId))
  | [] => return []
  | id :: rest => do
    let n ← nodeAt id
    let fail {α : Type} (cause : Flaw.Cause) : Fill α :=
      failAt (some (.constructing what)) (some start) cause n.start
    match n.content with
    | .mapping [(key, value)] =>
      meet key
      meet value
      return (key, value) :: (← fillPairs what start rest)
    | .mapping entries => fail (.expectedSingleItem entries.length)
    | content => fail (.expectedNode "a mapping of length 1" content.kind)

/-- The pairs of a node that has to be a sequence. -/
def fillPairsOf (what : String) (n : Node) : Fill (List (NodeId × NodeId)) :=
  match n.content with
  | .sequence items => fillPairs what n.start items
  | content =>
    failAt (some (.constructing what)) (some n.start)
      (.expectedNode "a sequence" content.kind) n.start

/-- Fills a container. -/
def fill (id : NodeId) : Fill Unit := do
  let n ← nodeAt id
  match n.tag with
  | .seq =>
    match n.content with
    | .sequence items =>
      items.forM meet
      keep id (.list items)
    | content => failAt none none (.expectedNode "a sequence node" content.kind) n.start
  | .map => keep id (.mapping ((← fillMapping id).map fun e => (e.1.value, e.2)))
  | .set => keep id (.set ((← fillMapping id).map (·.1.value)))
  | .omap => keep id (.pairs (← fillPairsOf "an ordered map" n))
  | .pairs => keep id (.pairs (← fillPairsOf "pairs" n))
  | _ => return

/-- Fills the containers that wait, and those that are met on the way. -/
def fillAll : Nat → Fill Unit
  | 0 => return
  | steps + 1 => do
    match (← get).waiting with
    | [] => return
    | id :: rest =>
      modify fun s => { s with waiting := rest }
      fill id
      fillAll steps

end Fill

/-! ## Putting a value together -/

/-- What a container around a place is: a node, or a pair within one. -/
abbrev Around := List (Option NodeId)

mutual

/-- The value of a node, within the containers around it. -/
def valueOf (met : NodeId → Option Filled) : Nat → Around → NodeId → Value
  | 0, _, _ => .null
  | fuel + 1, around, id =>
    match around.findIdx? (· == some id) with
    | some levels => .outer levels
    | none =>
      match met id with
      | none => .null
      | some (.scalar k) => k.value
      | some (.set items) => .set items
      | some (.list items) => .list (valuesOf met fuel (some id :: around) items)
      | some (.mapping entries) => .mapping (entryValues met fuel (some id :: around) entries)
      | some (.pairs entries) => .list (pairValues met fuel (some id :: around) entries)

/-- The values of some nodes. -/
def valuesOf (met : NodeId → Option Filled) : Nat → Around → List NodeId → List Value
  | 0, _, _ => []
  | _ + 1, _, [] => []
  | fuel + 1, around, id :: rest => valueOf met fuel around id :: valuesOf met fuel around rest

/-- The values of some entries. -/
def entryValues (met : NodeId → Option Filled) :
    Nat → Around → List (Value × NodeId) → List (Value × Value)
  | 0, _, _ => []
  | _ + 1, _, [] => []
  | fuel + 1, around, (k, id) :: rest =>
    (k, valueOf met fuel around id) :: entryValues met fuel around rest

/-- The values of some pairs. -/
def pairValues (met : NodeId → Option Filled) : Nat → Around → List (NodeId × NodeId) → List Value
  | 0, _, _ => []
  | _ + 1, _, [] => []
  | fuel + 1, around, (key, id) :: rest =>
    .tuple [valueOf met fuel (none :: around) key, valueOf met fuel (none :: around) id]
      :: pairValues met fuel around rest

end

/-- A bound for the number of parts that are met within something. -/
def Filled.partCount : Filled → Nat
  | .scalar _ => 2
  | .list items => items.length + 2
  | .mapping entries => entries.length + 2
  | .set _ => 2
  | .pairs entries => entries.length + 2

/-- A bound for the number of parts that are met on the way from the root to a scalar. -/
def partCount (met : List (NodeId × Filled)) : Nat :=
  met.foldl (fun n e => n + e.2.partCount) 0

/-- The value of a graph with a root. -/
def Graph.value (g : Graph) (root : NodeId) : Except Failure Value := do
  let (_, s) ← (do Fill.meet root; Fill.fillAll (g.size + 1) : Fill Unit).run { graph := g }
  let met :=
    (s.met.foldr (fun e a => a.setIfInBounds e.1 (some e.2)) (Array.replicate g.size none) :
    Array (Option Filled))
  return valueOf (fun id => (met[id]?).getD none) (partCount s.met + 2) [] root

/-- The value of the only document in the bytes of a file; null if there is none. -/
def read (bytes : List UInt8) : Except Failure Value := do
  match ← Graph.ofTokens (Source.ofBytes bytes).tokens with
  | (none, _) => return .null
  | (some root, g) => g.value root

end ToolPolicy.Yaml
