import ToolPolicy.Proofs.YamlTokens
import ToolPolicy.Yaml.Node

/-!
# From the tokens of a JSON document to its nodes

The nodes of a document come in the order in which they begin, so a part of a document has a row of
nodes in the graph, which begins with its own. The document has a graph exactly if it is not nested
too deeply and all its names are short enough to be keys: a longer one is taken for a key without a
value, and its colon is in the way.

Main statements: `node_form` (reading a part of a document) and
`ofTokens_object` (reading all of it).
-/

namespace ToolPolicy.Yaml

open Json

/-! ## Rows of nodes -/

/-- The tags and the contents of the nodes of a graph. -/
def Graph.shapes (g : Graph) : List (Tag × Content) :=
  g.nodes.toList.map fun n => (n.tag, n.content)

namespace Graph

theorem length_shapes (g : Graph) : g.shapes.length = g.size := by
  simp [shapes, size]

theorem shapes_add (g : Graph) (n : Node) :
    (g.add n).shapes = g.shapes ++ [(n.tag, n.content)] := by
  simp [shapes, add]

theorem node?_map (g : Graph) (id : NodeId) :
    (g.node? id).map (fun n => (n.tag, n.content)) = g.shapes[id]? := by
  simp [shapes, node?]

theorem shapes_set (g : Graph) (id : NodeId) (n : Node) :
    (g.set id n).shapes = g.shapes.set id (n.tag, n.content) := by
  simp [shapes, set, List.map_set]

end Graph

mutual

/-- How many nodes a document has. -/
def sizeOfForm : Form → Nat
  | .word _ => 1
  | .string _ => 1
  | .list items => 1 + sizeOfItems items
  | .object fields => 1 + sizeOfFields fields

/-- How many nodes some items have. -/
def sizeOfItems : List Form → Nat
  | [] => 0
  | f :: rest => sizeOfForm f + sizeOfItems rest

/-- How many nodes some fields have. -/
def sizeOfFields : List (Units × Form) → Nat
  | [] => 0
  | (_, f) :: rest => 1 + sizeOfForm f + sizeOfFields rest

end

/-- The numbers of some items, the first of which is given. -/
def itemIds : NodeId → List Form → List NodeId
  | _, [] => []
  | id, f :: rest => id :: itemIds (id + sizeOfForm f) rest

/-- The numbers of the names and the values of some fields, the first of which is given. -/
def fieldIds : NodeId → List (Units × Form) → List (NodeId × NodeId)
  | _, [] => []
  | id, (_, f) :: rest => (id, id + 1) :: fieldIds (id + 1 + sizeOfForm f) rest

mutual

/-- The nodes of a document, the number of the first of which is given. -/
def shape : NodeId → Form → List (Tag × Content)
  | _, .word w => [(.ofPlain w.text, .scalar w.text)]
  | _, .string u => [(.str, .scalar u.val)]
  | id, .list items => (.seq, .sequence (itemIds (id + 1) items)) :: itemShapes (id + 1) items
  | id, .object fields => (.map, .mapping (fieldIds (id + 1) fields)) :: fieldShapes (id + 1) fields

/-- The nodes of some items. -/
def itemShapes : NodeId → List Form → List (Tag × Content)
  | _, [] => []
  | id, f :: rest => shape id f ++ itemShapes (id + sizeOfForm f) rest

/-- The nodes of some fields. -/
def fieldShapes : NodeId → List (Units × Form) → List (Tag × Content)
  | _, [] => []
  | id, (u, f) :: rest =>
    (.str, .scalar u.val) :: (shape (id + 1) f ++ fieldShapes (id + 1 + sizeOfForm f) rest)

end

mutual

/-- Whether every name of a document takes few enough code points to be a key. -/
def ShortNames : Form → Prop
  | .word _ => True
  | .string _ => True
  | .list items => ShortNamesOfItems items
  | .object fields => ShortNamesOfFields fields

/-- Whether every name within some items is short. -/
def ShortNamesOfItems : List Form → Prop
  | [] => True
  | f :: rest => ShortNames f ∧ ShortNamesOfItems rest

/-- Whether every name of some fields or within them is short. -/
def ShortNamesOfFields : List (Units × Form) → Prop
  | [] => True
  | (u, f) :: rest => u.text.length ≤ Scan.keyLength ∧ ShortNames f ∧ ShortNamesOfFields rest

end

mutual

theorem length_shape : ∀ (f : Form) (id : NodeId), (shape id f).length = sizeOfForm f
  | .word _, _ => rfl
  | .string _, _ => rfl
  | .list items, id => by
    have hitems := length_itemShapes items (id + 1)
    simp only [shape, sizeOfForm, List.length_cons, hitems, Nat.add_comm]
  | .object fields, id => by
    have hfields := length_fieldShapes fields (id + 1)
    simp only [shape, sizeOfForm, List.length_cons, hfields, Nat.add_comm]

theorem length_itemShapes :
    ∀ (items : List Form) (id : NodeId), (itemShapes id items).length = sizeOfItems items
  | [], _ => rfl
  | f :: rest, id => by
    simp only [itemShapes, sizeOfItems, List.length_append, length_shape f id,
      length_itemShapes rest]

theorem length_fieldShapes : ∀ (fields : List (Units × Form)) (id : NodeId),
    (fieldShapes id fields).length = sizeOfFields fields
  | [], _ => rfl
  | (u, f) :: rest, id => by
    simp only [fieldShapes, sizeOfFields, List.length_cons, List.length_append,
      length_shape f (id + 1), length_fieldShapes rest]
    omega

end

/-! ## Outcomes -/

/-- Whether a step succeeds exactly under a condition, and then with a result and
a state of some kind. -/
def Decided {σ α : Type} (p : Prop) (r : Except Failure (α × σ)) (q : α → σ → Prop) : Prop :=
  p ∧ (∃ a s, r = .ok (a, s) ∧ q a s) ∨ ¬ p ∧ ∃ e, r = .error e

theorem Decided.bind {σ α β : Type} {m : StateT σ (Except Failure) α}
    {f : α → StateT σ (Except Failure) β} {s : σ}
    {p p' : Prop} {q : α → σ → Prop} {q' : β → σ → Prop} (h : Decided p (m.run s) q)
    (h' : ∀ a s', q a s' → Decided p' ((f a).run s') q') :
    Decided (p ∧ p') ((m >>= f).run s) q' := by
  rcases h with ⟨hp, a, s', hrun, hq⟩ | ⟨hp, e, hrun⟩
  · rw [run_bind hrun]
    rcases h' a s' hq with ⟨hp', hok⟩ | ⟨hp', herror⟩
    · exact .inl ⟨⟨hp, hp'⟩, hok⟩
    · exact .inr ⟨fun hboth => hp' hboth.2, herror⟩
  · rw [run_bind_error hrun]
    exact .inr ⟨fun hboth => hp hboth.1, e, rfl⟩

/-- A step that always succeeds comes after one that need not. -/
theorem Decided.bind_ok {σ α β : Type} {m : StateT σ (Except Failure) α}
    {f : α → StateT σ (Except Failure) β} {s : σ}
    {p : Prop} {q : α → σ → Prop} {q' : β → σ → Prop} (h : Decided p (m.run s) q)
    (h' : ∀ a s', q a s' → ∃ b s'', (f a).run s' = .ok (b, s'') ∧ q' b s'') :
    Decided p ((m >>= f).run s) q' := by
  rcases h with ⟨hp, a, s', hrun, hq⟩ | ⟨hp, e, hrun⟩
  · exact .inl ⟨hp, by rw [run_bind hrun]; exact h' a s' hq⟩
  · exact .inr ⟨hp, e, run_bind_error hrun⟩

theorem Decided.congr {σ α : Type} {p p' : Prop} {r : Except Failure (α × σ)}
    {q : α → σ → Prop} (hp : p ↔ p') (h : Decided p r q) : Decided p' r q := by
  rwa [propext hp] at h

theorem Decided.imp {σ α : Type} {p : Prop} {r : Except Failure (α × σ)} {q q' : α → σ → Prop}
    (hq : ∀ a s, q a s → q' a s) (h : Decided p r q) : Decided p r q' := by
  rcases h with ⟨hp, a, s, hrun, ha⟩ | herror
  · exact .inl ⟨hp, a, s, hrun, hq a s ha⟩
  · exact .inr herror

/-! ## Steps of reading nodes -/

namespace Build

/-- The state of reading a document of JSON. -/
def standing (ts : List Token) (g : Graph) : Builder where
  tokens := ts
  handles := usualHandles
  graph := g

variable {t u : Token} {ts : List Token} {g : Graph} {fuel depth : Nat} {place : Place}

theorem peek_standing (t : Token) (ts : List Token) (g : Graph) :
    peek.run (standing (t :: ts) g) = .ok (t, standing (t :: ts) g) := rfl

theorem skip_standing (t : Token) (ts : List Token) (g : Graph) :
    skip.run (standing (t :: ts) g) = .ok ((), standing ts g) := rfl

theorem empty_standing (m : Mark) (ts : List Token) (g : Graph) :
    (empty m).run (standing ts g) = .ok (g.size, standing ts (g.add ⟨.null, .scalar [], m⟩)) := rfl

theorem isNext_standing (kinds : List Token.Kind) (t : Token) (ts : List Token) (g : Graph) :
    (isNext kinds).run (standing (t :: ts) g) =
    .ok (kinds.contains t.kind, standing (t :: ts) g) := rfl

theorem fill_standing (id : NodeId) (content : Content) (ts : List Token) (g : Graph) :
    (fill id content).run (standing ts g) = .ok ((), standing ts (g.set id
      { (g.node? id).getD ⟨.null, .scalar [], {}⟩ with content })) := rfl

theorem node_tooDeep (h : depthLimit < depth) (fuel : Nat) (place : Place) (s : Builder) :
    ∃ e, (node fuel depth place).run s = .error e := by
  cases fuel with
  | zero =>
    rw [node]
    exact ⟨_, rfl⟩
  | succ fuel =>
    rw [node, if_pos h]
    exact ⟨_, rfl⟩

theorem node_scalar (h : depth ≤ depthLimit) (text : Text) (isPlain : Bool) (a b : Mark)
    (ts : List Token) (g : Graph) :
    (node (fuel + 1) depth place).run (standing (⟨.scalar text isPlain, a, b⟩ :: ts) g)
      = .ok (g.size, standing ts (g.add ⟨scalarTag none text isPlain, .scalar text, a⟩)) := by
  rw [node, if_neg (Nat.not_lt.mpr h)]
  rfl

theorem node_list (h : depth ≤ depthLimit) (a b : Mark) (ts : List Token) (g : Graph) :
    (node (fuel + 1) depth place).run (standing (⟨.flowSequenceStart, a, b⟩ :: ts) g)
      = (do
          fill g.size (.sequence (← flowItems fuel depth a true []))
          return g.size : Build NodeId).run (standing ts (g.add ⟨.seq, .sequence [], a⟩)) := by
  have hassoc : (do
      let content ← (do return .sequence (← flowItems fuel depth a true []) : Build Content)
      fill g.size content
      return g.size : Build NodeId)
      = (do
          fill g.size (.sequence (← flowItems fuel depth a true []))
          return g.size : Build NodeId) := by
    simp only [bind_assoc, pure_bind]
  rw [node, if_neg (Nat.not_lt.mpr h), ← hassoc]
  rfl

theorem node_object (h : depth ≤ depthLimit) (a b : Mark) (ts : List Token) (g : Graph) :
    (node (fuel + 1) depth place).run (standing (⟨.flowMappingStart, a, b⟩ :: ts) g)
      = (do
          fill g.size (.mapping (← flowEntries fuel depth a true []))
          return g.size : Build NodeId).run (standing ts (g.add ⟨.map, .mapping [], a⟩)) := by
  rw [node, if_neg (Nat.not_lt.mpr h)]
  rfl

/-- Whether a kind of token begins a node of a document. -/
def beginsNode : Token.Kind → Bool
  | .scalar .. => true
  | .flowSequenceStart => true
  | .flowMappingStart => true
  | _ => false

theorem kindsOf_eq_cons (f : Form) : ∃ k ks, kindsOf f = k :: ks ∧ beginsNode k = true := by
  cases f <;> exact ⟨_, _, rfl, rfl⟩

theorem flowItems_end (start : Mark) (isFirst : Bool) (items : List NodeId) (a b : Mark)
    (ts : List Token) (g : Graph) :
    (flowItems (fuel + 1) depth start isFirst items).run
    (standing (⟨.flowSequenceEnd, a, b⟩ :: ts) g)
      = .ok (items.reverse, standing ts g) := by
  rw [flowItems]
  rfl

theorem flowItems_item {k : Token.Kind} (hk : beginsNode k = true) (start : Mark)
    (items : List NodeId) (a b : Mark) (ts : List Token) (g : Graph) :
    (flowItems (fuel + 1) depth start true items).run (standing (⟨k, a, b⟩ :: ts) g)
      = (do
          flowItems fuel depth start false ((← node fuel (depth + 1) .flow) :: items)
            : Build (List NodeId)).run (standing (⟨k, a, b⟩ :: ts) g) := by
  rw [flowItems]
  cases k <;> first | rfl | exact absurd hk (by decide)

/-- A comma in front of an item is passed by. -/
theorem flowItems_comma (k : Token.Kind) (fuel depth : Nat) (start : Mark) (items : List NodeId)
    (a b c d : Mark) (ts : List Token) (g : Graph) :
    (flowItems fuel depth start false items).run
    (standing (⟨.flowEntry, c, d⟩ :: ⟨k, a, b⟩ :: ts) g)
      = (flowItems fuel depth start true items).run (standing (⟨k, a, b⟩ :: ts) g) := by
  cases fuel with
  | zero =>
    rw [flowItems, flowItems]
    rfl
  | succ fuel =>
    rw [flowItems, flowItems]
    cases k <;> rfl

theorem nodeOr_node {kinds : List Token.Kind} {k : Token.Kind}
    (hk : kinds.contains k = false) (stop a b : Mark) (ts : List Token) (g : Graph) :
    (nodeOr (fuel + 1) depth place kinds stop).run (standing (⟨k, a, b⟩ :: ts) g)
      = (node fuel (depth + 1) place).run (standing (⟨k, a, b⟩ :: ts) g) := by
  rw [nodeOr, run_bind (isNext_standing _ _ _ _), hk]
  rfl

theorem valueNode_value {kinds : List Token.Kind} {k : Token.Kind}
    (hk : kinds.contains k = false) (a b c d : Mark) (ts : List Token) (g : Graph) :
    (valueNode (fuel + 2) depth place kinds).run (standing (⟨.value, c, d⟩ :: ⟨k, a, b⟩ :: ts) g)
      = (node fuel (depth + 1) place).run (standing (⟨k, a, b⟩ :: ts) g) := by
  rw [valueNode, run_bind (peek_standing _ _ _), if_pos (by rfl),
    run_bind (skip_standing _ _ _), nodeOr_node hk]

theorem flowEntries_end (start : Mark) (isFirst : Bool)
    (entries : List (NodeId × NodeId)) (a b : Mark) (ts : List Token) (g : Graph) :
    (flowEntries (fuel + 1) depth start isFirst entries).run
    (standing (⟨.flowMappingEnd, a, b⟩ :: ts) g)
      = .ok (entries.reverse, standing ts g) := by
  rw [flowEntries]
  rfl

/-- A comma in front of an entry is passed by. -/
theorem flowEntries_comma (k : Token.Kind) (fuel depth : Nat) (start : Mark)
    (entries : List (NodeId × NodeId)) (a b c d : Mark) (ts : List Token) (g : Graph) :
    (flowEntries fuel depth start false entries).run
    (standing (⟨.flowEntry, c, d⟩ :: ⟨k, a, b⟩ :: ts) g)
      = (flowEntries fuel depth start true entries).run (standing (⟨k, a, b⟩ :: ts) g) := by
  cases fuel with
  | zero =>
    rw [flowEntries, flowEntries]
    rfl
  | succ fuel =>
    rw [flowEntries, flowEntries]
    cases k <;> rfl

/-- An entry with a key. -/
theorem flowEntries_key {k : Token.Kind} (hk : beginsNode k = true)
    (hdepth : depth < depthLimit) (fuel : Nat)
    (start : Mark) (entries : List (NodeId × NodeId)) (text : Text) (a a' b b' c c' d d' : Mark)
    (ts : List Token) (g : Graph) :
    (flowEntries (fuel + 3) depth start true entries).run (standing
        (⟨.key, a, a'⟩ :: ⟨.scalar text false, b, b'⟩ :: ⟨.value, c, c'⟩ :: ⟨k, d, d'⟩ :: ts) g)
      = (do
          let value ← node fuel (depth + 1) .flow
          flowEntries (fuel + 2) depth start false ((g.size, value) :: entries)
          : Build (List (NodeId × NodeId))).run
        (standing (⟨k, d, d'⟩ :: ts) (g.add ⟨.str, .scalar text, b⟩)) := by
  have hkey : (nodeOr (fuel + 2) depth .flow [.value, .flowEntry, .flowMappingEnd] a').run
      (standing (⟨.scalar text false, b, b'⟩ :: ⟨.value, c, c'⟩ :: ⟨k, d, d'⟩ :: ts) g)
      = .ok (g.size,
        standing (⟨.value, c, c'⟩ :: ⟨k, d, d'⟩ :: ts) (g.add ⟨.str, .scalar text, b⟩)) :=
    (nodeOr_node rfl _ _ _ _ _).trans (node_scalar hdepth text false _ _ _ _)
  have hstops : [Token.Kind.flowEntry, .flowMappingEnd].contains k = false := by
    cases k <;> first | rfl | exact absurd hk (by decide)
  rw [flowEntries]
  show (do
    skip
    let key ← nodeOr (fuel + 2) depth .flow [.value, .flowEntry, .flowMappingEnd] a'
    let value ← valueNode (fuel + 2) depth .flow [.flowEntry, .flowMappingEnd]
    flowEntries (fuel + 2) depth start false ((key, value) :: entries) :
      Build (List (NodeId × NodeId))).run _ = _
  rw [run_bind (skip_standing _ _ _), run_bind hkey]
  exact run_bind_congr (valueNode_value hstops d d' c c' ts _)

/-- An entry with a key that is nested too deeply. -/
theorem flowEntries_key_tooDeep (hdepth : depthLimit ≤ depth) (start : Mark)
    (entries : List (NodeId × NodeId))
    (text : Text) (a a' b b' : Mark) (ts : List Token) (g : Graph) :
    ∃ e, (flowEntries (fuel + 2) depth start true entries).run (standing
      (⟨.key, a, a'⟩ :: ⟨.scalar text false, b, b'⟩ :: ts) g) = .error e := by
  obtain ⟨e, he⟩ := node_tooDeep (Nat.lt_succ_of_le hdepth) fuel .flow
    (standing (⟨.scalar text false, b, b'⟩ :: ts) g)
  refine ⟨e, ?_⟩
  have hkey : (nodeOr (fuel + 1) depth .flow [.value, .flowEntry, .flowMappingEnd] a').run
      (standing (⟨.scalar text false, b, b'⟩ :: ts) g) = .error e :=
      (nodeOr_node rfl _ _ _ _ _).trans he
  rw [flowEntries]
  show (do
    skip
    let key ← nodeOr (fuel + 1) depth .flow [.value, .flowEntry, .flowMappingEnd] a'
    let value ← valueNode (fuel + 1) depth .flow [.flowEntry, .flowMappingEnd]
    flowEntries (fuel + 1) depth start false ((key, value) :: entries) :
      Build (List (NodeId × NodeId))).run _ = _
  rw [run_bind (skip_standing _ _ _)]
  exact run_bind_error hkey

/-- An entry whose name is too long to be a key: its colon is in the way. -/
theorem flowEntries_long (start : Mark) (entries : List (NodeId × NodeId))
    (text : Text) (b b' c c' : Mark) (ts : List Token) (g : Graph) :
    ∃ e, (flowEntries fuel depth start true entries).run (standing
      (⟨.scalar text false, b, b'⟩ :: ⟨.value, c, c'⟩ :: ts) g) = .error e := by
  have hstep (fuel : Nat) : (flowEntries (fuel + 1) depth start true entries).run (standing
      (⟨.scalar text false, b, b'⟩ :: ⟨.value, c, c'⟩ :: ts) g)
      = (do
          let key ← node fuel (depth + 1) .flow
          let value ← empty (← peek).start
          flowEntries fuel depth start false ((key, value) :: entries) :
            Build (List (NodeId × NodeId))).run
        (standing (⟨.scalar text false, b, b'⟩ :: ⟨.value, c, c'⟩ :: ts) g) := by
    rw [flowEntries]
    rfl
  rcases fuel with _ | _ | fuel
  · rw [flowEntries]
    exact ⟨_, rfl⟩
  · rw [hstep, node]
    exact ⟨_, rfl⟩
  · rw [hstep]
    by_cases hdepth : depth < depthLimit
    · rw [run_bind (node_scalar hdepth text false _ _ _ _), run_bind (peek_standing _ _ _),
        run_bind (empty_standing _ _ _), flowEntries]
      exact ⟨_, rfl⟩
    · obtain ⟨e, he⟩ := node_tooDeep (Nat.lt_succ_of_le (Nat.not_lt.mp hdepth)) (fuel + 1) .flow
        (standing (⟨.scalar text false, b, b'⟩ :: ⟨.value, c, c'⟩ :: ts) g)
      exact ⟨e, run_bind_error he⟩

/-! ## Reading the nodes of a document -/

/-- Whether a part of a document at a depth can be read. -/
def Fits (depth : Nat) (f : Form) : Prop := ShortNames f ∧ depth + f.height ≤ depthLimit + 1

/-- Whether some items can be read, the list of which is at a depth. -/
def ItemsFit (depth : Nat) (items : List Form) : Prop :=
  ShortNamesOfItems items ∧ depth + 1 + Form.heights items ≤ depthLimit + 1

/-- Whether some fields can be read, the object of which is at a depth. -/
def FieldsFit (depth : Nat) (fields : List (Units × Form)) : Prop :=
  ShortNamesOfFields fields ∧ depth + 1 + Form.fieldHeights fields ≤ depthLimit + 1

theorem itemsFit_cons {f : Form} {rest : List Form} :
    Fits (depth + 1) f ∧ ItemsFit depth rest ↔ ItemsFit depth (f :: rest) := by
  simp only [Fits, ItemsFit, ShortNamesOfItems, Form.heights]
  constructor
  · rintro ⟨⟨hf, hd⟩, hrest, hd'⟩
    exact ⟨⟨hf, hrest⟩, by omega⟩
  · rintro ⟨⟨hf, hrest⟩, hd⟩
    exact ⟨⟨hf, by omega⟩, hrest, by omega⟩

theorem fieldsFit_cons {v : Units} {f : Form} {rest : List (Units × Form)} :
    (v.text.length ≤ Scan.keyLength ∧ Fits (depth + 1) f) ∧ FieldsFit depth rest ↔
    FieldsFit depth ((v, f) :: rest) := by
  simp only [Fits, FieldsFit, ShortNamesOfFields, Form.fieldHeights]
  constructor
  · rintro ⟨⟨hv, hf, hd⟩, hrest, hd'⟩
    exact ⟨⟨hv, hf, hrest⟩, by omega⟩
  · rintro ⟨⟨hv, hf, hrest⟩, hd⟩
    exact ⟨⟨hv, hf, by omega⟩, hrest, by omega⟩

/-- What reading a part of a document comes to: the number of its first node, and a
graph with its nodes. -/
def Adds (row : NodeId → List (Tag × Content)) (rest : List Token) (g : Graph) (s : Builder) :
    Prop :=
  ∃ g' : Graph, s = standing rest g' ∧ g'.shapes = g.shapes ++ row g.size

theorem exists_of_map_cons {ts : List Token} {k : Token.Kind} {ks : List Token.Kind}
    (h : ts.map Token.kind = k :: ks) :
    ∃ a b ts', ts = ⟨k, a, b⟩ :: ts' ∧ ts'.map Token.kind = ks := by
  obtain ⟨t, ts', rfl, rfl, hts⟩ := List.map_eq_cons_iff.mp h
  exact ⟨t.start, t.stop, ts', rfl, hts⟩

/-- A container gets its content when its parts have been read. -/
theorem fill_adds {g' : Graph} {tag : Tag} {c : Content} {more : List (Tag × Content)}
    (h : g'.shapes = (g.shapes ++ [(tag, c)]) ++ more) (c' : Content) (rest : List Token) :
    ∃ g'' : Graph, (fill g.size c').run (standing rest g') = .ok ((), standing rest g'')
      ∧ g''.shapes = g.shapes ++ (tag, c') :: more := by
  refine ⟨_, fill_standing g.size c' rest g', ?_⟩
  have hplace : g'.shapes[g.size]? = some (tag, c) := by
    rw [h, ← g.length_shapes, List.append_assoc,
      List.getElem?_append_right (Nat.le_refl _), Nat.sub_self]
    rfl
  have htag : ((g'.node? g.size).getD ⟨.null, .scalar [], {}⟩).tag = tag := by
    rw [← g'.node?_map] at hplace
    cases hn : g'.node? g.size with
    | none => simp [hn] at hplace
    | some n =>
      rw [hn, Option.map_some, Option.some.injEq] at hplace
      exact congrArg Prod.fst hplace
  rw [Graph.shapes_set, htag, h, ← g.length_shapes, List.append_assoc,
    List.set_append_right _ _ (Nat.le_refl _), Nat.sub_self]
  rfl

theorem length_pos_of_kinds {ts : List Token} {ks : List Token.Kind} (h : ts.map Token.kind = ks)
    (hks : 0 < ks.length) : 0 < ts.length := by
  rwa [← List.length_map (f := Token.kind), h]

/-- What is nested too deeply does not fit. -/
theorem node_within {f : Form} {s : Builder} {q : NodeId → Builder → Prop}
    (h : depth ≤ depthLimit → Decided (Fits depth f) ((node fuel depth place).run s) q) :
    Decided (Fits depth f) ((node fuel depth place).run s) q := by
  by_cases hdepth : depth ≤ depthLimit
  · exact h hdepth
  · refine .inr ⟨fun hfits => hdepth ?_, node_tooDeep (Nat.lt_of_not_le hdepth) fuel place s⟩
    have hheight := f.height_pos
    have hlevels := hfits.2
    omega

/-- A word or a string adds its only node. -/
theorem node_leaf {f : Form} {text : Text} {isPlain : Bool} (hshort : ShortNames f)
    (hheight : f.height = 1)
    (hshape : ∀ id, shape id f = [(scalarTag none text isPlain, .scalar text)])
    (a b : Mark) (rest : List Token) (g : Graph) :
    Decided (Fits depth f)
      ((node (fuel + 1) depth place).run (standing (⟨.scalar text isPlain, a, b⟩ :: rest) g))
      (fun id s => id = g.size ∧ Adds (fun id => shape id f) rest g s) := by
  refine node_within fun hdepth =>
    .inl ⟨⟨hshort, ?_⟩, _, _, node_scalar hdepth text isPlain a b rest g, rfl, _, rfl, ?_⟩
  · rw [hheight]
    exact Nat.succ_le_succ hdepth
  · simp only [g.shapes_add, hshape]

/-- A container adds its node, which gets its content in the end, and the nodes of its parts. -/
theorem container_adds {α : Type} {m : Build α} {s : Builder} {p : Prop} {x : α}
    {row : NodeId → List (Tag × Content)} {rest : List Token} {n : Node} (content : α → Content)
    (h : Decided p (m.run s) fun parts s => parts = x ∧ Adds row rest (g.add n) s) :
    Decided p ((do
        fill g.size (content (← m))
        return g.size : Build NodeId).run s)
      (fun id s => id = g.size ∧ Adds (fun id => (n.tag, content x) :: row (id + 1)) rest g s) := by
  refine h.bind_ok ?_
  rintro parts s ⟨rfl, g', rfl, hshapes⟩
  rw [g.shapes_add, g.size_add] at hshapes
  obtain ⟨g'', hfill, hshapes⟩ := fill_adds hshapes (content parts) rest
  exact ⟨g.size, standing rest g'', (run_bind hfill).trans rfl, rfl, g'', rfl, hshapes⟩

/-- An item that is followed by further items. -/
theorem flowItems_cons {f : Form} {k : Token.Kind} {ks : List Token.Kind}
    {items : List Form} {start : Mark}
    {before : List NodeId} {ts ts' rest : List Token} (hk : beginsNode k = true)
    (hts : ts.map Token.kind = k :: ks)
    (hnode : Decided (Fits (depth + 1) f)
      ((node fuel (depth + 1) .flow).run (standing (ts ++ (ts' ++ rest)) g))
      (fun id s => id = g.size ∧ Adds (fun id => shape id f) (ts' ++ rest) g s))
    (hrest : ∀ g' : Graph, Decided (ItemsFit depth items)
      ((flowItems fuel depth start false (g.size :: before)).run (standing (ts' ++ rest) g'))
      (fun ids s => ids = (g.size :: before).reverse ++ itemIds g'.size items
        ∧ Adds (fun id => itemShapes id items) rest g' s)) :
    Decided (ItemsFit depth (f :: items))
      ((flowItems (fuel + 1) depth start true before).run (standing (ts ++ (ts' ++ rest)) g))
      (fun ids s => ids = before.reverse ++ itemIds g.size (f :: items)
        ∧ Adds (fun id => itemShapes id (f :: items)) rest g s) := by
  obtain ⟨a, b, ts, rfl, -⟩ := exists_of_map_cons hts
  refine (congrArg (Decided _ · _)
    (flowItems_item hk start before a b (ts ++ (ts' ++ rest)) g)).mpr ?_
  refine (Decided.bind hnode ?_).congr itemsFit_cons
  rintro id s ⟨rfl, g', rfl, hshapes⟩
  have hsize : g'.size = g.size + sizeOfForm f := by
    rw [← g'.length_shapes, hshapes, List.length_append, g.length_shapes, length_shape]
  refine (hrest g').imp ?_
  rintro ids s ⟨rfl, g'', rfl, hshapes'⟩
  refine ⟨?_, g'', rfl, ?_⟩
  · simp [itemIds, hsize]
  · simp only [hshapes', hshapes, hsize, itemShapes, List.append_assoc]

/-- A field with a name that is a key, which is followed by further fields. -/
theorem flowEntries_cons {v : Units} {f : Form} {k : Token.Kind} {ks : List Token.Kind}
    {fields : List (Units × Form)}
    {start a a' b b' c c' : Mark} {before : List (NodeId × NodeId)} {ts ts' rest : List Token}
    (hname : v.text.length ≤ Scan.keyLength) (hk : beginsNode k = true)
    (hts : ts.map Token.kind = k :: ks)
    (hnode : Decided (Fits (depth + 1) f)
      ((node fuel (depth + 1) .flow).run
        (standing (ts ++ (ts' ++ rest)) (g.add ⟨.str, .scalar v.val, b⟩)))
      (fun id s => id = (g.add ⟨.str, .scalar v.val, b⟩).size
        ∧ Adds (fun id => shape id f) (ts' ++ rest) (g.add ⟨.str, .scalar v.val, b⟩) s))
    (hrest : ∀ g' : Graph, Decided (FieldsFit depth fields)
      ((flowEntries (fuel + 2) depth start false ((g.size, g.size + 1) :: before)).run
        (standing (ts' ++ rest) g'))
      (fun entries s => entries =
        ((g.size, g.size + 1) :: before).reverse ++ fieldIds g'.size fields
        ∧ Adds (fun id => fieldShapes id fields) rest g' s)) :
    Decided (FieldsFit depth ((v, f) :: fields))
      ((flowEntries (fuel + 3) depth start true before).run (standing
        (⟨.key, a, a'⟩ :: ⟨.scalar v.val false, b, b'⟩ :: ⟨.value, c, c'⟩ ::
          (ts ++ (ts' ++ rest))) g))
      (fun entries s => entries = before.reverse ++ fieldIds g.size ((v, f) :: fields)
        ∧ Adds (fun id => fieldShapes id ((v, f) :: fields)) rest g s) := by
  by_cases hd : depth < depthLimit
  · obtain ⟨d, d', ts, rfl, -⟩ := exists_of_map_cons hts
    have hkey :=
      flowEntries_key hk hd fuel start before v.val a a' b b' c c' d d' (ts ++ (ts' ++ rest)) g
    refine (congrArg (Decided _ · _) hkey).mpr ?_
    have hfits :
        Fits (depth + 1) f ∧ FieldsFit depth fields ↔ FieldsFit depth ((v, f) :: fields) := by
      rw [← fieldsFit_cons]
      simp only [hname, true_and]
    refine (Decided.bind hnode ?_).congr hfits
    rintro id s ⟨rfl, g', rfl, hshapes⟩
    rw [g.shapes_add, g.size_add] at hshapes
    have hsize : g'.size = g.size + 1 + sizeOfForm f := by
      rw [← g'.length_shapes, hshapes, List.length_append, List.length_append,
        g.length_shapes, length_shape]
      rfl
    rw [g.size_add]
    refine (hrest g').imp ?_
    rintro entries s ⟨rfl, g'', rfl, hshapes'⟩
    refine ⟨?_, g'', rfl, ?_⟩
    · simp [fieldIds, hsize]
    · simp only [hshapes', hshapes, hsize, fieldShapes, List.append_assoc,
        List.cons_append, List.nil_append]
  · refine .inr ⟨fun hfits => hd ?_,
      flowEntries_key_tooDeep (Nat.not_lt.mp hd) start before v.val a a' b b' _ g⟩
    have hheight := f.height_pos
    have hlevels := (fieldsFit_cons.mpr hfits).1.2.2
    omega

theorem nameKinds_eq_cons (v : Units) : ∃ k ks, Lexer.nameKinds v = k :: ks := by
  unfold Lexer.nameKinds
  split <;> exact ⟨_, _, rfl⟩

mutual

/-- **Reading a part of a document** succeeds exactly if it fits, and adds its nodes. -/
theorem node_form :
    ∀ (f : Form) (fuel depth : Nat) (place : Place) (ts rest : List Token) (g : Graph),
    ts.map Token.kind = kindsOf f → ts.length ≤ fuel →
    Decided (Fits depth f) ((node fuel depth place).run (standing (ts ++ rest) g))
      (fun id s => id = g.size ∧ Adds (fun id => shape id f) rest g s)
  | .word w, fuel, depth, place, ts, rest, g, hkinds, hfuel => by
    obtain ⟨a, b, ts, rfl, hts⟩ := exists_of_map_cons hkinds
    obtain rfl := List.map_eq_nil_iff.mp hts
    obtain ⟨fuel, rfl⟩ : ∃ k, fuel = k + 1 := ⟨fuel - 1, by simp at hfuel; omega⟩
    exact node_leaf (f := .word w) trivial rfl (fun _ => rfl) a b rest g
  | .string u, fuel, depth, place, ts, rest, g, hkinds, hfuel => by
    obtain ⟨a, b, ts, rfl, hts⟩ := exists_of_map_cons hkinds
    obtain rfl := List.map_eq_nil_iff.mp hts
    obtain ⟨fuel, rfl⟩ : ∃ k, fuel = k + 1 := ⟨fuel - 1, by simp at hfuel; omega⟩
    exact node_leaf (f := .string u) trivial rfl (fun _ => rfl) a b rest g
  | .list items, fuel, depth, place, ts, rest, g, hkinds, hfuel => by
    obtain ⟨a, b, ts, rfl, hts⟩ := exists_of_map_cons hkinds
    obtain ⟨fuel, rfl⟩ : ∃ k, fuel = k + 1 := ⟨fuel - 1, by simp at hfuel; omega⟩
    refine node_within fun hdepth => ?_
    have hfits : ItemsFit depth items ↔ Fits depth (.list items) := by
      simp only [ItemsFit, Fits, ShortNames, Form.height, Nat.add_assoc]
    have hitems :=
      flowItems_forms items true fuel depth a [] ts rest (g.add ⟨.seq, .sequence [], a⟩) hdepth hts
      (Nat.le_of_succ_le_succ hfuel)
    rw [g.size_add, List.reverse_nil, List.nil_append] at hitems
    rw [List.cons_append, node_list hdepth]
    exact (container_adds .sequence hitems).congr hfits
  | .object fields, fuel, depth, place, ts, rest, g, hkinds, hfuel => by
    obtain ⟨a, b, ts, rfl, hts⟩ := exists_of_map_cons hkinds
    obtain ⟨fuel, rfl⟩ : ∃ k, fuel = k + 1 := ⟨fuel - 1, by simp at hfuel; omega⟩
    refine node_within fun hdepth => ?_
    have hfits : FieldsFit depth fields ↔ Fits depth (.object fields) := by
      simp only [FieldsFit, Fits, ShortNames, Form.height, Nat.add_assoc]
    have hfields :=
      flowEntries_forms fields true fuel depth a [] ts rest
      (g.add ⟨.map, .mapping [], a⟩) hdepth hts
      (Nat.le_of_succ_le_succ hfuel)
    rw [g.size_add, List.reverse_nil, List.nil_append] at hfields
    rw [List.cons_append, node_object hdepth]
    exact (container_adds .mapping hfields).congr hfits

/-- The items of a list up to its end; the first one is next, or a comma. -/
theorem flowItems_forms : ∀ (items : List Form) (isFirst : Bool) (fuel depth : Nat) (start : Mark)
    (before : List NodeId) (ts rest : List Token) (g : Graph),
    depth ≤ depthLimit →
    ts.map Token.kind = (if isFirst then inside [.flowEntry] .flowSequenceEnd (itemKinds items)
      else following [.flowEntry] .flowSequenceEnd (itemKinds items)) →
    ts.length ≤ fuel →
    Decided (ItemsFit depth items)
      ((flowItems fuel depth start isFirst before).run (standing (ts ++ rest) g))
      (fun ids s => ids = before.reverse ++ itemIds g.size items ∧
        Adds (fun id => itemShapes id items) rest g s)
  | [], isFirst, fuel, depth, start, before, ts, rest, g, hdepth, hkinds, hfuel => by
    have hend : ts.map Token.kind = [.flowSequenceEnd] := by
      rw [hkinds]
      cases isFirst <;> rfl
    obtain ⟨a, b, ts, rfl, hts⟩ := exists_of_map_cons hend
    obtain rfl := List.map_eq_nil_iff.mp hts
    obtain ⟨fuel, rfl⟩ : ∃ k, fuel = k + 1 := ⟨fuel - 1, by simp at hfuel; omega⟩
    refine .inl ⟨⟨trivial, Nat.succ_le_succ hdepth⟩, _, _,
      flowItems_end start isFirst before a b rest g, ?_, g, rfl, ?_⟩
    · simp [itemIds]
    · simp [itemShapes]
  | f :: items, isFirst, fuel, depth, start, before, ts, rest, g, hdepth, hkinds, hfuel => by
    obtain ⟨k, ks, hf, hk⟩ := kindsOf_eq_cons f
    have hitem (ts : List Token) (hkinds : ts.map Token.kind = kindsOf f
        ++ following [.flowEntry] .flowSequenceEnd (itemKinds items)) (hfuel : ts.length ≤ fuel) :
        Decided (ItemsFit depth (f :: items))
          ((flowItems fuel depth start true before).run (standing (ts ++ rest) g))
          (fun ids s => ids = before.reverse ++ itemIds g.size (f :: items)
            ∧ Adds (fun id => itemShapes id (f :: items)) rest g s) := by
      obtain ⟨ts, ts', rfl, hts, hts'⟩ := List.map_eq_append_iff.mp hkinds
      have hpos := length_pos_of_kinds (hts.trans hf) (Nat.succ_pos _)
      have hpos' := length_pos_of_kinds hts' (following_length_pos _ _ _)
      rw [List.length_append] at hfuel
      obtain ⟨fuel, rfl⟩ : ∃ k, fuel = k + 1 := ⟨fuel - 1, by omega⟩
      rw [List.append_assoc]
      exact flowItems_cons hk (hts.trans hf)
        (node_form f fuel (depth + 1) .flow ts (ts' ++ rest) g hts (by omega))
        fun g' => flowItems_forms items false fuel depth start (g.size :: before) ts' rest g'
          hdepth hts' (by omega)
    cases isFirst with
    | true => exact hitem ts hkinds hfuel
    | false =>
      obtain ⟨c, d, ts, rfl, hts⟩ := exists_of_map_cons hkinds
      obtain ⟨a, b, ts', rfl, -⟩ := exists_of_map_cons (hts.trans (congrArg (· ++ _) hf))
      have hcomma := flowItems_comma k fuel depth start before a b c d (ts' ++ rest) g
      exact (congrArg (Decided _ · _) hcomma).mpr (hitem _ hts (Nat.le_of_succ_le hfuel))

/-- The fields of an object up to its end; the first one is next, or a comma. -/
theorem flowEntries_forms :
    ∀ (fields : List (Units × Form)) (isFirst : Bool) (fuel depth : Nat) (start : Mark)
    (before : List (NodeId × NodeId)) (ts rest : List Token) (g : Graph),
    depth ≤ depthLimit →
    ts.map Token.kind = (if isFirst then inside [.flowEntry] .flowMappingEnd (fieldKinds fields)
      else following [.flowEntry] .flowMappingEnd (fieldKinds fields)) →
    ts.length ≤ fuel →
    Decided (FieldsFit depth fields)
      ((flowEntries fuel depth start isFirst before).run (standing (ts ++ rest) g))
      (fun entries s => entries = before.reverse ++ fieldIds g.size fields
        ∧ Adds (fun id => fieldShapes id fields) rest g s)
  | [], isFirst, fuel, depth, start, before, ts, rest, g, hdepth, hkinds, hfuel => by
    have hend : ts.map Token.kind = [.flowMappingEnd] := by
      rw [hkinds]
      cases isFirst <;> rfl
    obtain ⟨a, b, ts, rfl, hts⟩ := exists_of_map_cons hend
    obtain rfl := List.map_eq_nil_iff.mp hts
    obtain ⟨fuel, rfl⟩ : ∃ k, fuel = k + 1 := ⟨fuel - 1, by simp at hfuel; omega⟩
    refine .inl ⟨⟨trivial, Nat.succ_le_succ hdepth⟩, _, _,
      flowEntries_end start isFirst before a b rest g, ?_, g, rfl, ?_⟩
    · simp [fieldIds]
    · simp [fieldShapes]
  | (v, f) :: fields, isFirst, fuel, depth, start, before, ts, rest, g, hdepth, hkinds, hfuel => by
    obtain ⟨k, ks, hf, hk⟩ := kindsOf_eq_cons f
    have hfield (ts : List Token) (hkinds : ts.map Token.kind = Lexer.nameKinds v ++ kindsOf f
        ++ following [.flowEntry] .flowMappingEnd (fieldKinds fields)) (hfuel : ts.length ≤ fuel) :
        Decided (FieldsFit depth ((v, f) :: fields))
          ((flowEntries fuel depth start true before).run (standing (ts ++ rest) g))
          (fun entries s => entries = before.reverse ++ fieldIds g.size ((v, f) :: fields)
            ∧ Adds (fun id => fieldShapes id ((v, f) :: fields)) rest g s) := by
      by_cases hname : v.text.length ≤ Scan.keyLength
      · rw [Lexer.nameKinds, if_pos hname] at hkinds
        obtain ⟨a, a', tsk, rfl, htsk⟩ := exists_of_map_cons hkinds
        obtain ⟨b, b', tss, rfl, htss⟩ := exists_of_map_cons htsk
        obtain ⟨c, c', tsv, rfl, htsv⟩ := exists_of_map_cons htss
        obtain ⟨ts, ts', rfl, hts, hts'⟩ := List.map_eq_append_iff.mp htsv
        have hpos := length_pos_of_kinds (hts.trans hf) (Nat.succ_pos _)
        have hpos' := length_pos_of_kinds hts' (following_length_pos _ _ _)
        simp only [List.length_cons, List.length_append] at hfuel
        obtain ⟨fuel, rfl⟩ : ∃ k, fuel = k + 3 := ⟨fuel - 3, by omega⟩
        simp only [List.cons_append, List.append_assoc]
        exact flowEntries_cons hname hk (hts.trans hf)
          (node_form f fuel (depth + 1) .flow ts (ts' ++ rest)
            (g.add ⟨.str, .scalar v.val, b⟩) hts (by omega))
          fun g' => flowEntries_forms fields false (fuel + 2) depth start _ ts' rest g'
            hdepth hts' (by omega)
      · rw [Lexer.nameKinds, if_neg hname] at hkinds
        obtain ⟨b, b', tss, rfl, htss⟩ := exists_of_map_cons hkinds
        obtain ⟨c, c', tsv, rfl, -⟩ := exists_of_map_cons htss
        exact .inr ⟨fun hfits => hname hfits.1.1,
          flowEntries_long start before v.val b b' c c' (tsv ++ rest) g⟩
    cases isFirst with
    | true => exact hfield ts hkinds hfuel
    | false =>
      obtain ⟨c, d, ts, rfl, hts⟩ := exists_of_map_cons hkinds
      obtain ⟨k, ks, hname⟩ := nameKinds_eq_cons v
      obtain ⟨a, b, ts', rfl, -⟩ := exists_of_map_cons (hts.trans (by rw [hname]; rfl))
      have hcomma := flowEntries_comma k fuel depth start before a b c d (ts' ++ rest) g
      exact (congrArg (Decided _ · _) hcomma).mpr (hfield _ hts (Nat.le_of_succ_le hfuel))

end

/-! ## The only document -/

theorem firstDocument_object {fuel : Nat} {a b : Mark} {ts : List Token} :
    (firstDocument fuel).run { tokens := ⟨.flowMappingStart, a, b⟩ :: ts }
      = (do return some (← node fuel 1 .block) : Build (Option NodeId)).run
        (standing (⟨.flowMappingStart, a, b⟩ :: ts) {}) := rfl

theorem beginDocument_streamEnd {fuel : Nat} {a b : Mark} {g : Graph} :
    (beginDocument (fuel + 1)).run (standing [⟨.streamEnd, a, b⟩] g)
      = .ok (none, standing [⟨.streamEnd, a, b⟩] g) := rfl

/-- Reading an object that is alone succeeds exactly if it fits. -/
theorem document_object {fields : List (Units × Form)} {ts : List Token} (fuel : Nat)
    (hkinds : ts.map Token.kind = kindsOf (.object fields) ++ [.streamEnd])
    (hfuel : ts.length ≤ fuel) :
    Decided (Fits 1 (.object fields)) ((document fuel).run { tokens := ts })
      (fun root s => root = some 0 ∧ s.graph.shapes = shape 0 (.object fields)) := by
  obtain ⟨object, last, rfl, hobject, hlast⟩ := List.map_eq_append_iff.mp hkinds
  obtain ⟨c, d, rest, rfl, hrest⟩ := exists_of_map_cons hlast
  obtain rfl := List.map_eq_nil_iff.mp hrest
  have hnode := node_form (.object fields) fuel 1 .block object [⟨.streamEnd, c, d⟩] {} hobject
    (by simp only [List.length_append] at hfuel; omega)
  obtain ⟨a, b, more, rfl, -⟩ := exists_of_map_cons hobject
  obtain ⟨fuel, rfl⟩ : ∃ k, fuel = k + 1 := ⟨fuel - 1, by simp at hfuel; omega⟩
  have hfirst : Decided (Fits 1 (.object fields))
      ((firstDocument (fuel + 1)).run { tokens := ⟨.flowMappingStart, a, b⟩ :: more ++
        [⟨.streamEnd, c, d⟩] })
      (fun root s => root = some 0 ∧
        Adds (fun id => shape id (.object fields)) [⟨.streamEnd, c, d⟩] {} s) := by
    rw [List.cons_append, firstDocument_object]
    refine hnode.bind_ok ?_
    rintro id s ⟨rfl, hadds⟩
    exact ⟨some 0, s, rfl, rfl, hadds⟩
  rw [document]
  refine hfirst.bind_ok ?_
  rintro root s ⟨rfl, g, rfl, hshapes⟩
  refine ⟨some 0, standing [⟨.streamEnd, c, d⟩] g, ?_, rfl, hshapes⟩
  exact (run_bind beginDocument_streamEnd).trans rfl

end Build

/-- **The graph of a document** is there exactly if the document fits, and has the
nodes of the document. -/
theorem Graph.ofTokens_object {fields : List (Units × Form)} {ts : List Token}
    (hkinds : ts.map Token.kind = kindsOf (.object fields) ++ [.streamEnd]) :
    Build.Fits 1 (.object fields) ∧
        (∃ g, Graph.ofTokens ⟨ts, none⟩ = .ok (some 0, g) ∧ g.shapes = shape 0 (.object fields)) ∨
      ¬ Build.Fits 1 (.object fields) ∧ ∃ e, Graph.ofTokens ⟨ts, none⟩ = .error e := by
  have hdocument := Build.document_object (8 * ts.length + 32) hkinds (by omega)
  rcases hdocument with ⟨hfits, root, s, hrun, rfl, hshapes⟩ | ⟨hfits, e, hrun⟩
  · refine .inl ⟨hfits, s.graph, ?_, hshapes⟩
    rw [Graph.ofTokens, hrun]
    rfl
  · refine .inr ⟨hfits, e, ?_⟩
    rw [Graph.ofTokens, hrun]
    rfl

end ToolPolicy.Yaml
