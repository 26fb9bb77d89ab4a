import ToolPolicy.Proofs.YamlNodes
import ToolPolicy.Yaml.Document
import Mathlib.Data.Finset.Card
import Mathlib.Data.Finset.Range

/-!
# Filling the containers of a graph

In a sound graph every scalar has a value, containers have nodes that are there, and keys are texts.
Filling it meets every node at most once, and leaves a container open only as long as it waits or is
being filled; so no more steps are taken than there are nodes, and in the end everything that was
met has become what it stands for.

Main statements: `meet_settled` (meeting a node), `fill_settled` (filling a container) and
`fillAll_settled` (filling all of them).
-/

namespace ToolPolicy.Yaml

/-! ## Sound graphs -/

/-- What a node may be, in a row of nodes. -/
inductive Sound (row : List (Tag × Content)) : Tag × Content → Prop
  | scalar {tag : Tag} {text : Text} {v : Value}
      (h : ∀ place, ScalarValue.ofText place tag text = .ok v) :
      Sound row (tag, .scalar text)
  | list {items : List NodeId} (h : ∀ id ∈ items, id < row.length) :
      Sound row (.seq, .sequence items)
  | object {entries : List (NodeId × NodeId)}
      (h : ∀ e ∈ entries, e.2 < row.length ∧ ∃ name, row[e.1]? = some (.str, .scalar name)) :
      Sound row (.map, .mapping entries)

/-- Whether every node of a graph is sound. -/
def Graph.IsSound (g : Graph) : Prop := ∀ n ∈ g.shapes, Sound g.shapes n

/-- A tag with which a text has a value is none of a container. -/
theorem isContainer_of_ofText {place : Mark} {tag : Tag} {text : Text} {v : Value}
    (h : ScalarValue.ofText place tag text = .ok v) : tag.isContainer = false := by
  cases tag <;> first | rfl | simp [ScalarValue.ofText] at h

namespace Graph

variable {g : Graph} {id : NodeId}

theorem exists_node (h : id < g.size) : ∃ n, g.node? id = some n :=
  ⟨_, Array.getElem?_eq_getElem h⟩

theorem shapes_of_node {n : Node} (h : g.node? id = some n) :
    g.shapes[id]? = some (n.tag, n.content) := by
  rw [← g.node?_map, h]
  rfl

theorem node_of_shapes {tag : Tag} {content : Content} (h : g.shapes[id]? = some (tag, content)) :
    ∃ start, g.node? id = some ⟨tag, content, start⟩ := by
  rw [← g.node?_map] at h
  obtain ⟨n, hn, he⟩ := Option.map_eq_some_iff.mp h
  cases he
  exact ⟨n.start, hn⟩

theorem lt_of_shapes {n : Tag × Content} (h : g.shapes[id]? = some n) : id < g.size := by
  rw [← g.length_shapes]
  exact (List.getElem?_eq_some_iff.mp h).1

/-- The text of a scalar. -/
def nameAt (g : Graph) (id : NodeId) : Text :=
  match g.shapes[id]? with
  | some (_, .scalar name) => name
  | _ => []

theorem nameAt_of_shapes {tag : Tag} {name : Text} (h : g.shapes[id]? = some (tag, .scalar name)) :
    g.nameAt id = name := by
  rw [nameAt, h]

end Graph

/-! ## Entries by name -/

/-- The entries with one more, which has a text for a key. -/
def putNamed {α : Type} (name : Text) (a : α) : List (Value × α) → List (Value × α)
  | [] => [(.str name, a)]
  | (k, b) :: rest => if Value.same k (.str name) then (k, a) :: rest
      else (k, b) :: putNamed name a rest

theorem putField_eq_putNamed (name : Text) (v : Value) (entries : List (Value × Value)) :
    Value.putField name v entries = putNamed name v entries := by
  induction entries with
  | nil => rfl
  | cons e rest ih => rw [Value.putField, Value.put, putNamed, ← ih, Value.putField]

theorem putNamed_map {α β : Type} (h : α → β) (name : Text) (a : α) (entries : List (Value × α)) :
    (putNamed name a entries).map (fun e => (e.1, h e.2))
      = putNamed name (h a) (entries.map fun e => (e.1, h e.2)) := by
  induction entries with
  | nil => rfl
  | cons e rest ih =>
    simp only [putNamed, List.map_cons]
    split
    · rfl
    · rw [List.map_cons, ih]

theorem length_putNamed {α : Type} (name : Text) (a : α) (entries : List (Value × α)) :
    (putNamed name a entries).length ≤ entries.length + 1 := by
  induction entries with
  | nil => exact Nat.le_refl _
  | cons e rest ih =>
    simp only [putNamed]
    split
    · exact Nat.le_succ _
    · exact Nat.succ_le_succ ih

/-- Entries whose keys are keys of a mapping, as they are kept. -/
def plainEntries (entries : List (Key × NodeId)) : List (Value × NodeId) :=
  entries.map fun e => (e.1.value, e.2)

theorem plainEntries_put {k : Key} {name : Text} (hk : k.value = .str name) (id : NodeId)
    (entries : List (Key × NodeId)) :
    plainEntries (Fill.put k id entries) = putNamed name id (plainEntries entries) := by
  have hsame (a : Key) : Key.same a k = Value.same a.value (.str name) := by
    obtain ⟨v, ownNan⟩ := a
    rw [Key.same, hk]
    cases v with
    | float x => cases x <;> rfl
    | _ => rfl
  induction entries with
  | nil => simp [plainEntries, Fill.put, putNamed, hk]
  | cons e rest ih =>
    obtain ⟨a, i⟩ := e
    simp only [plainEntries, Fill.put, hsame, List.map_cons, putNamed] at ih ⊢
    split
    · rfl
    · rw [List.map_cons, ih]

/-- The entries of a mapping in a graph, with their names. -/
def Graph.namedEntries (g : Graph) (entries : List (NodeId × NodeId))
    (filled : List (Value × NodeId)) :
    List (Value × NodeId) :=
  entries.foldl (fun filled e => putNamed (g.nameAt e.1) e.2 filled) filled

/-! ## The state of filling -/

/-- Whether a node has been met. -/
def Filling.Has (s : Filling) (id : NodeId) : Prop := (s.met.lookup id).isSome = true

instance (s : Filling) (id : NodeId) : Decidable (s.Has id) :=
  inferInstanceAs (Decidable (_ = true))

/-- What a node of a graph may have become; a container that is open need not
have become anything yet. -/
inductive Became (g : Graph) (s : Filling) (isOpen : Prop) (id : NodeId) : Filled → Prop
  | scalar {tag : Tag} {text : Text} {k : Key} (node : g.shapes[id]? = some (tag, .scalar text))
      (value : ∀ place, ScalarValue.ofText place tag text = .ok k.value) :
      Became g s isOpen id (.scalar k)
  | list {items : List NodeId} (node : g.shapes[id]? = some (.seq, .sequence items))
      (all : ∀ i ∈ items, s.Has i) :
      Became g s isOpen id (.list items)
  | object {entries : List (NodeId × NodeId)} (node : g.shapes[id]? = some (.map, .mapping entries))
      (all : ∀ e ∈ entries, s.Has e.1 ∧ s.Has e.2) :
      Became g s isOpen id (.mapping (g.namedEntries entries []))
  | unfinished {tag : Tag} {content : Content} {f : Filled}
      (node : g.shapes[id]? = some (tag, content))
      (container : tag.isContainer = true) (still : isOpen) : Became g s isOpen id f

/-- Whether everything that has been met has become what it stands for, but for containers that wait
or that are being filled. -/
structure Settled (g : Graph) (busy : List NodeId) (s : Filling) : Prop where
  graph : s.graph = g
  waits : ∀ id ∈ s.waiting, ∃ n, g.shapes[id]? = some n ∧ n.1.isContainer = true
  became : ∀ id f, s.met.lookup id = some f → Became g s (id ∈ s.waiting ∨ id ∈ busy) id f

/-- How many nodes of a graph have not been met or wait. -/
def Filling.load (g : Graph) (s : Filling) : Nat :=
  ((Finset.range g.size).filter fun id => ¬ s.Has id).card + s.waiting.length

/-- Whether nothing that has been met is forgotten, and no more is left to do than was. -/
structure Progress (g : Graph) (s s' : Filling) : Prop where
  keeps : ∀ id, s.Has id → s'.Has id
  load_le : s'.load g ≤ s.load g

theorem Progress.refl (g : Graph) (s : Filling) : Progress g s s := ⟨fun _ h => h, Nat.le_refl _⟩

theorem Progress.trans {g : Graph} {s s' s'' : Filling} (h : Progress g s s')
    (h' : Progress g s' s'') :
    Progress g s s'' :=
  ⟨fun id hid => h'.keeps id (h.keeps id hid), Nat.le_trans h'.load_le h.load_le⟩

theorem Became.mono {g : Graph} {s s' : Filling} {p p' : Prop} {id : NodeId} {f : Filled}
    (hkeeps : ∀ id, s.Has id → s'.Has id) (hp : p → p') (h : Became g s p id f) :
    Became g s' p' id f := by
  cases h with
  | scalar node value => exact .scalar node value
  | list node all => exact .list node fun i hi => hkeeps i (all i hi)
  | object node all => exact .object node fun e he => ⟨hkeeps _ (all e he).1, hkeeps _ (all e he).2⟩
  | unfinished node container still => exact .unfinished node container (hp still)

section Keeping

variable {g : Graph} {busy busy' : List NodeId} {s s' : Filling} {id : NodeId} {f : Filled}

theorem has_keep (hmet : s'.met = (id, f) :: s.met) (i : NodeId) : s'.Has i ↔ i = id ∨ s.Has i := by
  simp only [Filling.Has, hmet, List.lookup_cons]
  by_cases hi : i = id
  · simp [hi]
  · rw [beq_eq_false_iff_ne.mpr hi]
    simp only [hi, false_or]

/-- What has become of one more node is kept. -/
theorem Settled.keep (hs : Settled g busy s) (hgraph : s'.graph = s.graph)
    (hmet : s'.met = (id, f) :: s.met)
    (hwaits : ∀ i ∈ s'.waiting, ∃ n, g.shapes[i]? = some n ∧ n.1.isContainer = true)
    (hopen : ∀ i, i ≠ id → i ∈ s.waiting ∨ i ∈ busy → i ∈ s'.waiting ∨ i ∈ busy')
    (hf : Became g s' (id ∈ s'.waiting ∨ id ∈ busy') id f) : Settled g busy' s' where
  graph := hgraph.trans hs.graph
  waits := hwaits
  became i f' hi := by
    rw [hmet, List.lookup_cons] at hi
    by_cases he : i = id
    · subst he
      simp only [beq_self_eq_true, Option.some.injEq] at hi
      exact hi ▸ hf
    · rw [beq_eq_false_iff_ne.mpr he] at hi
      exact (hs.became i f' hi).mono (fun i hi => (has_keep hmet i).mpr (.inr hi)) (hopen i he)

theorem unmet_keep (hmet : s'.met = (id, f) :: s.met) :
    ((Finset.range g.size).filter fun i => ¬ s'.Has i).card ≤
    ((Finset.range g.size).filter fun i => ¬ s.Has i).card := by
  refine Finset.card_le_card fun i hi => ?_
  rw [Finset.mem_filter] at hi ⊢
  exact ⟨hi.1, fun h => hi.2 ((has_keep hmet i).mpr (.inr h))⟩

theorem unmet_keep_new (hmet : s'.met = (id, f) :: s.met) (hid : id < g.size) (hnew : ¬ s.Has id) :
    ((Finset.range g.size).filter fun i => ¬ s'.Has i).card <
    ((Finset.range g.size).filter fun i => ¬ s.Has i).card := by
  refine Finset.card_lt_card ⟨fun i hi => ?_, fun hall => ?_⟩
  · rw [Finset.mem_filter] at hi ⊢
    exact ⟨hi.1, fun h => hi.2 ((has_keep hmet i).mpr (.inr h))⟩
  · have hmem := hall (Finset.mem_filter.mpr ⟨Finset.mem_range.mpr hid, hnew⟩)
    exact (Finset.mem_filter.mp hmem).2 ((has_keep hmet id).mpr (.inl rfl))

/-- A name that has been met is known as a key. -/
theorem Settled.lookup_name {name : Text} (hs : Settled g busy s) (hid : s.Has id)
    (hname : g.shapes[id]? = some (.str, .scalar name)) :
    ∃ k : Key, k.value = .str name ∧ s.met.lookup id = some (.scalar k) := by
  obtain ⟨f, hf⟩ := Option.isSome_iff_exists.mp hid
  cases hs.became id f hf with
  | scalar node value =>
    cases hname.symm.trans node
    exact ⟨_, (Except.ok.inj (value {})).symm, hf⟩
  | list node _ => cases hname.symm.trans node
  | object node _ => cases hname.symm.trans node
  | unfinished node container _ =>
    cases hname.symm.trans node
    cases container

end Keeping

/-! ## Meeting nodes -/

namespace Fill

variable {g : Graph} {busy : List NodeId} {s : Filling} {id : NodeId}

theorem nodeAt_run {n : Node} (h : s.graph.node? id = some n) : (nodeAt id).run s = .ok (n, s) := by
  show Except.ok ((s.graph.node? id).getD _, s) = _
  rw [h]
  rfl

theorem meet_met (h : s.Has id) : (meet id).run s = .ok ((), s) := by
  rw [meet, run_bind (run_get s), if_pos (show (s.met.lookup id).isSome = true from h)]
  rfl

theorem meet_container {n : Node} (hnew : ¬ s.Has id) (hn : s.graph.node? id = some n)
    (hc : n.tag.isContainer = true) :
    (meet id).run s =
    .ok ((), { s with met := (id, .list []) :: s.met, waiting := s.waiting ++ [id] }) := by
  rw [meet, run_bind (run_get s), if_neg (show ¬ (s.met.lookup id).isSome = true from hnew)]
  rw [run_bind (nodeAt_run hn), if_pos hc]
  rfl

theorem scalarText_run {n : Node} {text : Text} (fuel : Nat) (hn : s.graph.node? id = some n)
    (hcontent : n.content = .scalar text) : (scalarText (fuel + 1) id).run s = .ok (text, s) := by
  rw [scalarText, run_bind (nodeAt_run hn), hcontent]
  rfl

theorem meet_scalar {n : Node} {text : Text} {v : Value} (hnew : ¬ s.Has id)
    (hn : s.graph.node? id = some n)
    (hcontent : n.content = .scalar text) (hv : ScalarValue.ofText n.start n.tag text = .ok v) :
    ∃ k : Key, k.value = v ∧
      (meet id).run s = .ok ((), { s with met := (id, .scalar k) :: s.met }) := by
  refine ⟨⟨v, if ScalarValue.isNanWord text then none else some id⟩, rfl, ?_⟩
  have hcontainer := isContainer_of_ofText hv
  rw [meet, run_bind (run_get s), if_neg (show ¬ (s.met.lookup id).isSome = true from hnew)]
  rw [run_bind (nodeAt_run hn), if_neg (by simp [hcontainer])]
  obtain ⟨tag, content, start⟩ := n
  obtain rfl : content = .scalar text := hcontent
  have htext : (scalarText nestingLimit id).run s = .ok (text, s) := scalarText_run _ hn rfl
  have hkeep : (do
      let v ← liftM (ScalarValue.ofText start tag text)
      keep id (.scalar ⟨v, if ScalarValue.isNanWord text then none else some id⟩) : Fill Unit).run s
      = .ok ((),
        { s with
          met := (id, .scalar ⟨v, if ScalarValue.isNanWord text then none else some id⟩) :: s.met })
          := by
    rw [hv]
    rfl
  cases tag <;> first
    | exact (run_bind htext).trans hkeep
    | simp [ScalarValue.ofText] at hv

theorem meet_settled_container {n : Node} (hs : Settled g busy s)
    (hid : id < g.size) (hnew : ¬ s.Has id)
    (hn : s.graph.node? id = some n) (hshape : g.shapes[id]? = some (n.tag, n.content))
    (hc : n.tag.isContainer = true) :
    ∃ s', (meet id).run s = .ok ((), s') ∧ Settled g busy s' ∧ Progress g s s' ∧ s'.Has id := by
  refine ⟨_, meet_container hnew hn hc, hs.keep rfl rfl ?_ ?_ ?_, ⟨fun i hi => ?_, ?_⟩, ?_⟩
  · intro i hi
    rcases List.mem_append.mp hi with hi | hi
    · exact hs.waits i hi
    · rw [List.mem_singleton.mp hi]
      exact ⟨_, hshape, hc⟩
  · exact fun i _ hi => hi.imp_left fun hi => List.mem_append_left _ hi
  · exact .unfinished hshape hc (.inl (by simp))
  · exact (has_keep rfl i).mpr (.inr hi)
  · have := @unmet_keep_new g s
      { s with met := (id, .list []) :: s.met, waiting := s.waiting ++ [id] } id _ rfl hid hnew
    simp only [Filling.load, List.length_append, List.length_singleton]
    omega
  · exact (has_keep rfl id).mpr (.inl rfl)

/-- Meeting a node that is there. -/
theorem meet_settled (hsound : g.IsSound) (hs : Settled g busy s) (hid : id < g.size) :
    ∃ s', (meet id).run s = .ok ((), s') ∧ Settled g busy s' ∧ Progress g s s' ∧ s'.Has id := by
  by_cases hmet : s.Has id
  · exact ⟨s, meet_met hmet, hs, .refl g s, hmet⟩
  obtain ⟨n, hn⟩ := g.exists_node hid
  have hshape := Graph.shapes_of_node hn
  have hn' : s.graph.node? id = some n := hs.graph ▸ hn
  obtain ⟨tag, content, start⟩ := n
  cases hsound _ (List.mem_of_getElem? hshape) with
  | scalar value =>
    obtain ⟨k, rfl, hrun⟩ := meet_scalar hmet hn' rfl (value start)
    refine ⟨_, hrun, hs.keep rfl rfl hs.waits (fun _ _ h => h) (.scalar hshape value),
      ⟨fun i hi => ?_, ?_⟩, ?_⟩
    · exact (has_keep rfl i).mpr (.inr hi)
    · exact Nat.add_le_add_right (unmet_keep rfl) _
    · exact (has_keep rfl id).mpr (.inl rfl)
  | list _ => exact meet_settled_container hs hid hmet hn' hshape rfl
  | object _ => exact meet_settled_container hs hid hmet hn' hshape rfl

/-- Meeting some nodes. -/
theorem meets_settled (hsound : g.IsSound) {items : List NodeId} (hitems : ∀ i ∈ items, i < g.size)
    (hs : Settled g busy s) :
    ∃ s', (items.forM meet).run s = .ok ((), s') ∧ Settled g busy s' ∧ Progress g s s' ∧
      ∀ i ∈ items, s'.Has i := by
  induction items generalizing s with
  | nil => exact ⟨s, rfl, hs, .refl g s, by simp⟩
  | cons id rest ih =>
    obtain ⟨s', hrun, hs', hprogress, hid⟩ := meet_settled hsound hs (hitems id (by simp))
    obtain ⟨s'', hrest, hs'', hprogress', hall⟩ := ih (fun i hi => hitems i (by simp [hi])) hs'
    refine ⟨s'', ?_, hs'', hprogress.trans hprogress', fun i hi => ?_⟩
    · exact (run_bind hrun).trans hrest
    · rcases List.mem_cons.mp hi with rfl | hi
      · exact hprogress'.keeps i hid
      · exact hall i hi

/-! ## Filling containers -/

theorem entriesOf_run {tag : Tag} {entries : List (NodeId × NodeId)} {start : Mark}
    (hn : s.graph.node? id = some ⟨tag, .mapping entries, start⟩) :
    (entriesOf id).run s = .ok (entries, s) := by
  rw [entriesOf, run_bind (nodeAt_run hn)]
  rfl

/-- Keys that are texts bring nothing in. -/
theorem flattenFrom_run {tag : Tag} {entries : List (NodeId × NodeId)} {start : Mark}
    (hn : s.graph.node? id = some ⟨tag, .mapping entries, start⟩)
    (hkeys : ∀ e ∈ entries, ∃ name place, s.graph.node? e.1 = some ⟨.str, .scalar name, place⟩)
    (flatten : NodeId → Fill Unit) (merged : List (NodeId × NodeId)) (steps : Nat) :
    ∀ index, (flattenFrom flatten id steps index merged).run s = .ok (merged, s) := by
  induction steps with
  | zero => exact fun index => rfl
  | succ steps ih =>
    intro index
    rw [flattenFrom, run_bind (entriesOf_run hn)]
    cases he : entries[index]? with
    | none => rfl
    | some e =>
      obtain ⟨key, value⟩ := e
      obtain ⟨name, place, hkey⟩ := hkeys _ (List.mem_of_getElem? he)
      show (do let k ← nodeAt key; _ : Fill (List (NodeId × NodeId))).run s = _
      rw [run_bind (nodeAt_run hkey)]
      exact ih (index + 1)

theorem flatten_run {tag : Tag} {entries : List (NodeId × NodeId)} {start : Mark}
    (hn : s.graph.node? id = some ⟨tag, .mapping entries, start⟩)
    (hkeys : ∀ e ∈ entries, ∃ name place, s.graph.node? e.1 = some ⟨.str, .scalar name, place⟩)
    (depth : Nat) :
    (flatten (depth + 1) id).run s = .ok ((), s) := by
  rw [flatten, run_bind (entriesOf_run hn),
    run_bind (flattenFrom_run hn hkeys (flatten depth) [] _ 0)]
  rfl

theorem keyOf?_run {k : Key} (h : s.met.lookup id = some (.scalar k)) :
    (keyOf? id).run s = .ok (some k, s) := by
  rw [keyOf?, run_bind (run_get s), h]
  rfl

/-- The entries of a mapping in a sound graph. -/
theorem fillEntries_settled (hsound : g.IsSound) {entries : List (NodeId × NodeId)}
    (hentries : ∀ e ∈ entries, e.2 < g.size ∧
      ∃ name, g.shapes[e.1]? = some (.str, .scalar name)) (start : Mark)
    (filled : List (Key × NodeId)) (hs : Settled g busy s) :
    ∃ r s', (fillEntries start filled entries).run s = .ok (r, s') ∧
      Settled g busy s' ∧ Progress g s s'
      ∧ (∀ e ∈ entries, s'.Has e.1 ∧ s'.Has e.2) ∧
        plainEntries r = g.namedEntries entries (plainEntries filled) := by
  induction entries generalizing s filled with
  | nil => exact ⟨filled, s, rfl, hs, .refl g s, by simp, rfl⟩
  | cons e rest ih =>
    obtain ⟨key, value⟩ := e
    obtain ⟨hvalue, name, hname⟩ := hentries (key, value) (by simp)
    obtain ⟨s₁, hkey, hs₁, hp₁, hhas₁⟩ := meet_settled hsound hs (Graph.lt_of_shapes hname)
    obtain ⟨k, hk, hlookup⟩ := hs₁.lookup_name hhas₁ hname
    obtain ⟨s₂, hmeet, hs₂, hp₂, hhas₂⟩ := meet_settled hsound hs₁ hvalue
    obtain ⟨r, s₃, hrest, hs₃, hp₃, hall, hr⟩ :=
      ih (fun e he => hentries e (by simp [he])) (put k value filled) hs₂
    refine ⟨r, s₃, ?_, hs₃, (hp₁.trans hp₂).trans hp₃, fun e he => ?_, ?_⟩
    · rw [fillEntries, run_bind hkey, run_bind (keyOf?_run hlookup)]
      show (do meet value; fillEntries start (put k value filled) rest : Fill _).run s₁ = _
      rw [run_bind hmeet, hrest]
    · rcases List.mem_cons.mp he with rfl | he
      · exact ⟨hp₃.keeps _ (hp₂.keeps _ hhas₁), hp₃.keeps _ hhas₂⟩
      · exact hall e he
    · rw [hr, plainEntries_put hk, Graph.namedEntries, Graph.namedEntries, List.foldl_cons,
        Graph.nameAt_of_shapes hname]

theorem fillMapping_settled {entries : List (NodeId × NodeId)} {start : Mark} (hsound : g.IsSound)
    (hn : g.node? id = some ⟨.map, .mapping entries, start⟩) (hs : Settled g busy s) :
    ∃ r s', (fillMapping id).run s = .ok (r, s') ∧ Settled g busy s' ∧ Progress g s s'
      ∧ (∀ e ∈ entries, s'.Has e.1 ∧ s'.Has e.2) ∧ plainEntries r = g.namedEntries entries [] := by
  have hn' : s.graph.node? id = some ⟨.map, .mapping entries, start⟩ := hs.graph ▸ hn
  cases hsound _ (List.mem_of_getElem? (Graph.shapes_of_node hn)) with
  | object hentries =>
    rw [g.length_shapes] at hentries
    have hkeys :
        ∀ e ∈ entries, ∃ name place, s.graph.node? e.1 = some ⟨.str, .scalar name, place⟩ := by
      intro e he
      obtain ⟨name, hname⟩ := (hentries e he).2
      obtain ⟨place, hplace⟩ := Graph.node_of_shapes hname
      exact ⟨name, place, hs.graph ▸ hplace⟩
    obtain ⟨r, s', hrun, hs', hprogress, hall, hr⟩ :=
      fillEntries_settled hsound hentries start [] hs
    refine ⟨r, s', ?_, hs', hprogress, hall, hr⟩
    have hflatten : (flatten nestingLimit id).run s = .ok ((), s) := flatten_run hn' hkeys _
    rw [fillMapping, run_bind (nodeAt_run hn')]
    show (do flatten nestingLimit id; fillEntries start [] (← entriesOf id) : Fill _).run s = _
    rw [run_bind hflatten, run_bind (entriesOf_run hn'), hrun]

/-- Filling a container. -/
theorem fill_settled (hsound : g.IsSound)
    (hid : ∃ n, g.shapes[id]? = some n ∧ n.1.isContainer = true) (hs : Settled g [id] s) :
    ∃ s', (fill id).run s = .ok ((), s') ∧ Settled g [] s' ∧ Progress g s s' := by
  obtain ⟨⟨tag, content⟩, hshape, hcontainer⟩ := hid
  obtain ⟨start, hn⟩ := Graph.node_of_shapes hshape
  have hn' : s.graph.node? id = some ⟨tag, content, start⟩ := hs.graph ▸ hn
  have hopen (s' : Filling) (i : NodeId) (hi : i ≠ id) (h : i ∈ s'.waiting ∨ i ∈ [id]) :
      i ∈ s'.waiting ∨ i ∈ [] :=
    h.imp_right fun hmem => absurd (List.mem_singleton.mp hmem) hi
  -- the content that is kept last is the one that counts
  have hkept (s' : Filling) (f : Filled) (hprogress : Progress g s s') :
      Progress g s { s' with met := (id, f) :: s'.met } :=
    ⟨fun i hi => (has_keep rfl i).mpr (.inr (hprogress.keeps i hi)),
      Nat.le_trans (Nat.add_le_add_right (unmet_keep rfl) _) hprogress.load_le⟩
  rw [fill, run_bind (nodeAt_run hn')]
  cases hsound _ (List.mem_of_getElem? hshape) with
  | scalar value => rw [isContainer_of_ofText (value start)] at hcontainer; cases hcontainer
  | list hitems =>
    rename_i items
    rw [g.length_shapes] at hitems
    obtain ⟨s', hrun, hs', hprogress, hall⟩ := meets_settled hsound hitems hs
    refine ⟨{ s' with met := (id, .list items) :: s'.met }, (run_bind hrun).trans rfl,
      hs'.keep rfl rfl hs'.waits (hopen s') ?_, hkept s' _ hprogress⟩
    exact .list hshape fun i hi => (has_keep rfl i).mpr (.inr (hall i hi))
  | object hentries =>
    rename_i entries
    obtain ⟨r, s', hrun, hs', hprogress, hall, hr⟩ := fillMapping_settled hsound hn hs
    refine ⟨{ s' with met := (id, .mapping (g.namedEntries entries [])) :: s'.met }, ?_,
      hs'.keep rfl rfl hs'.waits (hopen s') ?_, hkept s' _ hprogress⟩
    · rw [← hr]
      exact (run_bind hrun).trans rfl
    · exact .object hshape fun e he =>
        ⟨(has_keep rfl e.1).mpr (.inr (hall e he).1), (has_keep rfl e.2).mpr (.inr (hall e he).2)⟩

/-- Filling whatever waits comes to an end. -/
theorem fillAll_settled (hsound : g.IsSound) (steps : Nat) :
    ∀ s, Settled g [] s → s.load g ≤ steps →
      ∃ s', (fillAll steps).run s = .ok ((), s') ∧ Settled g [] s' ∧ s'.waiting = []
        ∧ ∀ id, s.Has id → s'.Has id := by
  induction steps with
  | zero =>
    intro s hs hload
    have hwaiting : s.waiting = [] :=
      List.length_eq_zero_iff.mp (by simp only [Filling.load] at hload; omega)
    exact ⟨s, rfl, hs, hwaiting, fun _ h => h⟩
  | succ steps ih =>
    intro s hs hload
    cases hwaiting : s.waiting with
    | nil =>
      refine ⟨s, ?_, hs, hwaiting, fun _ h => h⟩
      rw [fillAll, run_bind (run_get s), hwaiting]
      rfl
    | cons id rest =>
      have hpopped : Settled g [id] { s with waiting := rest } := by
        refine ⟨hs.graph, fun i hi => hs.waits i ?_, fun i f hi => ?_⟩
        · rw [hwaiting]
          exact List.mem_cons_of_mem _ hi
        refine Became.mono ?_ ?_ (hs.became i f hi)
        · exact fun _ h => h
        rw [hwaiting]
        simp only [List.mem_cons, List.not_mem_nil, or_false]
        exact Or.symm
      obtain ⟨s', hrun, hs', hprogress⟩ :=
        fill_settled hsound (hs.waits id (by rw [hwaiting]; exact List.mem_cons_self)) hpopped
      have hlighter : s'.load g ≤ steps := by
        have hpop : s.load g = ({ s with waiting := rest } : Filling).load g + 1 := by
          rw [Filling.load, hwaiting]
          rfl
        have := hprogress.load_le
        omega
      obtain ⟨s'', hrest, hs'', hdone, hkeeps⟩ := ih s' hs' hlighter
      refine ⟨s'', ?_, hs'', hdone, fun i hi => hkeeps i (hprogress.keeps i hi)⟩
      rw [fillAll, run_bind (run_get s), hwaiting]
      show (do fill id; fillAll steps : Fill Unit).run { s with waiting := rest } = _
      rw [run_bind hrun, hrest]

/-- **Filling a sound graph** succeeds, and leaves nothing open. -/
theorem fill_graph {root : NodeId} (hsound : g.IsSound) (hroot : root < g.size) :
    ∃ s, (do meet root; fillAll (g.size + 1) : Fill Unit).run { graph := g } = .ok ((), s)
      ∧ Settled g [] s ∧ s.waiting = [] ∧ s.Has root := by
  have hstart : Settled g [] { graph := g } := ⟨rfl, by simp, by simp⟩
  obtain ⟨s, hrun, hs, hprogress, hhas⟩ := meet_settled hsound hstart hroot
  have hload : s.load g ≤ g.size + 1 := by
    refine Nat.le_trans hprogress.load_le ?_
    have := (Finset.range g.size).card_filter_le fun id => ¬ Filling.Has { graph := g } id
    rw [Finset.card_range] at this
    exact Nat.le_succ_of_le this
  obtain ⟨s', hfill, hs', hdone, hkeeps⟩ := fillAll_settled hsound (g.size + 1) s hs hload
  exact ⟨s', by rw [run_bind hrun, hfill], hs', hdone, hkeeps root hhas⟩

end Fill

end ToolPolicy.Yaml
