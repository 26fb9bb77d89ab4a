import ToolPolicy.Proofs.YamlSigns
import ToolPolicy.Yaml.Document

/-!
# Signs of a fault in the graph of a document

Filling the containers of a graph changes it: merge keys are replaced by the entries that they
bring in, and keys for default values become texts. But nothing is added that could be merged or
be a default value, so what ends in a fault shows in the graph as it was read: a scalar that its
tag does not fit, or a long row of mappings, each of which is the default value of the one
before or is merged into it.

* `Graph.HasText`, `Graph.Brings`: the texts of a node, and what is merged into a mapping.
* `GraphSign`: what in a graph shows a fault.
* `Derived`, `Kept`: what holds of a graph while its mappings are flattened, and
  from one step to another.
* `graphSign_of_value`: the fault of a graph shows in it.
-/

namespace ToolPolicy.Yaml

open Std.Do

set_option mvcgen.warning false

/-! ## Signs -/

/-- Whether a node is a mapping. -/
def Content.isMapping : Content → Bool
  | mapping _ => true
  | _ => false

/-- Whether a key with a tag stands for other entries or for a default value. -/
def Tag.isSpecial (t : Tag) : Bool := t == .merge || t == .value

namespace Graph

/-- The node with a number, as it is taken when containers are filled. -/
def nodeAt (g : Graph) (id : NodeId) : Node := (g.node? id).getD ⟨.null, .scalar [], {}⟩

/-- The entries of a node, if it is a mapping. -/
def entriesAt (g : Graph) (id : NodeId) : List (NodeId × NodeId) :=
  match (g.nodeAt id).content with
  | .mapping entries => entries
  | _ => []

/-- That the entries of a mapping give a value for a key with a tag. -/
def Gives (g : Graph) (tag : Tag) (id value : NodeId) : Prop :=
  ∃ key, (key, value) ∈ g.entriesAt id ∧ (g.nodeAt key).tag = tag

/-- That a node has a text: its own if it is a scalar, or that of its default value. -/
inductive HasText (g : Graph) : NodeId → Text → Prop where
  | own {id : NodeId} {text : Text} (h : (g.nodeAt id).content = .scalar text) : g.HasText id text
  | default {id value : NodeId} {text : Text} (h : g.Gives .value id value)
      (htext : g.HasText value text) :
      g.HasText id text

/-- That a node is the value of a merge key, or is listed there. -/
def Offers (g : Graph) (value id : NodeId) : Prop :=
  id = value ∨ ∃ items, (g.nodeAt value).content = .sequence items ∧ id ∈ items

/-- That a mapping has a merge key that brings in another node. -/
def Brings (g : Graph) (id other : NodeId) : Prop :=
  ∃ value, g.Gives .merge id value ∧ g.Offers value other

end Graph

/-- That a row with so many steps begins at a node. -/
def HasRow (step : NodeId → NodeId → Prop) : Nat → NodeId → Prop
  | 0, _ => True
  | count + 1, id => ∃ next, step id next ∧ HasRow step count next

/-- What in a graph shows a fault of its value. -/
inductive GraphSign (g : Graph) : Fault → Prop where
  | scalar {id : NodeId} {text : Text} {f : Fault} (htext : g.HasText id text)
      (h : ScalarValue.ofText (g.nodeAt id).start (g.nodeAt id).tag text =
        .error (.fault f)) : GraphSign g f
  | timestamp {id : NodeId} (htag : (g.nodeAt id).tag = .timestamp)
      (h : (g.nodeAt id).content.isMapping = true) :
      GraphSign g .timestampOfMapping
  | defaults {id : NodeId} (h : HasRow (g.Gives .value) Fill.nestingLimit id) :
      GraphSign g .nestedTooDeeply
  | merges {id : NodeId} (h : HasRow g.Brings Fill.nestingLimit id) : GraphSign g .nestedTooDeeply

/-- That a failure, if it is a fault, is that something is nested too deeply, and
something holds then. -/
def Failure.IsDeep (p : Prop) (e : Failure) : Prop := ∀ f, e = .fault f → f = .nestedTooDeeply ∧ p

theorem Failure.IsDeep.imp {p q : Prop} {e : Failure} (h : e.IsDeep p) (hpq : p → q) : e.IsDeep q :=
  fun f hf => ⟨(h f hf).1, hpq (h f hf).2⟩

/-- That a failure, if it is a fault, shows in a graph. -/
def Failure.ShownAt (g : Graph) (e : Failure) : Prop := ∀ f, e = .fault f → GraphSign g f

theorem Failure.shownAt_flaw (g : Graph) {e : Failure} (h : ∃ f, e = .flaw f) : e.ShownAt g := by
  obtain ⟨f, rfl⟩ := h
  intro g hg
  cases hg

theorem Failure.IsDeep.shownAt {g : Graph} {p : Prop} {e : Failure} (h : e.IsDeep p)
    (hp : p → GraphSign g .nestedTooDeeply) : e.ShownAt g := by
  rintro f rfl
  obtain ⟨rfl, hdeep⟩ := h f rfl
  exact hp hdeep

/-! ## Changing nodes -/

namespace Graph

variable {g : Graph} {id j : NodeId} {n : Node}

theorem nodeAt_set (g : Graph) (id j : NodeId) (n : Node) :
    (g.set id n).nodeAt j = if j = id ∧ id < g.size then n else g.nodeAt j := by
  simp only [nodeAt, node?, set, size, Array.getElem?_setIfInBounds]
  grind

/-- A node that is none of those taken for missing ones is there. -/
theorem lt_size_of_ne (h : g.nodeAt id ≠ ⟨.null, .scalar [], {}⟩) : id < g.size := by
  by_contra hge
  refine h ?_
  rw [nodeAt, node?, Array.getElem?_eq_none (Nat.le_of_not_lt hge)]
  rfl

/-- A graph with other entries for a mapping. -/
def withEntries (g : Graph) (id : NodeId) (entries : List (NodeId × NodeId)) : Graph :=
  g.set id { g.nodeAt id with content := .mapping entries }

/-- A graph with another tag for a node. -/
def withTag (g : Graph) (id : NodeId) (tag : Tag) : Graph := g.set id { g.nodeAt id with tag }

theorem nodeAt_withEntries (hid : (g.nodeAt id).content.isMapping = true)
    (entries : List (NodeId × NodeId)) (j : NodeId) :
    (g.withEntries id entries).nodeAt j
      = if j = id then { g.nodeAt id with content := .mapping entries } else g.nodeAt j := by
  have hlt : id < g.size := lt_size_of_ne fun h => by rw [h] at hid; cases hid
  rw [withEntries, nodeAt_set]
  grind

theorem nodeAt_withTag (hid : (g.nodeAt id).tag ≠ .null) (tag : Tag) (j : NodeId) :
    (g.withTag id tag).nodeAt j = if j = id then { g.nodeAt id with tag } else g.nodeAt j := by
  have hlt : id < g.size := lt_size_of_ne fun h => hid (by rw [h])
  rw [withTag, nodeAt_set]
  grind

theorem entriesAt_of_content {entries : List (NodeId × NodeId)}
    (h : (g.nodeAt id).content = .mapping entries) :
    g.entriesAt id = entries := by
  rw [entriesAt, h]

theorem entriesAt_withEntries (hid : (g.nodeAt id).content.isMapping = true)
    (entries : List (NodeId × NodeId))
    (j : NodeId) : (g.withEntries id entries).entriesAt j = if j = id then entries
    else g.entriesAt j := by
  rw [entriesAt, nodeAt_withEntries hid]
  by_cases h : j = id
  · simp [h]
  · simp [h, entriesAt]

theorem entriesAt_withTag (hid : (g.nodeAt id).tag ≠ .null) (tag : Tag) (j : NodeId) :
    (g.withTag id tag).entriesAt j = g.entriesAt j := by
  rw [entriesAt, nodeAt_withTag hid, entriesAt]
  by_cases h : j = id
  · simp [h]
  · simp [h]

/-- That no key of some entries stands for other entries or for a default value. -/
def IsClean (g : Graph) (entries : List (NodeId × NodeId)) : Prop :=
  ∀ e ∈ entries, (g.nodeAt e.1).tag.isSpecial = false

theorem isClean_flatten {all : List (List (NodeId × NodeId))}
    (h : ∀ entries ∈ all, g.IsClean entries) :
    g.IsClean all.reverse.flatten := by
  intro e he
  obtain ⟨entries, hentries, hmem⟩ := List.mem_flatten.1 he
  exact h entries (List.mem_reverse.1 hentries) e hmem

/-- That keys for default values may have become texts, and that is all that has become of tags. -/
def Retagged (g g' : Graph) : Prop :=
  ∀ id, (g'.nodeAt id).tag = (g.nodeAt id).tag ∨ (g.nodeAt id).tag = .value ∧
    (g'.nodeAt id).tag = .str

theorem Retagged.refl (g : Graph) : g.Retagged g := fun _ => .inl rfl

theorem Retagged.trans {g g' g'' : Graph} (h : g.Retagged g') (h' : g'.Retagged g'') :
    g.Retagged g'' := by
  intro id
  have := h id
  have := h' id
  grind

theorem Retagged.isClean {g g' : Graph} (h : g.Retagged g') {entries : List (NodeId × NodeId)}
    (hclean : g.IsClean entries) : g'.IsClean entries := by
  intro e he
  have := hclean e he
  rcases h e.1 with htag | ⟨-, htag⟩
  · rw [htag, this]
  · rw [htag]
    rfl

theorem retagged_withTag (h : (g.nodeAt id).tag = .value) : g.Retagged (g.withTag id .str) := by
  intro j
  rw [nodeAt_withTag (by simp [h])]
  grind

theorem retagged_withEntries (h : (g.nodeAt id).content.isMapping = true)
    (entries : List (NodeId × NodeId)) :
    g.Retagged (g.withEntries id entries) := by
  intro j
  rw [nodeAt_withEntries h]
  grind

end Graph

/-! ## What is kept of a graph -/

open Yaml.Graph

/-- That a graph comes from another one by flattening: entries with special keys are none but
those that were there. -/
structure Derived (g₀ g : Graph) : Prop where
  start (id : NodeId) : (g.nodeAt id).start = (g₀.nodeAt id).start
  tag : g₀.Retagged g
  content (id : NodeId) : (g.nodeAt id).content = (g₀.nodeAt id).content ∨
    (g.nodeAt id).content.isMapping = true ∧ (g₀.nodeAt id).content.isMapping = true
  entries (id : NodeId) : ∀ e ∈ g.entriesAt id, (g.nodeAt e.1).tag.isSpecial =
    true → e ∈ g₀.entriesAt id

namespace Derived

variable {g₀ g : Graph} {id : NodeId}

theorem refl (g : Graph) : Derived g g :=
  ⟨fun _ => rfl, .refl g, fun _ => .inl rfl, fun _ _ h _ => h⟩

theorem isMapping (h : Derived g₀ g) (id : NodeId) :
    (g.nodeAt id).content.isMapping = (g₀.nodeAt id).content.isMapping := by
  have := h.content id
  grind

theorem gives (h : Derived g₀ g) {tag : Tag} (htag : tag.isSpecial = true) {value : NodeId}
    (hg : g.Gives tag id value) :
    g₀.Gives tag id value := by
  obtain ⟨key, hmem, hkey⟩ := hg
  refine ⟨key, h.entries id _ hmem (hkey ▸ htag), ?_⟩
  rcases h.tag key with hsame | ⟨-, hstr⟩
  · rw [← hsame, hkey]
  · rw [← hkey, hstr] at htag
    cases htag

theorem scalar (h : Derived g₀ g) {text : Text} (hc : (g.nodeAt id).content = .scalar text) :
    (g₀.nodeAt id).content = .scalar text := by
  have := h.content id
  grind [Content.isMapping]

theorem offers (h : Derived g₀ g) {value : NodeId} (ho : g.Offers value id) :
    g₀.Offers value id := by
  rcases ho with rfl | ⟨items, hc, hid⟩
  · exact .inl rfl
  · refine .inr ⟨items, ?_, hid⟩
    have := h.content value
    grind [Content.isMapping]

/-- Entries may be replaced by some of them and others with usual keys. -/
theorem withEntries (h : Derived g₀ g) (hid : (g₀.nodeAt id).content.isMapping = true)
    {entries : List (NodeId × NodeId)}
    (he : ∀ e ∈ entries, (g.nodeAt e.1).tag.isSpecial = true → e ∈ g₀.entriesAt id) :
    Derived g₀ (g.withEntries id entries) := by
  have hmapping : (g.nodeAt id).content.isMapping = true := (h.isMapping id).trans hid
  refine ⟨fun j => ?_, h.tag.trans (retagged_withEntries hmapping entries), fun j => ?_,
    fun j e hmem hspecial => ?_⟩
  · have := h.start j
    rw [nodeAt_withEntries hmapping]
    grind
  · have := h.content j
    rw [nodeAt_withEntries hmapping]
    grind [Content.isMapping]
  · have hkey : ((g.withEntries id entries).nodeAt e.1).tag = (g.nodeAt e.1).tag := by
      rw [nodeAt_withEntries hmapping]
      grind
    have := h.entries j e
    rw [entriesAt_withEntries hmapping] at hmem
    grind

theorem withTag (h : Derived g₀ g) (hid : (g.nodeAt id).tag = .value) :
    Derived g₀ (g.withTag id .str) := by
  have hne : (g.nodeAt id).tag ≠ .null := by simp [hid]
  refine ⟨fun j => ?_, h.tag.trans (retagged_withTag hid), fun j => ?_, fun j e hmem hspecial => ?_⟩
  · have := h.start j
    rw [nodeAt_withTag hne]
    grind
  · have := h.content j
    rw [nodeAt_withTag hne]
    grind
  · rw [entriesAt_withTag hne] at hmem
    refine h.entries j e hmem ?_
    rw [nodeAt_withTag hne] at hspecial
    split at hspecial
    · cases hspecial
    · exact hspecial

end Derived

/-- That of a graph which is derived from another one the entries of every mapping are kept, but of
one perhaps; or they are clean now. -/
structure Kept (g₀ : Graph) (but : Option NodeId) (g g' : Graph) : Prop where
  derived : Derived g₀ g'
  tag : g.Retagged g'
  entries (id : NodeId) (h : some id ≠ but) : g'.entriesAt id = g.entriesAt id ∨
    g'.IsClean (g'.entriesAt id)

namespace Kept

variable {g₀ g g' g'' : Graph} {but : Option NodeId} {id : NodeId}

@[grind ←] theorem refl (h : Derived g₀ g) (but : Option NodeId) : Kept g₀ but g g :=
  ⟨h, .refl g, fun _ _ => .inl rfl⟩

@[grind →] theorem isClean (h : Kept g₀ but g g') {entries : List (NodeId × NodeId)}
    (hclean : g.IsClean entries) :
    g'.IsClean entries :=
  h.tag.isClean hclean

@[grind →] theorem trans (h : Kept g₀ but g g') (h' : Kept g₀ but g' g'') : Kept g₀ but g g'' := by
  refine ⟨h'.derived, h.tag.trans h'.tag, fun id hid => ?_⟩
  rcases h'.entries id hid with heq | hclean
  · rw [heq]
    exact (h.entries id hid).imp_right h'.tag.isClean
  · exact .inr hclean

theorem withTag (h : Derived g₀ g) (hid : (g.nodeAt id).tag = .value) (but : Option NodeId) :
    Kept g₀ but g (g.withTag id .str) :=
  ⟨h.withTag hid, retagged_withTag hid, fun j _ => .inl (entriesAt_withTag (by simp [hid]) _ j)⟩

/-- The mapping that is flattened may lose entries. -/
theorem withEntries (h : Derived g₀ g) (hid : (g₀.nodeAt id).content.isMapping = true)
    {entries : List (NodeId × NodeId)}
    (he : ∀ e ∈ entries, (g.nodeAt e.1).tag.isSpecial = true → e ∈ g₀.entriesAt id) :
    Kept g₀ (some id) g (g.withEntries id entries) := by
  have hmapping := (h.isMapping id).trans hid
  refine ⟨h.withEntries hid he, retagged_withEntries hmapping entries, fun j hj => .inl ?_⟩
  rw [entriesAt_withEntries hmapping, if_neg (by simpa using hj)]

theorem weaken (h : Kept g₀ none g g') (but : Option NodeId) : Kept g₀ but g g' :=
  ⟨h.derived, h.tag, fun id _ => h.entries id (by simp)⟩

theorem close (h : Kept g₀ (some id) g g') (hclean : g'.IsClean (g'.entriesAt id)) :
    Kept g₀ none g g' := by
  refine ⟨h.derived, h.tag, fun j _ => ?_⟩
  by_cases hj : j = id
  · exact .inr (hj ▸ hclean)
  · exact h.entries j (by simpa using hj)

/-- In the end a mapping has what was merged and what was left. -/
theorem finish (h : Kept g₀ (some id) g g') (hid : (g₀.nodeAt id).content.isMapping = true)
    {merged : List (NodeId × NodeId)} (hmerged : g'.IsClean merged)
    (hleft : g'.IsClean (g'.entriesAt id)) :
    Kept g₀ none g (g'.withEntries id (merged ++ g'.entriesAt id)) ∧
      (g'.withEntries id (merged ++ g'.entriesAt id)).IsClean
        ((g'.withEntries id (merged ++ g'.entriesAt id)).entriesAt id) := by
  have hall : g'.IsClean (merged ++ g'.entriesAt id) :=
    fun e he => (List.mem_append.1 he).elim (hmerged e) (hleft e)
  have hkept := Kept.withEntries h.derived hid fun e he hspecial => by
    rw [hall e he] at hspecial; cases hspecial
  have hclean := hkept.isClean hall
  rw [entriesAt_withEntries ((h.derived.isMapping id).trans hid), if_pos rfl]
  refine ⟨(h.trans hkept).close ?_, hclean⟩
  rwa [entriesAt_withEntries ((h.derived.isMapping id).trans hid), if_pos rfl]

end Kept

/-! ## Merge keys -/

/-- How far the merge keys of a mapping are replaced: in front of a place none is left, and there
are steps enough for the entries from there on; or none is left at all. -/
structure Flattening (g₀ g : Graph) (id : NodeId) (steps index : Nat)
    (merged : List (NodeId × NodeId)) : Prop where
  derived : Derived g₀ g
  mapping : (g₀.nodeAt id).content.isMapping = true
  merged : g.IsClean merged
  rest : g.IsClean (g.entriesAt id) ∨
    (g.entriesAt id).length ≤ index + steps ∧ g.IsClean ((g.entriesAt id).take index)

namespace Flattening

variable {g₀ g g' : Graph} {id key value : NodeId} {steps index : Nat}
    {merged more : List (NodeId × NodeId)}

theorem start (h : Derived g₀ g) (hid : (g₀.nodeAt id).content.isMapping = true) :
    Flattening g₀ g id (g.entriesAt id).length 0 [] :=
  ⟨h, hid, by simp [IsClean], .inr ⟨by simp, by simp [IsClean]⟩⟩

theorem isClean_of_length_le (h : Flattening g₀ g id steps index merged)
    (hle : (g.entriesAt id).length ≤ index) :
    g.IsClean (g.entriesAt id) := by
  rcases h.rest with hclean | ⟨-, htake⟩
  · exact hclean
  · rwa [List.take_of_length_le hle] at htake

theorem isClean_of_zero (h : Flattening g₀ g id 0 index merged) : g.IsClean (g.entriesAt id) := by
  rcases h.rest with hclean | ⟨hle, -⟩
  · exact hclean
  · exact h.isClean_of_length_le hle

theorem isClean_of_none (h : Flattening g₀ g id steps index merged)
    (hnone : (g.entriesAt id)[index]? = none) :
    g.IsClean (g.entriesAt id) :=
  h.isClean_of_length_le (List.getElem?_eq_none_iff.1 hnone)

theorem isClean_take_succ {entries : List (NodeId × NodeId)} (h : g.IsClean (entries.take index))
    (hget : entries[index]? = some (key, value)) (hkey : (g.nodeAt key).tag.isSpecial = false) :
    g.IsClean (entries.take (index + 1)) := by
  rw [List.take_add_one, hget]
  intro e he
  rcases List.mem_append.1 he with he | he
  · exact h e he
  · cases List.mem_singleton.1 he
    exact hkey

/-- A usual key is left. -/
theorem next (h : Flattening g₀ g id (steps + 1) index merged)
    (hget : (g.entriesAt id)[index]? = some (key, value))
    (hkey : (g.nodeAt key).tag.isSpecial = false) :
    Flattening g₀ g id steps (index + 1) merged := by
  refine ⟨h.derived, h.mapping, h.merged, h.rest.imp_right fun ⟨hle, htake⟩ => ⟨by omega, ?_⟩⟩
  exact isClean_take_succ htake hget hkey

/-- A key for a default value becomes a text. -/
theorem rename (h : Flattening g₀ g id (steps + 1) index merged)
    (hget : (g.entriesAt id)[index]? = some (key, value)) (hkey : (g.nodeAt key).tag = .value) :
    Flattening g₀ (g.withTag key .str) id steps (index + 1) merged := by
  have hne : (g.nodeAt key).tag ≠ .null := by simp [hkey]
  have htags := retagged_withTag hkey
  have hstr : ((g.withTag key .str).nodeAt key).tag.isSpecial = false := by
    rw [nodeAt_withTag hne, if_pos rfl]
    rfl
  refine ⟨h.derived.withTag hkey, h.mapping, htags.isClean h.merged, ?_⟩
  rw [entriesAt_withTag hne]
  refine h.rest.imp htags.isClean fun ⟨hle, htake⟩ => ⟨by omega, ?_⟩
  exact isClean_take_succ (htags.isClean htake) hget hstr

/-- A merge key goes. -/
theorem erase (h : Flattening g₀ g id (steps + 1) index merged)
    (hget : (g.entriesAt id)[index]? = some (key, value)) (hkey : (g.nodeAt key).tag = .merge) :
    Flattening g₀ (g.withEntries id ((g.entriesAt id).eraseIdx index)) id steps index merged := by
  have hmapping := (h.derived.isMapping id).trans h.mapping
  have htags := retagged_withEntries hmapping ((g.entriesAt id).eraseIdx index)
  refine ⟨h.derived.withEntries h.mapping fun e he => h.derived.entries id e
    (List.mem_of_mem_eraseIdx he), h.mapping, htags.isClean h.merged, ?_⟩
  rw [entriesAt_withEntries hmapping, if_pos rfl]
  have hlt : index < (g.entriesAt id).length := (List.getElem?_eq_some_iff.1 hget).1
  rcases h.rest with hclean | ⟨hle, htake⟩
  · have := hclean _ (List.mem_of_getElem? hget)
    rw [hkey] at this
    cases this
  · refine .inr ⟨by rw [List.length_eraseIdx_of_lt hlt]; omega, ?_⟩
    rw [List.take_eraseIdx_eq_take_of_le _ _ _ (Nat.le_refl _)]
    exact htags.isClean htake

theorem kept_erase (h : Flattening g₀ g id steps index merged) :
    Kept g₀ (some id) g (g.withEntries id ((g.entriesAt id).eraseIdx index)) :=
  .withEntries h.derived h.mapping fun e he => h.derived.entries id e (List.mem_of_mem_eraseIdx he)

theorem kept_merge (h : Flattening g₀ g id steps index merged)
    (hkept : Kept g₀ none (g.withEntries id ((g.entriesAt id).eraseIdx index)) g') :
    Kept g₀ (some id) g g' :=
  h.kept_erase.trans (hkept.weaken _)

theorem kept_rename (h : Flattening g₀ g id steps index merged)
    (hkey : (g.nodeAt key).tag = .value) :
    Kept g₀ (some id) g (g.withTag key .str) :=
  .withTag h.derived hkey _

/-- What else is flattened meanwhile does no harm, and what it brings in may be merged. -/
theorem merge (h : Flattening g₀ g id steps index merged) (hkept : Kept g₀ none g g')
    (hmore : g'.IsClean more) :
    Flattening g₀ g' id steps index (merged ++ more) := by
  refine ⟨hkept.derived, h.mapping, fun e he => ?_, ?_⟩
  · rcases List.mem_append.1 he with he | he
    · exact hkept.tag.isClean h.merged e he
    · exact hmore e he
  · rcases hkept.entries id (by simp) with heq | hclean
    · rw [heq]
      exact h.rest.imp hkept.tag.isClean fun ⟨hle, htake⟩ => ⟨hle, hkept.tag.isClean htake⟩
    · exact .inl hclean

end Flattening

/-! ## Steps of filling -/

namespace Fill

variable {g₀ g : Graph} {α : Type}

theorem throw_at (e : Failure) :
    ⦃⌜True⌝⦄ (throw e : Fill α) ⦃post⟨fun _ _ => ⌜False⌝, fun e' => ⌜e' = e⌝⟩⦄ :=
  fun _ _ => rfl

@[spec] theorem failAt_at (activity : Option Activity) (start : Option Mark)
    (cause : Flaw.Cause) (place : Mark) :
    ⦃⌜True⌝⦄ (failAt activity start cause place : Fill α)
    ⦃post⟨fun _ _ => ⌜False⌝, fun e => ⌜∃ f, e = .flaw f⌝⟩⦄ :=
  fun _ _ => ⟨_, rfl⟩

@[spec] theorem failMerge_at (start : Mark) (what : String) (n : Node) :
    ⦃⌜True⌝⦄ (failMerge start what n : Fill α)
    ⦃post⟨fun _ _ => ⌜False⌝, fun e => ⌜∃ f, e = .flaw f⌝⟩⦄ :=
  fun _ _ => ⟨_, rfl⟩

@[spec] theorem nodeAt_at (id : NodeId) :
    ⦃fun s => ⌜s.graph = g⌝⦄ nodeAt id ⦃⇓ n s => ⌜s.graph = g ∧ n = g.nodeAt id⌝⦄ := by
  mvcgen [nodeAt]
  next s h => exact ⟨h, by rw [← h]; rfl⟩

@[spec] theorem entriesOf_at (id : NodeId) :
    ⦃fun s => ⌜s.graph = g⌝⦄ entriesOf id ⦃⇓ entries s => ⌜s.graph = g ∧
    entries = g.entriesAt id⌝⦄ := by
  mvcgen [entriesOf]
  all_goals grind [entriesAt]

@[spec] theorem setNode_at (id : NodeId) (n : Node) :
    ⦃fun s => ⌜s.graph = g⌝⦄ setNode id n ⦃⇓ _ s => ⌜s.graph = g.set id n⌝⦄ := by
  mvcgen [setNode]
  next s h _ => exact congrArg (Graph.set · id n) h

@[spec] theorem setEntries_at (id : NodeId) (entries : List (NodeId × NodeId)) :
    ⦃fun s => ⌜s.graph = g⌝⦄ setEntries id entries ⦃⇓ _ s => ⌜s.graph =
    g.withEntries id entries⌝⦄ := by
  mvcgen [setEntries]
  all_goals grind [withEntries]

/-- That a mapping is flattened, down to some depth. -/
structure Flattens (g₀ : Graph) (flatten : NodeId → Fill Unit) (depth : Nat) : Prop where
  kept {g : Graph} {id : NodeId} (hg : Derived g₀ g)
    (hid : (g₀.nodeAt id).content.isMapping = true) :
    ⦃fun s => ⌜s.graph = g⌝⦄ flatten id
    ⦃post⟨fun _ s => ⌜Kept g₀ none g s.graph ∧ s.graph.IsClean (s.graph.entriesAt id)⌝,
      fun e => ⌜e.IsDeep (HasRow g₀.Brings depth id)⌝⟩⦄

variable {flatten : NodeId → Fill Unit} {depth : Nat}

theorem broughtInByAll_kept (hflatten : Flattens g₀ flatten depth)
    (start : Mark) (ids : List NodeId)
    (hg : Derived g₀ g) : ⦃fun s => ⌜s.graph = g⌝⦄ broughtInByAll flatten start ids
    ⦃post⟨fun all s => ⌜Kept g₀ none g s.graph ∧ ∀ entries ∈ all, s.graph.IsClean entries⌝,
      fun e => ⌜e.IsDeep (∃ id ∈ ids, HasRow g₀.Brings depth id)⌝⟩⦄ := by
  induction ids generalizing g with
  | nil =>
    mvcgen [broughtInByAll]
    all_goals grind
  | cons id rest ih =>
    have hone := @hflatten.kept
    refine triple_of_forall fun Q hQ => ?_
    mvcgen [broughtInByAll, hone, ih]
    all_goals grind [Derived.isMapping, Content.isMapping, Kept.derived, Failure.IsDeep]

/-- A failure to bring in entries is one to flatten a mapping that is offered. -/
theorem broughtIn_kept (hflatten : Flattens g₀ flatten depth) (start : Mark) (value : NodeId)
    (hg : Derived g₀ g) :
    ⦃fun s => ⌜s.graph = g⌝⦄ broughtIn flatten start value
    ⦃post⟨fun entries s => ⌜Kept g₀ none g s.graph ∧ s.graph.IsClean entries⌝,
      fun e => ⌜e.IsDeep (∃ id, g₀.Offers value id ∧ HasRow g₀.Brings depth id)⌝⟩⦄ := by
  have hone := @hflatten.kept
  have hall := @broughtInByAll_kept g₀ g flatten depth hflatten
  refine triple_of_forall fun Q hQ => ?_
  mvcgen [broughtIn, hone, hall]
  all_goals grind [Derived.isMapping, Content.isMapping, Kept.derived, Failure.IsDeep,
    Offers, Derived.offers, isClean_flatten]

/-- A merge key that is there brings in what its value offers. -/
theorem brings_of_getElem? {id key value other : NodeId} {index : Nat} (hg : Derived g₀ g)
    (hget : (g.entriesAt id)[index]? = some (key, value)) (hkey : (g.nodeAt key).tag = .merge)
    (hoffers : g₀.Offers value other) : g₀.Brings id other :=
  ⟨value, hg.gives rfl ⟨key, List.mem_of_getElem? hget, hkey⟩, hoffers⟩

theorem flattenFrom_kept (hflatten : Flattens g₀ flatten depth) {id : NodeId} {steps index : Nat}
    {merged : List (NodeId × NodeId)} (hloop : Flattening g₀ g id steps index merged) :
    ⦃fun s => ⌜s.graph = g⌝⦄ flattenFrom flatten id steps index merged
    ⦃post⟨fun all s => ⌜Kept g₀ (some id) g s.graph ∧ s.graph.IsClean (s.graph.entriesAt id) ∧
      s.graph.IsClean all⌝, fun e => ⌜e.IsDeep (HasRow g₀.Brings (depth + 1) id)⌝⟩⦄ := by
  induction steps generalizing g index merged with
  | zero =>
    mvcgen [flattenFrom]
    all_goals grind [Flattening.isClean_of_zero, Flattening.derived, Flattening.merged]
  | succ steps ih =>
    have hbrought := fun (g : Graph) (start : Mark) (value : NodeId) (hg : Derived g₀ g) =>
      broughtIn_kept hflatten start value hg
    refine triple_of_forall fun Q hQ => ?_
    mvcgen [flattenFrom, hbrought, ih]
    · -- no entry is left
      grind [Flattening.isClean_of_none, Flattening.derived, Flattening.merged]
    · -- a merge key goes
      grind [→ Flattening.kept_erase, → Kept.derived]
    · grind [→ Flattening.kept_merge]
    · grind [→ Flattening.erase, → Flattening.merge]
    · exact fun he => he.imp fun ⟨other, hoffers, hrow⟩ =>
        ⟨other, by grind [→ brings_of_getElem?, → Flattening.derived], hrow⟩
    · -- a key for a default value becomes a text
      grind [→ Flattening.kept_rename, withTag]
    · grind [→ Flattening.rename, withTag]
    · -- a usual key is left
      grind
    · grind [→ Flattening.next, Tag.isSpecial]

/-- Flattening a mapping leaves it clean, and fails only at the end of a long row of
mappings that are merged. -/
theorem flatten_kept (g₀ : Graph) (depth : Nat) : Flattens g₀ (Fill.flatten depth) depth := by
  induction depth with
  | zero =>
    constructor
    intro g id hg hid
    mvcgen [Fill.flatten, throw_at, -Spec.throw_MonadExcept]
    all_goals grind [Failure.IsDeep, HasRow]
  | succ depth ih =>
    constructor
    intro g id hg hid
    have hfrom :=
      fun (g : Graph) (steps : Nat) (h : Flattening g₀ g id steps 0 []) => flattenFrom_kept ih h
    refine triple_of_forall fun Q hQ => ?_
    mvcgen [Fill.flatten, hfrom]
    · grind [Flattening.start]
    · grind [→ Kept.finish]
    · grind [Kept.close]

/-! ## Scalars -/

section

variable {β : Type} {p : β → Fill Bool} {q : β → Prop}
  (hp : ∀ b, ⦃fun s => ⌜s.graph = g⌝⦄ p b ⦃⇓ r s => ⌜s.graph = g ∧ (r = true → q b)⌝⦄)

include hp

theorem filterAuxM_at (l before : List β) : ⦃fun s => ⌜s.graph = g⌝⦄ l.filterAuxM p before
    ⦃⇓ found s => ⌜s.graph = g ∧ ∀ b ∈ found, b ∈ before ∨ b ∈ l ∧ q b⌝⦄ := by
  induction l generalizing before with
  | nil =>
    mvcgen [List.filterAuxM]
    all_goals grind
  | cons b rest ih =>
    refine triple_of_forall fun Q hQ => ?_
    mvcgen [List.filterAuxM, hp, ih]
    all_goals grind

/-- Selecting by a property of nodes leaves the graph as it is. -/
theorem filterM_at (l : List β) :
    ⦃fun s => ⌜s.graph = g⌝⦄ l.filterM p ⦃⇓ found s => ⌜s.graph = g ∧
    ∀ b ∈ found, b ∈ l ∧ q b⌝⦄ := by
  have haux := filterAuxM_at hp
  mvcgen [List.filterM, haux]
  all_goals grind

end

/-- A default value that is there was there at first. -/
theorem gives_of_mem {id key value : NodeId} {entries : List (NodeId × NodeId)} (hg : Derived g₀ g)
    (hc : (g.nodeAt id).content = .mapping entries) (hmem : (key, value) ∈ entries)
    (hkey : (g.nodeAt key).tag = .value) : g₀.Gives .value id value :=
  hg.gives rfl ⟨key, by rwa [entriesAt_of_content hc], hkey⟩

theorem scalarText_at (depth : Nat) {id : NodeId} (hg : Derived g₀ g) :
    ⦃fun s => ⌜s.graph = g⌝⦄ scalarText depth id
    ⦃post⟨fun text s => ⌜s.graph = g ∧
      g₀.HasText id text⌝, fun e => ⌜e.IsDeep (HasRow (g₀.Gives .value) depth id)⌝⟩⦄ := by
  induction depth generalizing id with
  | zero =>
    mvcgen [scalarText, throw_at, -Spec.throw_MonadExcept]
    all_goals grind [Failure.IsDeep, HasRow]
  | succ depth ih =>
    have hselect := fun p hp l =>
      filterM_at (g := g) (p := p)
        (q := fun e : NodeId × NodeId => (g.nodeAt e.1).tag = .value) hp l
    refine triple_of_forall fun Q hQ => ?_
    mvcgen [scalarText, hselect, ih]
    all_goals grind [HasText, Derived.scalar, →
      gives_of_mem, Failure.IsDeep, HasRow, List.mem_cons_self]

/-! ## Containers -/

/-- Having a graph that comes from another one by flattening. -/
abbrev derived (g₀ : Graph) : Assertion (.arg Filling (.except Failure .pure)) :=
  fun s => ⌜Derived g₀ s.graph⌝

/-- Going on with such a graph, or failing in a way that shows in the other graph. -/
abbrev derives {α : Type} (g₀ : Graph) : PostCond α (.arg Filling (.except Failure .pure)) :=
  post⟨fun _ s => ⌜Derived g₀ s.graph⌝, fun e => ⌜e.ShownAt g₀⌝⟩

/-- A fault of a scalar that is met shows in the graph as it was at first. -/
theorem shownAt_ofText {id : NodeId} {text : Text} (hg : Derived g₀ g)
    (htext : g₀.HasText id text) {e : Failure}
    (he : ScalarValue.ofText (g.nodeAt id).start (g.nodeAt id).tag text = .error e) :
    e.ShownAt g₀ := by
  rintro f rfl
  rw [hg.start] at he
  rcases hg.tag id with htag | ⟨-, htag⟩
  · exact .scalar htext (htag ▸ he)
  · rw [htag] at he
    cases he

theorem shownAt_timestamp {id : NodeId} {entries : List (NodeId × NodeId)} (hg : Derived g₀ g)
    (htag : (g.nodeAt id).tag = .timestamp) (hc : (g.nodeAt id).content = .mapping entries) :
    (Failure.fault .timestampOfMapping).ShownAt g₀ := by
  rintro f hf
  cases hf
  have htag₀ : (g₀.nodeAt id).tag = .timestamp := by
    have := hg.tag id
    grind
  refine .timestamp htag₀ ?_
  rw [← hg.isMapping, hc]
  rfl

@[spec] theorem keep_at (id : NodeId) (f : Filled) :
    ⦃fun s => ⌜s.graph = g⌝⦄ keep id f ⦃⇓ _ s => ⌜s.graph = g⌝⦄ := by
  mvcgen [keep]

@[spec] theorem keyOf?_at (id : NodeId) :
    ⦃fun s => ⌜s.graph = g⌝⦄ keyOf? id ⦃⇓ _ s => ⌜s.graph = g⌝⦄ := by
  mvcgen [keyOf?]

theorem meet_derives (g₀ : Graph) (id : NodeId) : ⦃derived g₀⦄ meet id ⦃derives g₀⦄ := by
  have hscalar := @scalarText_at g₀
  mvcgen [meet, hscalar, except_spec, throw_at, -Spec.throw_MonadExcept]
  all_goals grind [→ shownAt_ofText, →
    shownAt_timestamp, Failure.shownAt_flaw, Failure.IsDeep.shownAt, GraphSign]

theorem fillEntries_derives (g₀ : Graph) (start : Mark) (filled : List (Key × NodeId))
    (entries : List (NodeId × NodeId)) :
    ⦃derived g₀⦄ fillEntries start filled entries ⦃derives g₀⦄ := by
  have hmeet := meet_derives g₀
  induction entries generalizing filled with
  | nil => mvcgen [fillEntries]
  | cons e rest ih =>
    mvcgen [fillEntries, hmeet, ih]
    all_goals grind [Failure.shownAt_flaw]

theorem fillMapping_derives (g₀ : Graph) (id : NodeId) :
    ⦃derived g₀⦄ fillMapping id ⦃derives g₀⦄ := by
  have hflatten := @(flatten_kept g₀ nestingLimit).kept
  have hentries := fillEntries_derives g₀
  mvcgen [fillMapping, hflatten, hentries]
  all_goals grind [Derived.isMapping, Content.isMapping, Kept.derived, Failure.shownAt_flaw,
    Failure.IsDeep.shownAt, GraphSign]

theorem fillPairs_derives (g₀ : Graph) (what : String) (start : Mark) (ids : List NodeId) :
    ⦃derived g₀⦄ fillPairs what start ids ⦃derives g₀⦄ := by
  have hmeet := meet_derives g₀
  induction ids with
  | nil => mvcgen [fillPairs]
  | cons id rest ih =>
    mvcgen [fillPairs, hmeet, ih]
    all_goals grind [Failure.shownAt_flaw]

theorem fillPairsOf_derives (g₀ : Graph) (what : String) (n : Node) :
    ⦃derived g₀⦄ fillPairsOf what n ⦃derives g₀⦄ := by
  have hpairs := fillPairs_derives g₀
  mvcgen [fillPairsOf, hpairs]
  all_goals grind [Failure.shownAt_flaw]

theorem meets_derives (g₀ : Graph) (ids : List NodeId) :
    ⦃derived g₀⦄ ids.forM meet ⦃derives g₀⦄ := by
  have hmeet := meet_derives g₀
  induction ids with
  | nil => mvcgen [List.forM]
  | cons id rest ih => mvcgen [List.forM, hmeet, ih]

theorem fill_derives (g₀ : Graph) (id : NodeId) : ⦃derived g₀⦄ fill id ⦃derives g₀⦄ := by
  have hmeets := meets_derives g₀
  have hmapping := fillMapping_derives g₀
  have hpairs := fillPairsOf_derives g₀
  mvcgen [fill, hmeets, hmapping, hpairs]
  all_goals grind [Failure.shownAt_flaw]

theorem fillAll_derives (g₀ : Graph) (steps : Nat) : ⦃derived g₀⦄ fillAll steps ⦃derives g₀⦄ := by
  have hfill := fill_derives g₀
  induction steps with
  | zero => mvcgen [fillAll]
  | succ steps ih => mvcgen [fillAll, hfill, ih]

end Fill

/-- A fault of the value of a graph shows in the graph. -/
theorem graphSign_of_value {g : Graph} {root : NodeId} {f : Fault}
    (h : g.value root = .error (.fault f)) :
    GraphSign g f := by
  have hmeet := Fill.meet_derives g
  have hall := Fill.fillAll_derives g
  have hboth :
      ⦃Fill.derived g⦄
      (do Fill.meet root; Fill.fillAll (g.size + 1) : Fill Unit) ⦃Fill.derives g⦄ := by
    mvcgen [hmeet, hall]
  rw [Graph.value] at h
  rcases run_cases hboth (s := { graph := g }) (.refl g) with ⟨_, s, hrun, -⟩ | ⟨e, hrun, he⟩
  · rw [hrun] at h
    cases h
  · rw [hrun] at h
    cases h
    exact he f rfl

end ToolPolicy.Yaml
