import ToolPolicy.Proofs.VisibleBytes
import ToolPolicy.Proofs.YamlFilling

/-!
# The value of a JSON document that is read as YAML

The rows of nodes of a JSON document are sound, so its graph can be filled, and the value that is
put together from it has the values of its words and strings in the places of these. A string keeps
its units as they are written: nothing puts surrogates together.

Main statements: `value_of_shapes` (the value of the graph of a document) and `read_text` (the value
of a document, and when there is one).
-/

namespace ToolPolicy.Yaml

open Json

/-- What YAML takes words and strings for. -/
noncomputable def asYaml : Form.Taking where
  word := Word.yaml
  string := fun u => u

theorem asYaml_string (u : Text) : asYaml.string u = u := rfl

/-! ## Parts of rows -/

section Rows

variable {row : List (Tag × Content)} {n : Tag × Content} {l m : List (Tag × Content)} {id : Nat}

theorem prefix_cons (h : n :: l <+: row.drop id) : row[id]? = some n ∧ l <+: row.drop (id + 1) := by
  obtain ⟨after, hafter⟩ := h
  refine ⟨?_, after, ?_⟩
  · have hhead := congrArg (·[0]?) hafter
    rwa [List.getElem?_drop, List.cons_append, List.getElem?_cons_zero,
      Nat.add_zero, eq_comm] at hhead
  · rw [← List.drop_drop, ← hafter]
    rfl

theorem prefix_append (h : l ++ m <+: row.drop id) :
    l <+: row.drop id ∧ m <+: row.drop (id + l.length) := by
  obtain ⟨after, hafter⟩ := h
  refine ⟨⟨m ++ after, by rw [← hafter, List.append_assoc]⟩, after, ?_⟩
  rw [← List.drop_drop, ← hafter, List.append_assoc, List.drop_left]

theorem le_of_prefix (h : n :: l <+: row.drop id) : id + 1 + l.length ≤ row.length := by
  have := h.length_le
  rw [List.length_cons, List.length_drop] at this
  omega

end Rows

theorem sizeOfForm_pos (f : Form) : 0 < sizeOfForm f := by
  cases f <;> simp only [sizeOfForm] <;> omega

theorem mem_itemIds {items : List Form} {id i : Nat} (h : i ∈ itemIds id items) :
    id ≤ i ∧ i < id + sizeOfItems items := by
  induction items generalizing id with
  | nil => cases h
  | cons f rest ih =>
    have := sizeOfForm_pos f
    simp only [itemIds, List.mem_cons] at h
    simp only [sizeOfItems]
    rcases h with rfl | h
    · omega
    · have := ih h
      omega

theorem mem_fieldIds {fields : List (Units × Form)} {id : Nat} {e : Nat × Nat}
    (h : e ∈ fieldIds id fields) :
    id ≤ e.1 ∧ e.2 < id + sizeOfFields fields := by
  induction fields generalizing id with
  | nil => cases h
  | cons field rest ih =>
    obtain ⟨u, f⟩ := field
    have := sizeOfForm_pos f
    simp only [fieldIds, List.mem_cons] at h
    simp only [sizeOfFields]
    rcases h with rfl | h
    · simp only
      omega
    · have := ih h
      omega

theorem length_fieldIds_le (fields : List (Units × Form)) (id : Nat) :
    2 * (fieldIds id fields).length ≤ sizeOfFields fields := by
  induction fields generalizing id with
  | nil => exact Nat.le_refl _
  | cons field rest ih =>
    obtain ⟨u, f⟩ := field
    have := sizeOfForm_pos f
    have := ih (id + 1 + sizeOfForm f)
    simp only [fieldIds, sizeOfFields, List.length_cons]
    omega

theorem names_of_prefix {row : List (Tag × Content)} {fields : List (Units × Form)} {id : NodeId}
    (h : fieldShapes id fields <+: row.drop id) {e : NodeId × NodeId}
    (he : e ∈ fieldIds id fields) :
    ∃ name, row[e.1]? = some (.str, .scalar name) := by
  induction fields generalizing id with
  | nil => cases he
  | cons field rest ih =>
    obtain ⟨u, f⟩ := field
    obtain ⟨hname, hrest⟩ := prefix_cons h
    rcases List.mem_cons.mp he with rfl | he
    · exact ⟨u.val, hname⟩
    · have hmore := (prefix_append hrest).2
      rw [length_shape] at hmore
      exact ih hmore he

/-! ## Documents have sound graphs -/

mutual

/-- The nodes of a document are sound. -/
theorem sound_form (row : List (Tag × Content)) :
    ∀ (f : Form) (id : NodeId), shape id f <+: row.drop id →
    ∀ n ∈ shape id f, Sound row n
  | .word w, id, _, n, hn => by
    rw [shape, List.mem_singleton] at hn
    exact hn ▸ .scalar w.ofText_plain
  | .string u, id, _, n, hn => by
    rw [shape, List.mem_singleton] at hn
    exact hn ▸ .scalar fun place => ScalarValue.ofText_str place u.val
  | .list items, id, h, n, hn => by
    have hlength := le_of_prefix h
    rw [length_itemShapes] at hlength
    rcases List.mem_cons.mp hn with rfl | hn
    · exact .list fun i hi => Nat.lt_of_lt_of_le (mem_itemIds hi).2 hlength
    · exact sound_items row items (id + 1) (prefix_cons h).2 n hn
  | .object fields, id, h, n, hn => by
    have hlength := le_of_prefix h
    rw [length_fieldShapes] at hlength
    rcases List.mem_cons.mp hn with rfl | hn
    · refine .object fun e he => ⟨?_, names_of_prefix (prefix_cons h).2 he⟩
      exact Nat.lt_of_lt_of_le (mem_fieldIds he).2 hlength
    · exact sound_fields row fields (id + 1) (prefix_cons h).2 n hn

/-- The nodes of some items are sound. -/
theorem sound_items (row : List (Tag × Content)) : ∀ (items : List Form) (id : NodeId),
    itemShapes id items <+: row.drop id → ∀ n ∈ itemShapes id items, Sound row n
  | [], _, _, n, hn => by cases hn
  | f :: rest, id, h, n, hn => by
    obtain ⟨hf, hrest⟩ := prefix_append h
    rw [length_shape] at hrest
    rcases List.mem_append.mp hn with hn | hn
    · exact sound_form row f id hf n hn
    · exact sound_items row rest _ hrest n hn

/-- The nodes of some fields are sound. -/
theorem sound_fields (row : List (Tag × Content)) : ∀ (fields : List (Units × Form)) (id : NodeId),
    fieldShapes id fields <+: row.drop id → ∀ n ∈ fieldShapes id fields, Sound row n
  | [], _, _, n, hn => by cases hn
  | (u, f) :: rest, id, h, n, hn => by
    obtain ⟨hf, hrest⟩ := prefix_append (prefix_cons h).2
    rw [length_shape] at hrest
    rcases List.mem_cons.mp hn with rfl | hn
    · exact .scalar fun place => ScalarValue.ofText_str place u.val
    · rcases List.mem_append.mp hn with hn | hn
      · exact sound_form row f (id + 1) hf n hn
      · exact sound_fields row rest _ hrest n hn

end

/-! ## What everything has become -/

section Finished

variable {g : Graph} {s : Filling} {id : NodeId}

/-- Whether filling has come to its end. -/
structure Finished (g : Graph) (s : Filling) : Prop where
  settled : Settled g [] s
  done : s.waiting = []

theorem Finished.became (h : Finished g s) (hid : s.Has id) :
    ∃ f, s.met.lookup id = some f ∧ Became g s False id f := by
  obtain ⟨f, hf⟩ := Option.isSome_iff_exists.mp hid
  refine ⟨f, hf, (h.settled.became id f hf).mono (fun _ h => h) ?_⟩
  simp [h.done]

theorem Finished.lt_size (h : Finished g s) (hid : s.Has id) : id < g.size := by
  obtain ⟨f, _, hbecame⟩ := h.became hid
  cases hbecame <;> exact Graph.lt_of_shapes ‹_›

theorem Finished.scalar (h : Finished g s) (hid : s.Has id) {tag : Tag} {text : Text} {v : Value}
    (hshape : g.shapes[id]? = some (tag, .scalar text))
    (hv : ∀ place, ScalarValue.ofText place tag text = .ok v) :
    ∃ k : Key, k.value = v ∧ s.met.lookup id = some (.scalar k) := by
  obtain ⟨f, hf, hbecame⟩ := h.became hid
  cases hbecame with
  | scalar node value =>
    cases hshape.symm.trans node
    exact ⟨_, Except.ok.inj ((value {}).symm.trans (hv {})), hf⟩
  | list node _ => cases hshape.symm.trans node
  | object node _ => cases hshape.symm.trans node
  | unfinished _ _ still => exact still.elim

theorem Finished.list (h : Finished g s) (hid : s.Has id) {items : List NodeId}
    (hshape : g.shapes[id]? = some (.seq, .sequence items)) :
    s.met.lookup id = some (.list items) ∧ ∀ i ∈ items, s.Has i := by
  obtain ⟨f, hf, hbecame⟩ := h.became hid
  cases hbecame with
  | scalar node _ => cases hshape.symm.trans node
  | list node all =>
    cases hshape.symm.trans node
    exact ⟨hf, all⟩
  | object node _ => cases hshape.symm.trans node
  | unfinished _ _ still => exact still.elim

theorem Finished.object (h : Finished g s) (hid : s.Has id) {entries : List (NodeId × NodeId)}
    (hshape : g.shapes[id]? = some (.map, .mapping entries)) :
    s.met.lookup id = some (.mapping (g.namedEntries entries [])) ∧
      ∀ e ∈ entries, s.Has e.1 ∧ s.Has e.2 := by
  obtain ⟨f, hf, hbecame⟩ := h.became hid
  cases hbecame with
  | scalar node _ => cases hshape.symm.trans node
  | list node _ => cases hshape.symm.trans node
  | object node all =>
    cases hshape.symm.trans node
    exact ⟨hf, all⟩
  | unfinished _ _ still => exact still.elim

mutual

/-- Every node of a document has been met if its first one has. -/
theorem has_form (h : Finished g s) :
    ∀ (f : Form) (id : Nat), shape id f <+: g.shapes.drop id → s.Has id →
    ∀ i, id ≤ i → i < id + sizeOfForm f → s.Has i
  | .word w, id, _, hid, i, hle, hlt => by
    obtain rfl : i = id := by simp only [sizeOfForm] at hlt; omega
    exact hid
  | .string u, id, _, hid, i, hle, hlt => by
    obtain rfl : i = id := by simp only [sizeOfForm] at hlt; omega
    exact hid
  | .list items, id, hrow, hid, i, hle, hlt => by
    obtain ⟨hshape, hitems⟩ := prefix_cons hrow
    rcases Nat.eq_or_lt_of_le hle with rfl | hle
    · exact hid
    · simp only [sizeOfForm] at hlt
      exact has_items h items (id + 1) hitems (h.list hid hshape).2 i hle (by omega)
  | .object fields, id, hrow, hid, i, hle, hlt => by
    obtain ⟨hshape, hfields⟩ := prefix_cons hrow
    rcases Nat.eq_or_lt_of_le hle with rfl | hle
    · exact hid
    · simp only [sizeOfForm] at hlt
      exact has_fields h fields (id + 1) hfields (h.object hid hshape).2 i hle (by omega)

/-- Every node of some items has been met if the first one of each item has. -/
theorem has_items (h : Finished g s) :
    ∀ (items : List Form) (id : Nat), itemShapes id items <+: g.shapes.drop id →
    (∀ i ∈ itemIds id items, s.Has i) → ∀ i, id ≤ i → i < id + sizeOfItems items → s.Has i
  | [], id, _, _, i, hle, hlt => by
    simp only [sizeOfItems] at hlt
    omega
  | f :: rest, id, hrow, hall, i, hle, hlt => by
    obtain ⟨hf, hrest⟩ := prefix_append hrow
    rw [length_shape] at hrest
    simp only [sizeOfItems] at hlt
    by_cases hi : i < id + sizeOfForm f
    · exact has_form h f id hf (hall id (by simp [itemIds])) i hle hi
    · exact has_items h rest _ hrest (fun j hj => hall j (by simp [itemIds, hj])) i
        (Nat.not_lt.mp hi) (by omega)

/-- Every node of some fields has been met if the names and the first ones of the values have. -/
theorem has_fields (h : Finished g s) : ∀ (fields : List (Units × Form)) (id : Nat),
    fieldShapes id fields <+: g.shapes.drop id → (∀ e ∈ fieldIds id fields, s.Has e.1 ∧ s.Has e.2) →
    ∀ i, id ≤ i → i < id + sizeOfFields fields → s.Has i
  | [], id, _, _, i, hle, hlt => by
    simp only [sizeOfFields] at hlt
    omega
  | (u, f) :: rest, id, hrow, hall, i, hle, hlt => by
    obtain ⟨hf, hrest⟩ := prefix_append (prefix_cons hrow).2
    rw [length_shape] at hrest
    simp only [sizeOfFields] at hlt
    have hfirst := hall (id, id + 1) (by simp [fieldIds])
    rcases Nat.eq_or_lt_of_le hle with rfl | hle
    · exact hfirst.1
    by_cases hi : i < id + 1 + sizeOfForm f
    · exact has_form h f (id + 1) hf hfirst.2 i hle hi
    · exact has_fields h rest _ hrest (fun e he => hall e (by simp [fieldIds, he])) i
        (Nat.not_lt.mp hi) (by omega)

end

end Finished

/-! ## Putting the value together -/

section Entries

variable {g : Graph} {met : NodeId → Option Filled} {around : Around}

theorem length_namedEntries (entries : List (NodeId × NodeId)) (filled : List (Value × NodeId)) :
    (g.namedEntries entries filled).length ≤ entries.length + filled.length := by
  induction entries generalizing filled with
  | nil => simp [Graph.namedEntries]
  | cons e rest ih =>
    have hrest := ih (putNamed (g.nameAt e.1) e.2 filled)
    have hput := length_putNamed (g.nameAt e.1) e.2 filled
    rw [List.length_cons]
    exact Nat.le_trans hrest (by omega)

/-- The entries of a mapping, given what the nodes of its entries are taken for. -/
theorem map_namedEntries (value : NodeId → Value) (entries : List (NodeId × NodeId))
    (filled : List (Value × NodeId)) :
    (g.namedEntries entries filled).map (fun e => (e.1, value e.2))
      = Form.putAll (filled.map fun e => (e.1, value e.2))
        (entries.map fun e => (g.nameAt e.1, value e.2)) := by
  induction entries generalizing filled with
  | nil => rfl
  | cons e rest ih =>
    have hrest := ih (putNamed (g.nameAt e.1) e.2 filled)
    rw [putNamed_map, ← putField_eq_putNamed] at hrest
    exact hrest

theorem mem_putNamed {α : Type} {name : Text} {a : α} {entries : List (Value × α)} {e : Value × α}
    (h : e ∈ putNamed name a entries) : e.2 = a ∨ ∃ e' ∈ entries, e'.2 = e.2 := by
  induction entries with
  | nil => exact .inl (by rw [List.mem_singleton.mp h])
  | cons first rest ih =>
    simp only [putNamed] at h
    split at h
    · rcases List.mem_cons.mp h with rfl | h
      · exact .inl rfl
      · exact .inr ⟨e, List.mem_cons_of_mem _ h, rfl⟩
    · rcases List.mem_cons.mp h with rfl | h
      · exact .inr ⟨_, List.mem_cons_self, rfl⟩
      · rcases ih h with h | ⟨e', he', h⟩
        · exact .inl h
        · exact .inr ⟨e', List.mem_cons_of_mem _ he', h⟩

theorem mem_namedEntries {entries : List (NodeId × NodeId)} {filled : List (Value × NodeId)}
    {e : Value × NodeId} (h : e ∈ g.namedEntries entries filled) :
    (∃ e' ∈ entries, e'.2 = e.2) ∨ ∃ e' ∈ filled, e'.2 = e.2 := by
  induction entries generalizing filled with
  | nil => exact .inr ⟨e, h, rfl⟩
  | cons first rest ih =>
    rcases ih h with ⟨e', he', heq⟩ | ⟨e', he', heq⟩
    · exact .inl ⟨e', List.mem_cons_of_mem _ he', heq⟩
    · rcases mem_putNamed he' with hnew | ⟨e'', he'', heq'⟩
      · exact .inl ⟨first, List.mem_cons_self, hnew.symm.trans heq⟩
      · exact .inr ⟨e'', he'', heq'.trans heq⟩

/-- The values of entries whose nodes need no more fuel than is left at the end. -/
theorem entryValues_eq_map {least : Nat} {entries : List (Value × NodeId)}
    (h : ∀ e ∈ entries, ∀ fuel, least ≤ fuel →
      valueOf met fuel around e.2 = valueOf met least around e.2) :
    ∀ fuel, entries.length + least ≤ fuel →
      entryValues met fuel around entries =
        entries.map fun e => (e.1, valueOf met least around e.2) := by
  induction entries with
  | nil =>
    intro fuel _
    cases fuel <;> rfl
  | cons e rest ih =>
    intro fuel hfuel
    rw [List.length_cons] at hfuel
    obtain ⟨fuel, rfl⟩ : ∃ k, fuel = k + 1 := ⟨fuel - 1, by omega⟩
    rw [entryValues, h e (by simp) fuel (by omega),
      ih (fun e he => h e (by simp [he])) fuel (by omega)]
    rfl

end Entries

section Values

variable {g : Graph} {s : Filling}

/-- Whether the containers around a place come before a node. -/
def Before (around : Around) (id : Nat) : Prop := ∀ a ∈ around, ∃ j : Nat, j < id ∧ a = some j

theorem Before.findIdx? {around : Around} {id : Nat} (h : Before around id) :
    around.findIdx? (· == some id) = none := by
  rw [List.findIdx?_eq_none_iff]
  intro a ha
  obtain ⟨j, hj, rfl⟩ := h a ha
  exact beq_eq_false_iff_ne.mpr fun he => absurd (Option.some.inj he) (Nat.ne_of_lt hj)

theorem Before.mono {around : Around} {id id' : Nat} (h : Before around id) (hle : id ≤ id') :
    Before around id' := by
  intro a ha
  obtain ⟨j, hj, he⟩ := h a ha
  exact ⟨j, Nat.lt_of_lt_of_le hj hle, he⟩

theorem Before.cons {around : Around} {id : Nat} (h : Before around id) :
    Before (some id :: around) (id + 1) := by
  intro a ha
  rcases List.mem_cons.mp ha with rfl | ha
  · exact ⟨id, Nat.lt_succ_self id, rfl⟩
  · exact h.mono (Nat.le_succ id) a ha

mutual

/-- The value of a document within a graph that has been filled. -/
theorem valueOf_form (h : Finished g s) :
    ∀ (f : Form) (id : Nat), shape id f <+: g.shapes.drop id → s.Has id →
    ∀ (around : Around) (fuel : Nat), Before around id → 2 * sizeOfForm f ≤ fuel + 1 →
      valueOf (fun id => s.met.lookup id) fuel around id = f.value asYaml
  | .word w, id, hrow, hid, around, fuel, hbefore, hfuel => by
    obtain ⟨k, hk, hlookup⟩ := h.scalar hid (prefix_cons hrow).1 w.ofText_plain
    obtain ⟨fuel, rfl⟩ : ∃ k, fuel = k + 1 := ⟨fuel - 1, by simp only [sizeOfForm] at hfuel; omega⟩
    simp only [valueOf, hbefore.findIdx?, hlookup, hk]
    rfl
  | .string u, id, hrow, hid, around, fuel, hbefore, hfuel => by
    obtain ⟨k, hk, hlookup⟩ :=
      h.scalar hid (prefix_cons hrow).1 fun place => ScalarValue.ofText_str place u.val
    obtain ⟨fuel, rfl⟩ : ∃ k, fuel = k + 1 := ⟨fuel - 1, by simp only [sizeOfForm] at hfuel; omega⟩
    simp only [valueOf, hbefore.findIdx?, hlookup, hk]
    rfl
  | .list items, id, hrow, hid, around, fuel, hbefore, hfuel => by
    obtain ⟨hshape, hitems⟩ := prefix_cons hrow
    obtain ⟨hlookup, hall⟩ := h.list hid hshape
    simp only [sizeOfForm] at hfuel
    obtain ⟨fuel, rfl⟩ : ∃ k, fuel = k + 1 := ⟨fuel - 1, by omega⟩
    have hvalues :=
      valuesOf_items h items (id + 1) hitems hall (some id :: around) fuel hbefore.cons (by omega)
    simp only [valueOf, hbefore.findIdx?, hlookup, hvalues, Form.value]
  | .object fields, id, hrow, hid, around, fuel, hbefore, hfuel => by
    obtain ⟨hshape, hfields⟩ := prefix_cons hrow
    obtain ⟨hlookup, hall⟩ := h.object hid hshape
    simp only [sizeOfForm] at hfuel
    obtain ⟨fuel, rfl⟩ : ∃ k, fuel = k + 1 := ⟨fuel - 1, by omega⟩
    have hsize := length_fieldIds_le fields (id + 1)
    have hlength := length_namedEntries (g := g) (fieldIds (id + 1) fields) []
    rw [List.length_nil, Nat.add_zero] at hlength
    -- what is left when all the entries but one are passed by
    obtain ⟨least, hleast⟩ : ∃ least, fuel = (fieldIds (id + 1) fields).length + least :=
      ⟨fuel - (fieldIds (id + 1) fields).length, by omega⟩
    have hvalues (more : Nat) (hmore : least ≤ more) :=
      fieldValues_fields h fields (id + 1) hfields hall
        (some id :: around) more hbefore.cons (by omega)
    have hsame : ∀ e ∈ g.namedEntries (fieldIds (id + 1) fields) [], ∀ more, least ≤ more →
        valueOf (fun id => s.met.lookup id) more (some id :: around) e.2
          = valueOf (fun id => s.met.lookup id) least (some id :: around) e.2 := by
      intro e he more hmore
      obtain ⟨e', he', heq⟩ | ⟨e', he', _⟩ := mem_namedEntries he
      · have hboth := (hvalues more hmore).trans (hvalues least (Nat.le_refl _)).symm
        rw [← heq]
        exact (Prod.mk.inj (List.map_inj_left.mp hboth e' he')).2
      · cases he'
    have hentries := entryValues_eq_map hsame fuel (by omega)
    rw [map_namedEntries, hvalues least (Nat.le_refl _)] at hentries
    simp only [valueOf, hbefore.findIdx?, hlookup, hentries, Form.value, List.map_nil]

/-- The values of some items. -/
theorem valuesOf_items (h : Finished g s) :
    ∀ (items : List Form) (id : Nat), itemShapes id items <+: g.shapes.drop id →
    (∀ i ∈ itemIds id items, s.Has i) →
    ∀ (around : Around) (fuel : Nat), Before around id → 2 * sizeOfItems items ≤ fuel →
      valuesOf (fun id => s.met.lookup id) fuel around (itemIds id items) = Form.values asYaml items
  | [], _, _, _, _, fuel, _, _ => by cases fuel <;> rfl
  | f :: rest, id, hrow, hall, around, fuel, hbefore, hfuel => by
    obtain ⟨hf, hrest⟩ := prefix_append hrow
    rw [length_shape] at hrest
    have hpos := sizeOfForm_pos f
    simp only [sizeOfItems] at hfuel
    obtain ⟨fuel, rfl⟩ : ∃ k, fuel = k + 1 := ⟨fuel - 1, by omega⟩
    have hfirst :=
      valueOf_form h f id hf (hall id (by simp [itemIds])) around fuel hbefore (by omega)
    have hmore :=
      valuesOf_items h rest (id + sizeOfForm f) hrest
      (fun j hj => hall j (by simp [itemIds, hj])) around
      fuel (hbefore.mono (Nat.le_add_right _ _)) (by omega)
    simp only [itemIds, valuesOf, hfirst, hmore, Form.values]

/-- The names and the values of some fields. -/
theorem fieldValues_fields (h : Finished g s) : ∀ (fields : List (Units × Form)) (id : Nat),
    fieldShapes id fields <+: g.shapes.drop id → (∀ e ∈ fieldIds id fields, s.Has e.1 ∧ s.Has e.2) →
    ∀ (around : Around) (fuel : Nat), Before around id →
      2 * sizeOfFields fields ≤ fuel + 2 * (fieldIds id fields).length + 1 →
      (fieldIds id fields).map
      (fun e => (g.nameAt e.1, valueOf (fun id => s.met.lookup id) fuel around e.2))
        = Form.fieldValues asYaml fields
  | [], _, _, _, _, _, _, _ => rfl
  | (u, f) :: rest, id, hrow, hall, around, fuel, hbefore, hfuel => by
    obtain ⟨hname, hmore⟩ := prefix_cons hrow
    obtain ⟨hf, hrest⟩ := prefix_append hmore
    rw [length_shape] at hrest
    have hlength := length_fieldIds_le rest (id + 1 + sizeOfForm f)
    simp only [sizeOfFields, fieldIds, List.length_cons] at hfuel
    have hfirst :=
      valueOf_form h f (id + 1) hf (hall (id, id + 1) (by simp [fieldIds])).2 around fuel
      (hbefore.mono (Nat.le_succ id)) (by omega)
    have hvalues := fieldValues_fields h rest (id + 1 + sizeOfForm f) hrest
      (fun e he => hall e (by simp [fieldIds, he])) around fuel (hbefore.mono (by omega)) (by omega)
    simp only [fieldIds, List.map_cons, hfirst, hvalues,
      Graph.nameAt_of_shapes hname, Form.fieldValues]
    rfl

end

end Values

/-! ## The value of a graph -/

/-- What has become of the nodes, by their numbers. -/
theorem met_getElem? (met : List (NodeId × Filled)) (n : Nat) :
    (met.foldr (fun e (a : Array (Option Filled)) => a.setIfInBounds e.1 (some e.2))
      (Array.replicate n none)).size = n
      ∧ ∀ id < n, ((met.foldr (fun e (a : Array (Option Filled)) => a.setIfInBounds e.1 (some e.2))
        (Array.replicate n none))[id]?).getD none = met.lookup id := by
  induction met with
  | nil =>
    refine ⟨by simp, fun id hid => ?_⟩
    simp [hid]
  | cons e rest ih =>
    obtain ⟨hsize, hlookup⟩ := ih
    obtain ⟨i, f⟩ := e
    refine ⟨by rw [List.foldr_cons, Array.size_setIfInBounds, hsize], fun id hid => ?_⟩
    rw [List.foldr_cons, Array.getElem?_setIfInBounds, hsize, List.lookup_cons]
    by_cases he : i = id
    · subst he
      simp [hid]
    · rw [if_neg he, hlookup id hid, beq_eq_false_iff_ne.mpr (Ne.symm he)]

theorem le_partCount (met : List (NodeId × Filled)) : 2 * met.length ≤ partCount met := by
  have hpart (f : Filled) : 2 ≤ f.partCount := by
    cases f <;> simp [Filled.partCount]
  have hfoldl (n : Nat) : n + 2 * met.length ≤ met.foldl (fun n e => n + e.2.partCount) n := by
    induction met generalizing n with
    | nil => exact Nat.le_refl _
    | cons e rest ih =>
      have := hpart e.2
      rw [List.foldl_cons, List.length_cons]
      exact Nat.le_trans (by omega) (ih _)
  have := hfoldl 0
  rwa [Nat.zero_add] at this

theorem size_le_length {s : Filling} {n : Nat} (h : ∀ i < n, s.Has i) : n ≤ s.met.length := by
  have hsub : Finset.range n ⊆ (s.met.map Prod.fst).toFinset := by
    intro i hi
    obtain ⟨f, hf⟩ := Option.isSome_iff_exists.mp (h i (Finset.mem_range.mp hi))
    obtain ⟨before, after, hmet, _⟩ := List.lookup_eq_some_iff.mp hf
    simp [hmet]
  have hcard := (Finset.card_le_card hsub).trans (List.toFinset_card_le _)
  rwa [Finset.card_range, List.length_map] at hcard

/-- **The value of a graph** with the nodes of a document is the value of the document. -/
theorem value_of_shapes {g : Graph} {f : Form} (hshapes : g.shapes = shape 0 f) :
    g.value 0 = .ok (f.value asYaml) := by
  have hsize : g.size = sizeOfForm f := by rw [← g.length_shapes, hshapes, length_shape]
  have hrow : shape 0 f <+: g.shapes.drop 0 := by rw [List.drop_zero, hshapes]
  have hsound : g.IsSound := fun n hn => sound_form g.shapes f 0 hrow n (hshapes ▸ hn)
  have hroot : (0 : NodeId) < g.size := hsize ▸ sizeOfForm_pos f
  obtain ⟨s, hrun, hsettled, hdone, hroot⟩ := Fill.fill_graph hsound hroot
  have hfinished : Finished g s := ⟨hsettled, hdone⟩
  have hall : ∀ i < g.size, s.Has i :=
    fun i hi => has_form hfinished f 0 hrow hroot i (Nat.zero_le i) (by omega)
  have hmet := met_getElem? s.met g.size
  have hlookup :
      (fun id => ((s.met.foldr (fun e (a : Array (Option Filled)) => a.setIfInBounds e.1 (some e.2))
        (Array.replicate g.size none))[id]?).getD none) = fun id => s.met.lookup id := by
    funext id
    by_cases hid : id < g.size
    · exact hmet.2 id hid
    · rw [Array.getElem?_eq_none (by rw [hmet.1]; exact Nat.not_lt.mp hid)]
      cases hf : s.met.lookup id with
      | none => rfl
      | some f => exact absurd (hfinished.lt_size (Option.isSome_iff_exists.mpr ⟨f, hf⟩)) hid
  have hfuel : 2 * sizeOfForm f ≤ partCount s.met + 2 + 1 := by
    have := le_partCount s.met
    have := size_le_length hall
    omega
  have hvalue :=
    valueOf_form hfinished f 0 hrow hroot [] (partCount s.met + 2) (by simp [Before]) hfuel
  rw [Graph.value, hrun, ← hvalue, ← hlookup]
  rfl

/-- **A JSON object read as YAML** has a value exactly if it is not nested too deeply and its names
are short, and that is the value of the object, but that its strings keep their units. -/
theorem read_text (fields : List (Units × Form)) :
    Build.Fits 1 (.object fields) ∧
        Yaml.read (Utf8.encode (Form.object fields).text) =
          .ok ((Form.object fields).value asYaml) ∨
      ¬ Build.Fits 1 (.object fields) ∧
        ∃ e, Yaml.read (Utf8.encode (Form.object fields).text) = .error e := by
  obtain ⟨ts, htokens, hkinds⟩ := Lexer.tokens_text fields
  have hsource := ofBytes_encode (Lexer.visible_text (.object fields))
  rw [Yaml.read, hsource, htokens]
  rcases Graph.ofTokens_object hkinds with ⟨hfits, g, hg, hshapes⟩ | ⟨hfits, e, he⟩
  · refine .inl ⟨hfits, ?_⟩
    rw [hg, ← value_of_shapes hshapes]
    rfl
  · refine .inr ⟨hfits, e, ?_⟩
    rw [he]
    rfl

end ToolPolicy.Yaml
