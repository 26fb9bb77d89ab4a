import ToolPolicy.Check

/-!
# The content that rules see

Rules are matched against one text among the arguments of a tool: the one under the field that a
table names for the tool, or for any other tool the first full text under one of the usual names. A
content that is given for a tool is put among its arguments in a place that the same table chooses,
and there it is the text that is seen, whatever the other arguments are. Only an empty content for a
tool without a field of its own is passed over.

* `Selected`, `content?_eq_some_iff`: which text of the arguments is seen.
* `Counts`, `content?_arguments_iff`: which contents are seen when they are given.
-/

namespace ToolPolicy.Content

section
variable {tool t : Text} {arguments : List (Value × Value)}

/-! ## The text that is seen -/

/-- That a text is the one to be seen among the arguments of a tool. The field of a tool in the
table is the only place where it may stand, be the text empty or not; for other tools texts that are
empty are passed over, and so is all that is no text. -/
inductive Selected (tool : Text) (arguments : List (Value × Value)) (t : Text) : Prop where
  | listed {field : Text} (table : (tool, field) ∈ primaryFields)
      (held : Value.field? field arguments = some (.str t)) : Selected tool arguments t
  | usual {before after : List Text} {name : Text}
      (unlisted : ∀ field, (tool, field) ∉ primaryFields)
      (order : usualFields = before ++ name :: after)
      (held : Value.field? name arguments = some (.str t)) (full : t ≠ [])
      (passed : ∀ other ∈ before, ∀ u, Value.field? other arguments = some (.str u) → u = []) :
      Selected tool arguments t

/-- A content that counts for a tool: one that is not empty, or any if the tool is in the table. -/
def Counts (tool t : Text) : Prop := t ≠ [] ∨ ∃ field, (tool, field) ∈ primaryFields

/-- The table has one field for each of its tools. -/
theorem listedField?_eq_some_iff {field : Text} :
    listedField? tool = some field ↔ (tool, field) ∈ primaryFields := by
  constructor
  · intro h
    obtain ⟨before, after, htable, -⟩ := List.lookup_eq_some_iff.1 h
    rw [htable]
    exact List.mem_append_right _ List.mem_cons_self
  · intro h
    simp only [primaryFields, List.mem_cons, Prod.mk.injEq, List.not_mem_nil, or_false] at h
    rcases h with ⟨rfl, rfl⟩ | ⟨rfl, rfl⟩ | ⟨rfl, rfl⟩ | ⟨rfl, rfl⟩ | ⟨rfl, rfl⟩ | ⟨rfl, rfl⟩
      | ⟨rfl, rfl⟩ | ⟨rfl, rfl⟩
    all_goals rfl

theorem listedField?_eq_none_iff :
    listedField? tool = none ↔ ∀ field, (tool, field) ∉ primaryFields := by
  simp only [Option.eq_none_iff_forall_ne_some, ne_eq, listedField?_eq_some_iff]

theorem textAt?_eq_some_iff {name : Text} :
    textAt? arguments name = some t ↔ Value.field? name arguments = some (.str t) := by
  rw [textAt?]
  cases Value.field? name arguments with
  | none => simp
  | some v => cases v <;> simp [Value.asText?]

theorem fullTextAt?_eq_some_iff {name : Text} :
    fullTextAt? arguments name = some t ↔ Value.field? name arguments = some (.str t) ∧ t ≠ [] := by
  rw [fullTextAt?, Option.filter_eq_some_iff, textAt?_eq_some_iff]
  simp

theorem fullTextAt?_eq_none_iff {name : Text} :
    fullTextAt? arguments name = none ↔
      ∀ u, Value.field? name arguments = some (.str u) → u = [] := by
  simp only [Option.eq_none_iff_forall_ne_some, ne_eq, fullTextAt?_eq_some_iff,
    not_and, Decidable.not_not]

/-- **The text that is seen.** -/
theorem content?_eq_some_iff : content? tool arguments = some t ↔ Selected tool arguments t := by
  rw [content?]
  cases hlisted : listedField? tool with
  | some field =>
      have htable := listedField?_eq_some_iff.1 hlisted
      simp only [textAt?_eq_some_iff]
      constructor
      · intro hheld
        exact .listed htable hheld
      · intro h
        cases h with
        | listed table held =>
            cases hlisted.symm.trans (listedField?_eq_some_iff.2 table)
            exact held
        | usual unlisted => exact absurd htable (unlisted field)
  | none =>
      have hunlisted := listedField?_eq_none_iff.1 hlisted
      simp only [List.findSome?_eq_some_iff, fullTextAt?_eq_some_iff, fullTextAt?_eq_none_iff]
      constructor
      · rintro ⟨before, name, after, horder, ⟨hheld, hfull⟩, hpassed⟩
        exact .usual hunlisted horder hheld hfull hpassed
      · intro h
        cases h with
        | listed table => exact absurd table (hunlisted _)
        | usual unlisted order held full passed => exact ⟨_, _, _, order, ⟨held, full⟩, passed⟩

/-! ## A content that is given -/

theorem Selected.counts (h : Selected tool arguments t) : Counts tool t := by
  cases h with
  | listed table => exact .inr ⟨_, table⟩
  | usual unlisted order held full => exact .inl full

/-- A content that counts is selected where it is put, before any other argument. -/
theorem selected_putField (h : Counts tool t) :
    Selected tool (Value.putField (primaryField tool) (.str t) arguments) t := by
  have hheld := Value.field?_put_self (primaryField tool) (.str t) arguments
  cases hlisted : listedField? tool with
  | some field =>
      have hfield : primaryField tool = field := by rw [primaryField, hlisted, Option.getD_some]
      rw [hfield] at hheld ⊢
      exact .listed (listedField?_eq_some_iff.1 hlisted) hheld
  | none =>
      have hunlisted := listedField?_eq_none_iff.1 hlisted
      have hfirst : usualFields = [] ++ primaryField tool :: usualFields.tail := by
        rw [primaryField, hlisted]
        rfl
      have hfull : t ≠ [] := h.resolve_right (not_exists.2 hunlisted)
      exact .usual hunlisted hfirst hheld hfull fun other hother => absurd hother List.not_mem_nil

/-- The contents that are seen when they are given are those that count. -/
theorem content?_arguments_iff :
    content? tool (Check.arguments tool (some t) arguments) = some t ↔ Counts tool t := by
  rw [content?_eq_some_iff]
  constructor
  · intro h
    exact h.counts
  · intro h
    exact selected_putField h

/-- An empty content is passed over for another argument, if the tool has no field of its own. -/
example :
    content? "Task" (Check.arguments "Task" (some []) [(.str "url", .str "u")]) =
      some (Text.ofString "u") := by
  cbv

end

end ToolPolicy.Content
