import ToolPolicy.Text.Basic

/-!
# The text of a rule

A rule is written `Tool(pattern)`: a pattern for the name of the tool, then a pattern for the
content in parentheses. The first opening parenthesis and the last code point, which has to be a
closing one, enclose the content; parentheses within the content need not balance.

Main statements: `split?_compose` (a composed rule splits into its parts) and `compose_of_split?` (a
rule that splits is composed of its parts), so `split?_eq_some_iff` says which texts are rules.
-/

namespace ToolPolicy.RuleText

/-- The rule that is written from two patterns. -/
def compose (tool content : Text) : Text := tool ++ 40 :: content ++ [41]

/-- The patterns for tool and content of a rule, if the text is one. -/
def split? (raw : Text) : Option (Text × Text) :=
  match Text.cutAt 40 raw with
  | (_, none) => none
  | (tool, some rest) =>
    let content := rest.dropLast
    if tool.isEmpty || content.isEmpty || rest.getLast? != some 41 then none
    else some (tool, content)

/-- The pattern that matches a whole tool name where the given one does. -/
def anchor (tool : Text) : Text := "\\A(?:" ++ tool ++ ")\\Z"

/-- Cutting gives the text before the first occurrence, which holds none itself. -/
theorem cutAt_eq_some {sep : CodePoint} {t before after : Text}
    (h : Text.cutAt sep t = (before, some after)) : t = before ++ sep :: after ∧ sep ∉ before := by
  induction t generalizing before with
  | nil => simp [Text.cutAt] at h
  | cons c rest ih =>
    by_cases hc : c = sep
    · simp only [Text.cutAt, hc, if_true, Prod.mk.injEq, Option.some.injEq] at h
      obtain ⟨rfl, rfl⟩ := h
      simp [hc]
    · simp only [Text.cutAt, hc, if_false, Prod.mk.injEq] at h
      obtain ⟨rfl, h⟩ := h
      obtain ⟨hrest, hmem⟩ := @ih (Text.cutAt sep rest).1 (by rw [← h])
      refine ⟨by rw [List.cons_append, ← hrest], ?_⟩
      simp only [List.mem_cons, not_or]
      exact ⟨fun e => hc e.symm, hmem⟩

theorem cutAt_append {sep : CodePoint} {before : Text} (h : sep ∉ before) (after : Text) :
    Text.cutAt sep (before ++ sep :: after) = (before, some after) := by
  induction before with
  | nil => simp [Text.cutAt]
  | cons c rest ih =>
    simp only [List.mem_cons, not_or] at h
    have hc : ¬ c = sep := fun e => h.1 e.symm
    simp [Text.cutAt, hc, ih h.2]

theorem split?_compose {tool content : Text} (ht : tool ≠ []) (hp : 40 ∉ tool)
    (hc : content ≠ []) : split? (compose tool content) = some (tool, content) := by
  have hcut : Text.cutAt 40 (compose tool content) = (tool, some (content ++ [41])) := by
    simpa [compose] using cutAt_append hp (content ++ [41])
  simp [split?, hcut, ht, hc]

theorem compose_of_split? {raw tool content : Text} (h : split? raw = some (tool, content)) :
    raw = compose tool content ∧ tool ≠ [] ∧ 40 ∉ tool ∧ content ≠ [] := by
  unfold split? at h
  split at h
  · simp at h
  · rename_i tool' rest hcut
    obtain ⟨hraw, hmem⟩ := cutAt_eq_some hcut
    simp only [Option.ite_none_left_eq_some, Bool.or_eq_true, List.isEmpty_iff, bne_iff_ne, not_or,
      Decidable.not_not, Option.some.injEq, Prod.mk.injEq] at h
    obtain ⟨⟨⟨h1, h2⟩, h3⟩, rfl, rfl⟩ := h
    have hrest : rest = rest.dropLast ++ [41] := by
      rw [List.getLast?_eq_some_iff] at h3
      obtain ⟨ys, rfl⟩ := h3
      simp
    refine ⟨?_, h1, hmem, h2⟩
    rw [hraw, compose, List.append_assoc, List.cons_append, ← hrest]

theorem split?_eq_some_iff {raw tool content : Text} : split? raw = some (tool, content) ↔
    raw = compose tool content ∧ tool ≠ [] ∧ 40 ∉ tool ∧ content ≠ [] := by
  refine ⟨compose_of_split?, ?_⟩
  rintro ⟨rfl, ht, hp, hc⟩
  exact split?_compose ht hp hc

end ToolPolicy.RuleText
