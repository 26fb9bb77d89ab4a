import Mathlib.Data.List.DropRight
import ToolPolicy.Proofs.LineVerdict

/-!
# Texts with the same lines

The lines of a text are what is left when it is not looked at how the text is spaced: white
space around a line, blank lines, and a carriage return in front of a line feed make no
difference. Lines can be joined to a text that has exactly these lines, and every text is this
one, spaced in another way.

* `view_padded`: white space around a text, line feeds included, adds no line.
* `view_join`: the lines of joined texts are those of the texts, in order.
* `Respaced`: how some texts are spaced in another way.
* `lines_are_normal_form`: what the lines of a text depend on.
-/

namespace ToolPolicy

/-! ## Joining pieces -/

namespace Text

theorem join_cons {first : Text} {rest : List Text} (h : rest ≠ []) (sep : Text) :
    join sep (first :: rest) = first ++ sep ++ join sep rest := by
  cases rest with
  | nil => exact absurd rfl h
  | cons second more => rfl

/-- A text with another text in the place of a separator. -/
theorem flatMap_eq_join (sep : CodePoint) (other t : Text) :
    (t.flatMap fun c => if c = sep then other else [c]) = join other (splitOn sep t) := by
  induction t with
  | nil => rfl
  | cons c rest ih =>
    have hne := splitOn_ne_nil sep rest
    rw [List.flatMap_cons, ih]
    by_cases h : c = sep
    · rw [if_pos h, splitOn, if_pos h, join_cons hne, List.nil_append]
    · rw [if_neg h, splitOn, if_neg h]
      cases hs : splitOn sep rest with
      | nil => exact absurd hs hne
      | cons piece more => cases more <;> rfl

/-- The pieces of a text make it up. -/
theorem join_splitOn (sep : CodePoint) (t : Text) : join [sep] (splitOn sep t) = t := by
  have hself : (t.flatMap fun c => if c = sep then [sep] else [c]) = t := by
    induction t with
    | nil => rfl
    | cons c rest ih =>
      rw [List.flatMap_cons, ih]
      by_cases h : c = sep
      · rw [if_pos h, h]
        rfl
      · rw [if_neg h]
        rfl
  rw [← flatMap_eq_join, hself]

end Text

namespace Lines

/-! ## White space around a text -/

/-- Whether a text is made of white space, line feeds included. -/
def IsBlank (t : Text) : Prop := ∀ c ∈ t, CodePoint.isSpace c = true

instance (t : Text) : Decidable (IsBlank t) :=
  inferInstanceAs (Decidable (∀ c ∈ t, CodePoint.isSpace c = true))

theorem isBlank_nil : IsBlank [] := List.forall_mem_nil _

theorem trim_eq_rdropWhile (t : Text) :
    trim t = (t.dropWhile CodePoint.isSpace).rdropWhile CodePoint.isSpace := rfl

theorem trim_cons_space {c : CodePoint} (h : CodePoint.isSpace c = true) (t : Text) :
    trim (c :: t) = trim t := by
  rw [trim_eq_rdropWhile, List.dropWhile_cons_of_pos h, trim_eq_rdropWhile]

theorem trim_append_space {c : CodePoint} (h : CodePoint.isSpace c = true) (t : Text) :
    trim (t ++ [c]) = trim t := by
  rw [trim_eq_rdropWhile, trim_eq_rdropWhile, List.dropWhile_append]
  split
  · next hblank =>
    rw [List.isEmpty_iff] at hblank
    rw [hblank, List.dropWhile_cons_of_pos h]
    rfl
  · exact List.rdropWhile_concat_pos _ _ _ h

/-- A text is its trimmed form with white space around it. -/
theorem exists_trim (t : Text) :
    ∃ before after, IsBlank before ∧ IsBlank after ∧ t = before ++ trim t ++ after := by
  refine ⟨t.takeWhile CodePoint.isSpace,
    (t.dropWhile CodePoint.isSpace).rtakeWhile CodePoint.isSpace,
    fun c hc => List.mem_takeWhile_imp hc, fun c hc => List.mem_rtakeWhile_imp hc, ?_⟩
  rw [trim_eq_rdropWhile, List.append_assoc, List.rdropWhile_append_rtakeWhile,
    List.takeWhile_append_dropWhile]

/-- What is trimmed begins with no white space. -/
theorem dropWhile_trim (t : Text) : (trim t).dropWhile CodePoint.isSpace = trim t := by
  rw [List.dropWhile_eq_self_iff]
  intro hpos
  have hstart : trim t <+: t.dropWhile CodePoint.isSpace := List.rdropWhile_prefix _ _
  rw [hstart.getElem hpos]
  exact List.dropWhile_get_zero_not _ _ (hpos.trans_le hstart.length_le)

theorem trim_trim (t : Text) : trim (trim t) = trim t := by
  rw [trim_eq_rdropWhile (trim t), dropWhile_trim, trim_eq_rdropWhile, List.rdropWhile_idempotent]

/-! ## Lines of a text with white space around it -/

@[simp] theorem view_nil : view [] = [] := rfl

/-- A text without a line feed has one line at most. -/
theorem view_of_notMem {t : Text} (h : 10 ∉ t) : view t = if (trim t).isEmpty then
    [] else [trim t] := by
  rw [view, Text.splitOn_of_notMem h, List.map_singleton, List.filter_singleton]
  cases (trim t).isEmpty <;> rfl

theorem view_cons_space {c : CodePoint} (h : CodePoint.isSpace c = true) (t : Text) :
    view (c :: t) = view t := by
  by_cases hc : c = 10
  · rw [hc]
    exact view_append [] t
  · have hne := Text.splitOn_ne_nil 10 t
    rw [view, view, Text.splitOn, if_neg hc]
    cases hs : Text.splitOn 10 t with
    | nil => exact absurd hs hne
    | cons piece more => simp only [List.map_cons, trim_cons_space h]

/-- What is appended without a line feed belongs to the last piece. -/
theorem exists_splitOn_append {w : Text} (h : 10 ∉ w) (t : Text) : ∃ front last,
    Text.splitOn 10 t = front ++ [last] ∧ Text.splitOn 10 (t ++ w) = front ++ [last ++ w] := by
  induction t with
  | nil => exact ⟨[], [], rfl, Text.splitOn_of_notMem h⟩
  | cons c rest ih =>
    obtain ⟨front, last, hrest, happend⟩ := ih
    by_cases hc : c = 10
    · refine ⟨[] :: front, last, ?_, ?_⟩
      · rw [Text.splitOn, if_pos hc, hrest, List.cons_append]
      · rw [List.cons_append, Text.splitOn, if_pos hc, happend, List.cons_append]
    · cases front with
      | nil =>
        refine ⟨[], c :: last, ?_, ?_⟩
        · rw [Text.splitOn, if_neg hc, hrest]
          rfl
        · rw [List.cons_append, Text.splitOn, if_neg hc, happend]
          rfl
      | cons piece more =>
        refine ⟨(c :: piece) :: more, last, ?_, ?_⟩
        · rw [Text.splitOn, if_neg hc, hrest]
          rfl
        · rw [List.cons_append, Text.splitOn, if_neg hc, happend]
          rfl

theorem view_append_space {c : CodePoint} (h : CodePoint.isSpace c = true) (t : Text) :
    view (t ++ [c]) = view t := by
  by_cases hc : c = 10
  · rw [hc]
    exact (view_append t []).trans (List.append_nil _)
  · obtain ⟨front, last, ht, happend⟩ :=
      exists_splitOn_append (w := [c]) (by simpa using Ne.symm hc) t
    rw [view, view, ht, happend, List.map_append, List.map_append,
      List.map_singleton, List.map_singleton, trim_append_space h]

/-- White space around a text adds no line. -/
theorem view_padded {before after : Text} (hbefore : IsBlank before)
    (hafter : IsBlank after) (t : Text) :
    view (before ++ t ++ after) = view t := by
  have hfront : ∀ u, view (before ++ u) = view u := by
    intro u
    induction before with
    | nil => rfl
    | cons c rest ih =>
      rw [List.cons_append, view_cons_space (hbefore c (by simp)),
        ih fun d hd => hbefore d (by simp [hd])]
  rw [List.append_assoc, hfront]
  induction after using List.reverseRecOn with
  | nil => rw [List.append_nil]
  | append_singleton rest c ih =>
    rw [← List.append_assoc, view_append_space (hafter c (by simp)),
      ih fun d hd => hafter d (by simp [hd])]

theorem view_of_isBlank {t : Text} (h : IsBlank t) : view t = [] := by
  have hview : view (t ++ [] ++ []) = view [] := view_padded h isBlank_nil []
  rwa [List.append_nil, List.append_nil] at hview

/-! ## Lines of joined texts -/

/-- Texts that are joined with a line feed, and white space in front of it, have
their lines in order. -/
theorem view_join {w : Text} (h : IsBlank w) (texts : List Text) :
    view (Text.join (w ++ [10]) texts) = texts.flatMap view := by
  induction texts with
  | nil => rfl
  | cons first rest ih =>
    cases rest with
    | nil => simp [Text.join]
    | cons second more =>
      have hfirst : view (first ++ w) = view first := view_padded isBlank_nil h first
      calc view (Text.join (w ++ [10]) (first :: second :: more))
          = view ((first ++ w) ++ 10 :: Text.join (w ++ [10]) (second :: more)) := by
            simp [Text.join]
        _ = view first ++ (second :: more).flatMap view := by rw [view_append, hfirst, ih]

theorem trim_of_mem_view {t line : Text} (h : line ∈ view t) : trim line = line := by
  obtain ⟨piece, -, rfl⟩ := List.mem_map.1 (List.mem_filter.1 h).1
  exact trim_trim piece

/-- A line that stands alone is the only line of its text. -/
theorem view_line {t line : Text} (h : line ∈ view t) : view line = [line] := by
  have hself : trim line = line := trim_of_mem_view h
  rw [view_of_notMem (lineFeed_notMem h), hself, if_neg (by simpa using ne_nil_of_mem_view h)]

/-- Some texts in another spacing: white space is put around them, and blank texts between them. -/
inductive Respaced : List Text → List Text → Prop where
  | nil : Respaced [] []
  | padded {t before after : Text} {texts others : List Text} (hbefore : IsBlank before)
      (hafter : IsBlank after)
      (h : Respaced texts others) : Respaced (t :: texts) ((before ++ t ++ after) :: others)
  | blank {t : Text} {texts others : List Text} (ht : IsBlank t) (h : Respaced texts others) :
      Respaced texts (t :: others)

/-- Texts in another spacing have the same lines. -/
theorem Respaced.flatMap_view {texts others : List Text} (h : Respaced texts others) :
    others.flatMap view = texts.flatMap view := by
  induction h with
  | nil => rfl
  | padded hbefore hafter _ ih =>
      rw [List.flatMap_cons, List.flatMap_cons, view_padded hbefore hafter, ih]
  | blank ht _ ih =>
    rw [List.flatMap_cons, view_of_isBlank ht, List.nil_append, ih]

/-- The pieces of a text are its lines in another spacing. -/
theorem respaced_view (t : Text) : Respaced (view t) (Text.splitOn 10 t) := by
  rw [view]
  induction Text.splitOn 10 t with
  | nil => exact .nil
  | cons piece rest ih =>
    obtain ⟨before, after, hbefore, hafter, hpiece⟩ := exists_trim piece
    rw [List.map_cons, List.filter_cons]
    by_cases hempty : trim piece = []
    · have hblank : IsBlank piece := by
        rw [hpiece, hempty, List.append_nil]
        exact fun c hc => (List.mem_append.1 hc).elim (hbefore c) (hafter c)
      simpa [hempty] using Respaced.blank hblank ih
    · have hpadded := Respaced.padded (t := trim piece) hbefore hafter ih
      rw [← hpiece] at hpadded
      simpa [hempty] using hpadded

/-- A text with a carriage return in front of every line feed. -/
def withReturns (t : Text) : Text := t.flatMap fun c => if c = 10 then [13, 10] else [c]

/-- **The lines of a text are its normal form.** Two texts with a line feed between them have the
lines of the first, then those of the second; a line is not empty, has no line feed and nothing to
trim; the lines of joined lines are these lines; and a text keeps its lines with a carriage return
in front of every line feed, or in any other spacing of its pieces, while the pieces themselves are
the lines in such a spacing. -/
theorem lines_are_normal_form :
    (∀ t, split? (some t) = if 10 ∈ t then some (view t) else none) ∧
    (∀ a b, split? (some (a ++ 10 :: b)) = some (view a ++ view b)) ∧
    (∀ t, ∀ line ∈ view t, line ≠ [] ∧ 10 ∉ line ∧ trim line = line) ∧
    (∀ t, view (Text.join [10] (view t)) = view t) ∧
    (∀ t, view (withReturns t) = view t) ∧
    (∀ t pieces, Respaced (Text.splitOn 10 t) pieces → view (Text.join [10] pieces) = view t) ∧
    ∀ t, Respaced (view t) (Text.splitOn 10 t) := by
  have hjoin (texts : List Text) : view (Text.join [10] texts) = texts.flatMap view :=
    view_join isBlank_nil texts
  have hpieces (t : Text) : (Text.splitOn 10 t).flatMap view = view t := by
    rw [← hjoin, Text.join_splitOn]
  refine ⟨fun t => ?_, fun a b => ?_, fun t line h => ?_, fun t => ?_, fun t => ?_,
    fun t pieces h => ?_, respaced_view⟩
  · split
    · next h => exact split?_of_mem h
    · next h => exact split?_of_notMem h
  · rw [split?_of_mem (by simp), view_append]
  · exact ⟨ne_nil_of_mem_view h, lineFeed_notMem h, trim_of_mem_view h⟩
  · rw [hjoin, List.flatMap_congr fun line h => view_line h, List.flatMap_singleton']
  · have hreturn : IsBlank [13] := by decide
    rw [withReturns, Text.flatMap_eq_join, ← List.singleton_append, view_join hreturn, hpieces]
  · rw [hjoin, h.flatMap_view, hpieces]

/-- Two commands, the second of which is set off by blank lines and a no-break space. -/
theorem lines_are_normal_form_padded :
    Text.ofString "ls" ∈ view "  ls\t\n\n rm x" ∧ trim "ls" = Text.ofString "ls" ∧
    Respaced (Text.splitOn 10 "ls\nrm x") ["ls\r", " ", "\n\u00a0rm x\n"] ∧
    view (Text.join [10] ["ls\r", " ", "\n\u00a0rm x\n"]) = view "ls\nrm x" := by
  obtain ⟨-, -, hline, -, -, hspaced, -⟩ := lines_are_normal_form
  have hmem : Text.ofString "ls" ∈ view "  ls\t\n\n rm x" := by decide
  have hpieces : Respaced (Text.splitOn 10 "ls\nrm x") ["ls\r", " ", "\n\u00a0rm x\n"] :=
    @Respaced.padded _ [] [13] _ _ (by decide) (by decide)
      (.blank (by decide) (@Respaced.padded _ [10, 0xA0] [10] _ _ (by decide) (by decide) .nil))
  exact ⟨hmem, (hline _ _ hmem).2.2, hpieces, hspaced _ _ hpieces⟩

end Lines

end ToolPolicy
