import ToolPolicy.Text.Class

/-!
# The lines of a content

A content of several lines is also looked at line by line: the pieces between line feeds, without
white space around them, and without those that are blank.

Main statements: `view_append` (the lines of two texts with a line feed between them are those of
the first, then those of the second) and `ne_nil_of_mem_view` (no line is empty).
-/

namespace ToolPolicy.Lines

/-- A text without white space around it. -/
def trim (t : Text) : Text := Text.trimBoth CodePoint.isSpace t

/-- The lines of a text: its pieces between line feeds, trimmed, without blank ones. -/
def view (t : Text) : List Text := ((Text.splitOn 10 t).map trim).filter fun line => !line.isEmpty

/-- The lines of a content that has more than one; `none` for a content without a line feed. -/
def split? (content : Option Text) : Option (List Text) :=
  match content with
  | none => none
  | some t => if t.contains 10 then some (view t) else none

theorem view_append (a b : Text) : view (a ++ 10 :: b) = view a ++ view b := by
  simp [view, Text.splitOn_append_cons]

theorem ne_nil_of_mem_view {t line : Text} (h : line ∈ view t) : line ≠ [] := by
  simp only [view, List.mem_filter, Bool.not_eq_true', List.isEmpty_eq_false_iff] at h
  exact h.2

end ToolPolicy.Lines
