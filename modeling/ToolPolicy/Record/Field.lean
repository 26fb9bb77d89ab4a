import ToolPolicy.Problem
import ToolPolicy.Text.Utf8
import ToolPolicy.Value.Basic

/-!
# Fields of records

How the value under a key of a mapping becomes a field of a record. Any text is a text, and bytes in
UTF-8 count as one; an optional text may be missing or null. A text that may not be empty is looked
at more closely: it also has to be made of Unicode characters.

Main statement: `readFullText_str_eq_ok_iff` (which texts may stand where an empty one may not).
-/

namespace ToolPolicy.Record

/-- What is read from a value: a result, or all the problems with it. -/
abbrev Checked (α : Type) := Except (List Problem) α

/-- The problems of a failed reading. -/
def problemsOf {α : Type} : Checked α → List Problem
  | .ok _ => []
  | .error problems => problems

/-- A reading, with its problems at a field. -/
def atField {α : Type} (name : Text) (r : Checked α) : Checked α :=
  match r with
  | .ok a => .ok a
  | .error problems => .error (problems.map fun p => p.within name)

/-- Fails with one problem at the value itself. -/
def refuse {α : Type} (cause : Problem.Cause) : Checked α := .error [.here cause]

/-- A text. -/
def readText : Value → Checked Text
  | .str t => .ok t
  | .bytes b =>
    match Utf8.decode b with
    | .ok t => .ok t
    | .error _ => refuse .undecodableText
  | _ => refuse .notText

/-- A text, null, or nothing. -/
def readText? : Option Value → Checked (Option Text)
  | none => .ok none
  | some .null => .ok none
  | some v => (readText v).map some

/-- A text of Unicode characters, at least one. -/
def readFullText (v : Value) : Checked Text :=
  match readText v with
  | .ok t =>
    if !t.isScalar then refuse .undecodableText
    else if t.isEmpty then refuse .emptyText
    else .ok t
  | .error problems => .error problems

/-- The entries of a mapping that is to be a record of a model. -/
def readFields (model : Text) : Value → Checked (List (Value × Value))
  | .mapping entries => .ok entries
  | _ => refuse (.notRecord model)

@[simp] theorem readText?_none : readText? none = .ok none := rfl

@[simp] theorem readText?_null : readText? (some .null) = .ok none := rfl

@[simp] theorem readText_str (t : Text) : readText (.str t) = .ok t := rfl

@[simp] theorem readText?_str (t : Text) : readText? (some (.str t)) = .ok (some t) := rfl

theorem readFullText_str_eq_ok_iff (t u : Text) :
    readFullText (.str t) = .ok u ↔ t.isScalar = true ∧ t ≠ [] ∧ u = t := by
  simp only [readFullText, readText_str]
  cases t with
  | nil => simp [refuse, Text.isScalar]
  | cons c rest =>
    cases h : Text.isScalar (c :: rest) <;> simp [refuse, eq_comm]

end ToolPolicy.Record
