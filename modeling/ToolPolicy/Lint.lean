import ToolPolicy.Policy.Preparation

/-!
# Looking over rules

Every entry of permissions is parsed as it is when rules are prepared, and the outcome is kept in a
row: whether the entry is a rule, or why it would be left out. Entries without a rule text are shown
as values; one that has no text ends the work before it is parsed.

Main statement: `row_isOk` (a row is good if the entry was parsed).
-/

namespace ToolPolicy.Lint

open Regex (Pattern)

/-- What is known about an entry. -/
structure Row where
  category : Category
  /-- The number of entries in front of it in its category. -/
  index : Nat
  rule : Text
  flags : Option Text
  reason : Option Text
  /-- Why the entry is no rule. -/
  failure : Option Text
  deriving DecidableEq, Repr

/-- Whether the entry is a rule. -/
def Row.isOk (r : Row) : Bool := r.failure.isNone

/-- The text under a name in an entry. -/
def textAt? (v : Value) (name : Text) : Option Text := (v.get? name).bind Value.asText?

/-- The rule text of an entry. -/
def ruleText? : Value → Option Text
  | .str t => some t
  | v => textAt? v "rule"

/-- What an entry is shown as: its rule text, or the value if it has none. -/
def shownRule (v : Value) : Except Fault Text :=
  match ruleText? v with
  | some t => if t.isEmpty then v.shown? else .ok t
  | none => v.shown?

/-- The row for an entry, from what it is shown as and the outcome of parsing it. -/
def row (category : Category) (index : Nat) (v : Value) (rule : Text)
    (outcome : Except RuleFailure (Rule Pattern)) : Row where
  category
  index
  rule
  flags := textAt? v "flags"
  reason := textAt? v "reason"
  failure := match outcome with
    | .ok _ => none
    | .error failure => some failure.error.message

/-- The rows for a list of entries, the first of which has an index. -/
def rowsOf (cache : PatternCache) (category : Category) (index : Nat) :
    List Value → RuleEntry.Parsing (List Row)
  | [] => (cache, pure [])
  | v :: rest =>
    match shownRule v with
    | .error f => (cache, .fail f)
    | .ok rule =>
      match RuleEntry.parse cache (some category.label) (.value v) with
      | (cache, first) =>
        match first.result with
        | .error f => (cache, ⟨first.log, .error f⟩)
        | .ok _ =>
          match rowsOf cache category (index + 1) rest with
          | (cache, others) =>
            (cache, do return row category index v rule (← first) :: (← others))

/-- The rows for the categories in a list. -/
def rowsIn (cache : PatternCache) (p : Permissions) :
    List Category → RuleEntry.Parsing (List Row)
  | [] => (cache, pure [])
  | category :: rest =>
    match rowsOf cache category 0 (p.entries category) with
    | (cache, first) =>
      match first.result with
      | .error f => (cache, ⟨first.log, .error f⟩)
      | .ok _ =>
        match rowsIn cache p rest with
        | (cache, others) => (cache, do return (← first) ++ (← others))

/-- The rows for permissions. -/
def rows (p : Permissions) : Logged (List Row) := (rowsIn {} p Category.all).2

/-- The number of rows for entries that are no rules. -/
def dropped (rows : List Row) : Nat := (rows.filter fun r => !r.isOk).length

theorem row_isOk (category : Category) (index : Nat) (v : Value) (rule : Text)
    (outcome : Except RuleFailure (Rule Pattern)) :
    (row category index v rule outcome).isOk = outcome.isOk := by
  cases outcome <;> rfl

end ToolPolicy.Lint
