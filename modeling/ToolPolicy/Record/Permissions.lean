import ToolPolicy.Log
import ToolPolicy.Policy.Category
import ToolPolicy.Record.Field

/-!
# Permissions and settings

Permissions are three lists of entries, kept as they were written; each entry is looked at only
when rules are prepared. A list that is missing or null is empty, and so is, with a warning,
anything that is no list. Settings hold the permissions under `regexPermissions`, and whatever
else they hold is not read.
-/

namespace ToolPolicy

/-- The entries of the three lists, as they are written. -/
structure Permissions where
  deny : List Value := []
  ask : List Value := []
  allow : List Value := []
  deriving Repr

namespace Permissions

/-- The entries of a category. -/
def entries (p : Permissions) : Category → List Value
  | .deny => p.deny
  | .ask => p.ask
  | .allow => p.allow

/-- The number of entries. -/
def total (p : Permissions) : Nat := p.deny.length + p.ask.length + p.allow.length

/-- The entries of two permissions, category by category. -/
def append (a b : Permissions) : Permissions :=
  ⟨a.deny ++ b.deny, a.ask ++ b.ask, a.allow ++ b.allow⟩

/-- The entries of two scopes, the first scope first; an absent scope changes nothing. -/
def merge : Option Permissions → Option Permissions → Permissions
  | none, none => {}
  | none, some b => b
  | some a, none => a
  | some a, some b => a.append b

/-- The warning for a category that is no list. -/
def notListWarning (category : Category) (v : Value) : LogRecord :=
  ⟨.warning, "\"" ++ category.label ++ "\" must be an array, got " ++ v.kind ++ " - skipping"⟩

/-- The entries of a category in a mapping. -/
def readCategory (fields : List (Value × Value)) (category : Category) : Logged (List Value) :=
  match Value.field? category.label fields with
  | none => pure []
  | some .null => pure []
  | some (.list items) => pure items
  | some v => ⟨[notListWarning category v], .ok []⟩

/-- The permissions of a mapping. -/
def ofFields (fields : List (Value × Value)) : Logged Permissions := do
  let deny ← readCategory fields .deny
  let ask ← readCategory fields .ask
  let allow ← readCategory fields .allow
  return { deny, ask, allow }

/-- The permissions of a value, which has to be a mapping. -/
def ofValue (v : Value) : Logged (Record.Checked Permissions) :=
  match Record.readFields "RegexPermissions" v with
  | .error problems => pure (.error problems)
  | .ok fields => do return .ok (← ofFields fields)

/-! ## Settings -/

/-- The name of the permissions in settings. -/
def settingsName : Text := "regexPermissions"

/-- The name under which permissions are read if they are not found under their own. -/
def otherSettingsName : Text := "regex_permissions"

/-- The value under the name of the permissions, with the name under which it was found. -/
def settingsField? (fields : List (Value × Value)) : Option (Text × Value) :=
  match Value.field? settingsName fields with
  | some v => some (settingsName, v)
  | none => (Value.field? otherSettingsName fields).map fun v => (otherSettingsName, v)

/-- The permissions in a mapping of settings, if it has any. -/
def ofSettingsFields (fields : List (Value × Value)) :
    Logged (Record.Checked (Option Permissions)) :=
  match settingsField? fields with
  | none => pure (.ok none)
  | some (_, .null) => pure (.ok none)
  | some (name, v) => do return Record.atField name ((← ofValue v).map some)

/-- The permissions in settings, which have to be a mapping. -/
def ofSettings (v : Value) : Logged (Record.Checked (Option Permissions)) :=
  match Record.readFields "ClaudeSettings" v with
  | .error problems => pure (.error problems)
  | .ok fields => ofSettingsFields fields

/-! ## Small laws -/

@[simp] theorem merge_some (a b : Permissions) : merge (some a) (some b) = a.append b := rfl

theorem entries_append (a b : Permissions) (c : Category) :
    (a.append b).entries c = a.entries c ++ b.entries c := by
  cases c <;> rfl

end Permissions

end ToolPolicy
