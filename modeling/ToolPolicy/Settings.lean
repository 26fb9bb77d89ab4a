import ToolPolicy.Files.FileSystem
import ToolPolicy.Json.Reader
import ToolPolicy.Record.Permissions
import ToolPolicy.Text.Utf8

/-!
# Settings files

A settings file is a JSON object in UTF-8 that may hold permissions. One that is missing, cannot be
read or holds something else has no permissions, and the log says why; only a fault of the JSON text
itself, or of the path, ends the work.

Main statements: `load_of_notFound` (a missing file is no reason for a warning) and `load_of_bytes`
(otherwise the answer depends only on the bytes of the file).
-/

namespace ToolPolicy.Settings

/-- What the log says about a missing file. -/
def absentRecord (path : Path) : LogRecord := ⟨.debug, "No settings at " ++ path.text⟩

/-- The warning about a file that cannot be read. -/
def unreadableWarning (path : Path) (why : Text) : LogRecord :=
  ⟨.warning, "Cannot read " ++ path.text ++ ": " ++ why⟩

/-- The warning about a text that is no JSON. -/
def malformedWarning (path : Path) (why : Text) : LogRecord :=
  ⟨.warning, "Invalid JSON in " ++ path.text ++ ": " ++ why⟩

/-- The warning about a document that is no object. -/
def notObjectWarning (path : Path) (v : Value) : LogRecord :=
  ⟨.warning, "Settings in " ++ path.text ++ " must be a JSON object, got " ++ v.kind⟩

/-- The warning about permissions that are none. -/
def ignoredWarning (path : Path) (problems : List Problem) : LogRecord :=
  ⟨.warning, "Ignoring regexPermissions in " ++ path.text ++ ": " ++ Problem.firstMessage problems⟩

/-- No permissions, for a reason that goes to the log. -/
def without (r : LogRecord) : Logged (Option Permissions) := ⟨[r], .ok none⟩

/-- The permissions in a document. -/
def ofValue (path : Path) : Value → Logged (Option Permissions)
  | .mapping fields => do
    match ← Permissions.ofSettingsFields fields with
    | .ok p => return p
    | .error problems => without (ignoredWarning path problems)
  | v => without (notObjectWarning path v)

/-- The permissions in a text. -/
def ofText (path : Path) (t : Text) : Logged (Option Permissions) :=
  match Json.read t with
  | .ok v => ofValue path v
  | .error (.flaw f) => without (malformedWarning path (f.message t))
  | .error (.tooDeep _) => without (malformedWarning path "nested too deeply")
  | .error (.fault f) => .fail f

/-- The permissions in the bytes of a file. -/
def ofBytes (path : Path) (bytes : List UInt8) : Logged (Option Permissions) :=
  match Utf8.decode bytes with
  | .ok t => ofText path (Utf8.toLineFeeds t)
  | .error flaw => without (unreadableWarning path flaw.message)

/-- The permissions in the settings file at a path. -/
def load (fs : FileSystem) (path : Path) : Logged (Option Permissions) :=
  match fs.read path with
  | .error f => .fail f
  | .ok (.ok bytes) => ofBytes path bytes
  | .ok (.error .notFound) => without (absentRecord path)
  | .ok (.error failure) => without (unreadableWarning path (failure.message path))

theorem load_of_bytes {fs : FileSystem} {path : Path} {bytes : List UInt8}
    (h : fs.read path = .ok (.ok bytes)) : load fs path = ofBytes path bytes := by
  simp [load, h]

theorem load_of_notFound {fs : FileSystem} {path : Path}
    (h : fs.read path = .ok (.error .notFound)) :
    load fs path = without (absentRecord path) := by
  simp [load, h]

end ToolPolicy.Settings
