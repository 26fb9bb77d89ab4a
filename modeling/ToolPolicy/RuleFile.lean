import ToolPolicy.Files.FileSystem
import ToolPolicy.Policy.Error
import ToolPolicy.Record.Permissions
import ToolPolicy.Yaml.Document

/-!
# Rule files

A rule file is a YAML document of its own: a mapping with the three lists, or with
permissions as settings have them. One that cannot be read or holds something else is an
error with the path of the file.

Main statement: `load_of_bytes` (the answer depends only on the bytes of the file).
-/

namespace ToolPolicy.RuleFile

/-- What loading a rule file comes to. -/
abbrev Loaded := Except PolicyError Permissions

/-- The error of a rule file. -/
def failure (path : Path) (message : Text) (suggestion : Option Text := none) : PolicyError :=
  .make (.file path.text) message 0 suggestion

/-- The error of a file that cannot be read. -/
def unreadable (path : Path) (why : Text) : PolicyError :=
  failure path ("Cannot read " ++ path.text ++ ": " ++ why)

/-- The error of a text that is no document. -/
def malformed (path : Path) (why : Text) : PolicyError :=
  failure path ("Invalid YAML syntax in " ++ path.text ++ ":\n" ++ why)

/-- The error of a document that is no mapping. -/
def notMapping (path : Path) (v : Value) : PolicyError :=
  failure path ("Rule file " ++ path.text ++ " must contain a mapping, got " ++ v.kind)
    (some "Start the file with deny:, ask: and allow: lists")

/-- The error of permissions that are none. -/
def notPermissions (path : Path) (problems : List Problem) : PolicyError :=
  failure path ("Malformed rules in " ++ path.text ++ ": " ++ Problem.firstMessage problems)

/-- How many levels of containers there are from the lists' mapping down to the entries. -/
def levelsToEntries : Nat := 2

/-- The part of a document that holds the lists, with entries that are complete in themselves. -/
def blockOf (fields : List (Value × Value)) : Value :=
  ((Value.field? Permissions.settingsName (Value.detachEntries fields)).getD
    (.mapping fields)).detach levelsToEntries

/-- The permissions in a document. -/
def ofValue (path : Path) (v : Value) : Logged Loaded :=
  match v with
  | .null => pure (.ok {})
  | .mapping fields => do
    match ← Permissions.ofValue (blockOf fields) with
    | .ok p => return .ok p
    | .error problems => return .error (notPermissions path problems)
  | v => pure (.error (notMapping path v))

/-- The permissions in the bytes of a file. -/
def ofBytes (path : Path) (bytes : List UInt8) : Logged Loaded :=
  match Yaml.read bytes with
  | .ok v => ofValue path v
  | .error (.flaw f) => pure (.error (malformed path (f.message path.text)))
  | .error (.unprintable c position) =>
    pure (.error (malformed path (Yaml.unprintableMessage path.text c position)))
  | .error (.undecodable f) => pure (.error (unreadable path f.message))
  | .error (.fault f) => .fail f

/-- The permissions in the rule file at a path. -/
def load (fs : FileSystem) (path : Path) : Logged Loaded :=
  match fs.read path with
  | .error f => .fail f
  | .ok (.ok bytes) => ofBytes path bytes
  | .ok (.error why) => pure (.error (unreadable path (why.message path)))

theorem load_of_bytes {fs : FileSystem} {path : Path} {bytes : List UInt8}
    (h : fs.read path = .ok (.ok bytes)) : load fs path = ofBytes path bytes := by
  simp [load, h]

end ToolPolicy.RuleFile
