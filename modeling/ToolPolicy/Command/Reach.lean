import ToolPolicy.Command.Run
import ToolPolicy.Files.Trail

/-!
# The reach of a command line

Which places a run may look at. A run follows paths that stand in the words of its command line, the
path of the home directory, and the directory that a request on the input names; in each of them it
may look for settings. The reach is wider than any single run needs, since a word is taken for a
path wherever it stands.
-/

namespace ToolPolicy.Reach

/-- What a word may name: itself, the value behind its equals sign, and the value
behind its short form. -/
def names (word : Text) : List Text := [word, (Text.cutAt 61 word).2.getD [], word.drop 2]

/-- The directory that a request names. -/
def requested (input : List UInt8) : List Path :=
  match (Request.ofText? (Utf8.decodeLenient input)).result with
  | .ok (some r) => (Scope.project? r.cwd).toList
  | _ => []

/-- The paths that a run may take for a rule file or a directory with settings. -/
def origins (s : Setting) (arguments : List Text) : List Path :=
  s.home :: ⟨1, s.files.workingDirectory⟩ :: requested s.input
    ++ (arguments.flatMap names).map Path.ofText

/-- The paths that a run may follow from one of its origins. -/
def pathsFrom (fs : FileSystem) (p : Path) : List Path :=
  [p, fs.resolve p, Scope.settingsPath p]

/-- The paths that a run may follow. -/
def paths (s : Setting) (arguments : List Text) : List Path :=
  (origins s arguments).flatMap (pathsFrom s.files)

/-- The places that a run may look at. -/
def places (s : Setting) (arguments : List Text) : List (List Text) :=
  ((paths s arguments).flatMap s.files.trailOf).eraseDups

end ToolPolicy.Reach
