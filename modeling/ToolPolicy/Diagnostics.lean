import ToolPolicy.Log

/-!
# Diagnostics

Which records of the log are shown: warnings always, details only on request.
-/

namespace ToolPolicy.Diagnostics

/-- The name of the log. -/
def logName : Text := "regex_permissions"

/-- The variable of the environment that asks for details. -/
def debugVariable : Text := "REGEX_PERMISSIONS_DEBUG"

/-- What stands in front of every line. -/
def linePrefix : Text := "[regex-permissions] "

/-- Whether an environment asks for details. -/
def isDebugEnabled (environment : List (Text × Text)) : Bool :=
  environment.lookup debugVariable == some (Text.ofString "1")

/-- The least important records that are shown. -/
def level (verbose : Bool) (environment : List (Text × Text)) : Level :=
  if verbose || isDebugEnabled environment then .debug else .warning

/-- Whether a record is shown. -/
def isShown (level : Level) (r : LogRecord) : Bool :=
  match level, r.level with
  | .warning, .debug => false
  | _, _ => true

/-- The line for a record. -/
def line (text : Text) : Text := linePrefix ++ text

/-- The name of a level. -/
def levelName : Level → Text
  | .debug => "DEBUG"
  | .warning => "WARNING"

end ToolPolicy.Diagnostics
