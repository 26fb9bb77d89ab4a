import ToolPolicy.Policy.Engine
import ToolPolicy.Record.Request
import ToolPolicy.Scope

/-!
# Answering requests

A request comes as a JSON text and is answered by the decision of the rules in its scopes. A
text that is no request gets the empty answer, which leaves the decision to its sender; the log
says what was wrong with it.

Main statement: `ofText?_of_value` (reading a request from the value of its text).
-/

namespace ToolPolicy

namespace Request

/-- What the log says about a text that is no JSON. -/
def malformedRecord : LogRecord := ⟨.debug, "Hook input is not valid JSON"⟩

/-- What the log says about a document that is no request. -/
def rejectedRecord (problems : List Problem) : LogRecord :=
  ⟨.debug, "Hook input rejected: " ++ Problem.firstMessage problems⟩

/-- The request in a document, if it is one. -/
def ofValue? (v : Value) : Logged (Option Request) :=
  match ofValue v with
  | .ok r => pure (some r)
  | .error problems => ⟨[rejectedRecord problems], .ok none⟩

/-- The request in a text, if it is one. -/
def ofText? (t : Text) : Logged (Option Request) :=
  match Json.read t with
  | .ok v => ofValue? v
  | .error (.fault f) => .fail f
  | .error _ => ⟨[malformedRecord], .ok none⟩

theorem ofText?_of_value {t : Text} {v : Value} (h : Json.read t = .ok v) :
    ofText? t = ofValue? v := by
  simp [ofText?, h]

end Request

namespace Hook

/-- The decision of a rule set; an empty one has none. -/
def decide (rules : RuleSet Regex.Pattern) (r : Request) : Except Fault Decision :=
  if rules.isEmpty then .ok .noMatch else rules.evaluate r.tool r.arguments

/-- The decision of the rules in the scopes of a request. -/
def evaluate (fs : FileSystem) (home : Path) (r : Request) : Logged Decision := do
  let rules ← Scope.rules fs home (Scope.project? r.cwd)
  Logged.lift (decide rules r)

/-- The fields of the answer to a text. -/
def answer (fs : FileSystem) (home : Path) (t : Text) : Logged (List (Value × Value)) := do
  match ← Request.ofText? t with
  | some r => return (← evaluate fs home r).envelope
  | none => return []

end Hook

end ToolPolicy
