import ToolPolicy.Hook

/-!
# Checking one use of a tool

A use of a tool is put together from an object with arguments and a content for the main argument of
the tool; both may be missing. The rules then decide about it as they decide about a request.

Main statement: `readInput_of_mapping` (an object gives its own fields).
-/

namespace ToolPolicy.Check

/-- Why a text is no object with arguments. -/
inductive InputFailure where
  | malformed (why : Text)
  | notObject
  deriving DecidableEq, Repr

/-- The words for a failure. -/
def InputFailure.message : InputFailure → Text
  | malformed why => "--input is not valid JSON: " ++ why
  | notObject => "--input must be a JSON object"

/-- What is said about a document that is nested too deeply. -/
def tooDeepMessage (isObject : Bool) : Text :=
  "maximum recursion depth exceeded while decoding a JSON "
    ++ (if isObject then Text.ofString "object" else Text.ofString "array")
    ++ " from a unicode string"

/-- The arguments in a text; without a text there are none. -/
def readInput : Option Text → Except Fault (Except InputFailure (List (Value × Value)))
  | none => .ok (.ok [])
  | some t =>
    match Json.read t with
    | .ok (.mapping fields) => .ok (.ok fields)
    | .ok _ => .ok (.error .notObject)
    | .error (.flaw f) => .ok (.error (.malformed (f.message t)))
    | .error (.tooDeep isObject) => .ok (.error (.malformed (tooDeepMessage isObject)))
    | .error (.fault f) => .error f

/-- Arguments with a content for the main argument of a tool. -/
def arguments (tool : Text) (content : Option Text) (fields : List (Value × Value)) :
    List (Value × Value) :=
  match content with
  | some t => Value.putField (Content.primaryField tool) (.str t) fields
  | none => fields

/-- The decision of the rules in permissions. -/
def decide (p : Permissions) (tool : Text) (arguments : List (Value × Value)) :
    Logged Decision := do
  let rules ← p.rules
  Logged.lift (rules.evaluate tool arguments)

@[simp] theorem readInput_none : readInput none = .ok (.ok []) := rfl

theorem readInput_of_mapping {t : Text} {fields : List (Value × Value)}
    (h : Json.read t = .ok (.mapping fields)) : readInput (some t) = .ok (.ok fields) := by
  simp [readInput, h]

end ToolPolicy.Check
