import ToolPolicy.Record.Field

/-!
# Requests

A request says which tool is about to be used and with which arguments, and perhaps in which
directory. It is a mapping with `tool_name`, `tool_input` and `cwd`; other keys are not read.

Main statement: `ofFields_eq_ok_iff` reduces reading a request to reading its three fields.
-/

namespace ToolPolicy

/-- A request to use a tool. -/
structure Request where
  tool : Text
  arguments : List (Value × Value)
  /-- The directory in which the tool is used. -/
  cwd : Option Text
  deriving Repr

namespace Request

/-- The name of a tool, which must be there and not be empty. -/
def readTool : Option Value → Record.Checked Text
  | none => Record.refuse .missing
  | some v => Record.readFullText v

/-- The problems with the names of arguments. -/
def nameProblems (entries : List (Value × Value)) : List Problem :=
  entries.flatMap fun (k, _) =>
    let shown : Text := match k with
      | .str t => t
      | _ => []
    Record.problemsOf (Record.atField shown (Record.atField "[key]" (Record.readText k)))

/-- The arguments of a tool; none if there are none or they are null. -/
def readArguments : Option Value → Record.Checked (List (Value × Value))
  | none => .ok []
  | some .null => .ok []
  | some (.mapping entries) =>
    match nameProblems entries with
    | [] => .ok entries
    | problems => .error problems
  | some _ => Record.refuse .notMapping

/-- A request from the fields of a mapping. -/
def ofFields (fields : List (Value × Value)) : Record.Checked Request :=
  let tool := Record.atField "tool_name" (readTool (Value.field? "tool_name" fields))
  let arguments := Record.atField "tool_input" (readArguments (Value.field? "tool_input" fields))
  let cwd := Record.atField "cwd" (Record.readText? (Value.field? "cwd" fields))
  match tool, arguments, cwd with
  | .ok tool, .ok arguments, .ok cwd => .ok { tool, arguments, cwd }
  | _, _, _ =>
    .error (Record.problemsOf tool ++ Record.problemsOf arguments ++ Record.problemsOf cwd)

/-- A request from a value, which has to be a mapping. -/
def ofValue (v : Value) : Record.Checked Request := do
  ofFields (← Record.readFields "HookInput" v)

theorem ofFields_eq_ok_iff (fields : List (Value × Value)) (r : Request) :
    ofFields fields = .ok r ↔
      readTool (Value.field? "tool_name" fields) = .ok r.tool ∧
      readArguments (Value.field? "tool_input" fields) = .ok r.arguments ∧
      Record.readText? (Value.field? "cwd" fields) = .ok r.cwd := by
  obtain ⟨tool, arguments, cwd⟩ := r
  simp only [ofFields]
  generalize readTool (Value.field? "tool_name" fields) = a
  generalize readArguments (Value.field? "tool_input" fields) = b
  generalize Record.readText? (Value.field? "cwd" fields) = c
  cases a <;> cases b <;> cases c <;> simp [Record.atField]

end Request

end ToolPolicy
