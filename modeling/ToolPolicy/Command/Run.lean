import ToolPolicy.Check
import ToolPolicy.Command.Invocation
import ToolPolicy.Command.Printing
import ToolPolicy.Diagnostics
import ToolPolicy.Json.Writer
import ToolPolicy.Lint
import ToolPolicy.RuleFile
import ToolPolicy.Text.Utf8

/-!
# Running commands

The three commands, on a file system, an environment and an input. Each prints its answer for a
person on the console or, on request, as JSON; an input or a rule file that cannot be read is an
answer, too, with exit code 1. `Run.outcome` goes from the arguments of the command line to
everything that can be seen.
-/

namespace ToolPolicy

/-- What a run depends on besides the command line. -/
structure Setting where
  files : FileSystem
  /-- The home directory of the user. -/
  home : Path
  environment : List (Text × Text) := []
  input : List UInt8 := []

namespace Run

/-! ## Answers -/

/-- Ends a command with an error in the form that was asked for. -/
def failWith {α : Type} (kind : String) (message : Text) (isJson : Bool) : Printing α := do
  if isJson then
    Printing.write (Json.writeIndented (Value.object
      [("error", .str (Text.ofString kind)), ("message", .str message)]))
  else Printing.say (Markup.styled "red" (Markup.escape message))
  Printing.exit 1

/-- The directory of a project, or else the working directory. -/
def projectOf (s : Setting) (project : Option Path) : Path :=
  project.getD ⟨1, s.files.workingDirectory⟩

/-- The permissions of a source. -/
def load (s : Setting) (source : Source) (isJson : Bool) : Printing Permissions :=
  match source with
  | .file path => do
    match ← Printing.ofLogged (RuleFile.load s.files path) with
    | .ok p => return p
    | .error e => failWith "rules_load_error" e.display isJson
  | .scopes project home =>
    Printing.ofLogged (Scope.load s.files (home.getD s.home) (some (projectOf s project)))

/-! ## Answering a request -/

/-- Answers the request in the input; a request without a decision gets no answer. -/
def hook (s : Setting) (home : Option Path) : Printing Unit := do
  let fields ← Printing.ofLogged
    (Hook.answer s.files (home.getD s.home) (Utf8.decodeLenient s.input))
  if fields.isEmpty then return ()
  Printing.write (Json.write (.mapping fields))

/-! ## Checking a tool -/

/-- The style of a decision. -/
def styleOf : Option Category → String
  | some .deny => "red"
  | some .ask => "yellow"
  | some .allow => "green"
  | none => "dim"

/-- A decision for other programs. -/
def decisionValue (d : Decision) : Value :=
  .object [("decision", .str d.label), ("reason", .ofText? d.reason),
    ("rule_matched", .ofText? d.rule), ("hook_output", d.output)]

/-- Prints a text if there is one and it is not empty. -/
def sayIfFull (t : Option Text) (markup : Text → Text) : Printing Unit :=
  match t with
  | some t => if t.isEmpty then pure () else Printing.say (markup t)
  | none => pure ()

/-- Prints a decision about a tool for a person. -/
def sayDecision (tool : Text) (d : Decision) : Printing Unit := do
  Printing.say (Markup.styled (styleOf d.verdict) d.label ++ " " ++ Markup.escape tool)
  sayIfFull d.reason fun t => "  Reason: " ++ Markup.escape t
  sayIfFull d.rule fun t => "  Rule: " ++ Markup.styled "cyan" (Markup.escape t)

/-- The arguments that `check` is given. -/
def checkArguments (o : CheckOptions) : Printing (List (Value × Value)) := do
  match ← Printing.lift (Check.readInput o.input) with
  | .ok fields => return Check.arguments o.tool o.content fields
  | .error e => failWith "input_error" e.message o.isJson

/-- Decides about one use of a tool. -/
def check (s : Setting) (o : CheckOptions) : Printing Unit := do
  let arguments ← checkArguments o
  let p ← load s o.source o.isJson
  let d ← Printing.ofLogged (Check.decide p o.tool arguments)
  if o.isJson then Printing.write (Json.writeIndented (decisionValue d))
  else sayDecision o.tool d

/-! ## Listing rules -/

/-- A row for other programs. -/
def rowValue (r : Lint.Row) : Value :=
  .object [("category", .str r.category.label), ("index", .int r.index), ("rule", .str r.rule),
    ("flags", .ofText? r.flags), ("reason", .ofText? r.reason), ("ok", .bool r.isOk),
    ("error", .ofText? r.failure)]

/-- The rows for other programs. -/
def rowsValue (rows : List Lint.Row) : Value :=
  .object [("ok", .bool (Lint.dropped rows == 0)), ("rules", .list (rows.map rowValue))]

/-- The columns of the table of rules. -/
def columns : List Table.Column :=
  [⟨"#", some 3⟩, ⟨"Category", some 8⟩, ⟨"Rule", none⟩, ⟨"Flags", some 5⟩, ⟨"Status", none⟩]

/-- The status of a row. -/
def status (r : Lint.Row) : Table.Cell :=
  match r.failure with
  | some why => ⟨Markup.styled "red" "dropped" ++ " " ++ Markup.escape why, false⟩
  | none =>
    let reason := r.reason.getD []
    if reason.isEmpty then ⟨Markup.styled "green" "ok", true⟩
    else ⟨Markup.styled "green" "ok" ++ " " ++ Markup.styled "dim" (Markup.escape reason), true⟩

/-- The cells of a row. -/
def rowCells (r : Lint.Row) : List Table.Cell :=
  [⟨Text.ofNat (r.index + 1), false⟩,
    ⟨Markup.styled (styleOf (some r.category)) r.category.label, true⟩,
    ⟨Markup.escape r.rule, false⟩, ⟨Markup.escape (r.flags.getD []), false⟩, status r]

/-- Prints where rules come from. -/
def saySource (s : Setting) : Source → Printing Unit
  | .file path => Printing.say (Markup.styled "dim" ("Rules: " ++ path.text))
  | .scopes project home => do
    Printing.say (Markup.styled "dim"
      ("Project: " ++ (Scope.settingsPath (projectOf s project)).text))
    Printing.say (Markup.styled "dim"
      ("Global:  " ++ (Scope.settingsPath (home.getD s.home)).text))

/-- Prints rows for a person. -/
def sayRows (rows : List Lint.Row) : Printing Unit := do
  Printing.writeLines [[]]
  if rows.isEmpty then Printing.say (Markup.styled "dim" "No rules configured.")
  else
    Printing.showTable columns (rows.map rowCells)
    Printing.writeLines [[]]
    if Lint.dropped rows = 0 then
      Printing.say (Markup.styled "green" ("All " ++ Text.ofNat rows.length ++ " rule(s) compile."))
    else
      Printing.say (Markup.styled "yellow"
        (Text.ofNat (Lint.dropped rows) ++ " rule(s) will be skipped."))

/-- Lists the rules. -/
def rules (s : Setting) (o : RulesOptions) : Printing Unit := do
  let p ← load s o.source o.isJson
  let rows ← Printing.ofLogged (Lint.rows p)
  if o.isJson then Printing.write (Json.writeIndented (rowsValue rows))
  else
    saySource s o.source
    sayRows rows
  if o.isStrict && Lint.dropped rows != 0 then Printing.exit 1

/-! ## Runs -/

/-- The name and the number of this version. -/
def versionText : Text := Markup.styled "bold" "regex-permissions" ++ " version 0.1.0"

/-- What help says about the command line. -/
def helpText : Text := Text.join [10]
  ["Usage: regex-permissions [--version] [--verbose] COMMAND [OPTIONS]", [],
    "Commands:",
    "  hook   Answer one request read from the input",
    "  check  Evaluate a single tool call",
    "  rules  List configured rules in evaluation order"]

/-- Runs a command. -/
def command (s : Setting) : Command → Printing Unit
  | .hook home => hook s home
  | .check o => check s o
  | .rules o => rules s o

/-- How a run ends. -/
inductive Verdict where
  | exit (code : Nat)
  | usage (e : UsageError)
  | fault (f : Fault)
  deriving DecidableEq, Repr

/-- All that can be seen of a run. -/
structure Outcome where
  output : Text
  log : List LogRecord
  verdict : Verdict
  deriving DecidableEq, Repr

/-- What can be seen of work, with the records of the log that are shown. -/
def Outcome.ofPrinting (level : Level) (p : Printing Unit) : Outcome where
  output := p.output
  log := p.log.filter (Diagnostics.isShown level)
  verdict := match p.result with
    | .ok _ => .exit 0
    | .error (.exit code) => .exit code
    | .error (.fault f) => .fault f

/-- Carries out what a command line asks for. -/
def invocation (s : Setting) : Invocation → Outcome
  | .version => .ofPrinting .warning (Printing.say versionText)
  | .help => .ofPrinting .warning (Printing.write helpText)
  | .run isVerbose c =>
    .ofPrinting (Diagnostics.level isVerbose s.environment) (command s c)

/-- The run of a command line. -/
def outcome (s : Setting) (arguments : List Text) : Outcome :=
  match Invocation.ofArguments s.files arguments with
  | .error (.usage e) => ⟨[], [], .usage e⟩
  | .error (.fault f) => ⟨[], [], .fault f⟩
  | .ok i => invocation s i

end Run

end ToolPolicy
