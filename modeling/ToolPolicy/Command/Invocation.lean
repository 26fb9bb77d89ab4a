import ToolPolicy.Command.Options
import ToolPolicy.Files.FileSystem

/-!
# Invocations

What a command line asks for: the version, help, or one of three commands. `hook` answers a
request that is read from the input, `check` decides about one use of a tool, and `rules` lists
the rules that are configured. Options in front of the name of the command are read first. Paths
are looked at while the command line is read: a path that nothing can have ends the run, and a
rule file has to be there.
-/

namespace ToolPolicy

/-- Where rules come from: a rule file, or the settings of a project and of the user. -/
inductive Source where
  | file (path : Path)
  | scopes (project : Option Path) (home : Option Path)
  deriving DecidableEq, Repr

/-- What `check` is asked about. -/
structure CheckOptions where
  tool : Text
  content : Option Text := none
  input : Option Text := none
  source : Source
  isJson : Bool := false
  deriving DecidableEq, Repr

/-- What `rules` is asked for. -/
structure RulesOptions where
  source : Source
  isStrict : Bool := false
  isJson : Bool := false
  deriving DecidableEq, Repr

/-- A command with its options. -/
inductive Command where
  | hook (home : Option Path)
  | check (o : CheckOptions)
  | rules (o : RulesOptions)
  deriving DecidableEq, Repr

/-- The name of a command. -/
inductive Command.Name where
  | hook | check | rules
  deriving DecidableEq, Repr

namespace Command.Name

/-- The names of the commands. -/
def all : List Command.Name := [hook, check, rules]

/-- The word for a command. -/
def label : Command.Name → Text
  | hook => "hook"
  | check => "check"
  | rules => "rules"

/-- The command that a word names. -/
def ofText? (t : Text) : Option Command.Name := all.find? fun n => n.label == t

end Command.Name

/-- Why a command line is refused. -/
inductive Refusal where
  | usage (e : UsageError)
  | fault (f : Fault)
  deriving DecidableEq, Repr

/-- What a command line asks for. -/
inductive Invocation where
  | version
  | help
  | run (isVerbose : Bool) (command : Command)
  deriving DecidableEq, Repr

namespace Invocation

/-! ## Forms of options -/

/-- The option that every command has. -/
def helpForm : Switch.Form := ⟨.help, "--help", none, false⟩

/-- The options in front of the command. -/
def globalForms : List Switch.Form :=
  [⟨.version, "--version", some 'V', false⟩, ⟨.verbose, "--verbose", some 'v', false⟩, helpForm]

/-- The option for the home directory. -/
def homeForm : Switch.Form := ⟨.home, "--home", none, true⟩

/-- The options that say where rules come from. -/
def sourceForms : List Switch.Form :=
  [⟨.cwd, "--cwd", none, true⟩, homeForm, ⟨.rules, "--rules", some 'r', true⟩]

/-- The option for answers in JSON. -/
def jsonForm : Switch.Form := ⟨.json, "--json", none, false⟩

/-- The options of `check`. -/
def checkForms : List Switch.Form :=
  ⟨.input, "--input", some 'i', true⟩ :: sourceForms ++ [jsonForm, helpForm]

/-- The options of `rules`. -/
def rulesForms : List Switch.Form :=
  sourceForms ++ [⟨.strict, "--strict", none, false⟩, jsonForm, helpForm]

/-! ## Paths -/

/-- Looks at the value of an option that names a path. -/
def checkPath (fs : FileSystem) (s : Switch) (t : Text) : Except Refusal Unit :=
  match s with
  | .rules =>
    match FileSystem.nameFault? t with
    | some .nulInPath => .error (.fault (.nulInName "lstat"))
    | some f => .error (.fault f)
    | none =>
      if fs.contains (fs.resolve (.ofText t)) then .ok ()
      else .error (.usage (.absentPath "--rules" t))
  | .home | .cwd =>
    match FileSystem.nameFault? t with
    | some .nulInPath => .error (.fault (.nulInName "stat"))
    | some f => .error (.fault f)
    | none => .ok ()
  | _ => .ok ()

/-- Looks at the paths in some options, in the order in which they were given. -/
def checkPaths (fs : FileSystem) (given : Options.Given) : List Switch → Except Refusal Unit
  | [] => .ok ()
  | s :: rest =>
    match (Options.value? given s).map (checkPath fs s) with
    | some (.error e) => .error e
    | _ => checkPaths fs given rest

/-- The path that is the value of an option. -/
def path? (given : Options.Given) (s : Switch) : Option Path :=
  (Options.value? given s).map Path.ofText

/-- Where rules come from according to some options. -/
def source (fs : FileSystem) (given : Options.Given) : Source :=
  match path? given .rules with
  | some path => .file (fs.resolve path)
  | none => .scopes (path? given .cwd) (path? given .home)

/-! ## Commands -/

/-- What is asked for by the options that come before everything else. -/
def eager? (given : Options.Given) : Option Invocation :=
  (Options.order given).findSome? fun
    | .version => some .version
    | .help => some .help
    | _ => none

/-- The options of `check` for a tool and perhaps a content. -/
def checkOptions (fs : FileSystem) (given : Options.Given) (tool : Text) (content : Option Text) :
    CheckOptions :=
  ⟨tool, content, Options.value? given .input, source fs given, Options.has given .json⟩

/-- The options of `rules`. -/
def rulesOptions (fs : FileSystem) (given : Options.Given) : RulesOptions :=
  ⟨source fs given, Options.has given .strict, Options.has given .json⟩

/-- The command with a name, with some options and operands. -/
def command (fs : FileSystem) (given : Options.Given) :
    Command.Name → List Text → Except UsageError Command
  | .check, [] => .error (.missingOperand "TOOL_NAME")
  | .check, [tool] => .ok (.check (checkOptions fs given tool none))
  | .check, [tool, content] => .ok (.check (checkOptions fs given tool (some content)))
  | .check, _ :: _ :: word :: _ => .error (.unwantedOperand word)
  | .rules, [] => .ok (.rules (rulesOptions fs given))
  | .hook, [] => .ok (.hook (path? given .home))
  | _, word :: _ => .error (.unwantedOperand word)

/-- The forms of the options of a command. -/
def forms : Command.Name → List Switch.Form
  | .hook => [homeForm, helpForm]
  | .check => checkForms
  | .rules => rulesForms

/-- What a command with some arguments asks for. -/
def ofCommand (fs : FileSystem) (isVerbose : Bool) (name : Command.Name) (arguments : List Text) :
    Except Refusal Invocation :=
  match Options.scan (forms name) true arguments with
  | .error e => .error (.usage e)
  | .ok (given, operands) =>
    match eager? given with
    | some invocation => .ok invocation
    | none =>
      match checkPaths fs given (Options.order given), command fs given name operands with
      | .error e, _ => .error e
      | .ok _, .error e => .error (.usage e)
      | .ok _, .ok c => .ok (.run isVerbose c)

/-- What is asked for when a word is in the place of a command but names none: it
may still be an option. -/
def ofUnknown (name : Text) (arguments : List Text) : Except Refusal Invocation :=
  match Options.scan globalForms false (name :: arguments) with
  | .error e => .error (.usage e)
  | .ok (given, _) =>
    match eager? given with
    | some invocation => .ok invocation
    | none => .error (.usage (.unknownCommand name))

/-- What a command line asks for. -/
def ofArguments (fs : FileSystem) (arguments : List Text) : Except Refusal Invocation :=
  if arguments.isEmpty then .error (.usage .noArguments)
  else
    match Options.scan globalForms false arguments with
    | .error e => .error (.usage e)
    | .ok (given, operands) =>
      match eager? given, operands with
      | some invocation, _ => .ok invocation
      | none, [] => .error (.usage .missingCommand)
      | none, word :: rest =>
        match Command.Name.ofText? word with
        | some name => ofCommand fs (Options.has given .verbose) name rest
        | none => ofUnknown word rest

end Invocation

end ToolPolicy
