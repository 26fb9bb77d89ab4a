import ToolPolicy.Text.Basic

/-!
# Options of a command line

The words of a command line are operands and options. An option has a long form with two dashes and
perhaps a short form with one; the value of an option is attached to it or is the next word. Short
forms can share a dash. After two dashes that stand alone every word is an operand.
-/

namespace ToolPolicy

/-- What an option is about. -/
inductive Switch where
  | version | verbose | help | home | cwd | input | rules | strict | json
  deriving DecidableEq, Repr

/-- How an option is written. -/
structure Switch.Form where
  switch : Switch
  long : Text
  short : Option CodePoint := none
  takesValue : Bool := false
  deriving DecidableEq, Repr

/-- Why a command line cannot be understood. -/
inductive UsageError where
  | unknownOption (word : Text)
  | missingValue (word : Text)
  | unwantedValue (word : Text)
  | noArguments
  | missingCommand
  | unknownCommand (name : Text)
  | missingOperand (name : Text)
  | unwantedOperand (word : Text)
  | absentPath (switch : Text) (path : Text)
  deriving DecidableEq, Repr

/-- The words for an error in a command line. -/
def UsageError.message : UsageError → Text
  | unknownOption word => "No such option: " ++ word
  | missingValue word => "Option '" ++ word ++ "' requires an argument."
  | unwantedValue word => "Option '" ++ word ++ "' does not take a value."
  | noArguments => "Missing command."
  | missingCommand => "Missing command."
  | unknownCommand name => "No such command '" ++ name ++ "'."
  | missingOperand name => "Missing argument '" ++ name ++ "'."
  | unwantedOperand word => "Got unexpected extra argument (" ++ word ++ ")"
  | absentPath switch path =>
    "Invalid value for '" ++ switch ++ "': Path '" ++ path ++ "' does not exist."

namespace Options

/-- An option as it was given, with its value if it takes one. -/
abbrev Given := List (Switch × Option Text)

/-- The dash that begins an option. -/
def dash : CodePoint := 45

/-- Whether a word is written like an option. -/
def isOption (word : Text) : Bool := word.head? == some dash && word.length > 1

/-- The options in a word, and the one of them that takes the next word for its value. -/
abbrev Reading := Given × Option (Switch × Text)

/-- The options in a word of short forms. -/
def readShort (forms : List Switch.Form) : Text → Except UsageError Reading
  | [] => .ok ([], none)
  | c :: rest =>
    match forms.find? fun f => f.short == some c with
    | none => .error (.unknownOption [dash, c])
    | some f =>
      if f.takesValue then
        if rest.isEmpty then .ok ([], some (f.switch, [dash, c]))
        else .ok ([(f.switch, some rest)], none)
      else (readShort forms rest).map fun (given, open?) => ((f.switch, none) :: given, open?)

/-- The options in a word. -/
def readWord (forms : List Switch.Form) (word : Text) : Except UsageError Reading :=
  let (name, value) := Text.cutAt 61 word
  match forms.find? fun f => f.long == name with
  | some f =>
    match f.takesValue, value with
    | true, some value => .ok ([(f.switch, some value)], none)
    | true, none => .ok ([], some (f.switch, name))
    | false, some _ => .error (.unwantedValue name)
    | false, none => .ok ([(f.switch, none)], none)
  | none =>
    if Text.startsWith word [dash, dash] then .error (.unknownOption name)
    else readShort forms word.tail

/-- The options and the operands of a command line. If they are not mixed, everything from the first
operand on is an operand. -/
def scan (forms : List Switch.Form) (isMixed : Bool) :
    List Text → Except UsageError (Given × List Text)
  | [] => .ok ([], [])
  | word :: rest =>
    if word = [dash, dash] then .ok ([], rest)
    else if isOption word then
      match readWord forms word with
      | .error e => .error e
      | .ok (given, none) => (scan forms isMixed rest).map fun (g, os) => (given ++ g, os)
      | .ok (given, some (switch, name)) =>
        match rest with
        | [] => .error (.missingValue name)
        | value :: rest => (scan forms isMixed rest).map fun (g, os) =>
            (given ++ (switch, some value) :: g, os)
    else if isMixed then (scan forms isMixed rest).map fun (g, os) => (g, word :: os)
    else .ok ([], word :: rest)

/-- Whether an option was given. -/
def has (given : Given) (s : Switch) : Bool := given.any (·.1 == s)

/-- The value of an option; the last one counts. -/
def value? (given : Given) (s : Switch) : Option Text :=
  (given.reverse.find? (·.1 == s)).bind (·.2)

/-- The options in the order in which they were given first. -/
def order (given : Given) : List Switch :=
  given.foldl (fun seen g => if seen.contains g.1 then seen else seen ++ [g.1]) []

end Options

end ToolPolicy
