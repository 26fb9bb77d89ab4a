import ToolPolicy.Fault

/-!
# What can be wrong with a pattern

A `Flaw` is a cause and, for most causes, the position at which it shows. `Flaw.message` gives its
text: the cause, then the position, then line and column if the pattern has more than one line.
-/

namespace ToolPolicy.Regex

/-- Why a pattern is not a regular expression. -/
inductive Flaw.Cause where
  | trailingBackslash
  | badEscape (escape : Text)
  | incompleteEscape (escape : Text)
  | octalTooLarge (escape : Text)
  | undefinedCharacterName (name : Text)
  | missing (what : Text)
  | unterminatedName (terminator : CodePoint)
  | badGroupName (name : Text)
  | unknownGroupName (name : Text)
  | redefinedGroupName (name : Text) (index earlier : Nat)
  | tooManyGroups
  | badGroupNumber
  | invalidGroupReference (index : Nat)
  | openGroup
  | sameLookbehind
  | unterminatedSet
  | badRange (first last : Text)
  | reversedCounts
  | nothingToRepeat
  | multipleRepeat
  | unexpectedEnd
  | unknownExtension (text : Text)
  | unterminatedComment
  | unterminatedGroup
  | thirdBranch
  | lateOptions
  | localeOption
  | incompatibleOptions
  | unknownOption
  | missingOption
  | missingOptionEnd
  | missingColon
  | globalOptionOn
  | globalOptionOff
  | classOptionOff
  | optionOnAndOff
  | unbalanced
  | variableLookbehind
  | templateRepeat (greed : Text)
  deriving DecidableEq, Repr

/-- A cause, and where in the pattern it shows. -/
structure Flaw where
  cause : Flaw.Cause
  position : Option Nat := none
  deriving DecidableEq, Repr

namespace Flaw

/-- The words for a cause. -/
def Cause.message : Cause → Text
  | trailingBackslash => "bad escape (end of pattern)"
  | badEscape escape => "bad escape " ++ escape
  | incompleteEscape escape => "incomplete escape " ++ escape
  | octalTooLarge escape => "octal escape value " ++ escape ++ " outside of range 0-0o377"
  | undefinedCharacterName name => "undefined character name " ++ Text.quote name
  | missing what => "missing " ++ what
  | unterminatedName terminator => "missing " ++ [terminator] ++ ", unterminated name"
  | badGroupName name => "bad character in group name " ++ Text.quote name
  | unknownGroupName name => "unknown group name " ++ Text.quote name
  | redefinedGroupName name index earlier =>
    "redefinition of group name " ++ Text.quote name ++ " as group " ++ Text.ofNat index
      ++ "; was group " ++ Text.ofNat earlier
  | tooManyGroups => "too many groups"
  | badGroupNumber => "bad group number"
  | invalidGroupReference index => "invalid group reference " ++ Text.ofNat index
  | openGroup => "cannot refer to an open group"
  | sameLookbehind => "cannot refer to group defined in the same lookbehind subpattern"
  | unterminatedSet => "unterminated character set"
  | badRange first last => "bad character range " ++ first ++ "-" ++ last
  | reversedCounts => "min repeat greater than max repeat"
  | nothingToRepeat => "nothing to repeat"
  | multipleRepeat => "multiple repeat"
  | unexpectedEnd => "unexpected end of pattern"
  | unknownExtension text => "unknown extension ?" ++ text
  | unterminatedComment => "missing ), unterminated comment"
  | unterminatedGroup => "missing ), unterminated subpattern"
  | thirdBranch => "conditional backref with more than two branches"
  | lateOptions => "global flags not at the start of the expression"
  | localeOption => "bad inline flags: cannot use 'L' flag with a str pattern"
  | incompatibleOptions => "bad inline flags: flags 'a', 'u' and 'L' are incompatible"
  | unknownOption => "unknown flag"
  | missingOption => "missing flag"
  | missingOptionEnd => "missing -, : or )"
  | missingColon => "missing :"
  | globalOptionOn => "bad inline flags: cannot turn on global flag"
  | globalOptionOff => "bad inline flags: cannot turn off global flag"
  | classOptionOff => "bad inline flags: cannot turn off flags 'a', 'u' and 'L'"
  | optionOnAndOff => "bad inline flags: flag turned on and off"
  | unbalanced => "unbalanced parenthesis"
  | variableLookbehind => "look-behind requires fixed-width pattern"
  | templateRepeat greed => "internal: unsupported template operator " ++ greed

/-- The line of a position, counted from one. -/
def lineOf (pattern : Text) (position : Nat) : Nat :=
  (pattern.take position).count 10 + 1

/-- The column of a position in its line, counted from one. -/
def columnOf (pattern : Text) (position : Nat) : Nat :=
  ((pattern.take position).reverse.takeWhile (· != 10)).length + 1

/-- The text of a flaw of the given pattern. -/
def message (pattern : Text) (f : Flaw) : Text :=
  match f.position with
  | none => f.cause.message
  | some position =>
    f.cause.message ++ " at position " ++ Text.ofNat position ++
      if pattern.contains 10 then
        " (line " ++ Text.ofNat (lineOf pattern position) ++ ", column "
          ++ Text.ofNat (columnOf pattern position) ++ ")"
      else []

end Flaw

/-- Why a pattern cannot be compiled: it has a flaw, or reading it runs into a fault. -/
inductive Failure where
  | flaw (f : Flaw)
  | fault (f : Fault)
  deriving DecidableEq, Repr

end ToolPolicy.Regex
