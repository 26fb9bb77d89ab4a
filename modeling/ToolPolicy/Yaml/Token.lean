import ToolPolicy.Yaml.Flaw

/-!
# Tokens

The words of a YAML document: indicators, scalars, names, and the marks where blocks begin and end.
A `Token.Kind` has what the word says, a `Token` also where it stands.
-/

namespace ToolPolicy.Yaml

/-- A line that gives directions for the document after it. -/
inductive Directive where
  | version (major minor : Nat)
  /-- Says what a handle stands for. -/
  | tag (handle start : Text)
  | other
  deriving DecidableEq, Repr

/-- A tag as it is written: what follows a handle, or all of the tag. -/
structure TagName where
  handle : Option Text
  suffix : Text
  deriving DecidableEq, Repr

/-- What a token says. -/
inductive Token.Kind where
  | streamEnd
  | directive (d : Directive)
  | documentStart
  | documentEnd
  | blockSequenceStart
  | blockMappingStart
  | blockEnd
  | flowSequenceStart
  | flowSequenceEnd
  | flowMappingStart
  | flowMappingEnd
  | blockEntry
  | flowEntry
  | key
  | value
  | reference (name : Text)
  | anchor (name : Text)
  | tag (name : TagName)
  /-- A scalar, and whether it is written without quotes or an indicator. -/
  | scalar (text : Text) (isPlain : Bool)
  deriving DecidableEq, Repr

/-- A token and the places where it begins and ends. -/
structure Token where
  kind : Token.Kind
  start : Mark
  stop : Mark
  deriving DecidableEq, Repr

/-- The name of a kind of token. -/
def Token.Kind.name : Token.Kind → Text
  | streamEnd => "<stream end>"
  | directive _ => "<directive>"
  | documentStart => "<document start>"
  | documentEnd => "<document end>"
  | blockSequenceStart => "<block sequence start>"
  | blockMappingStart => "<block mapping start>"
  | blockEnd => "<block end>"
  | flowSequenceStart => "["
  | flowSequenceEnd => "]"
  | flowMappingStart => "\x7b"
  | flowMappingEnd => "\x7d"
  | blockEntry => "-"
  | flowEntry => ","
  | key => "?"
  | value => ":"
  | reference _ => "<alias>"
  | anchor _ => "<anchor>"
  | tag _ => "<tag>"
  | scalar .. => "<scalar>"

/-- The tokens of a document as far as they can be had, and why there are no more. -/
structure Tokens where
  tokens : List Token
  failure : Option Failure
  deriving Repr

/-- The first token, or why there is none. -/
def Tokens.first (ts : Tokens) : Except Failure Token :=
  match ts.tokens with
  | t :: _ => .ok t
  | [] => .error (ts.failure.getD (.flaw ⟨.endOfStream, {}, none, none⟩))

end ToolPolicy.Yaml
