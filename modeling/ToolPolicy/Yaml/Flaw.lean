import ToolPolicy.Fault
import ToolPolicy.Text.Base64
import ToolPolicy.Text.Utf8

/-!
# Flaws of YAML documents

A flaw has a cause and a mark, which is a place in the document; it may also say what was being
read and where that began. `Flaw.message` puts the parts on lines of their own. Reading may
also fail because of the bytes of the file, because of a code point that no document may hold,
or by a fault of a value.
-/

namespace ToolPolicy.Yaml

/-- A place in a document: how many code points are before it, and its line and column from zero. -/
structure Mark where
  index : Nat := 0
  line : Nat := 0
  column : Nat := 0
  deriving DecidableEq, Repr

/-- A place as messages show it. -/
def Mark.text (path : Text) (m : Mark) : Text :=
  "  in \"" ++ path ++ "\", line " ++ Text.ofNat (m.line + 1) ++ ", column "
    ++ Text.ofNat (m.column + 1)

/-- What was being read. -/
inductive Activity where
  | scanning (what : String)
  | parsing (what : String)
  | constructing (what : String)
  | duplicateAnchor (name : Text)
  | singleDocument
  deriving DecidableEq, Repr

/-- The words for what was being read. -/
def Activity.message : Activity → Text
  | scanning what => "while scanning " ++ Text.ofString what
  | parsing what => "while parsing " ++ Text.ofString what
  | constructing what => "while constructing " ++ Text.ofString what
  | duplicateAnchor name => "found duplicate anchor " ++ Text.quote name ++ "; first occurrence"
  | singleDocument => "expected a single document in the stream"

/-- What is wrong. -/
inductive Flaw.Cause where
  /-- Something has to stand here, but there is another code point. -/
  | expected (what : String) (found : CodePoint)
  | expectedHexDigits (count : Nat) (found : CodePoint)
  /-- Something has to stand here, but there is another token. -/
  | expectedToken (what : String) (found : Text)
  /-- A delimiter has to stand here, but there is another token. -/
  | expectedDelimiter (what : String) (found : Text)
  /-- Something has to stand here, but there is a node of another kind. -/
  | expectedNode (what : String) (found : Text)
  | expectedSingleItem (count : Nat)
  | zeroIndentation
  | unknownEscape (c : CodePoint)
  | endOfStream
  | documentSeparator
  | missingColon
  | noToken (c : CodePoint)
  /-- Something that is in order elsewhere cannot stand here. -/
  | notHere (what : String)
  | escapedBytes (flaw : Utf8.Flaw)
  | repeatedVersion
  | otherVersion
  | repeatedHandle (handle : Text)
  | unknownHandle (handle : Text)
  | unknownAlias (name : Text)
  | secondOccurrence
  | secondDocument
  | unhashableKey
  | unknownTag (tag : Text)
  | binaryNotAscii (text : Text) (position : Nat)
  | binaryNotBase64 (flaw : Base64.Flaw)
  deriving DecidableEq, Repr

namespace Flaw

/-- A code point outside ASCII by its number. -/
def numbered (c : CodePoint) : Text :=
  if c < 0x100 then "\\x" ++ Text.hex 2 c
  else if c < 0x10000 then "\\u" ++ Text.hex 4 c
  else "\\U" ++ Text.hex 8 c

/-- Where a text leaves ASCII: one code point, or as many as there are in a row. -/
def notAsciiPlace (text : Text) (position : Nat) : Text :=
  let row := (text.drop position).takeWhile fun c => 128 ≤ c
  if row.length ≤ 1 then
    "character '" ++ numbered (text.getD position 0) ++ "' in position " ++ Text.ofNat position
  else
    "characters in position " ++ Text.ofNat position ++ "-" ++
      Text.ofNat (position + row.length - 1)

/-- The words for a cause. -/
def Cause.message : Cause → Text
  | expected what found => "expected " ++ Text.ofString what ++ ", but found " ++ Text.quote [found]
  | expectedHexDigits count found =>
    "expected escape sequence of " ++ Text.ofNat count ++ " hexadecimal numbers, but found "
      ++ Text.quote [found]
  | expectedToken what found => "expected " ++ Text.ofString what ++
    ", but found " ++ Text.quote found
  | expectedDelimiter what found => "expected " ++ Text.ofString what ++
    ", but got " ++ Text.quote found
  | expectedNode what found => "expected " ++ Text.ofString what ++ ", but found " ++ found
  | expectedSingleItem count =>
    "expected a single mapping item, but found " ++ Text.ofNat count ++ " items"
  | zeroIndentation => "expected indentation indicator in the range 1-9, but found 0"
  | unknownEscape c => "found unknown escape character " ++ Text.quote [c]
  | endOfStream => "found unexpected end of stream"
  | documentSeparator => "found unexpected document separator"
  | missingColon => "could not find expected ':'"
  | noToken c => "found character " ++ Text.quote [c] ++ " that cannot start any token"
  | notHere what => Text.ofString what ++ " are not allowed here"
  | escapedBytes flaw => flaw.message
  | repeatedVersion => "found duplicate YAML directive"
  | otherVersion => "found incompatible YAML document (version 1.* is required)"
  | repeatedHandle handle => "duplicate tag handle " ++ Text.quote handle
  | unknownHandle handle => "found undefined tag handle " ++ Text.quote handle
  | unknownAlias name => "found undefined alias " ++ Text.quote name
  | secondOccurrence => "second occurrence"
  | secondDocument => "but found another document"
  | unhashableKey => "found unhashable key"
  | unknownTag tag => "could not determine a constructor for the tag " ++ Text.quote tag
  | binaryNotAscii text position =>
    "failed to convert base64 data into ascii: 'ascii' codec can't encode "
      ++ notAsciiPlace text position ++ ": ordinal not in range(128)"
  | binaryNotBase64 flaw => "failed to decode base64 data: " ++ flaw.message

end Flaw

/-- A flaw of a document. -/
structure Flaw where
  cause : Flaw.Cause
  mark : Mark
  activity : Option Activity := none
  /-- Where the activity began, if it began anywhere in particular. -/
  start : Option Mark := none
  deriving DecidableEq, Repr

namespace Flaw

/-- The mark of the activity, if it is not the mark of the flaw itself. -/
def shownStart (f : Flaw) : Option Mark :=
  f.start.filter fun m => m.line != f.mark.line || m.column != f.mark.column

/-- The text of a flaw in the document at a path. -/
def message (path : Text) (f : Flaw) : Text :=
  let lines : List Text :=
    (f.activity.map Activity.message).toList ++ (f.shownStart.map (Mark.text path)).toList
      ++ [f.cause.message, f.mark.text path]
  Text.join [10] lines

end Flaw

/-- Why a document cannot be read. -/
inductive Failure where
  | flaw (f : Flaw)
  /-- A code point that no document may hold, at a position in the text. -/
  | unprintable (c : CodePoint) (position : Nat)
  /-- Bytes that are no text. -/
  | undecodable (f : Utf8.Flaw)
  | fault (f : Fault)
  deriving DecidableEq, Repr

/-- The text for a code point that no document may hold. -/
def unprintableMessage (path : Text) (c : CodePoint) (position : Nat) : Text :=
  "unacceptable character #x" ++ Text.hex 4 c ++
    ": special characters are not allowed\n  in \"" ++ path
    ++ "\", position " ++ Text.ofNat position

end ToolPolicy.Yaml
