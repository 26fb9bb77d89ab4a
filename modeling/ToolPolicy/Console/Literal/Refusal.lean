import ToolPolicy.Text.Class

/-!
# Refusals of literals

Why a text is no literal, with the words for it. Some refusals are about a single token, some about
the order of tokens, and some about the value of an expression that is well formed.
-/

namespace ToolPolicy.Literal

/-- The ways to write a number. -/
inductive NumberForm where
  | decimal | hexadecimal | octal | binary | imaginary
  deriving DecidableEq, Repr

/-- The word for a way to write a number. -/
def NumberForm.label : NumberForm → Text
  | decimal => "decimal"
  | hexadecimal => "hexadecimal"
  | octal => "octal"
  | binary => "binary"
  | imaginary => "imaginary"

/-- Why a text is no literal. -/
inductive Refusal where
  | invalid
  | unexpectedEnd
  | missingComma
  | missingElse
  | missingBrackets (name : Text)
  | noComparison
  | notAssignable (what : Text)
  | notNameable (what : Text)
  | fixedWord (word : Text)
  | assignmentInCall
  | positionAfterName
  | starred
  | doubleStarred
  | missingColon
  | missingValue
  | starredValue
  | openQuote
  | openTripleQuote
  | neverClosed (bracket : CodePoint)
  | unmatched (bracket : CodePoint)
  | mismatched (closing opening : CodePoint)
  | tooManyBrackets
  | badNumber (form : NumberForm)
  | badDigit (digit : CodePoint) (form : NumberForm)
  | leadingZeros
  | afterBackslash
  | badCharacter (c : CodePoint)
  | unprintable (c : CodePoint)
  | mixedQuotes
  | wideBytes
  | badEscape (first last : Nat) (why : Text)
  | badByteEscape (position : Nat)
  | notLiteral
  | nothingStarred
  | unhashable (kind : Text)
  deriving DecidableEq, Repr

namespace Refusal

/-- The number of a code point, with four digits at least. -/
def codeOf (c : CodePoint) : Text := "U+" ++ (Text.hex 4 c).map CodePoint.upper

/-- The words for a refusal. -/
def message : Refusal → Text
  | invalid => "invalid syntax"
  | unexpectedEnd => "unexpected EOF while parsing"
  | missingComma => "invalid syntax. Perhaps you forgot a comma?"
  | missingElse => "expected 'else' after 'if' expression"
  | missingBrackets name =>
    "Missing parentheses in call to '" ++ name ++ "'. Did you mean " ++ name ++ "(...)?"
  | noComparison => "invalid syntax. Maybe you meant '==' or ':=' instead of '='?"
  | notAssignable what =>
    "cannot assign to " ++ what ++ " here. Maybe you meant '==' instead of '='?"
  | notNameable what => "cannot use assignment expressions with " ++ what
  | fixedWord word => "cannot assign to " ++ word
  | assignmentInCall => "expression cannot contain assignment, perhaps you meant \"==\"?"
  | positionAfterName => "positional argument follows keyword argument"
  | starred => "cannot use starred expression here"
  | doubleStarred => "cannot use double starred expression here"
  | missingColon => "':' expected after dictionary key"
  | missingValue => "expression expected after dictionary key and ':'"
  | starredValue => "cannot use a starred expression in a dictionary value"
  | openQuote => "unterminated string literal (detected at line 1)"
  | openTripleQuote => "unterminated triple-quoted string literal (detected at line 1)"
  | neverClosed bracket => "'" ++ [bracket] ++ "' was never closed"
  | unmatched bracket => "unmatched '" ++ [bracket] ++ "'"
  | mismatched closing opening =>
    "closing parenthesis '" ++ [closing] ++
      "' does not match opening parenthesis '" ++ [opening] ++ "'"
  | tooManyBrackets => "too many nested parentheses"
  | badNumber form => "invalid " ++ form.label ++ " literal"
  | badDigit digit form => "invalid digit '" ++ [digit] ++ "' in " ++ form.label ++ " literal"
  | leadingZeros => "leading zeros in decimal integer literals are not permitted; "
    ++ "use an 0o prefix for octal integers"
  | afterBackslash => "unexpected character after line continuation character"
  | badCharacter c => "invalid character '" ++ [c] ++ "' (" ++ codeOf c ++ ")"
  | unprintable c => "invalid non-printable character " ++ codeOf c
  | mixedQuotes => "cannot mix bytes and nonbytes literals"
  | wideBytes => "bytes can only contain ASCII literal characters"
  | badEscape first last why =>
    "(unicode error) 'unicodeescape' codec can't decode bytes in position "
    ++ Text.ofNat first ++ "-" ++ Text.ofNat last ++ ": " ++ why
  | badByteEscape position => "(value error) invalid \\x escape at position " ++ Text.ofNat position
  | notLiteral => "malformed node or string"
  | nothingStarred => "malformed node or string: None"
  | unhashable kind => "unhashable type: '" ++ kind ++ "'"

/-- Whether a refusal is about the value of an expression that can be read. -/
def isAboutValue : Refusal → Bool
  | notLiteral | nothingStarred | unhashable _ => true
  | _ => false

/-- Whether a refusal is found as soon as a token is looked at, whatever it is looked at for. -/
def isAboutToken : Refusal → Bool
  | neverClosed _ | unexpectedEnd | afterBackslash | mixedQuotes | wideBytes => true
  | badEscape .. | badByteEscape _ => true
  | _ => false

end Refusal

end ToolPolicy.Literal
