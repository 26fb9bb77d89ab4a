import ToolPolicy.Text.Class

/-!
# Quoted text in messages

Messages show a text between quotes, on one line and in printable code points. The single quote
encloses it unless the text holds a single quote and no double quote.
-/

namespace ToolPolicy.Text

/-- The quote that encloses a text. -/
def quoteMark (t : Text) : CodePoint :=
  if t.contains '\'' && !t.contains '"' then '"' else '\''

/-- One code point inside quotes. -/
def quoteOne (mark c : CodePoint) : Text :=
  if c = mark || c = 92 then [92, c]
  else if c = 9 then "\\t"
  else if c = 10 then "\\n"
  else if c = 13 then "\\r"
  else if CodePoint.isPrintable c then [c]
  else if c < 0x100 then "\\x" ++ hex 2 c
  else if c < 0x10000 then "\\u" ++ hex 4 c
  else "\\U" ++ hex 8 c

/-- A text between quotes, with escapes for what would not show. -/
def quote (t : Text) : Text :=
  quoteMark t :: t.flatMap (quoteOne (quoteMark t)) ++ [quoteMark t]

/-- Bytes between quotes after a `b`, everything outside printable ASCII escaped. -/
def quoteBytes (bytes : List UInt8) : Text :=
  let t : Text := bytes.map UInt8.toNat
  let mark := quoteMark t
  let one (c : CodePoint) : Text :=
    if c = mark || c = 92 then [92, c]
    else if c = 9 then "\\t"
    else if c = 10 then "\\n"
    else if c = 13 then "\\r"
    else if 32 ≤ c && c < 127 then [c]
    else "\\x" ++ hex 2 c
  'b'.toNat :: mark :: t.flatMap one ++ [mark]

end ToolPolicy.Text
