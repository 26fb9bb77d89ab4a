import ToolPolicy.Console.Literal.Expression
import ToolPolicy.Fault

/-!
# Parameters of actions

A tag in console markup may name an action with the parameters it is called with: `handler`,
`handler(1, "a")`, or the parameters alone. The parameters are a literal. A text that is none is
refused with the reason, and with the part that was read if it is not well formed.
-/

namespace ToolPolicy.Action

/-- What stands in brackets behind the name of a handler, brackets included;
`some none` if there are none. -/
def handler? (t : Text) : Option (Option Text) :=
  let rest := t.dropWhile fun c => CodePoint.isWord c || c == 46
  match rest with
  | [] => some none
  | 40 :: inner => if Text.endsWith inner [41] && !inner.contains 10 then some (some rest) else none
  | _ => none

/-- The fault of parameters that are no literal. -/
def refusal? (parameters : Text) : Option Fault := do
  let bare := Text.trimBoth CodePoint.isSpace parameters
  let text ← match handler? bare with
    | some inner => inner
    | none => some bare
  let why ← Literal.refusal? text
  let place : Text := if why.isAboutValue then [] else Text.quote text ++ " in "
  return .markup ("error parsing " ++ place ++ Text.quote parameters ++ "; " ++ why.message)

end ToolPolicy.Action
