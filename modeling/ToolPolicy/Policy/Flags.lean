import ToolPolicy.Log
import ToolPolicy.Regex.Syntax

/-!
# Flags of a rule

A rule may carry flag letters. `i`, `m` and `s` are options of the content pattern, `u` and `d`
change nothing, `g` and `y` would make matching depend on earlier calls and are taken out with a
warning, and any other letter is refused.

Main statements: `options_isOk_iff` (which letters are accepted) and
`mem_strip` (which letters stay).
-/

namespace ToolPolicy.Flags

open Regex (Flags)

/-- The option that a letter stands for; none for a letter without effect. -/
inductive Meaning where
  | option (flags : Flags)
  | nothing
  | unsupported
  deriving DecidableEq, Repr

/-- What a letter means. -/
def meaning (letter : CodePoint) : Meaning :=
  if letter = 'i' then .option { ignoreCase := true }
  else if letter = 'm' then .option { multiLine := true }
  else if letter = 's' then .option { dotAll := true }
  else if letter = 'u' || letter = 'd' then .nothing
  else .unsupported

/-- The options that letters stand for, added to some options, or the first unsupported letter. -/
def optionsFrom (flags : Flags) : Text → Except CodePoint Flags
  | [] => .ok flags
  | c :: rest =>
    match meaning c with
    | .option o => optionsFrom (flags.union o) rest
    | .nothing => optionsFrom flags rest
    | .unsupported => .error c

/-- The options that letters stand for, or the first unsupported letter. -/
def options (letters : Text) : Except CodePoint Flags := optionsFrom {} letters

/-- Whether a letter would make matching depend on earlier calls. -/
def isStateful (letter : CodePoint) : Bool := letter == 'g' || letter == 'y'

/-- The stateful letters that occur, each once, in alphabetical order. -/
def statefulOf (letters : Text) : Text :=
  (if letters.contains 'g' then ['g'.toNat] else []) ++
  (if letters.contains 'y' then ['y'.toNat] else [])

/-- The letters that stay when stateful ones are taken out. -/
def strip (letters : Text) : Text := letters.filter fun c => !isStateful c

/-- The warning for a stateful letter of a rule. -/
def strippedWarning (raw : Text) (letter : CodePoint) : LogRecord :=
  ⟨.warning, "Stripping \"" ++ [letter] ++ "\" flag from rule (causes stateful matching): " ++ raw⟩

/-- The letters of a rule without stateful ones, with a warning for each of those. -/
def stripLogged (letters : Option Text) (raw : Text) : Logged Text :=
  let letters := letters.getD []
  ⟨(statefulOf letters).map (strippedWarning raw), .ok (strip letters)⟩

/-- Whether a letter has a meaning. -/
def isSupported (letter : CodePoint) : Bool := meaning letter != .unsupported

theorem optionsFrom_isOk_iff (flags : Flags) (letters : Text) :
    (∃ o, optionsFrom flags letters = .ok o) ↔ ∀ c ∈ letters, isSupported c = true := by
  induction letters generalizing flags with
  | nil => simp [optionsFrom]
  | cons c rest ih =>
    cases h : meaning c with
    | option o => simp [optionsFrom, h, ih, isSupported]
    | nothing => simp [optionsFrom, h, ih, isSupported]
    | unsupported => simp [optionsFrom, h, isSupported]

theorem options_isOk_iff (letters : Text) :
    (∃ o, options letters = .ok o) ↔ ∀ c ∈ letters, isSupported c = true :=
  optionsFrom_isOk_iff {} letters

theorem mem_strip {c : CodePoint} {letters : Text} :
    c ∈ strip letters ↔ c ∈ letters ∧ isStateful c = false := by
  simp [strip]

end ToolPolicy.Flags
