import ToolPolicy.Text.Basic

/-!
# Regular expressions

The tree of a pattern, between reading it and matching it. Sequences and alternatives are binary, so
that statements about patterns go by plain induction. `Regex.items` reads a sequence as a list and
`Regex.ofItems` builds one.
-/

namespace ToolPolicy

namespace Regex

/-- Options under which a part of a pattern is read and matched. -/
structure Flags where
  ignoreCase : Bool := false
  multiLine : Bool := false
  dotAll : Bool := false
  verbose : Bool := false
  ascii : Bool := false
  unicode : Bool := false
  template : Bool := false
  deriving DecidableEq, Repr, Inhabited

namespace Flags

/-- The options of either side. -/
def union (a b : Flags) : Flags where
  ignoreCase := a.ignoreCase || b.ignoreCase
  multiLine := a.multiLine || b.multiLine
  dotAll := a.dotAll || b.dotAll
  verbose := a.verbose || b.verbose
  ascii := a.ascii || b.ascii
  unicode := a.unicode || b.unicode
  template := a.template || b.template

/-- The options of the first that the second lacks. -/
def diff (a b : Flags) : Flags where
  ignoreCase := a.ignoreCase && !b.ignoreCase
  multiLine := a.multiLine && !b.multiLine
  dotAll := a.dotAll && !b.dotAll
  verbose := a.verbose && !b.verbose
  ascii := a.ascii && !b.ascii
  unicode := a.unicode && !b.unicode
  template := a.template && !b.template

/-- Whether two sets of options have one in common. -/
def meets (a b : Flags) : Bool :=
  (a.ignoreCase && b.ignoreCase) || (a.multiLine && b.multiLine) || (a.dotAll && b.dotAll)
    || (a.verbose && b.verbose) || (a.ascii && b.ascii) || (a.unicode && b.unicode)
    || (a.template && b.template)

/-- No option at all. -/
def isEmpty (a : Flags) : Bool := a == {}

/-- Options in force inside a group that switches some on and some off; choosing a kind of
character class replaces the kind that was in force. -/
def within (outer on off : Flags) : Flags :=
  let outer :=
    if on.ascii || on.unicode then { outer with ascii := false, unicode := false } else outer
  (outer.union on).diff off

end Flags

/-- Conditions on a position that consume nothing. -/
inductive Anchor where
  /-- The start of the text, or of a line in multi-line mode. -/
  | lineStart
  /-- The end of the text, before a final line feed too, or of a line in multi-line mode. -/
  | lineEnd
  /-- The start of the text. -/
  | textStart
  /-- The end of the text. -/
  | textEnd
  /-- Between a word character and something else. -/
  | boundary
  /-- Not between a word character and something else, in a text that is not empty. -/
  | noBoundary
  deriving DecidableEq, Repr

/-- Named classes of code points. -/
inductive Category where
  | digit | notDigit | space | notSpace | word | notWord
  deriving DecidableEq, Repr

/-- A member of a bracketed class. -/
inductive ClassItem where
  | literal (c : CodePoint)
  | range (first last : CodePoint)
  | category (k : Category)
  deriving DecidableEq, Repr

/-- What a single position may hold. -/
inductive CharTest where
  | literal (c : CodePoint)
  | notLiteral (c : CodePoint)
  | any
  | oneOf (negated : Bool) (members : List ClassItem)
  deriving DecidableEq, Repr

/-- How a repetition chooses its count. -/
inductive Greed where
  /-- As many as possible, giving back on failure. -/
  | greedy
  /-- As few as possible, taking more on failure. -/
  | reluctant
  /-- As many as possible, giving back nothing. -/
  | possessive
  deriving DecidableEq, Repr

end Regex

open Regex in
/-- A regular expression. -/
inductive Regex where
  /-- Matches the empty text. -/
  | empty
  | one (test : CharTest)
  | anchor (a : Anchor)
  | seq (first second : Regex)
  | alt (first second : Regex)
  /-- `least` times the body, and up to `most` times if there is a bound. -/
  | rep (greed : Greed) (least : Nat) (most : Option Nat) (body : Regex)
  /-- Records where its body matched under a number, counted from one. -/
  | capture (index : Nat) (body : Regex)
  /-- Switches options on and off for its body. -/
  | flagged (on off : Flags) (body : Regex)
  /-- Its body, kept to the first way in which it matches. -/
  | atomic (body : Regex)
  /-- A condition on what comes before or after the position. -/
  | look (behind negated : Bool) (body : Regex)
  /-- What the numbered group matched, once more. -/
  | backref (index : Nat)
  /-- One of two continuations, by whether the numbered group has matched. -/
  | cond (index : Nat) (present absent : Regex)
  deriving DecidableEq, Repr

namespace Regex

/-- A sequence as a list of parts that are no sequences and not empty. -/
def items : Regex → List Regex
  | empty => []
  | seq a b => items a ++ items b
  | r => [r]

/-- The sequence of the given parts. -/
def ofItems : List Regex → Regex
  | [] => empty
  | [r] => r
  | r :: rest => seq r (ofItems rest)

/-- Whether a part is a choice. -/
def isChoice : Regex → Bool
  | alt .. => true
  | _ => false

/-- The choice between the given parts, tried in order. A last part that is a choice itself does not
become part of this one. -/
def ofAlternatives : List Regex → Regex
  | [] => empty
  | [r] => if r.isChoice then seq r empty else r
  | r :: rest => alt r (ofAlternatives rest)

end Regex

end ToolPolicy
