import ToolPolicy.Regex.Matcher
import ToolPolicy.Regex.Parser

/-!
# Compiled patterns

A pattern is compiled once and searched for in many texts. `Pattern.search` gives the stretch of the
leftmost match; the first start that has a match wins, and at that start the way that the pattern
prefers. Before a start is tried, a pattern that begins with a class looks whether the class accepts
what stands there, under the options of the whole pattern.

Main statement: `searchFrom_eq_none_iff` (when there is no match).
-/

namespace ToolPolicy.Regex

/-- A compiled pattern. -/
structure Pattern where
  /-- The text it was compiled from. -/
  source : Text
  /-- The options it was compiled under. -/
  options : Flags
  tree : Regex
  /-- The options in force at its start. -/
  flags : Flags
  /-- Widths of its groups. -/
  widths : List (Option Width)
  deriving DecidableEq, Repr

/-- A stretch of a text, from the first position up to, and without, the last. -/
structure Span where
  first : Nat
  last : Nat
  deriving DecidableEq, Repr

/-! ## Starts -/

/-- The first thing that a pattern does, apart from recording where groups begin. -/
def opening (flags : Flags) : Regex → Leading
  | .empty => .nothing
  | .one t => .test flags t
  | .seq a b => match opening flags a with
    | .nothing => opening flags b
    | l => l
  | .capture _ body => opening flags body
  | .flagged on off body => opening (flags.within on off) body
  | _ => .other

/-- Whether a pattern begins with a literal. -/
def beginsWithLiteral (flags : Flags) (r : Regex) : Bool :=
  match opening flags r with
  | .test inner t => (t.onlyLiteral? inner).isSome
  | _ => false

namespace ClassItem

/-- Whether a member of a class has case. -/
def hasCase (ascii : Bool) : ClassItem → Bool
  | literal a => Regex.hasCase ascii a
  | range a b => basicPlaneEnd ≤ b || rangeCased ascii a b
  | category _ => false

end ClassItem

/-- The literals with which the parts of a choice begin, if all of them begin with one. -/
def leadingLiterals? (flags : Flags) : Regex → Option (List CodePoint)
  | .alt a b =>
    if a.isChoice then none
    else do return (← leadingLiterals? flags a) ++ (← leadingLiterals? flags b)
  | .seq (.one t) _ => (t.onlyLiteral? flags).map fun c => [c]
  | .one t => (t.onlyLiteral? flags).map fun c => [c]
  | _ => none

/-- What has to stand at a start, for a pattern that begins with a class or with a choice between
literals. The class is read under the options `outer`. -/
def startTest? (outer : Flags) (flags : Flags) : Regex → Option (CodePoint → Bool)
  | .seq a _ => startTest? outer flags a
  | .capture _ body => startTest? outer flags body
  | .flagged on off body => startTest? outer (flags.within on off) body
  | .one (.oneOf negated members) =>
    if flags.ignoreCase && members.any (ClassItem.hasCase flags.ascii) then none
    else some fun c => members.any (ClassItem.holds outer.ascii · c) != negated
  | .alt a b => (leadingLiterals? flags (.alt a b)).map fun literals c => literals.contains c
  | _ => none

namespace Pattern

/-- Compiles the text of a pattern under options. -/
def compile (source : Text) (options : Flags) : Except Failure Pattern :=
  (parse source options).map fun parsed =>
    { source, options, tree := parsed.tree, flags := parsed.flags, widths := parsed.widths }

/-- The width of a numbered group. -/
def groupWidth (p : Pattern) (index : Nat) : Width :=
  if index = 0 then ⟨0, 0⟩ else ((p.widths[index - 1]?).join).getD ⟨0, 0⟩

/-- A text, with what the pattern needs to know of its groups. -/
def subject (p : Pattern) (text : Text) : Subject := ⟨text.toArray, p.groupWidth⟩

/-- The number of code points that a match takes at least. -/
def least (p : Pattern) : Nat := (width p.groupWidth p.tree).least

/-- The match that starts at a position, if any; a group must not be recorded with an end
in front of its start. -/
def matchAt (p : Pattern) (subject : Subject) (first : Nat) : Except Fault (Option Span) :=
  match run subject p.flags false none p.tree { position := first, resume := first } accepted with
  | .found final =>
    if final.marks.hasReversedGroup then .error .reversedGroup
    else .ok (some ⟨first, final.position⟩)
  | .failed .. => .ok none

/-- The first match among the given number of starts from a position on. -/
def searchFrom (p : Pattern) (subject : Subject) (isStart : Nat → Bool) (first : Nat) :
    Nat → Except Fault (Option Span)
  | 0 => .ok none
  | starts + 1 =>
    if isStart first then
      match p.matchAt subject first with
      | .ok none => searchFrom p subject isStart (first + 1) starts
      | result => result
    else searchFrom p subject isStart (first + 1) starts

/-- The number of starts that are tried in a text, and which of them. -/
def starts (p : Pattern) (subject : Subject) : Nat × (Nat → Bool) :=
  let size := subject.text.size
  if p.least = 0 || beginsWithLiteral p.flags p.tree then (size + 1, fun _ => true)
  else match startTest? p.flags p.flags p.tree with
    | some test => (size, fun i => subject.text[i]?.any test)
    | none => (size + 2 - p.least, fun _ => true)

/-- The leftmost match in a text. -/
def search (p : Pattern) (text : Text) : Except Fault (Option Span) :=
  if text.length < p.least then .ok none
  else
    let subject := p.subject text
    let (count, isStart) := p.starts subject
    searchFrom p subject isStart 0 count

/-- Whether a pattern is found in a text. -/
def isFoundIn (p : Pattern) (text : Text) : Except Fault Bool :=
  (p.search text).map Option.isSome

theorem searchFrom_eq_none_iff (p : Pattern) (subject : Subject) (isStart : Nat → Bool)
    (first starts : Nat) : searchFrom p subject isStart first starts = .ok none ↔
      ∀ i, first ≤ i → i < first + starts → isStart i = true →
        p.matchAt subject i = .ok none := by
  induction starts generalizing first with
  | zero => simp [searchFrom]; omega
  | succ n ih =>
    have later : (∀ i, first + 1 ≤ i → i < first + 1 + n → isStart i = true →
        p.matchAt subject i = .ok none) → (isStart first = true →
        p.matchAt subject first = .ok none) → ∀ i, first ≤ i → i < first + (n + 1) →
        isStart i = true → p.matchAt subject i = .ok none := by
      intro h h0 i h1 h2 h3
      by_cases hi : i = first
      · exact hi ▸ h0 (hi ▸ h3)
      · exact h i (by omega) (by omega) h3
    unfold searchFrom
    split
    · next hs =>
      split
      · next hm => exact (ih _).trans ⟨fun h => later h fun _ => hm,
          fun h i h1 h2 h3 => h i (by omega) (by omega) h3⟩
      · next hm => exact ⟨fun h => absurd h (hm ·), fun h => h first (by omega) (by omega) hs⟩
    · next hs => exact (ih _).trans ⟨fun h => later h fun h0 => absurd h0 hs,
        fun h i h1 h2 h3 => h i (by omega) (by omega) h3⟩

end Pattern

end ToolPolicy.Regex
