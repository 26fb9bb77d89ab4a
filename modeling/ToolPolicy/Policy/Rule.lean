import ToolPolicy.Text.Basic

/-!
# Rules and rule sets

A rule is a pair of matchers, for the name of a tool and for the content of a request, with the
reason given for it and the text it was written as. What a matcher is does not matter here: it is
anything that can be searched for in a text, be it a predicate, or something whose search has
effects of its own. A rule set holds the rules of the three categories in their order.

Main statement: `hits_predicate` (when a rule of predicates matches).
-/

namespace ToolPolicy

/-- What can be searched for in a text, with the effects of a monad. -/
class Matching (M : Type) (m : outParam (Type → Type)) where
  /-- Whether a matcher is found in a text. -/
  isFoundIn : M → Text → m Bool

instance : Matching (Text → Bool) Id := ⟨fun p t => p t⟩

/-- A rule that is ready to be evaluated. -/
structure Rule (M : Type) where
  tool : M
  content : M
  reason : Option Text
  /-- The text that the rule was written as. -/
  raw : Text
  deriving DecidableEq, Repr

namespace Rule

variable {M : Type} {m : Type → Type} [Monad m] [Matching M m]

/-- Whether a rule is about a tool. -/
def matchesTool (r : Rule M) (tool : Text) : m Bool := Matching.isFoundIn r.tool tool

/-- Whether a rule matches a tool and a content; without content it never does. -/
def hits (r : Rule M) (tool : Text) (content : Option Text) : m Bool := do
  if ← r.matchesTool tool then
    match content with
    | none => return false
    | some c => Matching.isFoundIn r.content c
  else return false

theorem hits_predicate (r : Rule (Text → Bool)) (tool content : Text) :
    r.hits tool (some content) = (r.tool tool && r.content content : Bool) := by
  change (if r.tool tool = true then r.content content else false) = _
  by_cases h : r.tool tool = true <;> simp [h]

end Rule

/-- The rules of each category, in the order in which they are tried. -/
structure RuleSet (M : Type) where
  deny : List (Rule M) := []
  ask : List (Rule M) := []
  allow : List (Rule M) := []
  deriving DecidableEq, Repr

namespace RuleSet

variable {M : Type}

/-- The number of rules. -/
def size (rules : RuleSet M) : Nat := rules.deny.length + rules.ask.length + rules.allow.length

/-- Whether there is no rule at all. -/
def isEmpty (rules : RuleSet M) : Bool :=
  rules.deny.isEmpty && rules.ask.isEmpty && rules.allow.isEmpty

/-- The rules of two sets, category by category. -/
def append (a b : RuleSet M) : RuleSet M :=
  ⟨a.deny ++ b.deny, a.ask ++ b.ask, a.allow ++ b.allow⟩

end RuleSet

end ToolPolicy
