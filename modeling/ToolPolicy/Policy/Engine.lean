import ToolPolicy.Policy.Content
import ToolPolicy.Policy.Lines
import ToolPolicy.Policy.Rule
import ToolPolicy.Record.Decision

/-!
# Evaluation

A request is denied if a rule of that category matches its content or one of its lines; otherwise it
is asked about in the same way; otherwise it is allowed, but only if a rule covers it: a content of
one line by one rule, a content of several lines line by line. Within a category the first rule that
matches gives the reason.

Searching for a matcher may have effects, so the functions are written for any monad; for rules of
predicates they are plain functions.

Main statement: `firstHit_of_forall` (when no rule of a category matches).
-/

namespace ToolPolicy.RuleSet

variable {M : Type} {m : Type → Type} [Monad m] [Matching M m]

/-- Whether a rule matches a content, or one of its lines. -/
def hitsAny (tool : Text) (content : Option Text) (lines : Option (List Text)) (r : Rule M) :
    m Bool := do
  if ← r.hits tool content then return true
  else (lines.getD []).anyM fun line => r.hits tool (some line)

/-- The first rule that matches a content or one of its lines. -/
def firstHit (rules : List (Rule M)) (tool : Text) (content : Option Text)
    (lines : Option (List Text)) : m (Option (Rule M)) :=
  rules.findM? (hitsAny tool content lines)

/-- Whether every line is covered by a rule; a content without lines has nothing to cover. -/
def coversLines (rules : List (Rule M)) (tool : Text) (lines : List Text) : m Bool :=
  if lines.isEmpty then return false
  else lines.allM fun line => rules.anyM fun r => r.hits tool (some line)

/-- The decision about a content, when no rule denies it or asks about it. -/
def evaluateAllow (rules : List (Rule M)) (tool : Text) (content : Option Text) :
    Option (List Text) → m Decision
  | some lines => do
    if ← coversLines rules tool lines then return .allow none else return .noMatch
  | none => do
    match ← rules.findM? fun r => r.hits tool content with
    | some r => return .allow (some r.raw)
    | none => return .noMatch

/-- The decision about a content. -/
def evaluateContent (rules : RuleSet M) (tool : Text) (content : Option Text) : m Decision := do
  let lines := Lines.split? content
  match ← firstHit rules.deny tool content lines with
  | some r => return .deny r.reason (some r.raw)
  | none =>
    match ← firstHit rules.ask tool content lines with
    | some r => return .ask r.reason (some r.raw)
    | none => evaluateAllow rules.allow tool content lines

/-- The decision about a request. -/
def evaluate (rules : RuleSet M) (tool : Text) (arguments : List (Value × Value)) : m Decision :=
  rules.evaluateContent tool (Content.content? tool arguments)

theorem firstHit_of_forall [LawfulMonad m] {rules : List (Rule M)} {tool : Text}
    {content : Option Text} {lines : Option (List Text)}
    (h : ∀ r ∈ rules, hitsAny tool content lines r = (pure false : m Bool)) :
    firstHit rules tool content lines = (pure none : m (Option (Rule M))) := by
  induction rules with
  | nil => rfl
  | cons r rest ih =>
    have hr := h r (by simp)
    have ih := ih fun r' hr' => h r' (by simp [hr'])
    simp only [firstHit] at ih ⊢
    simp [List.findM?, hr, ih]

end ToolPolicy.RuleSet
