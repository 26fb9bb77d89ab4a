import ToolPolicy.Policy.Engine
import ToolPolicy.Policy.RuleEntry
import ToolPolicy.Record.Permissions

/-!
# Preparing rules

The entries of permissions become a rule set, category by category and entry by entry, all through
one cache. Entries that are no rules are left out, and the log says why.
-/

namespace ToolPolicy.Permissions

open Regex (Pattern)

/-- Puts the rule of an entry, if it is one, in front of the rules of the entries after it. -/
def keep (rule : Option (Rule Pattern)) (rules : List (Rule Pattern)) : List (Rule Pattern) :=
  match rule with
  | some r => r :: rules
  | none => rules

/-- The rules of a list of entries; a fault ends the work. -/
def parseAll (cache : PatternCache) (category : Category) :
    List Value → RuleEntry.Parsing (List (Rule Pattern))
  | [] => (cache, pure [])
  | v :: rest =>
    match RuleEntry.parse? cache (some category.label) (.value v) with
    | (cache, first) =>
      match first.result with
      | .error f => (cache, ⟨first.log, .error f⟩)
      | .ok _ =>
        match parseAll cache category rest with
        | (cache, others) => (cache, do return keep (← first) (← others))

/-- What the log says about the sizes of a rule set. -/
def loadedRecord (rules : RuleSet Pattern) : LogRecord :=
  ⟨.debug, "Loaded " ++ Text.ofNat rules.deny.length ++ " deny, " ++ Text.ofNat rules.ask.length
    ++ " ask, " ++ Text.ofNat rules.allow.length ++ " allow rules"⟩

/-- The rule set of permissions, through a cache. -/
def prepare (cache : PatternCache) (p : Permissions) : RuleEntry.Parsing (RuleSet Pattern) :=
  match parseAll cache .deny p.deny with
  | (cache, deny) =>
    match deny.result with
    | .error f => (cache, ⟨deny.log, .error f⟩)
    | .ok _ =>
      match parseAll cache .ask p.ask with
      | (cache, ask) =>
        match ask.result with
        | .error f => (cache, ⟨deny.log ++ ask.log, .error f⟩)
        | .ok _ =>
          match parseAll cache .allow p.allow with
          | (cache, allow) => (cache, do
              let rules : RuleSet Pattern := { deny := ← deny, ask := ← ask, allow := ← allow }
              let _ ← (⟨[loadedRecord rules], .ok ()⟩ : Logged Unit)
              return rules)

/-- The rule set of permissions. -/
def rules (p : Permissions) : Logged (RuleSet Pattern) := (prepare {} p).2

end ToolPolicy.Permissions
