import ToolPolicy.Policy.PatternCache
import ToolPolicy.Policy.Rule
import ToolPolicy.Policy.RuleText
import ToolPolicy.Record.Field

/-!
# Entries of rule lists

An entry of a rule list is a text, or a mapping with the text under `rule` and perhaps a reason and
flags; in a program it may also be given as a record. `RuleEntry.parse` turns an entry into a rule
or says why it is none; `RuleEntry.parse?` writes that into the log instead. Patterns are compiled
through a cache: the pattern for the tool first, then the pattern for the content.

Main statement: `parse_of_ofEntry` (after reading the entry its form no longer matters).
-/

namespace ToolPolicy

open Regex (Pattern)

instance : Matching Pattern (Except Fault) := ⟨Pattern.isFoundIn⟩

/-- A rule as it is written in a mapping. -/
structure RuleEntry where
  rule : Option Text := none
  reason : Option Text := none
  flags : Option Text := none
  deriving DecidableEq, Repr

/-- What may stand in a list of rules. -/
inductive Entry where
  | record (e : RuleEntry)
  | value (v : Value)
  deriving Repr

namespace RuleEntry

/-- A rule from the fields of a mapping. -/
def ofFields (fields : List (Value × Value)) : Record.Checked RuleEntry :=
  let rule := Record.atField "rule" (Record.readText? (Value.field? "rule" fields))
  let reason := Record.atField "reason" (Record.readText? (Value.field? "reason" fields))
  let flags := Record.atField "flags" (Record.readText? (Value.field? "flags" fields))
  match rule, reason, flags with
  | .ok rule, .ok reason, .ok flags => .ok { rule, reason, flags }
  | _, _, _ =>
    .error (Record.problemsOf rule ++ Record.problemsOf reason ++ Record.problemsOf flags)

/-- A rule from a mapping. -/
def ofValue (v : Value) : Record.Checked RuleEntry := do
  ofFields (← Record.readFields "RuleEntry" v)

/-- The error of an entry that has no usable form. -/
def malformed (category : Option Text) (rule message : Text) : RuleFailure :=
  ⟨.make (.rule rule category) message, none⟩

/-- The record for an entry in any of its forms. -/
def ofEntry (category : Option Text) : Entry → Except RuleFailure RuleEntry
  | .record e => .ok e
  | .value (.str t) => .ok { rule := some t }
  | .value (.mapping fields) =>
    match ofFields fields with
    | .ok e => .ok e
    | .error problems =>
      let rule := ((Value.field? "rule" fields).bind Value.asText?).getD []
      .error (malformed category rule
        ("Malformed rule entry: " ++ Problem.firstMessage problems))
  | .value v =>
    .error (malformed category []
      ("Rule entry must be a string or an object, got " ++ v.kind))

/-- The text of a rule, if the entry has one that is not empty. -/
def text? (e : RuleEntry) : Option Text := e.rule.filter fun t => !t.isEmpty

/-- The failure of a rule whose pattern does not compile. -/
def patternFailure (category : Option Text) (raw : Text) (cause : PolicyError) : RuleFailure :=
  ⟨.make (.rule raw category) ("Invalid rule " ++ Text.quote raw ++ ": " ++ cause.message) 0
    cause.suggestion, some cause⟩

/-- Compiles the two patterns of a rule, the one for the tool first. -/
def compile (cache : PatternCache) (tool content flags : Text) :
    PatternCache × Except CompileFailure (Pattern × Pattern) :=
  match cache.compile (RuleText.anchor tool) [] with
  | (cache, .error e) => (cache, .error e)
  | (cache, .ok toolPattern) =>
    match cache.compile content flags with
    | (cache, .error e) => (cache, .error e)
    | (cache, .ok contentPattern) => (cache, .ok (toolPattern, contentPattern))

/-- The result of parsing one entry: the cache afterwards, and the rule or the failure. -/
abbrev Parsing (α : Type) := PatternCache × Logged α

/-- Parses the rule of a record with a rule text. -/
def parseText (cache : PatternCache) (category : Option Text) (raw : Text) (e : RuleEntry) :
    Parsing (Except RuleFailure (Rule Pattern)) :=
  match RuleText.split? raw with
  | none => (cache, pure (.error ⟨.make (.shape raw category), none⟩))
  | some (tool, content) =>
    let flags := Flags.stripLogged e.flags raw
    match compile cache tool content (Flags.strip (e.flags.getD [])) with
    | (cache, .error (.fault f)) => (cache, do let _ ← flags; Logged.fail f)
    | (cache, .error (.error cause)) =>
      (cache, do let _ ← flags; return .error (patternFailure category raw cause))
    | (cache, .ok (tool, content)) =>
      (cache, do let _ ← flags; return .ok { tool, content, reason := e.reason, raw })

/-- Parses a record. -/
def parseRecord (cache : PatternCache) (category : Option Text) (e : RuleEntry) :
    Parsing (Except RuleFailure (Rule Pattern)) :=
  match e.text? with
  | none => (cache, pure (.error ⟨.make (.empty [] category), none⟩))
  | some raw => parseText cache category raw e

/-- Parses an entry, or says why it is no rule. -/
def parse (cache : PatternCache) (category : Option Text) (entry : Entry) :
    Parsing (Except RuleFailure (Rule Pattern)) :=
  match ofEntry category entry with
  | .error failure => (cache, pure (.error failure))
  | .ok e => parseRecord cache category e

/-- The warning for an entry that is left out. -/
def skippedWarning (e : PolicyError) (rule : Text) : LogRecord :=
  ⟨.warning, "Skipping invalid rule: " ++ (if rule.isEmpty then e.message else rule)⟩

/-- What the log says about an entry that is left out. -/
def dropRecords (failure : RuleFailure) : List LogRecord :=
  let nestedRecords := match failure.cause.map (·.topic) with
    | some (.nested pattern _) => [PatternCache.nestedWarning pattern]
    | _ => []
  let rule : Text := match failure.error.topic with
    | .rule rule _ => rule
    | .shape rule _ => rule
    | .empty rule _ => rule
    | _ => []
  nestedRecords ++ [skippedWarning failure.error rule, ⟨.debug, failure.error.display⟩]

/-- Turns a failure into records of the log. -/
def logFailure : Except RuleFailure (Rule Pattern) → Logged (Option (Rule Pattern))
  | .ok rule => pure (some rule)
  | .error failure => ⟨dropRecords failure, .ok none⟩

/-- Parses an entry, or says in the log why it is left out. -/
def parse? (cache : PatternCache) (category : Option Text) (entry : Entry) :
    Parsing (Option (Rule Pattern)) :=
  let (cache, outcome) := parse cache category entry
  (cache, outcome >>= logFailure)

theorem parse_of_ofEntry {category : Option Text} {entry : Entry} {e : RuleEntry}
    (h : ofEntry category entry = .ok e) (cache : PatternCache) :
    parse cache category entry = parseRecord cache category e := by
  simp [parse, h]

end RuleEntry

end ToolPolicy
