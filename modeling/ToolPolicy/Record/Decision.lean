import ToolPolicy.Policy.Category
import ToolPolicy.Record.Field

/-!
# Decisions

The answer to a request: a verdict or none, with a reason and the rule that decided where there
is one. A decision without a verdict leaves the request to its sender. `Decision.envelope` is
the answer as it is sent.

Main statement: `envelope_eq_nil_iff` (an answer is empty exactly without a verdict).
-/

namespace ToolPolicy

/-- The answer to a request. -/
structure Decision where
  verdict : Option Category := none
  reason : Option Text := none
  /-- The text of the rule that decided. -/
  rule : Option Text := none
  deriving DecidableEq, Repr

namespace Decision

/-- The reason of a denial that has none of its own. -/
def denyReason : Text := "Blocked by regex-permissions deny rule"

/-- The reason of a question that has none of its own. -/
def askReason : Text := "Flagged by regex-permissions ask rule"

/-- A reason, or the given one if it is absent or empty. -/
def reasonOr (fallback : Text) : Option Text → Text
  | none => fallback
  | some t => if t.isEmpty then fallback else t

/-- A denial. -/
def deny (reason rule : Option Text) : Decision :=
  ⟨some .deny, some (reasonOr denyReason reason), rule⟩

/-- A question to the user. -/
def ask (reason rule : Option Text) : Decision :=
  ⟨some .ask, some (reasonOr askReason reason), rule⟩

/-- A permission. -/
def allow (rule : Option Text) : Decision := ⟨some .allow, none, rule⟩

/-- No verdict. -/
def noMatch : Decision := {}

/-- Whether there is a verdict. -/
def isMatched (d : Decision) : Bool := d.verdict.isSome

/-- The word for the verdict. -/
def label (d : Decision) : Text :=
  match d.verdict with
  | some c => c.label
  | none => "passthrough"

/-- The fields of the answer; none without a verdict. -/
def envelope (d : Decision) : List (Value × Value) :=
  match d.verdict with
  | none => []
  | some c =>
    let verdict : List (Text × Value) :=
      [("hookEventName", .str "PreToolUse"), ("permissionDecision", .str c.label)]
    let reason : List (Text × Value) := match d.reason with
      | some r => if r.isEmpty then [] else [("permissionDecisionReason", .str r)]
      | none => []
    [(.str "hookSpecificOutput", .object (verdict ++ reason))]

/-- The answer as a value. -/
def output (d : Decision) : Value := .mapping d.envelope

/-! ## Decisions from values -/

/-- The names of the fields of a decision. -/
def fieldNames : List Text := ["decision", "reason", "rule_matched"]

/-- A verdict, or none. -/
def readVerdict : Option Value → Record.Checked (Option Category)
  | none => .ok none
  | some .null => .ok none
  | some (.str t) =>
    match Category.ofLabel? t with
    | some c => .ok (some c)
    | none => Record.refuse .unknownChoice
  | some _ => Record.refuse .unknownChoice

/-- The problems with keys that are no fields of a decision. -/
def unknownFields (fields : List (Value × Value)) : List Problem :=
  fields.filterMap fun (k, _) => match k with
    | .str t => if fieldNames.contains t then none else some ((Problem.here .unknownField).within t)
    | _ => none

/-- A decision from the fields of a mapping. -/
def ofFields (fields : List (Value × Value)) : Record.Checked Decision :=
  let verdict := Record.atField "decision" (readVerdict (Value.field? "decision" fields))
  let reason := Record.atField "reason" (Record.readText? (Value.field? "reason" fields))
  let rule := Record.atField "rule_matched" (Record.readText? (Value.field? "rule_matched" fields))
  match verdict, reason, rule, unknownFields fields with
  | .ok verdict, .ok reason, .ok rule, [] => .ok { verdict, reason, rule }
  | _, _, _, unknown =>
    .error (Record.problemsOf verdict ++ Record.problemsOf reason ++
      Record.problemsOf rule ++ unknown)

/-- A value, or the given text if it counts as nothing. -/
def valueOr (fallback : Text) (v : Option Value) : Value :=
  match v with
  | some v => if v.isTruthy then v else .str fallback
  | none => .str fallback

/-- The decision of a category, with a reason and a rule that are given as values. -/
def ofCategory (c : Category) (reason rule : Option Value) : Record.Checked Decision :=
  let verdict : List (Text × Value) := [("decision", .str c.label)]
  let reason : List (Text × Value) := match c with
    | .deny => [("reason", valueOr denyReason reason)]
    | .ask => [("reason", valueOr askReason reason)]
    | .allow => []
  let fields := verdict ++ reason ++ [(("rule_matched" : Text), rule.getD .null)]
  ofFields (fields.map fun (name, v) => (.str name, v))

/-- A field of a decision cannot be set. -/
def assign (_ : Decision) (field : Text) : Record.Checked Decision :=
  Record.atField field (Record.refuse .readOnly)

/-! ## Small laws -/

theorem envelope_eq_nil_iff (d : Decision) : d.envelope = [] ↔ d.verdict = none := by
  cases h : d.verdict <;> simp [envelope, h]

theorem label_ne_passthrough_iff (d : Decision) : d.isMatched = true ↔ d.label ≠ "passthrough" := by
  obtain ⟨verdict, reason, rule⟩ := d
  cases verdict with
  | none => simp [isMatched, label]
  | some c => cases c <;> simp [isMatched, label, Category.label] <;> decide

end Decision

end ToolPolicy
