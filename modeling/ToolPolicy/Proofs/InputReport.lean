import Mathlib
import ToolPolicy.Proofs.HookAnswer
import ToolPolicy.Proofs.JsonDigits
import ToolPolicy.Proofs.LintAgreement

/-!
# Inputs that are told of

The arguments that `check` is given come in a text that can be anything. An object in it is decided
about; for every other text an error is printed, with an exit code of its own. What is neither
decided about nor reported is a text with an integer that has too many digits to be converted, and
an object on which the search of a rule ends with a fault.

* `checkArguments_of_fields`, `checkArguments_of_failure`, `checkArguments_of_fault`: what the
  text of an input comes to.
* `TellsDecision`, `ReportsInput`: the two answers.
* `tellsDecision_iff`, `reportsInput_iff`: when each of them is given.
* `input_told_iff`: which inputs are told of, what the others end with, and that too
  many digits show in them.
* `input_untold_digits`: an input that is neither decided about nor reported.
-/

namespace ToolPolicy.Run

open Regex (Pattern)

/-! ## The text of an input -/

section
variable {o : CheckOptions}

theorem checkArguments_of_fields {fields : List (Value × Value)}
    (h : Check.readInput o.input = .ok (.ok fields)) :
    checkArguments o = pure (Check.arguments o.tool o.content fields) := by
  rw [checkArguments, h]
  rfl

theorem checkArguments_of_failure {e : Check.InputFailure}
    (h : Check.readInput o.input = .ok (.error e)) :
    checkArguments o = failWith "input_error" e.message o.isJson := by
  rw [checkArguments, h]
  simp only [Printing.lift, Printing.ofLogged, Logged.lift, bind, Printing.andThen, List.nil_append]

theorem checkArguments_of_fault {f : Fault} (h : Check.readInput o.input = .error f) :
    checkArguments o = Printing.fail f := by
  rw [checkArguments, h]
  rfl

end

/-- What a text comes to as an input: an object, a failure or a fault. -/
theorem readInput_cases (t : Text) :
    (∃ fields, Json.read t = .ok (.mapping fields)) ∨
      ((∀ fields, Json.read t ≠ .ok (.mapping fields)) ∧
        (∀ n, Json.read t ≠ .error (.fault (.tooManyDigits n))) ∧
        ∃ e, Check.readInput (some t) = .ok (.error e)) ∨
      ∃ n, Json.read t = .error (.fault (.tooManyDigits n)) ∧
        Check.readInput (some t) = .error (.tooManyDigits n) := by
  rw [Check.readInput]
  cases hread : Json.read t with
  | ok v =>
    cases v with
    | mapping fields => exact .inl ⟨fields, rfl⟩
    | _ => exact .inr (.inl ⟨fun fields h => (by cases h), fun n h => (by cases h), _, rfl⟩)
  | error failure =>
    cases failure with
    | flaw f => exact .inr (.inl ⟨fun fields h => (by cases h), fun n h => (by cases h), _, rfl⟩)
    | tooDeep isObject =>
        exact .inr (.inl ⟨fun fields h => (by cases h), fun n h => (by cases h), _, rfl⟩)
    | fault f =>
      obtain ⟨n, -, rfl⟩ := Json.read_fault hread
      exact .inr (.inr ⟨n, rfl, rfl⟩)

/-! ## The two answers -/

/-- The decision of rules about the object in a text is all that a run prints,
and the run ends well. -/
def TellsDecision (rules : RuleSet Pattern) (tool : Text) (content : Option Text) (t : Text)
    (r : Outcome) : Prop :=
  ∃ fields d, Json.read t = .ok (.mapping fields) ∧
    rules.evaluate tool (Check.arguments tool content fields) = .ok d ∧
      r.output = Json.writeIndented (decisionValue d) ++ [10] ∧ r.verdict = .exit 0

/-- An error is all that a run prints about a text that is no object, and the run
ends with exit code 1. -/
def ReportsInput (t : Text) (r : Outcome) : Prop :=
  (∀ fields, Json.read t ≠ .ok (.mapping fields)) ∧
    ∃ message : Text, r.output = Json.writeIndented (Value.object
        [("error", .str (Text.ofString "input_error")), ("message", .str message)]) ++ [10] ∧
        r.verdict = .exit 1

section
variable {s : Setting} {o : CheckOptions} {t : Text}

theorem invocation_of_fault {f : Fault} (isVerbose : Bool)
    (hinput : Check.readInput o.input = .error f) :
    (invocation s (.run isVerbose (.check o))).output = [] ∧
      (invocation s (.run isVerbose (.check o))).verdict = .fault f := by
  have harguments : (checkArguments o).result = .error (.fault f) := by
    rw [checkArguments_of_fault hinput]; rfl
  rw [invocation, command, check, Printing.bind_of_error _ harguments,
    checkArguments_of_fault hinput]
  exact ⟨rfl, rfl⟩

theorem invocation_of_failure {e : Check.InputFailure} (isVerbose : Bool) (hjson : o.isJson = true)
    (hinput : Check.readInput o.input = .ok (.error e)) :
    (invocation s (.run isVerbose (.check o))).output = Json.writeIndented (Value.object
        [("error", .str (Text.ofString "input_error")), ("message", .str e.message)]) ++ [10] ∧
      (invocation s (.run isVerbose (.check o))).verdict = .exit 1 := by
  have harguments : (checkArguments o).result = .error (.exit 1) := by
    rw [checkArguments_of_failure hinput, hjson]
    rfl
  rw [invocation, command, check, Printing.bind_of_error _ harguments,
    checkArguments_of_failure hinput, hjson]
  exact ⟨List.append_nil _, rfl⟩

/-- **Reporting an input**, whatever the rules: an error is printed exactly if the text is no
object, and no number in it has too many digits. -/
theorem reportsInput_iff (isVerbose : Bool) (hinput : o.input = some t) (hjson : o.isJson = true) :
    ReportsInput t (invocation s (.run isVerbose (.check o))) ↔
      (∀ fields, Json.read t ≠ .ok (.mapping fields)) ∧
      ∀ n, Json.read t ≠ .error (.fault (.tooManyDigits n)) := by
  obtain ⟨fields, hread⟩ | ⟨hobject, hdigits, e, he⟩ | ⟨n, hread, hfault⟩ := readInput_cases t
  · exact ⟨fun h => absurd hread (h.1 fields), fun h => absurd hread (h.1 fields)⟩
  · have hrun := invocation_of_failure (s := s) isVerbose hjson (hinput ▸ he)
    exact ⟨fun _ => ⟨hobject, hdigits⟩, fun _ => ⟨hobject, _, hrun⟩⟩
  · have hrun := invocation_of_fault (s := s) isVerbose (hinput ▸ hfault)
    refine ⟨fun ⟨_, _, _, hverdict⟩ => ?_, fun h => absurd hread (h.2 n)⟩
    rw [hrun.2] at hverdict
    cases hverdict

variable {p : Permissions} {rules : RuleSet Pattern} {fields : List (Value × Value)}

/-- An object is decided about: the decision is printed and the run ends well, or it ends
as the decision does. -/
theorem invocation_of_fields (isVerbose : Bool) (hjson : o.isJson = true)
    (hinput : Check.readInput o.input = .ok (.ok fields))
    (hload : (load s o.source true).result = .ok p) (hrules : p.rules.result = .ok rules) :
    (∀ d, rules.evaluate o.tool (Check.arguments o.tool o.content fields) = .ok d →
      (invocation s (.run isVerbose (.check o))).output =
      Json.writeIndented (decisionValue d) ++ [10] ∧
        (invocation s (.run isVerbose (.check o))).verdict = .exit 0) ∧
    ∀ f, rules.evaluate o.tool (Check.arguments o.tool o.content fields) = .error f →
      (invocation s (.run isVerbose (.check o))).output = [] ∧
        (invocation s (.run isVerbose (.check o))).verdict = .fault f := by
  have hdecide : (Check.decide p o.tool (Check.arguments o.tool o.content fields)).result =
      rules.evaluate o.tool (Check.arguments o.tool o.content fields) := by
    rw [Check.decide, Logged.result_bind_of_ok _ hrules]
    rfl
  have harguments : (checkArguments o).result = .ok (Check.arguments o.tool o.content fields) := by
    rw [checkArguments_of_fields hinput]
    rfl
  have hnothing : (checkArguments o).output = [] := by
    rw [checkArguments_of_fields hinput]
    rfl
  rw [invocation, command, check, Outcome.ofPrinting, hjson]
  simp only [Printing.output_bind_of_ok _ harguments, Printing.result_bind_of_ok _ harguments,
    Printing.output_bind_of_ok _ hload, Printing.result_bind_of_ok _ hload,
      load_output hload, hnothing,
    List.nil_append, if_true]
  refine ⟨fun d hd => ?_, fun f hf => ?_⟩
  · have hlogged := Printing.result_ofLogged_of_ok (hdecide.trans hd)
    rw [Printing.output_bind_of_ok _ hlogged, Printing.result_bind_of_ok _ hlogged]
    exact ⟨rfl, rfl⟩
  · have hlogged :
      (Printing.ofLogged (Check.decide p o.tool (Check.arguments o.tool o.content fields))).result =
        .error (.fault f) := by
      simp only [Printing.ofLogged, hdecide, hf]
    rw [Printing.bind_of_error _ hlogged]
    exact ⟨rfl, rfl⟩

/-- **Telling a decision**: it is printed exactly if the text is an object on which no search
records a group backwards. -/
theorem tellsDecision_iff (isVerbose : Bool) (hinput : o.input = some t) (hjson : o.isJson = true)
    (hload : (load s o.source true).result = .ok p) (hrules : p.rules.result = .ok rules) :
    TellsDecision rules o.tool o.content t (invocation s (.run isVerbose (.check o))) ↔
      ∃ fields, Json.read t = .ok (.mapping fields) ∧
        rules.evaluate o.tool (Check.arguments o.tool o.content fields) ≠
          .error .reversedGroup := by
  constructor
  · rintro ⟨fields, d, hread, hd, -, -⟩
    refine ⟨fields, hread, fun hreversed => ?_⟩
    rw [hd] at hreversed
    cases hreversed
  · rintro ⟨fields, hread, hsearched⟩
    have hfields : Check.readInput o.input = .ok (.ok fields) :=
      hinput ▸ Check.readInput_of_mapping hread
    obtain ⟨htells, -⟩ := invocation_of_fields isVerbose hjson hfields hload hrules
    cases hd :
      (rules.evaluate o.tool (Check.arguments o.tool o.content fields) : Except Fault Decision) with
    | ok d => exact ⟨fields, d, hread, hd, htells d hd⟩
    | error f => exact absurd (RuleSet.evaluate_error rules o.tool hd ▸ hd) hsearched

end

/-! ## The command line -/

/-- The command line that asks for an answer in JSON about a tool, an input
and perhaps a content. -/
def inputWords (t tool : Text) (content : Option Text) : List Text :=
  "check" :: "--json" :: "--input" :: t :: "--" :: tool :: content.toList

/-- It asks for that, whatever the texts are. -/
theorem ofArguments_inputWords (fs : FileSystem) (t tool : Text) (content : Option Text) :
    Invocation.ofArguments fs (inputWords t tool content) =
      .ok (.run false (.check ⟨tool, content, some t, .scopes none none, true⟩)) := by
  cases content <;> rfl

theorem outcome_inputWords (s : Setting) (t tool : Text) (content : Option Text) :
    outcome s (inputWords t tool content) =
      invocation s (.run false (.check ⟨tool, content, some t, .scopes none none, true⟩)) := by
  rw [outcome, ofArguments_inputWords]

/-! ## Which inputs are told of -/

/-- **Which inputs are told of.** With rules that are loaded and prepared, an input is decided
about or reported exactly if no number in it has too many digits and, where it is an object, no
search for a rule records a group backwards. With any other input nothing is printed and the run
ends with a fault; too many digits stand in the input one after another. The words of the command
line may be any texts. -/
theorem input_told_iff {s : Setting} {o : CheckOptions} {t : Text} {p : Permissions}
    {rules : RuleSet Pattern}
    (isVerbose : Bool) (hinput : o.input = some t) (hjson : o.isJson = true)
    (hload : (load s o.source true).result = .ok p) (hrules : p.rules.result = .ok rules) :
    let r := invocation s (.run isVerbose (.check o))
    let told := TellsDecision rules o.tool o.content t r ∨ ReportsInput t r
    (told ↔ (∀ n, Json.read t ≠ .error (.fault (.tooManyDigits n))) ∧
      ∀ fields, Json.read t = .ok (.mapping fields) →
        rules.evaluate o.tool (Check.arguments o.tool o.content fields) ≠ .error .reversedGroup) ∧
    (¬told → r.output = [] ∧ ((∃ n, t.HasLongNumber n ∧ r.verdict = .fault (.tooManyDigits n)) ∨
      r.verdict = .fault .reversedGroup)) ∧
    ∀ tool content, outcome s (inputWords t tool content) =
      invocation s (.run false (.check ⟨tool, content, some t, .scopes none none, true⟩)) := by
  intro r told
  have htold : told ↔ (∃ fields, Json.read t = .ok (.mapping fields) ∧
      rules.evaluate o.tool (Check.arguments o.tool o.content fields) ≠ .error .reversedGroup) ∨
        (∀ fields, Json.read t ≠ .ok (.mapping fields)) ∧
        ∀ n, Json.read t ≠ .error (.fault (.tooManyDigits n)) :=
    or_congr (tellsDecision_iff isVerbose hinput hjson hload hrules)
      (reportsInput_iff isVerbose hinput hjson)
  refine ⟨htold.trans ⟨?_, ?_⟩, fun huntold => ?_,
    fun tool content => outcome_inputWords s t tool content⟩
  · rintro (⟨fields, hread, hsearched⟩ | ⟨hobject, hdigits⟩)
    · rw [hread]
      refine ⟨fun n h => (by cases h), fun fields' he => ?_⟩
      cases he
      exact hsearched
    · exact ⟨hdigits, fun fields hread => absurd hread (hobject fields)⟩
  · rintro ⟨hdigits, hsearched⟩
    by_cases hobject : ∃ fields, Json.read t = .ok (.mapping fields)
    · obtain ⟨fields, hread⟩ := hobject
      exact .inl ⟨fields, hread, hsearched fields hread⟩
    · exact .inr ⟨not_exists.1 hobject, hdigits⟩
  · rw [htold] at huntold
    obtain ⟨fields, hread⟩ | ⟨hobject, hdigits, -⟩ | ⟨n, hread, hfault⟩ := readInput_cases t
    · have hreversed :
          rules.evaluate o.tool (Check.arguments o.tool o.content fields) =
          .error .reversedGroup := by
        by_contra hsearched
        exact huntold (.inl ⟨fields, hread, hsearched⟩)
      have hfields : Check.readInput o.input = .ok (.ok fields) :=
        hinput ▸ Check.readInput_of_mapping hread
      obtain ⟨houtput, hverdict⟩ :=
        (invocation_of_fields isVerbose hjson hfields hload hrules).2 _ hreversed
      exact ⟨houtput, .inr hverdict⟩
    · exact absurd (.inr ⟨hobject, hdigits⟩) huntold
    · obtain ⟨houtput, hverdict⟩ := invocation_of_fault (s := s) isVerbose (hinput ▸ hfault)
      obtain ⟨m, hm, hlong⟩ := Json.hasLongNumber_of_read hread
      cases hm
      exact ⟨houtput, .inl ⟨n, hlong, hverdict⟩⟩

/-- What is denied to a user by a rule is told as a decision. -/
theorem input_told_denied :
    ∃ p rules, (load Lint.strictSetting (.scopes none none) true).result = .ok p ∧
    p.rules.result = .ok rules ∧
      TellsDecision rules "Bash" none "\x7b\"command\": \"rm\"\x7d"
        (outcome Lint.strictSetting (inputWords "\x7b\"command\": \"rm\"\x7d" "Bash" none)) := by
  let fields : List (Value × Value) := [(.str "command", .str "rm")]
  have hread : Json.read "\x7b\"command\": \"rm\"\x7d" = .ok (.mapping fields) := by cbv
  have hdecided : (load Lint.strictSetting (.scopes none none) true).result.toOption.any
      (fun p => (Check.decide p "Bash" fields).result.toBool) = true := by decide +kernel
  cases hload : (load Lint.strictSetting (.scopes none none) true).result with
  | error e =>
    rw [hload] at hdecided
    cases hdecided
  | ok p =>
    rw [hload] at hdecided
    have hresult : (Check.decide p "Bash" fields).result.toBool = true := hdecided
    rw [Check.decide] at hresult
    cases hrules : p.rules.result with
    | error f =>
      rw [Logged.result_bind, hrules] at hresult
      cases hresult
    | ok rules =>
      rw [Logged.result_bind_of_ok _ hrules] at hresult
      have hsearched :
          rules.evaluate "Bash" fields ≠ (.error .reversedGroup : Except Fault Decision) := by
        intro hreversed
        rw [Logged.lift, hreversed] at hresult
        cases hresult
      have htold := input_told_iff
        (o := ⟨"Bash", none, some "\x7b\"command\": \"rm\"\x7d", .scopes none none, true⟩)
        false rfl rfl hload hrules
      refine ⟨p, rules, rfl, hrules, ?_⟩
      rw [htold.2.2]
      refine (htold.1.2 ⟨fun n hn => ?_, fun fields' he => ?_⟩).resolve_right fun h =>
        h.1 fields hread
      · rw [hread] at hn
        cases hn
      · rw [hread] at he
        cases he
        exact hsearched

/-- An object with a number of 4301 digits. -/
def manyDigits : Text :=
  Text.ofString "\x7b\"a\": " ++ List.replicate 4301 49 ++ Text.ofString "\x7d"

/-- An object with too many digits in it is neither decided about nor reported, although
there are no rules at all. -/
theorem input_untold_digits :
    let s : Setting := ⟨.empty [], ⟨0, ["h"]⟩, [], []⟩
    let r := outcome s (inputWords manyDigits "Bash" none)
    ∃ p rules, (load s (.scopes none none) true).result = .ok p ∧ p.rules.result = .ok rules ∧
      ¬TellsDecision rules "Bash" none manyDigits r ∧ ¬ReportsInput manyDigits r := by
  intro s r
  have hverdict : r.verdict = .fault (.tooManyDigits 4301) := by decide +kernel
  refine ⟨_, _, rfl, rfl, ?_, ?_⟩
  · rintro ⟨fields, d, -, -, -, hexit⟩
    rw [hverdict] at hexit
    cases hexit
  · rintro ⟨-, message, -, hexit⟩
    rw [hverdict] at hexit
    cases hexit

end ToolPolicy.Run
