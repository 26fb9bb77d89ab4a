import ToolPolicy.Proofs.CheckPrediction
import ToolPolicy.Proofs.SelectedContent

/-!
# Checking with a content

The content that `check` is given goes among the arguments that it is given as an
object. If it counts, it is all that the rules see of them, so `check` does the same
with every object and without one.

* `Check.decide_arguments`: the decision about arguments with a content is the
  decision about the content.
* `Run.check_of_counts`: what `check` does with a content that counts.
* `given_content_is_seen`: what rules see, with a content and without one.
-/

namespace ToolPolicy

namespace Check

/-- The decision of the rules in permissions about a content of a tool. -/
def decideContent (p : Permissions) (tool t : Text) : Logged Decision := do
  let rules ← p.rules
  Logged.lift (rules.evaluateContent tool (some t))

theorem decide_arguments (p : Permissions) {tool t : Text} (h : Content.Counts tool t)
    (fields : List (Value × Value)) :
    decide p tool (arguments tool (some t) fields) = decideContent p tool t := by
  simp only [decide, decideContent, RuleSet.evaluate, Content.content?_arguments_iff.2 h]

end Check

/-- With a content that counts, the object that `check` is given has no
influence on what it does. -/
theorem Run.check_of_counts (s : Setting) {o : CheckOptions} {t : Text}
    {fields : List (Value × Value)}
    (hcontent : o.content = some t) (hinput : Check.readInput o.input = .ok (.ok fields))
    (h : Content.Counts o.tool t) : check s o = (do
      let p ← load s o.source o.isJson
      let d ← Printing.ofLogged (Check.decideContent p o.tool t)
      tell o.tool o.isJson d) := by
  rw [check_of_fields s hinput, hcontent]
  simp only [Check.decide_arguments _ h]

namespace Content

/-- **What rules see.** For every tool: a content that is given is seen, whatever the arguments are,
exactly if it is not empty or the tool has a field in the table, and then `check` decides about this
content and tells the decision, whatever object it is given. Without a content, what is seen of the
arguments is the text under the field of the tool, or for a tool that has none the first full text
under one of the usual names. -/
theorem given_content_is_seen (tool : Text) :
    (∀ t arguments, content? tool (Check.arguments tool (some t) arguments) = some t ↔
      Counts tool t) ∧
    (∀ t s input fields source isJson, Counts tool t → Check.readInput input = .ok (.ok fields) →
      Run.check s ⟨tool, some t, input, source, isJson⟩ = (do
        let p ← Run.load s source isJson
        let d ← Printing.ofLogged (Check.decideContent p tool t)
        Run.tell tool isJson d)) ∧
    ∀ arguments t, content? tool arguments = some t ↔ Selected tool arguments t := by
  refine ⟨?_, ?_, ?_⟩
  · intro t arguments
    exact content?_arguments_iff
  · intro t s input fields source isJson hcounts hinput
    exact Run.check_of_counts s rfl hinput hcounts
  · intro arguments t
    exact content?_eq_some_iff

/-- An object with a command that is no text, behind another argument. -/
def crowdedInput : Text := "\x7b\"url\": \"u\", \"command\": 1\x7d"

/-- A command beside these arguments is what rules see, although the tool
has no field of its own. -/
theorem given_content_is_seen_crowded :
    Counts "Task" "ls" ∧
      Check.readInput (some crowdedInput) =
        .ok (.ok [(.str "url", .str "u"), (.str "command", .int 1)]) ∧
      Run.check Lint.strictSetting ⟨"Task", some "ls", some crowdedInput,
        .scopes none none, true⟩ = (do
        let p ← Run.load Lint.strictSetting (.scopes none none) true
        let d ← Printing.ofLogged (Check.decideContent p "Task" "ls")
        Run.tell "Task" true d) := by
  have hcounts : Counts "Task" "ls" := .inl (by decide)
  have hread : Json.read crowdedInput =
    .ok (.mapping [(.str "url", .str "u"), (.str "command", .int 1)]) := by cbv
  have hinput := Check.readInput_of_mapping hread
  exact ⟨hcounts, hinput, (given_content_is_seen "Task").2.1 _ _ _ _ _ _ hcounts hinput⟩

end Content

end ToolPolicy
