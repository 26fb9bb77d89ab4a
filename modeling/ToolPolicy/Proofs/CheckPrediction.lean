import ToolPolicy.Proofs.InputReport
import ToolPolicy.Proofs.RequestInfluence

/-!
# What a check says about the hook

The arguments of a use of a tool come to `check` in pieces, as an object and a content, and to the
hook as one request. The two then go different ways: a request is read as a record, and rules that
are none are not even asked. Still the decision is the same, with the same log, and where one of
them ends with a fault so does the other.

* `Printing.ofLogged_bind`: work that prints nothing may be done in one go.
* `Run.check_of_fields`, `Run.check_of_readInput`: what `check` does with
  arguments that can be read.
* `Hook.answer_eq_check`: the answer to a request is that of the decision of `check`.
-/

namespace ToolPolicy

theorem Printing.ofLogged_bind {α β : Type} (l : Logged α) (f : α → Logged β) :
    ofLogged (l >>= f) = ofLogged l >>= fun a => ofLogged (f a) := by
  obtain ⟨log, result⟩ := l
  cases result with
  | error fault => rfl
  | ok a => rfl

theorem Printing.bind_assoc {α β γ : Type} (p : Printing α) (f : α → Printing β)
    (g : β → Printing γ) : p >>= f >>= g = p >>= fun a => f a >>= g := by
  obtain ⟨output, log, result⟩ := p
  cases result with
  | error ending => rfl
  | ok a =>
      simp only [bind, andThen]
      cases (f a).result <;> simp

namespace Check

/-- The decision about a use of a tool, of the rules of a project and of the user. -/
def decision (fs : FileSystem) (home project : Path) (tool : Text)
    (arguments : List (Value × Value)) : Logged Decision := do
  decide (← Scope.load fs home (some project)) tool arguments

/-- Rules decide about a request as they decide about a use of its tool. -/
theorem decision_eq_evaluate (fs : FileSystem) (home : Path) {cwd : Text} (hcwd : cwd ≠ [])
    (tool : Text) (arguments : List (Value × Value)) :
    decision fs home (Path.ofText cwd) tool arguments =
      Hook.evaluate fs home ⟨tool, arguments, some cwd⟩ := by
  simp only [decision, decide, Hook.evaluate, Scope.rules, Scope.project?_some hcwd, bind_assoc,
    Hook.decide_eq_evaluate]

end Check

namespace Run

/-- What `check` says about a decision. -/
def tell (tool : Text) (isJson : Bool) (d : Decision) : Printing Unit :=
  if isJson then Printing.write (Json.writeIndented (decisionValue d)) else sayDecision tool d

/-- Arguments that can be read are decided about, and then the decision is told. -/
theorem check_of_fields (s : Setting) {o : CheckOptions} {fields : List (Value × Value)}
    (hinput : Check.readInput o.input = .ok (.ok fields)) : check s o = (do
      let p ← load s o.source o.isJson
      let d ← Printing.ofLogged (Check.decide p o.tool (Check.arguments o.tool o.content fields))
      tell o.tool o.isJson d) := by
  rw [check, checkArguments_of_fields hinput]
  rfl

theorem check_of_readInput (s : Setting) {o : CheckOptions} {project home : Option Path}
    {fields : List (Value × Value)} (hsource : o.source = .scopes project home)
    (hinput : Check.readInput o.input = .ok (.ok fields)) :
    check s o = Printing.ofLogged (Check.decision s.files (home.getD s.home) (projectOf s project)
      o.tool (Check.arguments o.tool o.content fields)) >>= tell o.tool o.isJson := by
  rw [check_of_fields s hinput, hsource, Check.decision, Printing.ofLogged_bind,
    Printing.bind_assoc]
  rfl

end Run

namespace Hook

section
variable {fields request : List (Value × Value)} {tool cwd t : Text} {content input : Option Text}

/-- **What `check` says about the hook.** The answer to a request, in whatever text it comes,
with the object that `check` is given for its arguments, and in it the content under the main
argument of the tool, is the envelope of the decision that `check` makes and tells; or both
end with the same fault. -/
theorem answer_eq_check (fs : FileSystem) (home : Path) (hne : tool ≠ [])
    (hscalar : tool.isScalar = true) (hcwd : cwd ≠ [])
    (hinput : Check.readInput input = .ok (.ok fields))
    (hread : Json.read t = .ok (.mapping request))
    (htool : Value.field? "tool_name" request = some (.str tool))
    (harguments : Value.field? "tool_input" request =
      some (.mapping (Check.arguments tool content fields)))
    (hdirectory : Value.field? "cwd" request = some (.str cwd)) :
    (answer fs home t = do
      return (← Check.decision fs home (Path.ofText cwd) tool
        (Check.arguments tool content fields)).envelope) ∧
    ∀ environment standardInput isJson, Run.check ⟨fs, home, environment, standardInput⟩
        ⟨tool, content, input, .scopes (some (Path.ofText cwd)) none, isJson⟩ =
      Printing.ofLogged (Check.decision fs home (Path.ofText cwd) tool
        (Check.arguments tool content fields)) >>= Run.tell tool isJson := by
  constructor
  · have hfields : (Value.field? "cwd" request).getD .null = .ofText? (some cwd) := by
      rw [hdirectory]
      rfl
    rw [answer_of_fields fs home hread hne hscalar htool harguments hfields,
      Check.decision_eq_evaluate fs home hcwd]
  · intro environment standardInput isJson
    rw [Run.check_of_readInput _ rfl hinput]
    rfl

end

/-- What is denied to a request is denied by `check`. -/
theorem answer_eq_check_denied :
    answer strictHome ⟨0, ["h"]⟩ projectRequest = do
      return (← Check.decision strictHome ⟨0, ["h"]⟩ (Path.ofText "p") "a"
        (Check.arguments "a" (some "b") [])).envelope := by
  have hread : Json.read projectRequest = .ok (.mapping projectFields) := by cbv
  have harguments : Value.field? "tool_input" projectFields =
      some (.mapping (Check.arguments "a" (some "b") [])) := by cbv
  exact (answer_eq_check strictHome ⟨0, ["h"]⟩ (by decide) (by decide) (by decide)
    Check.readInput_none hread (by cbv) harguments (by cbv)).1

end Hook

end ToolPolicy
