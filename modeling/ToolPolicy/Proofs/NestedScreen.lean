import ToolPolicy.Proofs.CacheHistory
import ToolPolicy.Proofs.Preparation
import ToolPolicy.Proofs.ToolAnchor

/-!
# What the screen for nested repetition lets through

Before a pattern is compiled its text is searched for a group that holds one repeated atom and is
repeated itself. An atom is meant to be a single code point or a backslash with the code point
that it escapes. The search finds all of these but one: it does not see a backslash with a line
feed, which its own `.` does not match. A pattern that comes from a cache has been searched when
it was compiled, so this is all that can be found in a rule.

* `Repeats`: what is to be found, with any code point after the backslash.
* `isSafe_iff`: what the search leaves.
* `isSafe_anchor`: no pattern for a tool is ever refused.
* `accepted_iff_screened`: what an accepted rule is, after any history of a cache.
-/

namespace ToolPolicy

open Regex (Pattern)

/-! ## The search -/

namespace Safety

/-- One atom: a code point that stands for itself, or a backslash with any code point. -/
inductive IsAtom : Text → Prop where
  | single {c : CodePoint} (h : c ≠ 41 ∧ c ≠ 92) : IsAtom [c]
  | escaped (c : CodePoint) : IsAtom [92, c]

/-- Whether an atom is repeated somewhere in a pattern, alone in a group that is itself
repeated. -/
def Repeats (pattern atom : Text) : Prop :=
  IsAtom atom ∧ ∃ before q r after, pattern = before ++ 40 :: atom ++ q :: 41 :: r :: after ∧
    isRepeat q = true ∧ isOuterRepeat r = true

/-- The atom that the search does not know. -/
def escapedFeed : Text := [92, 10]

theorem atom_iff {atom : Text} : Atom atom ↔ IsAtom atom ∧ atom ≠ escapedFeed := by
  constructor
  · intro h
    cases h with
    | plain h => exact ⟨.single h, by simp [escapedFeed]⟩
    | @escape c h => exact ⟨.escaped c, by simpa [escapedFeed] using h⟩
  · rintro ⟨h, hne⟩
    cases h with
    | single h => exact .plain h
    | escaped c => exact .escape fun hc => hne (by rw [hc, escapedFeed])

/-- The search passes a text exactly if a backslash with a line feed is the only atom that is
repeated in the way it looks for. -/
theorem isSafe_iff (t : Text) : isSafe t = true ↔ ∀ atom, Repeats t atom → atom = escapedFeed := by
  rw [← Bool.not_eq_false, isSafe_eq_false_iff]
  constructor
  · rintro hfree atom ⟨hatom, before, q, r, after, ht, hq, hr⟩
    by_contra hne
    exact hfree ⟨before, atom, q, r, after, ht, atom_iff.2 ⟨hatom, hne⟩, hq, hr⟩
  · rintro hall ⟨before, atom, q, r, after, ht, hatom, hq, hr⟩
    obtain ⟨hmeant, hne⟩ := atom_iff.1 hatom
    exact hne (hall atom ⟨hmeant, before, q, r, after, ht, hq, hr⟩)

theorem isSafe_cons_of_ne {c : CodePoint} (h : c ≠ 40) (rest : Text) :
    isSafe (c :: rest) = isSafe rest := by
  cases rest with
  | nil => rfl
  | cons d more => simp [isSafe, startsNested, h]

theorem isSafe_of_notMem {t : Text} (h : 40 ∉ t) : isSafe t = true := by
  induction t with
  | nil => rfl
  | cons c rest ih =>
      obtain ⟨hc, hrest⟩ := not_or.1 (mt List.mem_cons.2 h)
      rw [isSafe_cons_of_ne (Ne.symm hc)]
      exact ih hrest

/-- The only opening parenthesis around a tool is followed by a question mark and a colon. -/
theorem isSafe_anchor {tool : Text} (h : 40 ∉ tool) : isSafe (RuleText.anchor tool) = true := by
  let rest : Text := tool ++ (")\\Z" : Text)
  have hanchor : RuleText.anchor tool = 92 :: 65 :: 40 :: 63 :: 58 :: rest := by
    simp [RuleText.anchor, Text.ofString, rest]
  have hsafe : isSafe rest = true := by
    refine isSafe_of_notMem fun hmem => ?_
    rcases List.mem_append.1 hmem with hmem | hmem
    · exact h hmem
    · exact absurd hmem (by decide)
  have hstart : startsNested (40 :: 63 :: 58 :: rest) = false := by
    rw [Bool.eq_false_iff, ne_eq, startsNested_iff]
    rintro ⟨atom, q, r, after, heq, hatom, hq, -⟩
    cases hatom <;> simp at heq
    obtain ⟨rfl, rfl, -⟩ := heq
    cases hq
  have hopen : isSafe (40 :: 63 :: 58 :: rest) = true := by
    rw [isSafe, hstart, isSafe_cons_of_ne (by decide), isSafe_cons_of_ne (by decide), hsafe]
    rfl
  rw [hanchor, isSafe_cons_of_ne (by decide), isSafe_cons_of_ne (by decide), hopen]

end Safety

/-! ## Accepted rules -/

theorem Regex.Pattern.compile_source {source : Text} {options : Regex.Flags} {p : Pattern}
    (h : Pattern.compile source options = .ok p) : p.source = source := by
  rw [Pattern.compile] at h
  cases hp : Regex.parse source options with
  | error failure => rw [hp] at h; cases h
  | ok parsed => rw [hp] at h; cases h; rfl

theorem compilePattern_eq_ok_iff {pattern flags : Text} {compiled : Pattern} :
    compilePattern pattern flags = .ok compiled ↔ Safety.isSafe pattern = true ∧
      ∃ options, Flags.options flags = .ok options ∧
        Pattern.compile pattern options = .ok compiled := by
  refine ⟨PatternCache.compilePattern_eq_ok, ?_⟩
  rintro ⟨hsafe, options, hoptions, hcompile⟩
  simp [compilePattern, hsafe, hoptions, hcompile]

namespace RuleEntry

theorem compileAfresh_eq_ok_iff {tool content flags : Text} {p q : Pattern} :
    compileAfresh tool content flags = .ok (p, q) ↔
      compilePattern (RuleText.anchor tool) [] = .ok p ∧ compilePattern content flags = .ok q := by
  rw [compileAfresh]
  cases compilePattern (RuleText.anchor tool) [] with
  | error e => simp [bind, Except.bind]
  | ok p' => cases compilePattern content flags <;> simp [bind, Except.bind, pure, Except.pure]

/-- A rule as an entry gives it when no pattern is refused for its shape: what the entry is read
as, the parts of its text, and the patterns that these compile to. -/
structure Gives (category : Option Text) (entry : Entry) (rule : Rule Pattern) (e : RuleEntry)
    (tool content : Text) (options : Regex.Flags) : Prop where
  record : ofEntry category entry = .ok e
  text : e.text? = some rule.raw
  reason : rule.reason = e.reason
  parts : RuleText.split? rule.raw = some (tool, content)
  toolPattern : Pattern.compile (RuleText.anchor tool) {} = .ok rule.tool
  letters : Flags.options (Flags.strip (e.flags.getD [])) = .ok options
  contentPattern : Pattern.compile content options = .ok rule.content

variable {category : Option Text} {entry : Entry} {rule : Rule Pattern}

theorem gives_of_parse (h : (parse {} category entry).2.result = .ok (.ok rule)) :
    ∃ e tool content options, Gives category entry rule e tool content options ∧
      Safety.isSafe content = true := by
  obtain ⟨e, tool, content, hrecord, htext, hreason, hparts, hpatterns⟩ := parse_rule h
  obtain ⟨htool, hcontent⟩ := compileAfresh_eq_ok_iff.1 hpatterns
  obtain ⟨-, noOptions, hnone, hwrapped⟩ := compilePattern_eq_ok_iff.1 htool
  obtain ⟨hsafe, options, hletters, hcompile⟩ := compilePattern_eq_ok_iff.1 hcontent
  cases hnone
  exact ⟨e, tool, content, options,
    ⟨hrecord, htext, hreason, hparts, hwrapped, hletters, hcompile⟩, hsafe⟩

theorem Gives.parse {e : RuleEntry} {tool content : Text} {options : Regex.Flags}
    (h : Gives category entry rule e tool content options) (hsafe : Safety.isSafe content = true) :
    (parse {} category entry).2.result = .ok (.ok rule) := by
  have hopen : 40 ∉ tool := (RuleText.split?_eq_some_iff.1 h.parts).2.2.1
  have htool : compilePattern (RuleText.anchor tool) [] = .ok rule.tool :=
    compilePattern_eq_ok_iff.2 ⟨Safety.isSafe_anchor hopen, {}, rfl, h.toolPattern⟩
  have hcontent : compilePattern content (Flags.strip (e.flags.getD [])) = .ok rule.content :=
    compilePattern_eq_ok_iff.2 ⟨hsafe, options, h.letters, h.contentPattern⟩
  rw [parse_of_ofEntry h.record, parseRecord, h.text]
  simp only [parseText_result h.parts, compileAfresh_eq_ok_iff.2 ⟨htool, hcontent⟩]
  rw [← h.reason]

/-- **What the screen lets through.**  After any history of requests, an entry is accepted as a
rule exactly if its text and its flags give that rule and, wherever its content pattern has one
repeated atom in a group that is itself repeated, this atom is a backslash with a line feed.  All
other atoms, the escaped ones included, are found at every place. -/
theorem accepted_iff_screened (steps : List CacheStep) (category : Option Text) (entry : Entry)
    (rule : Rule Pattern) :
    (parse (PatternCache.after steps) category entry).2.result = .ok (.ok rule) ↔
      (∃ e tool content options, Gives category entry rule e tool content options) ∧
        ∀ atom, Safety.Repeats rule.content.source atom → atom = Safety.escapedFeed := by
  rw [((PatternCache.sound_after steps).parse category entry).2, ← Safety.isSafe_iff]
  constructor
  · intro h
    obtain ⟨e, tool, content, options, hgives, hsafe⟩ := gives_of_parse h
    refine ⟨⟨e, tool, content, options, hgives⟩, ?_⟩
    rwa [Regex.Pattern.compile_source hgives.contentPattern]
  · rintro ⟨⟨e, tool, content, options, hgives⟩, hsafe⟩
    rw [Regex.Pattern.compile_source hgives.contentPattern] at hsafe
    exact hgives.parse hsafe

/-- A backslash with a line feed, repeated in a group that is repeated, is accepted. -/
theorem escaped_feed_accepted : ∃ rule : Rule Pattern,
    (parse (PatternCache.after []) none (.value (.str "Bash((\\\n+)+)"))).2.result =
    .ok (.ok rule) ∧
      rule.content.source = ("(\\\n+)+" : Text) ∧
        Safety.Repeats rule.content.source [92, 10] := by
  have hsource : ((parse (PatternCache.after []) none
      (.value (.str "Bash((\\\n+)+)"))).2.result.toOption.bind Except.toOption).map
        (fun rule => rule.content.source) = some ("(\\\n+)+" : Text) := by
    decide +kernel
  obtain ⟨rule, hrule, hcontent⟩ := exists_rule hsource
  refine ⟨rule, hrule, hcontent, .escaped 10, [], 43, 43, [], ?_, rfl, rfl⟩
  rw [hcontent]
  rfl

end RuleEntry

end ToolPolicy
