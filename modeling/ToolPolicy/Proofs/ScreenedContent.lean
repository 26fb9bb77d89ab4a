import ToolPolicy.Proofs.DroppedEntries

/-!
# Only contents are screened out

Both patterns of a rule pass the screen for nested repetition before they are compiled, but it only
ever refuses the one for the content: the one opening parenthesis around the pattern for a tool is
followed by no atom. By the time a content is screened, the pattern for its tool is compiled and
kept. An entry that fails before that leaves nothing behind, and one that fails after it leaves that
pattern and nothing else.

* `StopsEarly`, `ReachesContent`: how far the parsing of an entry gets; `stopsEarly_iff` says
  that it is one of these.
* `find?_compile`, `find?_compile_of_find?`: what a cache holds after a pattern
  was compiled through it.
* `StopsEarly.parse_fst`, `ReachesContent.parse_fst`: what the parsing of an entry makes of a cache.
* `isScreening_iff`: which failures are due to the screen.
* `only_contents_screened_out`: all of this, after any history of requests.
-/

namespace ToolPolicy

open Regex (Pattern)

/-! ## What a cache holds after compiling -/

namespace PatternCache

variable {cache : PatternCache} {pattern flags : Text} {p : Pattern}

/-- A pattern that compiles is in the cache afterwards. -/
theorem Sound.find?_compile (h : cache.Sound) (hp : compilePattern pattern flags = .ok p) :
    (cache.compile pattern flags).1.find? pattern flags = some p := by
  cases hfound : cache.find? pattern flags with
  | some compiled =>
      have hcompiled := h.compilePattern_of_find? hfound
      cases hp.symm.trans hcompiled
      rw [compile_of_find? hfound, hfound]
  | none =>
      simp only [compile, hfound, hp]
      exact find?_insert_self hfound p

/-- Compiling takes nothing out of a cache. -/
theorem find?_compile_of_find? (h : cache.find? pattern flags = some p) (other letters : Text) :
    (cache.compile other letters).1.find? pattern flags = some p := by
  cases hfound : cache.find? other letters with
  | some compiled => rw [compile_of_find? hfound, h]
  | none =>
      have hne : (letters, other) ≠ (flags, pattern) := by
        rintro ⟨⟩
        cases hfound.symm.trans h
      rw [compile, hfound]
      cases compilePattern other letters with
      | error failure => exact h
      | ok compiled => exact (find?_insert_of_ne hne compiled).trans h

theorem Sound.compile_of_error (h : cache.Sound) {failure : CompileFailure}
    (hp : compilePattern pattern flags = .error failure) :
    cache.compile pattern flags = (cache, .error failure) := by
  have hresult := (h.compile_snd pattern flags).trans hp
  exact Prod.ext (cache_of_error hresult) hresult

end PatternCache

/-! ## How far the parsing of an entry gets -/

/-- Only the errors of the screen have this kind. -/
theorem PolicyError.Topic.kind_eq_iff {topic : Topic} :
    topic.kind = "UnsafePatternError" ↔ ∃ pattern flags, topic = .nested pattern flags := by
  cases topic <;> simp [kind, kinds, Text.ofString]

/-- A failure that is due to the screen: the error that led to it is of this kind. -/
def RuleFailure.IsScreening (failure : RuleFailure) : Prop :=
  ∃ cause, failure.cause = some cause ∧ cause.kind = "UnsafePatternError"

namespace RuleEntry

/-- The parsing of an entry stops before it gets to the content of its rule: the entry
cannot be read, it has no rule text, the text has no two parts, or the pattern for the
tool does not compile. -/
inductive StopsEarly (category : Option Text) (entry : Entry) : Prop where
  | reading {failure : RuleFailure} (read : ofEntry category entry = .error failure) :
      StopsEarly category entry
  | empty {e : RuleEntry} (read : ofEntry category entry = .ok e) (text : e.text? = none) :
      StopsEarly category entry
  | shape {e : RuleEntry} {raw : Text} (read : ofEntry category entry = .ok e)
      (text : e.text? = some raw) (parts : RuleText.split? raw = none) : StopsEarly category entry
  | tool {e : RuleEntry} {raw tool content : Text} {failure : Regex.Failure}
      (read : ofEntry category entry = .ok e) (text : e.text? = some raw)
      (parts : RuleText.split? raw = some (tool, content))
      (compiles : Pattern.compile (RuleText.anchor tool) {} = .error failure) :
      StopsEarly category entry

/-- The parsing of an entry gets to the content of its rule: the text of the rule has two parts, and
the pattern for the tool compiles. -/
structure ReachesContent (category : Option Text) (entry : Entry) (e : RuleEntry)
    (raw tool content : Text) (p : Pattern) : Prop where
  read : ofEntry category entry = .ok e
  text : e.text? = some raw
  parts : RuleText.split? raw = some (tool, content)
  compiles : Pattern.compile (RuleText.anchor tool) {} = .ok p

section
variable {category : Option Text} {entry : Entry} {e : RuleEntry}
    {raw tool content : Text} {p : Pattern}
  {cache : PatternCache}

/-- The parsing of an entry stops early unless it gets to a content. -/
theorem stopsEarly_iff : StopsEarly category entry ↔
    ¬∃ e raw tool content p, ReachesContent category entry e raw tool content p := by
  constructor
  · rintro h ⟨e, raw, tool, content, p, hreaches⟩
    cases h with
    | reading read => cases read.symm.trans hreaches.read
    | empty read text =>
        cases read.symm.trans hreaches.read
        cases text.symm.trans hreaches.text
    | shape read text parts =>
        cases read.symm.trans hreaches.read
        cases text.symm.trans hreaches.text
        cases parts.symm.trans hreaches.parts
    | tool read text parts compiles =>
        cases read.symm.trans hreaches.read
        cases text.symm.trans hreaches.text
        cases parts.symm.trans hreaches.parts
        cases compiles.symm.trans hreaches.compiles
  · intro hno
    cases hread : ofEntry category entry with
    | error failure => exact .reading hread
    | ok e =>
        cases htext : e.text? with
        | none => exact .empty hread htext
        | some raw =>
            cases hparts : RuleText.split? raw with
            | none => exact .shape hread htext hparts
            | some parts =>
                obtain ⟨tool, content⟩ := parts
                cases hcompiles : Pattern.compile (RuleText.anchor tool) {} with
                | error failure => exact .tool hread htext hparts hcompiles
                | ok p =>
                    exact absurd ⟨e, raw, tool, content, p, hread, htext, hparts, hcompiles⟩ hno

theorem isSafe_of_split? (h : RuleText.split? raw = some (tool, content)) :
    Safety.isSafe (RuleText.anchor tool) = true :=
  Safety.isSafe_anchor (RuleText.compose_of_split? h).2.2.1

/-! ## What parsing makes of a cache -/

/-- The cache after parsing a rule text with two parts is the one after
compiling its two patterns. -/
theorem parse_fst_of_parts (hread : ofEntry category entry = .ok e) (htext : e.text? = some raw)
    (hparts : RuleText.split? raw = some (tool, content)) (cache : PatternCache) :
    (parse cache category entry).1 = (compile cache tool content (Flags.strip e.letters)).1 := by
  rw [parse_of_ofEntry hread, parseRecord, htext]
  simp only [parseText, hparts]
  rcases compile cache tool content (Flags.strip e.letters) with ⟨after, (cause | f) | patterns⟩
  all_goals rfl

/-- An entry that stops early leaves the cache as it was. -/
theorem StopsEarly.parse_fst (h : StopsEarly category entry) (hsound : cache.Sound) :
    (parse cache category entry).1 = cache := by
  cases h with
  | reading read => rw [parse, read]
  | empty read text => rw [parse_of_ofEntry read, parseRecord, text]
  | shape read text parts =>
      rw [parse_of_ofEntry read, parseRecord, text]
      simp only [parseText, parts]
  | @tool e raw tool content failure read text parts compiles =>
      have hopen : 40 ∉ tool := (RuleText.compose_of_split? parts).2.2.1
      rw [parse_fst_of_parts read text parts, compile]
      cases hfresh : compilePattern (RuleText.anchor tool) [] with
      | ok p => cases compiles.symm.trans (((compilePattern_anchor hopen).1 p).1 hfresh)
      | error refusal => rw [hsound.compile_of_error hfresh]

namespace ReachesContent

theorem compilePattern_tool (h : ReachesContent category entry e raw tool content p) :
    compilePattern (RuleText.anchor tool) [] = .ok p := by
  have hopen : 40 ∉ tool := (RuleText.compose_of_split? h.parts).2.2.1
  exact ((compilePattern_anchor hopen).1 p).2 h.compiles

/-- An entry that gets to its content leaves the pattern for its tool, and perhaps
the one for its content. -/
theorem parse_fst (h : ReachesContent category entry e raw tool content p) (hsound : cache.Sound) :
    (parse cache category entry).1 =
      ((cache.compile (RuleText.anchor tool) []).1.compile content (Flags.strip e.letters)).1 := by
  have hresult := (hsound.compile_snd (RuleText.anchor tool) []).trans h.compilePattern_tool
  rw [parse_fst_of_parts h.read h.text h.parts, compile]
  revert hresult
  rcases cache.compile (RuleText.anchor tool) [] with ⟨first, outcome⟩
  rintro rfl
  simp only
  rcases first.compile content (Flags.strip e.letters) with ⟨second, _ | contentPattern⟩
  · rfl
  · rfl

/-- By then the pattern for the tool is in the cache. -/
theorem find?_parse (h : ReachesContent category entry e raw tool content p)
    (hsound : cache.Sound) :
    (parse cache category entry).1.find? (RuleText.anchor tool) [] = some p := by
  rw [h.parse_fst hsound]
  exact PatternCache.find?_compile_of_find? (hsound.find?_compile h.compilePattern_tool) _ _

/-- What an entry comes to that gets to its content is what the content comes to. -/
theorem parse_result (h : ReachesContent category entry e raw tool content p) :
    (parse {} category entry).2.result = match compilePattern content (Flags.strip e.letters) with
      | .ok q => .ok (.ok { tool := p, content := q, reason := e.reason, raw })
      | .error (.error cause) => .ok (.error (patternFailure category raw cause))
      | .error (.fault f) => .error f := by
  have hpatterns : compileAfresh tool content (Flags.strip e.letters) =
      (compilePattern content (Flags.strip e.letters)).map fun q => (p, q) := by
    rw [compileAfresh, h.compilePattern_tool]
    cases compilePattern content (Flags.strip e.letters) <;> rfl
  rw [parse_of_ofEntry h.read, parseRecord, h.text]
  simp only [parseText_result h.parts, hpatterns]
  rcases compilePattern content (Flags.strip e.letters) with (cause | f) | q
  all_goals rfl

/-- An entry that fails at its content leaves the pattern for its tool and nothing else. -/
theorem parse_fst_of_fails (h : ReachesContent category entry e raw tool content p)
    (hsound : cache.Sound) (hfails : ∀ rule, (parse {} category entry).2.result ≠ .ok (.ok rule)) :
    (parse cache category entry).1 = (cache.compile (RuleText.anchor tool) []).1 := by
  cases hcontent : compilePattern content (Flags.strip e.letters) with
  | ok q =>
      refine absurd ?_ (hfails { tool := p, content := q, reason := e.reason, raw })
      rw [h.parse_result, hcontent]
  | error refusal =>
      have hfirst := hsound.compile_fst (RuleText.anchor tool) []
      rw [h.parse_fst hsound, PatternCache.Sound.compile_of_error hfirst hcontent]

end ReachesContent

/-- A rule is made of an entry that gets to its content. -/
theorem StopsEarly.ne_rule (h : StopsEarly category entry) (rule : Rule Pattern) :
    (parse {} category entry).2.result ≠ .ok (.ok rule) := by
  intro hrule
  obtain ⟨e, tool, content, hread, htext, -, hparts, hpatterns⟩ := parse_rule hrule
  have hopen : 40 ∉ tool := (RuleText.compose_of_split? hparts).2.2.1
  have htool :=
    ((compilePattern_anchor hopen).1 rule.tool).1 (compileAfresh_eq_ok_iff.1 hpatterns).1
  exact stopsEarly_iff.1 h ⟨e, rule.raw, tool, content, rule.tool, hread, htext, hparts, htool⟩

/-! ## Failures that are due to the screen -/

theorem cause_of_reading {failure : RuleFailure} (h : ofEntry category entry = .error failure) :
    failure.cause = none := by
  cases entry with
  | record e => cases h
  | value v =>
      obtain ⟨message, rfl⟩ := reading_failure h
      rfl

/-- A failure is due to the screen exactly if the content that the entry gets to has the shape that
is refused; the error that led to it is about this content. -/
theorem isScreening_iff {failure : RuleFailure} :
    ((parse {} category entry).2.result = .ok (.error failure) ∧ failure.IsScreening) ↔
      ∃ e raw tool content p, ReachesContent category entry e raw tool content p ∧
        Safety.HasNestedShape content ∧ failure =
          patternFailure category raw (.make (.nested content (Flags.strip e.letters))) := by
  constructor
  · rintro ⟨hresult, cause, hcause, hkind⟩
    cases parse_failsBy hresult with
    | reading read => cases (cause_of_reading read).symm.trans hcause
    | empty => cases hcause
    | shape => cases hcause
    | pattern read text parts checks =>
        cases hcause
        obtain ⟨pattern, flags, htopic⟩ := PolicyError.Topic.kind_eq_iff.1 hkind
        -- the other checks fail with errors of other kinds
        cases checks with
        | tool => cases htopic
        | nested first shape => exact ⟨_, _, _, _, _, ⟨read, text, parts, first⟩, shape, rfl⟩
        | letter => cases htopic
        | content => cases htopic
  · rintro ⟨e, raw, tool, content, p, hreaches, hshape, rfl⟩
    have hcontent : compilePattern content (Flags.strip e.letters) =
        .error (.error (.make (.nested content (Flags.strip e.letters)))) :=
      compilePattern_eq_error_iff.2 (.inl ⟨hshape, rfl⟩)
    refine ⟨?_, _, rfl, rfl⟩
    rw [hreaches.parse_result, hcontent]

end

/-- **Only contents are screened out.** The screen passes the pattern for a tool of every rule
text. After any history of requests, an entry fails because of the screen exactly if it gets to a
content with the shape that is refused, and the error that led to the failure is then about this
content. Whenever an entry gets to its content, the pattern for its tool is in the cache, and if
the entry fails there, nothing else is added; an entry that does not get there is no rule and
leaves the cache as it was. -/
theorem only_contents_screened_out (steps : List CacheStep)
    (category : Option Text) (entry : Entry) :
    let cache := PatternCache.after steps
    let after := (parse cache category entry).1
    let result := (parse cache category entry).2.result
    (∀ raw tool content, RuleText.split? raw = some (tool, content) →
      Safety.isSafe (RuleText.anchor tool) = true) ∧
    (∀ failure, (result = .ok (.error failure) ∧ failure.IsScreening) ↔
      ∃ e raw tool content p, ReachesContent category entry e raw tool content p ∧
        Safety.HasNestedShape content ∧
        failure = patternFailure category raw (.make (.nested content (Flags.strip e.letters)))) ∧
    (∀ e raw tool content p, ReachesContent category entry e raw tool content p →
      after.find? (RuleText.anchor tool) [] = some p ∧
        ((∀ rule, result ≠ .ok (.ok rule)) → after = (cache.compile (RuleText.anchor tool) []).1)) ∧
    ((¬∃ e raw tool content p, ReachesContent category entry e raw tool content p) ↔
      StopsEarly category entry) ∧
    (StopsEarly category entry → after = cache ∧ ∀ rule, result ≠ .ok (.ok rule)) := by
  intro cache after result
  have hsound : cache.Sound := PatternCache.sound_after steps
  have hresult : result = (parse {} category entry).2.result := by
    simp only [result, (hsound.parse category entry).2]
  rw [hresult]
  refine ⟨?_, ?_, ?_, stopsEarly_iff.symm, ?_⟩
  · intro raw tool content hparts
    exact isSafe_of_split? hparts
  · intro failure
    exact isScreening_iff
  · intro e raw tool content p hreaches
    exact ⟨hreaches.find?_parse hsound, hreaches.parse_fst_of_fails hsound⟩
  · intro hearly
    exact ⟨hearly.parse_fst hsound, hearly.ne_rule⟩

/-- A content that is screened out, behind a tool whose own text repeats a group. -/
theorem only_contents_screened_out_nested :
    let raw : Text := "a+)+|b\\((c+)+)"
    let e : RuleEntry := { rule := some raw, flags := some "gi" }
    let r := parse (PatternCache.after [.parse none (.value (.str "a+)+|b\\(c)"))])
      (some "deny") (.record e)
    ∃ p, ReachesContent (some "deny") (.record e) e raw "a+)+|b\\" "(c+)+" p ∧
      Safety.HasNestedShape "(c+)+" ∧ r.1.find? (RuleText.anchor "a+)+|b\\") [] = some p ∧
        r.2.result =
          .ok (.error (patternFailure (some "deny") raw (.make (.nested "(c+)+" "i")))) := by
  intro raw e r
  obtain ⟨p, hp⟩ : ∃ p, Pattern.compile (RuleText.anchor "a+)+|b\\") {} = .ok p :=
    exists_ok_of_isOk (by decide +kernel)
  have hreaches : ReachesContent (some "deny") (.record e) e raw "a+)+|b\\" "(c+)+" p :=
    ⟨rfl, rfl, by decide, hp⟩
  have hshape : Safety.HasNestedShape "(c+)+" := (Safety.isSafe_eq_false_iff _).1 (by decide)
  obtain ⟨-, hscreening, hkept, -⟩ := only_contents_screened_out _ (some "deny") (.record e)
  obtain ⟨hresult, -⟩ := (hscreening _).2 ⟨e, raw, _, _, p, hreaches, hshape, rfl⟩
  exact ⟨p, hreaches, hshape, (hkept _ _ _ _ _ hreaches).1, hresult⟩

end RuleEntry

end ToolPolicy
