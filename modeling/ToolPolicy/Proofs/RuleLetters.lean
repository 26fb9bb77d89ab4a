import ToolPolicy.Proofs.EntryFailure
import ToolPolicy.Proofs.PlainNames

/-!
# What the letters of a rule say

The letters of a rule are read one by one: two of them are taken out with a warning, the others are
turned into options, and the first that has no meaning ends the reading. What comes of it is
nevertheless a matter of which letters there are, and of the content alone: neither their order nor
their number counts, and the pattern for the tool never hears of them.

* `optionsFrom_of_supported`: letters with a meaning give the options that are among them.
* `optionsFrom_of_first`: the first letter without a meaning is the one that is named.
* `parseText_log`: parsing warns of the letters that are taken out and says nothing else.
* `letters_are_a_set`: what the letters of a rule change, and what they leave.
-/

namespace ToolPolicy

open Regex (Pattern)

/-! ## Letters -/

namespace Flags

/-- The letters that a rule may have. -/
def known : Text := "gyimsud"

/-- The options that are among some letters. -/
def chosen (letters : Text) : Regex.Flags where
  ignoreCase := letters.contains 'i'
  multiLine := letters.contains 'm'
  dotAll := letters.contains 's'

theorem mem_known_iff {c : CodePoint} :
    c ∈ known ↔ isStateful c = true ∨ isSupported c = true := by
  have hsupported : isSupported c = true ↔ c ∈ ("imsud" : Text) := by
    unfold isSupported meaning
    repeat' split
    all_goals simp_all [Text.ofString]
  have hstateful : isStateful c = true ↔ c ∈ ("gy" : Text) := by
    simp [isStateful, Text.ofString]
  have hknown : known = ("gy" : Text) ++ ("imsud" : Text) := rfl
  rw [hsupported, hstateful, hknown, List.mem_append]

theorem chosen_cons (c : CodePoint) (rest : Text) :
    chosen (c :: rest) = (chosen [c]).union (chosen rest) := by
  simp [chosen, Regex.Flags.union]

theorem chosen_of_option {c : CodePoint} {o : Regex.Flags} (h : meaning c = .option o) :
    chosen [c] = o := by
  unfold meaning at h
  split at h
  · next hc => cases h; rw [hc]; rfl
  split at h
  · next hc => cases h; rw [hc]; rfl
  split at h
  · next hc => cases h; rw [hc]; rfl
  split at h <;> cases h

theorem chosen_of_nothing {c : CodePoint} (h : meaning c = .nothing) : chosen [c] = {} := by
  unfold meaning at h
  repeat' split at h
  all_goals cases h
  next hc =>
    rw [Bool.or_eq_true, decide_eq_true_eq, decide_eq_true_eq] at hc
    rcases hc with rfl | rfl <;> rfl

theorem union_assoc (a b c : Regex.Flags) : (a.union b).union c = a.union (b.union c) := by
  simp only [Regex.Flags.union, Bool.or_assoc]

/-- Letters with a meaning give the options that are among them. -/
theorem optionsFrom_of_supported (flags : Regex.Flags) {letters : Text}
    (h : ∀ c ∈ letters, isSupported c = true) :
    optionsFrom flags letters = .ok (flags.union (chosen letters)) := by
  induction letters generalizing flags with
  | nil => simp [optionsFrom, chosen, Regex.Flags.union]
  | cons c rest ih =>
      obtain ⟨hc, hrest⟩ := List.forall_mem_cons.1 h
      rw [optionsFrom]
      cases hmeaning : meaning c with
      | option o =>
          simp only
          rw [ih _ hrest, chosen_cons, chosen_of_option hmeaning, union_assoc]
      | nothing =>
          simp only
          rw [ih _ hrest, chosen_cons, chosen_of_nothing hmeaning]
          rfl
      | unsupported => simp [isSupported, hmeaning] at hc

/-- The first letter without a meaning is the one that is named. -/
theorem optionsFrom_of_first (flags : Regex.Flags) {before after : Text} {c : CodePoint}
    (hbefore : ∀ d ∈ before, isSupported d = true) (hc : isSupported c = false) :
    optionsFrom flags (before ++ c :: after) = .error c := by
  induction before generalizing flags with
  | nil =>
      have hmeaning : meaning c = .unsupported := by simpa [isSupported] using hc
      rw [List.nil_append, optionsFrom, hmeaning]
  | cons d rest ih =>
      obtain ⟨hd, hrest⟩ := List.forall_mem_cons.1 hbefore
      rw [List.cons_append, optionsFrom]
      cases hmeaning : meaning d with
      | option o => exact ih _ hrest
      | nothing => exact ih _ hrest
      | unsupported => simp [isSupported, hmeaning] at hd

/-- What is taken out stands for no option. -/
theorem chosen_strip (letters : Text) : chosen (strip letters) = chosen letters := by
  have hkept : ∀ c : CodePoint, isStateful c = false →
      (strip letters).contains c = letters.contains c := by
    intro c hc
    rw [Bool.eq_iff_iff, List.contains_iff_mem, List.contains_iff_mem, mem_strip]
    exact and_iff_left hc
  rw [chosen, chosen, hkept _ rfl, hkept _ rfl, hkept _ rfl]

/-- Only three letters stand for options. -/
theorem chosen_congr {a b : Text} (h : ∀ c ∈ ("ims" : Text), c ∈ a ↔ c ∈ b) :
    chosen a = chosen b := by
  have hsame : ∀ c ∈ ("ims" : Text), a.contains c = b.contains c := by
    intro c hc
    rw [Bool.eq_iff_iff, List.contains_iff_mem, List.contains_iff_mem]
    exact h c hc
  rw [chosen, chosen, hsame _ (by decide), hsame _ (by decide), hsame _ (by decide)]

/-- Letters are all known, or there is a first one that is not. -/
theorem all_known_or_first (letters : Text) : (∀ c ∈ letters, c ∈ known) ∨
    ∃ before c after, letters = before ++ c :: after ∧ (∀ d ∈ before, d ∈ known) ∧ c ∉ known := by
  cases hfound : List.find? (fun c => c ∉ known) letters with
  | none => exact .inl fun c hc => by simpa using List.find?_eq_none.1 hfound c hc
  | some c =>
      obtain ⟨hc, before, after, hletters, hbefore⟩ := List.find?_eq_some_iff_append.1 hfound
      exact .inr ⟨before, c, after, hletters, fun d hd => by simpa using hbefore d hd,
        by simpa using hc⟩

theorem statefulOf_eq (letters : Text) :
    statefulOf letters = ("gy" : Text).filter fun c => c ∈ letters := by
  simp only [statefulOf, Text.ofString]
  by_cases hg : (103 : CodePoint) ∈ letters <;> by_cases hy : (121 : CodePoint) ∈ letters <;>
    simp [hg, hy]

theorem strip_append_cons {c : CodePoint} (h : isStateful c = false) (before after : Text) :
    strip (before ++ c :: after) = strip before ++ c :: strip after := by
  simp [strip, h]

theorem isSupported_of_mem_strip {c : CodePoint} {letters : Text}
    (h : ∀ d ∈ letters, d ∈ known) (hc : c ∈ strip letters) : isSupported c = true := by
  obtain ⟨hmem, hkept⟩ := mem_strip.1 hc
  exact (mem_known_iff.1 (h c hmem)).resolve_left (by simp [hkept])

/-- Letters that are all known give the options that are among them. -/
theorem options_of_known {letters : Text} (h : ∀ c ∈ letters, c ∈ known) :
    options (strip letters) = .ok (chosen letters) := by
  rw [options, optionsFrom_of_supported _ fun c => isSupported_of_mem_strip h, chosen_strip]
  rfl

/-- The first letter that is not known is the one that is named. -/
theorem options_of_first_unknown {before after : Text} {c : CodePoint}
    (hbefore : ∀ d ∈ before, d ∈ known) (hc : c ∉ known) :
    options (strip (before ++ c :: after)) = .error c := by
  obtain ⟨hkept, hunsupported⟩ := not_or.1 (mt mem_known_iff.2 hc)
  rw [Bool.not_eq_true] at hkept hunsupported
  rw [strip_append_cons hkept]
  exact optionsFrom_of_first _ (fun d => isSupported_of_mem_strip hbefore) hunsupported

end Flags

/-! ## Rules with letters -/

namespace RuleEntry

/-- The letters of a record; one without flags has none. -/
abbrev letters (e : RuleEntry) : Text := e.flags.getD []

/-- A rule text with both patterns warns of the letters that are taken out, and of nothing else. -/
theorem parseText_log {raw tool content : Text}
    (hparts : RuleText.split? raw = some (tool, content)) (cache : PatternCache)
    (category : Option Text) (e : RuleEntry) :
    (parseText cache category raw e).2.log =
      (Flags.statefulOf e.letters).map (Flags.strippedWarning raw) := by
  have hflags : (Flags.stripLogged e.flags raw).result = .ok (Flags.strip e.letters) := rfl
  rw [parseText, hparts]
  simp only
  rcases compile cache tool content (Flags.strip e.letters) with ⟨after, (cause | f) | patterns⟩
  all_goals
    simp only [Logged.log_bind_of_ok _ hflags]
    exact List.append_nil _

/-- An entry with a rule text of two patterns that compile, the one for the content under some
letters or other. -/
structure HasPatterns (category : Option Text) (entry : Entry) (e : RuleEntry)
    (raw tool content : Text) : Prop where
  read : ofEntry category entry = .ok e
  text : e.text? = some raw
  parts : RuleText.split? raw = some (tool, content)
  toolCompiles : ∃ p, compilePattern (RuleText.anchor tool) [] = .ok p
  contentCompiles : ∃ letters q, compilePattern content letters = .ok q

namespace HasPatterns

variable {category : Option Text} {entry : Entry} {e : RuleEntry} {raw tool content : Text}

/-- The entry comes to what its text comes to. -/
theorem parse_eq (h : HasPatterns category entry e raw tool content) :
    parse {} category entry = parseText {} category raw e := by
  rw [parse_of_ofEntry h.read, parseRecord, h.text]

theorem notMem_tool (h : HasPatterns category entry e raw tool content) : 40 ∉ tool :=
  (RuleText.compose_of_split? h.parts).2.2.1

/-- With letters that are all known the entry is a rule: the pattern for the tool has no options,
and the one for the content has those that are chosen. -/
theorem accepted (h : HasPatterns category entry e raw tool content)
    (hknown : ∀ c ∈ e.letters, c ∈ Flags.known) :
    ∃ p q, Pattern.compile (RuleText.anchor tool) {} = .ok p ∧
      Pattern.compile content (Flags.chosen e.letters) = .ok q ∧
        (parse {} category entry).2.result =
          .ok (.ok { tool := p, content := q, reason := e.reason, raw }) := by
  obtain ⟨p, hp⟩ := h.toolCompiles
  obtain ⟨others, q, hq⟩ := h.contentCompiles
  obtain ⟨hsafe, under, hunder, hcompiled⟩ := compilePattern_eq_ok_iff.1 hq
  have hoptions := Flags.options_of_known hknown
  -- whether the content compiles does not depend on the letters
  obtain ⟨q', hq'⟩ := (Flags.compile_isOk_iff hoptions content).2
    ((Flags.compile_isOk_iff hunder content).1 ⟨q, hcompiled⟩)
  have hcontent : compilePattern content (Flags.strip e.letters) = .ok q' :=
    compilePattern_eq_ok_iff.2 ⟨hsafe, _, hoptions, hq'⟩
  refine ⟨p, q', ((compilePattern_anchor h.notMem_tool).1 p).1 hp, hq', ?_⟩
  rw [h.parse_eq, parseText_result h.parts, compileAfresh_eq_ok_iff.2 ⟨hp, hcontent⟩]

/-- With a letter that is not known the entry fails, and the first such letter is named. -/
theorem refused (h : HasPatterns category entry e raw tool content) {before after : Text}
    {c : CodePoint} (hletters : e.letters = before ++ c :: after)
    (hbefore : ∀ d ∈ before, d ∈ Flags.known) (hc : c ∉ Flags.known) :
    (parse {} category entry).2.result = .ok (.error
      (patternFailure category raw (.make (.flag content (Flags.strip e.letters) [c])))) := by
  obtain ⟨p, hp⟩ := h.toolCompiles
  obtain ⟨others, q, hq⟩ := h.contentCompiles
  have hsafe := (compilePattern_eq_ok_iff.1 hq).1
  have hfails : FirstFailing tool content (Flags.strip e.letters)
      (.make (.flag content (Flags.strip e.letters) [c])) := by
    refine .letter (((compilePattern_anchor h.notMem_tool).1 p).1 hp) ?_ ?_
    · rw [← Safety.isSafe_eq_false_iff, hsafe]
      decide
    · rw [hletters]
      exact Flags.options_of_first_unknown hbefore hc
  rw [h.parse_eq, parseText_result h.parts, (compileAfresh_eq_error_iff h.notMem_tool).2 hfails]

end HasPatterns

/-- **Letters are a set, and are about the content alone.**  After any history of requests, an entry
whose patterns compile is a rule exactly if its letters are all known, and else fails with the first
that is not.  The rule has its pattern for the tool without options, and the one for the content
with those options that are among the letters; so any other entry with this text and known letters,
the same of them among `i`, `m` and `s`, gives the same rule but for its reason.  There is a warning
for `g` and one for `y`, in this order, if they are among the letters. -/
theorem letters_are_a_set (steps : List CacheStep) {category : Option Text} {entry : Entry}
    {e : RuleEntry} {raw tool content : Text} (h : HasPatterns category entry e raw tool content) :
    ((∃ rule, (parse (PatternCache.after steps) category entry).2.result = .ok (.ok rule)) ↔
      ∀ c ∈ e.letters, c ∈ Flags.known) ∧
    (∀ before c after, e.letters = before ++ c :: after → (∀ d ∈ before, d ∈ Flags.known) →
      c ∉ Flags.known → (parse (PatternCache.after steps) category entry).2.result = .ok (.error
        (patternFailure category raw (.make (.flag content (Flags.strip e.letters) [c]))))) ∧
    (∀ rule, (parse (PatternCache.after steps) category entry).2.result = .ok (.ok rule) →
      Pattern.compile (RuleText.anchor tool) {} = .ok rule.tool ∧
      Pattern.compile content (Flags.chosen e.letters) = .ok rule.content ∧
      ∀ history category' entry' e', ofEntry category' entry' = .ok e' → e'.text? = some raw →
        (∀ c ∈ e'.letters, c ∈ Flags.known) →
        (∀ c ∈ ("ims" : Text), c ∈ e'.letters ↔ c ∈ e.letters) →
          (parse (PatternCache.after history) category' entry').2.result =
            .ok (.ok { rule with reason := e'.reason })) ∧
    (parse (PatternCache.after steps) category entry).2.log =
      (("gy" : Text).filter fun c => c ∈ e.letters).map (Flags.strippedWarning raw) := by
  rw [((PatternCache.sound_after steps).parse category entry).2]
  have hknown : ∀ rule, (parse {} category entry).2.result = .ok (.ok rule) →
      ∀ c ∈ e.letters, c ∈ Flags.known := by
    intro rule hrule
    rcases Flags.all_known_or_first e.letters with hall | ⟨before, c, after, hletters, hbefore, hc⟩
    · exact hall
    · rw [h.refused hletters hbefore hc] at hrule
      cases hrule
  refine ⟨⟨fun ⟨rule, hrule⟩ => hknown rule hrule, fun hall => ?_⟩,
    fun before c after hletters hbefore hc => h.refused hletters hbefore hc,
    fun rule hrule => ?_, ?_⟩
  · obtain ⟨p, q, -, -, hresult⟩ := h.accepted hall
    exact ⟨_, hresult⟩
  · obtain ⟨p, q, hp, hq, hresult⟩ := h.accepted (hknown rule hrule)
    rw [hrule] at hresult
    cases hresult
    refine ⟨hp, hq, fun history category' entry' e' hread htext hall hsame => ?_⟩
    have h' : HasPatterns category' entry' e' raw tool content :=
      ⟨hread, htext, h.parts, h.toolCompiles, h.contentCompiles⟩
    obtain ⟨p', q', hp', hq', hresult'⟩ := h'.accepted hall
    rw [Flags.chosen_congr hsame, hq] at hq'
    rw [hp] at hp'
    cases hp'
    cases hq'
    rw [((PatternCache.sound_after history).parse category' entry').2, hresult']
  · rw [h.parse_eq, parseText_log h.parts, Flags.statefulOf_eq]

/-- Letters in another order, repeated and among others without effect give the same rule; of two
unknown letters the first is named. -/
theorem letters_are_a_set_mixed : ∃ rule : Rule Pattern,
    (parse (PatternCache.after []) (some "deny") (.value (.object
      [("rule", .str "Bash(^rm)"), ("flags", .str "sgig")]))).2.result = .ok (.ok rule) ∧
    (parse (PatternCache.after []) (some "deny") (.value (.object
      [("rule", .str "Bash(^rm)"), ("flags", .str "sgig")]))).2.log =
        [Flags.strippedWarning "Bash(^rm)" 'g'] ∧
    (parse (PatternCache.after [.parse none (.value (.str "Bash(^rm)"))]) none
      (.record ⟨some "Bash(^rm)", some "no", some "yuissd"⟩)).2.result =
        .ok (.ok { rule with reason := some "no" }) ∧
    (parse (PatternCache.after []) none
      (.record ⟨some "Bash(^rm)", none, some "iXgx"⟩)).2.result = .ok (.error
        (patternFailure none "Bash(^rm)" (.make (.flag "^rm" "iXx" ("X" : Text))))) := by
  have htool : ∃ p, compilePattern (RuleText.anchor "Bash") [] = .ok p :=
    exists_ok_of_isOk (by decide +kernel)
  have hcontent : ∃ q, compilePattern "^rm" [] = .ok q := exists_ok_of_isOk (by decide +kernel)
  have hpatterns (category : Option Text) (entry : Entry) {e : RuleEntry}
      (hread : ofEntry category entry = .ok e) (htext : e.text? = some "Bash(^rm)") :
      HasPatterns category entry e "Bash(^rm)" "Bash" "^rm" :=
    ⟨hread, htext, rfl, htool, [], hcontent⟩
  have hfirst := letters_are_a_set [] (hpatterns (some "deny") (.value (.object
    [("rule", .str "Bash(^rm)"), ("flags", .str "sgig")])) rfl rfl)
  have hunknown := letters_are_a_set [] (hpatterns none
    (.record ⟨some "Bash(^rm)", none, some "iXgx"⟩) rfl rfl)
  obtain ⟨rule, hrule⟩ := hfirst.1.2 (by decide)
  refine ⟨rule, hrule, hfirst.2.2.2, ?_, hunknown.2.1 "i" 'X' "gx" rfl (by decide) (by decide)⟩
  exact (hfirst.2.2.1 rule hrule).2.2 _ _ _ ⟨_, some "no", some "yuissd"⟩ rfl rfl (by decide)
    (by decide)

end RuleEntry

end ToolPolicy
