import ToolPolicy.Proofs.EntryFault
import ToolPolicy.Proofs.LintAgreement
import ToolPolicy.Proofs.NestedScreen

/-!
# What is wrong with an entry

An entry can fail in five ways, and it fails in the first that applies: it is nothing that can be
read, it has no rule text, its text is not written as a rule, or a check of one of its two patterns
fails. The error says so by its kind and its code, it names the rule and the category the entry
stood in, and its context names both again.

* `Wrong`: what is wrong with an entry, said without parsing it.
* `FirstFailing`: the first of the checks of the two patterns that fails, with its error.
* `compileAfresh_eq_error_iff`: compiling the patterns of a rule ends in that error.
* `fails_as_wrong`: entries fail in these ways and in no others, after any history of a cache.
-/

namespace ToolPolicy

open Regex (Pattern)

/-! ## Reports -/

namespace PolicyError.Topic

/-- The rule that an error is about, if it is about one. -/
def rule? : Topic → Option Text
  | rule r _ => some r
  | shape r _ => some r
  | empty r _ => some r
  | _ => none

/-- The category of the rule that an error is about, if it is about one. -/
def category? : Topic → Option (Option Text)
  | rule _ category => some category
  | shape _ category => some category
  | empty _ category => some category
  | _ => none

end PolicyError.Topic

/-- How a failure is reported: its error has a kind and a code and is about a rule and a category,
its context names the same two, and an error that led to it is kept, with its suggestion. -/
structure RuleFailure.Reports (failure : RuleFailure) (kind : Text) (code : Int) (rule : Text)
    (category : Option Text) (cause : Option PolicyError) : Prop where
  kind_eq : failure.error.kind = kind
  code_eq : failure.error.code = code
  rule_eq : failure.error.topic.rule? = some rule
  category_eq : failure.error.topic.category? = some category
  context_rule : Value.field? "rule" failure.error.context = some (.str rule)
  context_category : Value.field? "category" failure.error.context = some (.ofText? category)
  cause_eq : failure.cause = cause
  suggestion_eq : ∀ e, cause = some e → failure.error.suggestion = e.suggestion

namespace PolicyError

/-- The context of an error about a rule names the rule and the category. -/
theorem field?_context_make {topic : Topic} {rule : Text} {category : Option Text}
    (hrule : topic.rule? = some rule) (hcategory : topic.category? = some category)
    (message : Text) (suggestion : Option Text) :
    Value.field? "rule" (make topic message 0 suggestion).context = some (.str rule) ∧
      Value.field? "category" (make topic message 0 suggestion).context =
        some (.ofText? category) := by
  have hfields : topic.fields = Topic.fields (.rule rule category) := by
    cases topic <;> cases hrule <;> cases hcategory <;> rfl
  have hcontext : (make topic message 0 suggestion).context =
      (make (.rule rule category) message 0 suggestion).context := by
    simp only [make, hfields]
  rw [hcontext]
  exact ⟨field?_context_rule rule category message suggestion,
    field?_context_category rule category message suggestion⟩

/-- The report of an error about a rule that no other error led to. -/
theorem reports_make {topic : Topic} {rule : Text} {category : Option Text}
    (hrule : topic.rule? = some rule) (hcategory : topic.category? = some category)
    (message : Text) :
    RuleFailure.Reports ⟨make topic message, none⟩ topic.kind topic.code rule category none := by
  obtain ⟨hr, hc⟩ := field?_context_make hrule hcategory message none
  exact ⟨rfl, rfl, hrule, hcategory, hr, hc, rfl, fun e he => (by cases he)⟩

end PolicyError

/-- The report of a rule whose pattern is refused. -/
theorem RuleEntry.reports_patternFailure (category : Option Text) (raw : Text) {cause : PolicyError}
    (h : cause.suggestion.getD [] ≠ []) :
    (patternFailure category raw cause).Reports "RuleParseError" 2001 raw category
    (some cause) := by
  have htopic : (PolicyError.Topic.rule raw category).rule? = some raw := rfl
  obtain ⟨hrule, hcategory⟩ := PolicyError.field?_context_make htopic rfl
    ("Invalid rule " ++ Text.quote raw ++ ": " ++ cause.message) cause.suggestion
  refine ⟨rfl, rfl, rfl, rfl, hrule, hcategory, rfl, ?_⟩
  rintro e ⟨⟩
  simp only [patternFailure, PolicyError.make]
  rw [if_neg]
  simpa using h

/-- An entry that is a record, or a value of JSON. -/
def Entry.IsJson : Entry → Prop
  | .record _ => True
  | .value v => v.isJson = true

namespace RuleEntry

/-! ## What an entry holds -/

/-- The rule text of an entry, if it has one. -/
def textOf? : Entry → Option Text
  | .record e => e.rule
  | .value v => Lint.ruleText? v

/-- The flag letters of an entry; one without flags has none. -/
def lettersOf : Entry → Text
  | .record e => e.flags.getD []
  | .value v => (Lint.textAt? v "flags").getD []

/-- An entry that cannot be read: it is no text, mapping or record, or it is a mapping with a rule,
a reason or flags that are neither null nor a text. -/
inductive Unreadable : Entry → Prop where
  | kind {v : Value} (text : ∀ t, v ≠ .str t) (mapping : ∀ fields, v ≠ .mapping fields) :
    Unreadable (.value v)
  | field {fields : List (Value × Value)} {name : Text} {v : Value}
    (known : name ∈ (["rule", "reason", "flags"] : List Text))
    (found : Value.field? name fields = some v) (null : v ≠ .null) (text : ∀ t, v ≠ .str t) :
    Unreadable (.value (.mapping fields))

/-- A field of JSON is read if it is missing, null or a text. -/
theorem readText?_isOk_iff {v? : Option Value} (hjson : ∀ v, v? = some v → v.isJson = true) :
    (∃ t?, Record.readText? v? = .ok t?) ↔ ∀ v, v? = some v → v = .null ∨ ∃ t, v = .str t := by
  cases v? with
  | none => simp
  | some v =>
      cases v with
      | null => simp
      | str t => simp
      | bytes b => cases hjson _ rfl
      | _ => simp [Record.readText?, Record.readText, Record.refuse, Except.map]

theorem ofFields_isOk_iff (fields : List (Value × Value)) : (∃ e, ofFields fields = .ok e) ↔
    ∀ name ∈ (["rule", "reason", "flags"] : List Text),
      ∃ t?, Record.readText? (Value.field? name fields) = .ok t? := by
  simp only [List.forall_mem_cons, List.not_mem_nil, false_implies,
    implies_true, and_true, ofFields]
  cases Record.readText? (Value.field? "rule" fields) <;>
    cases Record.readText? (Value.field? "reason" fields) <;>
      cases Record.readText? (Value.field? "flags" fields) <;> simp [Record.atField]

theorem flags_of_ofFields {fields : List (Value × Value)} {e : RuleEntry}
    (h : ofFields fields = .ok e) :
    Record.readText? (Value.field? "flags" fields) = .ok e.flags := by
  obtain ⟨hrule, hreason⟩ := ofFields_eq_ok h
  rw [ofFields, hrule, hreason] at h
  cases hflags : Record.readText? (Value.field? "flags" fields) with
  | error problems => rw [hflags] at h; cases h
  | ok flags =>
      rw [hflags] at h
      exact congrArg Except.ok (congrArg RuleEntry.flags (Except.ok.inj h))

/-- A mapping of JSON is read unless one of its fields has a value of another kind. -/
theorem ofFields_isOk_iff_readable {fields : List (Value × Value)}
    (hjson : Value.areJsonFields fields = true) :
    (∃ e, ofFields fields = .ok e) ↔ ¬Unreadable (.value (.mapping fields)) := by
  have hfield : ∀ name, (∃ t?, Record.readText? (Value.field? name fields) = .ok t?) ↔
      ∀ v, Value.field? name fields = some v → v = .null ∨ ∃ t, v = .str t :=
    fun name => readText?_isOk_iff fun v => Value.isJson_of_field? hjson
  rw [ofFields_isOk_iff]
  simp only [hfield]
  constructor
  · rintro hread (⟨-, hmapping⟩ | ⟨hknown, hfound, hnull, htext⟩)
    · exact hmapping fields rfl
    · rcases hread _ hknown _ hfound with h | ⟨t, h⟩
      · exact hnull h
      · exact htext t h
  · intro hreadable name hknown v hfound
    by_contra hno
    rw [not_or, not_exists] at hno
    exact hreadable (.field hknown hfound hno.1 hno.2)

/-- An entry that cannot be read fails, with its rule text if it has one. -/
theorem ofEntry_of_unreadable {entry : Entry} (hjson : entry.IsJson) (h : Unreadable entry)
    (category : Option Text) :
    ∃ message, ofEntry category entry =
      .error (malformed category ((textOf? entry).getD []) message) := by
  cases entry with
  | record e => cases h
  | value v =>
      cases v with
      | str t =>
          cases h with
          | kind text mapping => exact absurd rfl (text t)
      | mapping fields =>
          rw [Entry.IsJson, Value.isJson] at hjson
          cases hread : ofFields fields with
          | ok e => exact absurd h ((ofFields_isOk_iff_readable hjson).1 ⟨e, hread⟩)
          | error problems =>
              refine ⟨"Malformed rule entry: " ++ Problem.firstMessage problems, ?_⟩
              simp only [ofEntry, hread]
              rfl
      | _ => exact ⟨_, rfl⟩

/-- An entry that can be read has the rule text and the letters that it holds. -/
theorem ofEntry_of_readable {entry : Entry} (hjson : entry.IsJson) (h : ¬Unreadable entry)
    (category : Option Text) :
    ∃ e, ofEntry category entry = .ok e ∧ e.rule = textOf? entry ∧
      e.flags.getD [] = lettersOf entry := by
  cases entry with
  | record e => exact ⟨e, rfl, rfl, rfl⟩
  | value v =>
      cases v with
      | str t => exact ⟨_, rfl, rfl, rfl⟩
      | mapping fields =>
          rw [Entry.IsJson, Value.isJson] at hjson
          have hfields : ∀ name w, Value.field? name fields = some w → w.isJson = true :=
            fun name w => Value.isJson_of_field? hjson
          obtain ⟨e, hread⟩ := (ofFields_isOk_iff_readable hjson).2 h
          refine ⟨e, by simp only [ofEntry, hread], ?_, ?_⟩
          · exact (Record.readText?_of_isJson (hfields _) (ofFields_eq_ok hread).1).symm
          · rw [← Record.readText?_of_isJson (hfields _) (flags_of_ofFields hread)]
            rfl
      | _ => exact absurd (.kind (by simp) (by simp)) h

/-! ## Checks of patterns -/

/-- The first check of the two patterns of a rule that fails, with its error: the pattern for the
tool has a flaw; or it has none, and the pattern for the content is screened out, or has a letter
without a meaning, or has a flaw under its letters. -/
inductive FirstFailing (tool content flags : Text) : PolicyError → Prop where
  | tool {flaw : Regex.Flaw}
    (compiles : Pattern.compile (RuleText.anchor tool) {} = .error (.flaw flaw)) :
    FirstFailing tool content flags
      (.make (.malformed (RuleText.anchor tool) [] (flaw.message (RuleText.anchor tool))))
  | nested {p : Pattern} (first : Pattern.compile (RuleText.anchor tool) {} = .ok p)
    (shape : Safety.HasNestedShape content) :
    FirstFailing tool content flags (.make (.nested content flags))
  | letter {p : Pattern} {letter : CodePoint}
    (first : Pattern.compile (RuleText.anchor tool) {} = .ok p)
    (safe : ¬Safety.HasNestedShape content) (meaning : Flags.options flags = .error letter) :
    FirstFailing tool content flags (.make (.flag content flags [letter]))
  | content {p : Pattern} {options : Regex.Flags} {flaw : Regex.Flaw}
    (first : Pattern.compile (RuleText.anchor tool) {} = .ok p)
    (safe : ¬Safety.HasNestedShape content) (meaning : Flags.options flags = .ok options)
    (compiles : Pattern.compile content options = .error (.flaw flaw)) :
    FirstFailing tool content flags (.make (.malformed content flags (flaw.message content)))

theorem FirstFailing.suggestion_ne_nil {tool content flags : Text} {cause : PolicyError}
    (h : FirstFailing tool content flags cause) : cause.suggestion.getD [] ≠ [] := by
  cases h <;> simp [PolicyError.make, PolicyError.Topic.suggestion?, Text.ofString]

/-- A pattern is refused by the first of its checks that fails: the screen, the letters, the
matcher. -/
theorem compilePattern_eq_error_iff {pattern flags : Text} {cause : PolicyError} :
    compilePattern pattern flags = .error (.error cause) ↔
      (Safety.HasNestedShape pattern ∧ cause = .make (.nested pattern flags)) ∨
      ¬Safety.HasNestedShape pattern ∧
        ((∃ letter, Flags.options flags = .error letter ∧
          cause = .make (.flag pattern flags [letter])) ∨
        ∃ options flaw, Flags.options flags = .ok options ∧
          Pattern.compile pattern options = .error (.flaw flaw) ∧
            cause = .make (.malformed pattern flags (flaw.message pattern))) := by
  rw [← Safety.isSafe_eq_false_iff, compilePattern]
  cases hsafe : Safety.isSafe pattern with
  | false => simp [eq_comm]
  | true =>
      cases hoptions : Flags.options flags with
      | error letter => simp [eq_comm]
      | ok options =>
          rcases hcompile : Pattern.compile pattern options with (flaw | f) | compiled
          · simp [hcompile, eq_comm]
          · simp [hcompile]
          · simp [hcompile]

/-- The pattern for a tool is never screened out and has no letters: only a flaw is left. -/
theorem compilePattern_anchor {tool : Text} (h : 40 ∉ tool) :
    (∀ p, compilePattern (RuleText.anchor tool) [] = .ok p ↔
      Pattern.compile (RuleText.anchor tool) {} = .ok p) ∧
    ∀ cause, compilePattern (RuleText.anchor tool) [] = .error (.error cause) ↔
      ∃ flaw, Pattern.compile (RuleText.anchor tool) {} = .error (.flaw flaw) ∧
        cause = .make (.malformed (RuleText.anchor tool) []
          (flaw.message (RuleText.anchor tool))) := by
  have hoptions : Flags.options [] = .ok {} := rfl
  have hsafe : ¬Safety.HasNestedShape (RuleText.anchor tool) := by
    rw [← Safety.isSafe_eq_false_iff, Safety.isSafe_anchor h]
    decide
  constructor
  · intro p
    rw [compilePattern_eq_ok_iff]
    simp [Safety.isSafe_anchor h, hoptions]
  · intro cause
    rw [compilePattern_eq_error_iff]
    simp [hsafe, hoptions]

/-- Compiling the patterns of a rule ends in the error of the first check that fails. -/
theorem compileAfresh_eq_error_iff {tool content flags : Text} (h : 40 ∉ tool)
    {cause : PolicyError} :
    compileAfresh tool content flags = .error (.error cause) ↔
      FirstFailing tool content flags cause := by
  obtain ⟨hok, herror⟩ := compilePattern_anchor h
  have hparts : compileAfresh tool content flags = .error (.error cause) ↔
      compilePattern (RuleText.anchor tool) [] = .error (.error cause) ∨
        ∃ p, compilePattern (RuleText.anchor tool) [] = .ok p ∧
          compilePattern content flags = .error (.error cause) := by
    rw [compileAfresh]
    cases compilePattern (RuleText.anchor tool) [] with
    | error e => simp [bind, Except.bind]
    | ok p => cases compilePattern content flags <;> simp [bind, Except.bind, pure, Except.pure]
  rw [hparts, herror]
  simp only [hok, compilePattern_eq_error_iff]
  constructor
  · rintro (⟨flaw, hflaw, rfl⟩ | ⟨p, hp, ⟨hshape, rfl⟩ | ⟨hsafe, ⟨letter, hletter, rfl⟩ |
      ⟨options, flaw, hoptions, hflaw, rfl⟩⟩⟩)
    · exact .tool hflaw
    · exact .nested hp hshape
    · exact .letter hp hsafe hletter
    · exact .content hp hsafe hoptions hflaw
  · rintro (hflaw | ⟨hp, hshape⟩ | ⟨hp, hsafe, hletter⟩ | ⟨hp, hsafe, hoptions, hflaw⟩)
    · exact .inl ⟨_, hflaw, rfl⟩
    · exact .inr ⟨_, hp, .inl ⟨hshape, rfl⟩⟩
    · exact .inr ⟨_, hp, .inr ⟨hsafe, .inl ⟨_, hletter, rfl⟩⟩⟩
    · exact .inr ⟨_, hp, .inr ⟨hsafe, .inr ⟨_, _, hoptions, hflaw, rfl⟩⟩⟩

/-! ## What is wrong first -/

/-- What is wrong with an entry, by the first check that it fails: the kind and the code of the
error, the rule that it names, and the error of a pattern that led to it. -/
inductive Wrong (entry : Entry) : Text → Int → Text → Option PolicyError → Prop where
  | unreadable (read : Unreadable entry) :
    Wrong entry "RuleParseError" 2001 ((textOf? entry).getD []) none
  | empty (read : ¬Unreadable entry) (text : (textOf? entry).getD [] = []) :
    Wrong entry "EmptyRuleError" 2003 [] none
  | shape {raw : Text} (read : ¬Unreadable entry)
      (text : textOf? entry = some raw) (full : raw ≠ [])
    (parts : ∀ tool content, tool ≠ [] → 40 ∉ tool → content ≠ [] →
      raw ≠ RuleText.compose tool content) :
    Wrong entry "RuleFormatError" 2002 raw none
  | pattern {tool content : Text} {cause : PolicyError} (read : ¬Unreadable entry)
    (text : textOf? entry = some (RuleText.compose tool content))
    (named : tool ≠ []) (unopened : 40 ∉ tool) (filled : content ≠ [])
    (checks : FirstFailing tool content (Flags.strip (lettersOf entry)) cause) :
    Wrong entry "RuleParseError" 2001 (RuleText.compose tool content) (some cause)

/-- An entry fails, and is reported. -/
def FailsAs (category : Option Text) (entry : Entry) (kind : Text) (code : Int) (rule : Text)
    (cause : Option PolicyError) : Prop :=
  ∃ failure, (parse {} category entry).2.result = .ok (.error failure) ∧
    failure.Reports kind code rule category cause

section
variable {category : Option Text} {entry : Entry}

theorem failsAs_unreadable (hjson : entry.IsJson) (h : Unreadable entry) :
    FailsAs category entry "RuleParseError" 2001 ((textOf? entry).getD []) none := by
  obtain ⟨message, hread⟩ := ofEntry_of_unreadable hjson h category
  refine ⟨malformed category ((textOf? entry).getD []) message, ?_, ?_⟩
  · rw [parse, hread]
    rfl
  · exact PolicyError.reports_make rfl rfl message

theorem failsAs_empty (hjson : entry.IsJson) (h : ¬Unreadable entry)
    (htext : (textOf? entry).getD [] = []) :
    FailsAs category entry "EmptyRuleError" 2003 [] none := by
  obtain ⟨e, hread, hrule, -⟩ := ofEntry_of_readable hjson h category
  have hnone : e.text? = none := by
    rw [text?, hrule]
    cases hraw : textOf? entry with
    | none => rfl
    | some raw =>
        rw [hraw, Option.getD_some] at htext
        rw [htext]
        rfl
  refine ⟨⟨.make (.empty [] category), none⟩, ?_, PolicyError.reports_make rfl rfl []⟩
  rw [parse_of_ofEntry hread, parseRecord, hnone]
  rfl

/-- An entry with a rule text comes to what the text comes to. -/
theorem parse_text (category : Option Text) (hjson : entry.IsJson) (h : ¬Unreadable entry)
    {raw : Text} (htext : textOf? entry = some raw) (hfull : raw ≠ []) :
    ∃ e, e.flags.getD [] = lettersOf entry ∧
      parse {} category entry = parseText {} category raw e := by
  obtain ⟨e, hread, hrule, hflags⟩ := ofEntry_of_readable hjson h category
  have hsome : e.text? = some raw := by
    rw [text?, hrule, htext, Option.filter_eq_some_iff]
    exact ⟨rfl, by simpa using hfull⟩
  exact ⟨e, hflags, by rw [parse_of_ofEntry hread, parseRecord, hsome]⟩

theorem failsAs_shape (hjson : entry.IsJson) (h : ¬Unreadable entry) {raw : Text}
    (htext : textOf? entry = some raw) (hfull : raw ≠ []) (hparts : RuleText.split? raw = none) :
    FailsAs category entry "RuleFormatError" 2002 raw none := by
  obtain ⟨e, -, hparse⟩ := parse_text category hjson h htext hfull
  refine ⟨⟨.make (.shape raw category), none⟩, ?_, PolicyError.reports_make rfl rfl []⟩
  rw [hparse, parseText, hparts]
  rfl

theorem failsAs_pattern (hjson : entry.IsJson) (h : ¬Unreadable entry) {raw tool content : Text}
    (htext : textOf? entry = some raw) (hparts : RuleText.split? raw = some (tool, content))
    {cause : PolicyError}
    (hchecks : FirstFailing tool content (Flags.strip (lettersOf entry)) cause) :
    FailsAs category entry "RuleParseError" 2001 raw (some cause) := by
  obtain ⟨hraw, -, hopen, -⟩ := RuleText.compose_of_split? hparts
  have hfull : raw ≠ [] := by rw [hraw]; simp [RuleText.compose]
  obtain ⟨e, hflags, hparse⟩ := parse_text category hjson h htext hfull
  refine ⟨patternFailure category raw cause, ?_, ?_⟩
  · rw [hparse, parseText_result hparts, hflags, (compileAfresh_eq_error_iff hopen).2 hchecks]
  · exact reports_patternFailure category raw hchecks.suggestion_ne_nil

/-- What is wrong with an entry is how it fails. -/
theorem Wrong.failsAs (category : Option Text) (hjson : entry.IsJson) {kind : Text} {code : Int}
    {rule : Text} {cause : Option PolicyError} (h : Wrong entry kind code rule cause) :
    FailsAs category entry kind code rule cause := by
  cases h with
  | unreadable read => exact failsAs_unreadable hjson read
  | empty read text => exact failsAs_empty hjson read text
  | shape read text full parts =>
      refine failsAs_shape hjson read text full ?_
      refine Option.eq_none_iff_forall_ne_some.2 ?_
      rintro ⟨tool, content⟩ hsplit
      obtain ⟨hraw, hnamed, hopen, hfilled⟩ := RuleText.compose_of_split? hsplit
      exact parts tool content hnamed hopen hfilled hraw
  | pattern read text named unopened filled checks =>
      exact failsAs_pattern hjson read text (RuleText.split?_compose named unopened filled) checks

/-- Whatever fails, something is wrong with it. -/
theorem exists_wrong (hjson : entry.IsJson) {failure : RuleFailure}
    (h : (parse {} category entry).2.result = .ok (.error failure)) :
    ∃ kind code rule cause, Wrong entry kind code rule cause := by
  by_cases hread : Unreadable entry
  · exact ⟨_, _, _, _, .unreadable hread⟩
  by_cases htext : (textOf? entry).getD [] = []
  · exact ⟨_, _, _, _, .empty hread htext⟩
  obtain ⟨raw, hraw⟩ : ∃ raw, textOf? entry = some raw := by
    cases hraw : textOf? entry with
    | none => rw [hraw] at htext; exact absurd rfl htext
    | some raw => exact ⟨raw, rfl⟩
  rw [hraw, Option.getD_some] at htext
  cases hparts : RuleText.split? raw with
  | none =>
      refine ⟨_, _, _, _, .shape hread hraw htext fun tool content hnamed hopen hfilled heq => ?_⟩
      rw [heq, RuleText.split?_compose hnamed hopen hfilled] at hparts
      cases hparts
  | some parts =>
      obtain ⟨tool, content⟩ := parts
      obtain ⟨rfl, hnamed, hopen, hfilled⟩ := RuleText.compose_of_split? hparts
      obtain ⟨e, hflags, hparse⟩ := parse_text category hjson hread hraw htext
      rw [hparse, parseText_result hparts, hflags] at h
      rcases hcompile : compileAfresh tool content (Flags.strip (lettersOf entry)) with
        (cause | f) | patterns
      · exact ⟨_, _, _, _, .pattern hread hraw hnamed hopen hfilled
          ((compileAfresh_eq_error_iff hopen).1 hcompile)⟩
      · rw [hcompile] at h; cases h
      · rw [hcompile] at h; cases h

/-- Where no pattern ends in a fault, what does not fail is a rule. -/
theorem exists_rule_of_not_failing
    (hfaults : ∀ pattern flags f, ComesTo category entry pattern flags →
      ¬PatternFaults pattern flags f)
    (h : ∀ failure, (parse {} category entry).2.result ≠ .ok (.error failure)) :
    ∃ rule, (parse {} category entry).2.result = .ok (.ok rule) := by
  rcases hresult : (parse {} category entry).2.result with f | failure | rule
  · rw [← parse?_result_eq_error_iff, parse?_result_error_iff_comesTo] at hresult
    obtain ⟨pattern, flags, hcomes, hfault⟩ := hresult
    exact absurd hfault (hfaults pattern flags f hcomes)
  · exact absurd hresult (h failure)
  · exact ⟨rule, rfl⟩

end

/-- **An entry fails in the first way that applies.** After any history of requests, an entry of
JSON or a record is refused exactly if something is wrong with it, and is reported as what is wrong
with it first: a kind and a code for each way to be wrong, the rule text, the category the entry
stood in, and the first check of a pattern that fails, with its suggestion. Where no pattern ends in
a fault, an entry with which nothing is wrong is a rule. -/
theorem fails_as_wrong (steps : List CacheStep) (category : Option Text) {entry : Entry}
    (hjson : entry.IsJson) :
    (∀ {kind code rule cause}, Wrong entry kind code rule cause →
      ∃ failure, (parse (PatternCache.after steps) category entry).2.result = .ok (.error failure) ∧
        failure.Reports kind code rule category cause) ∧
    (∀ failure, (parse (PatternCache.after steps) category entry).2.result = .ok (.error failure) →
      ∃ kind code rule cause, Wrong entry kind code rule cause ∧
        failure.Reports kind code rule category cause) ∧
    ((∀ pattern flags f, ComesTo category entry pattern flags → ¬PatternFaults pattern flags f) →
      (∀ kind code rule cause, ¬Wrong entry kind code rule cause) →
        ∃ rule, (parse (PatternCache.after steps) category entry).2.result = .ok (.ok rule)) := by
  rw [((PatternCache.sound_after steps).parse category entry).2]
  refine ⟨fun h => h.failsAs category hjson, fun failure hfailure => ?_, fun hfaults hnothing => ?_⟩
  · obtain ⟨kind, code, rule, cause, hwrong⟩ := exists_wrong hjson hfailure
    obtain ⟨failure', hfailure', hreports⟩ := hwrong.failsAs category hjson
    rw [hfailure] at hfailure'
    cases hfailure'
    exact ⟨kind, code, rule, cause, hwrong, hreports⟩
  · refine exists_rule_of_not_failing hfaults fun failure hfailure => ?_
    obtain ⟨kind, code, rule, cause, hwrong⟩ := exists_wrong hjson hfailure
    exact hnothing kind code rule cause hwrong

/-- A computation of which only the success is evaluated. -/
theorem exists_ok_of_isOk {ε α : Type} {o : Except ε α} (h : o.isOk = true) : ∃ a, o = .ok a := by
  cases o with
  | ok a => exact ⟨a, rfl⟩
  | error e => cases h

/-- A pattern that is screened out and has a letter without a meaning as well, in a mapping: the
screen comes first, and the error names the category. -/
theorem fails_as_wrong_screened :
    let entry : Entry := .value (.object [("rule", .str "Bash((a+)+x)"), ("reason", .null),
      ("flags", .str "gq")])
    entry.IsJson ∧ ∃ failure,
      (parse (PatternCache.after [.parse none (.value (.str "Bash(rm)"))])
        (some "deny") entry).2.result =
        .ok (.error failure) ∧
      failure.Reports "RuleParseError" 2001 "Bash((a+)+x)" (some "deny")
        (some (.make (.nested "(a+)+x" "q"))) := by
  intro entry
  have hjson : entry.IsJson := rfl
  have hread : ¬Unreadable entry := (ofFields_isOk_iff_readable hjson).1
    ⟨{ rule := some "Bash((a+)+x)", flags := some "gq" }, rfl⟩
  obtain ⟨p, hp⟩ : ∃ p, Pattern.compile (RuleText.anchor "Bash") {} = .ok p :=
    exists_ok_of_isOk (by decide +kernel)
  have hwrong : Wrong entry "RuleParseError" 2001 "Bash((a+)+x)"
      (some (.make (.nested "(a+)+x" "q"))) :=
    @Wrong.pattern _ "Bash" "(a+)+x" _ hread rfl (by decide) (by decide) (by decide)
      (.nested hp (Safety.isSafe_eq_false_iff _ |>.1 (by decide)))
  exact ⟨hjson, (fails_as_wrong _ _ hjson).1 hwrong⟩

end RuleEntry

end ToolPolicy
