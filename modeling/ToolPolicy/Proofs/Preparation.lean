import ToolPolicy.Proofs.CacheTransparency

/-!
# What preparing rules comes to

Preparing permissions has a value unless a pattern of one of their entries runs into a fault;
entries that are merely no rules are left out. So whether it has one is a question about each entry
on its own, and the rules of two permissions together are the rules of the first with those of the
second.

* `ruleOf_result_error_iff`: which entries end with a fault.
* `rulesOf_append`, `rules_result_append`: preparing commutes with putting permissions together.
* `rules_isOk_iff`: preparing has a value exactly if no entry ends with a fault.
-/

namespace ToolPolicy

open Regex (Pattern)

/-! ## One entry -/

/-- Every error that is about something has a message. -/
theorem PolicyError.make_message_ne_nil {topic : Topic} {message : Text} {code : Int}
    {suggestion : Option Text} {context : List (Value × Value)} (h : topic ≠ .general) :
    (make topic message code suggestion context).message ≠ [] := by
  have htopic : topic.message ≠ [] := by
    cases topic with
    | general => exact absurd rfl h
    | _ => simp [Topic.message, Text.ofString]
  simp only [make]
  split
  · exact htopic
  · next hm => simpa using hm

namespace RuleEntry

/-- A value of an entry that is a rule but whose patterns end in a fault when they are compiled. -/
def Faulty (v : Value) (f : Fault) : Prop :=
  ∃ e raw tool content, ofEntry none (.value v) = .ok e ∧ e.text? = some raw ∧
    RuleText.split? raw = some (tool, content) ∧
      compileAfresh tool content (Flags.strip (e.flags.getD [])) = .error (.fault f)

/-- Reading an entry depends on its category only in what is said about a failure. -/
theorem ofEntry_eq_ok_iff {category category' : Option Text} {v : Value} {e : RuleEntry} :
    ofEntry category (.value v) = .ok e ↔ ofEntry category' (.value v) = .ok e := by
  cases v with
  | mapping fields =>
      simp only [ofEntry]
      cases ofFields fields <;> simp
  | _ => simp [ofEntry]

theorem ofEntry_failure_message {category : Option Text} {entry : Entry} {failure : RuleFailure}
    (h : ofEntry category entry = .error failure) : failure.error.message ≠ [] := by
  have hmalformed : ∀ rule message, (malformed category rule message).error.message ≠ [] :=
    fun rule message => PolicyError.make_message_ne_nil (by simp)
  cases entry with
  | record e => cases h
  | value v =>
      cases v with
      | str t => cases h
      | mapping fields =>
          simp only [ofEntry] at h
          cases hf : ofFields fields with
          | ok e => rw [hf] at h; cases h
          | error problems =>
              rw [hf] at h
              cases h
              exact hmalformed _ _
      | _ =>
          cases h
          exact hmalformed _ _

theorem result_logFailure (o : Except RuleFailure (Rule Pattern)) :
    (logFailure o).result = .ok o.toOption := by
  cases o <;> rfl

/-- What a rule text of the right shape comes to is what its two patterns come to. -/
theorem parseText_result {raw tool content : Text} (hs : RuleText.split? raw = some (tool, content))
    (category : Option Text) (e : RuleEntry) : (parseText {} category raw e).2.result =
      match compileAfresh tool content (Flags.strip (e.flags.getD [])) with
      | .ok (tool, content) => .ok (.ok { tool, content, reason := e.reason, raw })
      | .error (.error cause) => .ok (.error (patternFailure category raw cause))
      | .error (.fault f) => .error f := by
  have hfresh := (PatternCache.sound_empty.compileRule tool content
    (Flags.strip (e.flags.getD []))).2
  have hflags : (Flags.stripLogged e.flags raw).result = .ok (Flags.strip (e.flags.getD [])) := rfl
  rw [parseText, hs, ← hfresh]
  simp only
  rcases compile {} tool content (Flags.strip (e.flags.getD [])) with ⟨cache, failure | patterns⟩
  · cases failure <;> simp only [Logged.result_bind, hflags] <;> rfl
  · simp only [Logged.result_bind, hflags]
    rfl

theorem parseText_result_error_iff (category : Option Text) (raw : Text) (e : RuleEntry)
    (f : Fault) :
    (parseText {} category raw e).2.result = .error f ↔
      ∃ tool content, RuleText.split? raw = some (tool, content) ∧
        compileAfresh tool content (Flags.strip (e.flags.getD [])) = .error (.fault f) := by
  cases hs : RuleText.split? raw with
  | none => simp [parseText, hs]
  | some parts =>
      obtain ⟨tool, content⟩ := parts
      rw [parseText_result hs]
      constructor
      · intro h
        refine ⟨tool, content, rfl, ?_⟩
        rcases hc : compileAfresh tool content (Flags.strip (e.flags.getD [])) with
          (cause | g) | patterns
        · rw [hc] at h; cases h
        · rw [hc] at h; cases h; rfl
        · rw [hc] at h; cases h
      · rintro ⟨tool', content', hparts, hc⟩
        cases hparts
        rw [hc]

/-- Parsing ends with a fault exactly if the patterns of the entry do. -/
theorem parse_result_error_iff (category : Option Text) (entry : Entry) (f : Fault) :
    (parse {} category entry).2.result = .error f ↔ ∃ e raw tool content,
      ofEntry category entry = .ok e ∧ e.text? = some raw ∧
        RuleText.split? raw = some (tool, content) ∧
          compileAfresh tool content (Flags.strip (e.flags.getD [])) = .error (.fault f) := by
  rw [parse]
  cases he : ofEntry category entry with
  | error failure =>
      constructor
      · intro h
        cases h
      · rintro ⟨e, -, -, -, he', -⟩
        cases he'
  | ok e =>
      simp only [parseRecord]
      cases ht : e.text? with
      | none =>
          constructor
          · intro h
            cases h
          · rintro ⟨e', raw, -, -, he', ht', -⟩
            cases he'
            rw [ht] at ht'
            cases ht'
      | some raw =>
          rw [parseText_result_error_iff]
          constructor
          · rintro ⟨tool, content, hs, hc⟩
            exact ⟨e, raw, tool, content, rfl, ht, hs, hc⟩
          · rintro ⟨e', raw', tool, content, he', ht', hs, hc⟩
            cases he'
            rw [ht] at ht'
            cases ht'
            exact ⟨tool, content, hs, hc⟩

/-- Writing failures into the log leaves the faults as they are. -/
theorem parse?_result_eq_error_iff (category : Option Text) (entry : Entry) (f : Fault) :
    (parse? {} category entry).2.result = .error f ↔
      (parse {} category entry).2.result = .error f := by
  rw [parse?, Logged.result_bind]
  cases (parse {} category entry).2.result <;> simp [Except.bind, result_logFailure]

/-- An entry ends with a fault exactly if its patterns do. -/
theorem parse?_result_error_iff (category : Option Text) (v : Value) (f : Fault) :
    (parse? {} category (.value v)).2.result = .error f ↔ Faulty v f := by
  rw [parse?_result_eq_error_iff, parse_result_error_iff]
  refine exists_congr fun e => ?_
  rw [ofEntry_eq_ok_iff]

/-- What an accepted rule was read from: a record with its text, the two parts of the text, and the
patterns that they compile to. -/
theorem parse_rule {category : Option Text} {entry : Entry} {rule : Rule Pattern}
    (h : (parse {} category entry).2.result = .ok (.ok rule)) :
    ∃ e tool content, ofEntry category entry = .ok e ∧ e.text? = some rule.raw ∧
      rule.reason = e.reason ∧ RuleText.split? rule.raw = some (tool, content) ∧
        compileAfresh tool content (Flags.strip (e.flags.getD [])) =
          .ok (rule.tool, rule.content) := by
  rw [parse] at h
  cases he : ofEntry category entry with
  | error failure => rw [he] at h; cases h
  | ok e =>
      rw [he] at h
      simp only [parseRecord] at h
      cases ht : e.text? with
      | none => rw [ht] at h; cases h
      | some raw =>
          rw [ht] at h
          simp only at h
          cases hs : RuleText.split? raw with
          | none => rw [parseText, hs] at h; cases h
          | some parts =>
              obtain ⟨tool, content⟩ := parts
              rw [parseText_result hs] at h
              rcases hc : compileAfresh tool content (Flags.strip (e.flags.getD [])) with
                (cause | f) | patterns
              · rw [hc] at h; cases h
              · rw [hc] at h; cases h
              · rw [hc] at h
                cases h
                exact ⟨e, tool, content, rfl, ht, rfl, hs, hc⟩

/-- Whatever an entry fails for, there is something to say about it. -/
theorem parse_failure_message {category : Option Text} {entry : Entry} {failure : RuleFailure}
    (h : (parse {} category entry).2.result = .ok (.error failure)) :
    failure.error.message ≠ [] := by
  rw [parse] at h
  cases he : ofEntry category entry with
  | error reading =>
      rw [he] at h
      cases h
      exact ofEntry_failure_message he
  | ok e =>
      rw [he] at h
      simp only [parseRecord] at h
      cases ht : e.text? with
      | none =>
          rw [ht] at h
          cases h
          exact PolicyError.make_message_ne_nil (by simp)
      | some raw =>
          rw [ht] at h
          simp only at h
          cases hs : RuleText.split? raw with
          | none =>
              rw [parseText, hs] at h
              cases h
              exact PolicyError.make_message_ne_nil (by simp)
          | some parts =>
              obtain ⟨tool, content⟩ := parts
              rw [parseText_result hs] at h
              rcases hc : compileAfresh tool content (Flags.strip (e.flags.getD [])) with
                (cause | f) | patterns
              · rw [hc] at h
                cases h
                exact PolicyError.make_message_ne_nil (by simp)
              · rw [hc] at h; cases h
              · rw [hc] at h; cases h

end RuleEntry

/-! ## Lists of entries -/

namespace Permissions

theorem ruleOf_result_error_iff (category : Category) (v : Value) (f : Fault) :
    (ruleOf category v).result = .error f ↔ RuleEntry.Faulty v f :=
  RuleEntry.parse?_result_error_iff (some category.label) v f

theorem rulesOf_result_cons (category : Category) (v : Value) (rest : List Value) :
    (rulesOf category (v :: rest)).result =
      (ruleOf category v).result.bind fun first =>
        (rulesOf category rest).result.bind fun others => .ok (keep first others) := by
  rw [rulesOf, Logged.result_bind]
  simp only [Logged.result_bind, Logged.result_pure]

theorem keep_append (rule : Option (Rule Pattern)) (a b : List (Rule Pattern)) :
    keep rule (a ++ b) = keep rule a ++ b := by
  cases rule <;> rfl

/-- The rules of two lists of entries are those of the first, then those of the second. -/
theorem rulesOf_append (category : Category) (a b : List Value) :
    rulesOf category (a ++ b) = do return (← rulesOf category a) ++ (← rulesOf category b) := by
  induction a with
  | nil => simp [rulesOf]
  | cons v rest ih => simp [rulesOf, ih, keep_append]

/-- A list of entries has rules exactly if no entry in it ends with a fault. -/
theorem rulesOf_isOk_iff (category : Category) (entries : List Value) :
    (∃ rules, (rulesOf category entries).result = .ok rules) ↔
      ∀ v ∈ entries, ∀ f, ¬RuleEntry.Faulty v f := by
  induction entries with
  | nil => simp [rulesOf]
  | cons v rest ih =>
      rw [rulesOf_result_cons, List.forall_mem_cons, ← ih]
      simp only [← ruleOf_result_error_iff category]
      cases (ruleOf category v).result with
      | error e => simp [Except.bind]
      | ok first => cases (rulesOf category rest).result <;> simp [Except.bind]

/-! ## Permissions -/

/-- What comes of preparing permissions. -/
theorem rules_result (p : Permissions) : p.rules.result =
    (rulesOf .deny p.deny).result.bind fun deny =>
      (rulesOf .ask p.ask).result.bind fun ask =>
        (rulesOf .allow p.allow).result.bind fun allow => .ok { deny, ask, allow } := by
  rw [rules, prepare_snd PatternCache.sound_empty]
  simp only [Logged.result_bind, Logged.result_pure]
  rfl

/-- Permissions have some rules exactly if each category has those of its own. -/
theorem rules_result_eq_ok_iff {p : Permissions} {rules : RuleSet Pattern} :
    p.rules.result = .ok rules ↔ (rulesOf .deny p.deny).result = .ok rules.deny ∧
      (rulesOf .ask p.ask).result = .ok rules.ask ∧
        (rulesOf .allow p.allow).result = .ok rules.allow := by
  simp only [rules_result, bind_eq_ok_iff]
  constructor
  · rintro ⟨deny, hd, ask, ha, allow, hl, ⟨⟩⟩
    exact ⟨hd, ha, hl⟩
  · rintro ⟨hd, ha, hl⟩
    exact ⟨rules.deny, hd, rules.ask, ha, rules.allow, hl, rfl⟩

/-- Preparing has a value exactly if no entry ends with a fault. -/
theorem rules_isOk_iff (p : Permissions) :
    (∃ rules, p.rules.result = .ok rules) ↔ ∀ c, ∀ v ∈ p.entries c, ∀ f, ¬RuleEntry.Faulty v f := by
  have hcat : (∀ c, ∀ v ∈ p.entries c, ∀ f, ¬RuleEntry.Faulty v f) ↔
      ∀ c, ∃ rules, (rulesOf c (p.entries c)).result = .ok rules :=
    forall_congr' fun c => (rulesOf_isOk_iff c _).symm
  rw [hcat]
  constructor
  · rintro ⟨rules, h⟩ c
    obtain ⟨hd, ha, hl⟩ := rules_result_eq_ok_iff.1 h
    cases c with
    | deny => exact ⟨rules.deny, hd⟩
    | ask => exact ⟨rules.ask, ha⟩
    | allow => exact ⟨rules.allow, hl⟩
  · intro h
    obtain ⟨deny, hd⟩ := h .deny
    obtain ⟨ask, ha⟩ := h .ask
    obtain ⟨allow, hl⟩ := h .allow
    exact ⟨{ deny, ask, allow }, rules_result_eq_ok_iff.2 ⟨hd, ha, hl⟩⟩

/-- Preparing permissions that are put together gives the rules of both. -/
theorem rules_result_append {a b : Permissions} {rulesA rulesB : RuleSet Pattern}
    (ha : a.rules.result = .ok rulesA) (hb : b.rules.result = .ok rulesB) :
    (a.append b).rules.result = .ok (rulesA.append rulesB) := by
  obtain ⟨hda, haa, hla⟩ := rules_result_eq_ok_iff.1 ha
  obtain ⟨hdb, hab, hlb⟩ := rules_result_eq_ok_iff.1 hb
  rw [rules_result_eq_ok_iff]
  simp only [append, rulesOf_append, Logged.result_bind, Logged.result_pure, hda, hdb, haa, hab,
    hla, hlb]
  exact ⟨rfl, rfl, rfl⟩

end Permissions

end ToolPolicy
