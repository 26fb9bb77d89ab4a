import Mathlib.Data.List.Induction
import ToolPolicy.Proofs.CacheTransparency

/-!
# Histories of a cache

One cache serves all that is asked of a compiler of patterns and of a parser that shares it: single
patterns, single entries, whole permissions, and that everything be forgotten. Here is what such a
cache holds after any number of requests in any order, and what it answers.

* `Adds`: what compiling patterns makes of a cache. It composes, so that there is one short lemma
  for a pattern, a rule, an entry, a list of entries and permissions (`adds_compile` to
  `adds_prepare`).
* `CacheStep.adds_run`, `CacheStep.run_snd`: the step lemmas, for one request.
* `holds_after`: the run lemma, for a history of requests.
* `history_transparent`: a cache with a history holds exactly what was compiled since it was
  cleared, and answers as a new one does.
-/

namespace ToolPolicy

open Regex (Pattern)

/-! ## What is compiled -/

/-- The key of a pattern, if the pattern compiles. -/
def compiledKey (pattern flags : Text) : List (Text × Text) :=
  if (compilePattern pattern flags).isOk then [(flags, pattern)] else []

namespace RuleEntry

/-- The keys of those patterns of a rule that compile. The one for the content is not looked at
when the one for the tool fails. -/
def partKeys (tool content flags : Text) : List (Text × Text) :=
  match compilePattern (RuleText.anchor tool) [] with
  | .ok _ => ([], RuleText.anchor tool) :: compiledKey content flags
  | .error _ => []

/-- The keys of the patterns that parsing an entry compiles. -/
def compiledKeys (category : Option Text) (entry : Entry) : List (Text × Text) :=
  match ofEntry category entry with
  | .error _ => []
  | .ok e =>
    match e.text?.bind RuleText.split? with
    | none => []
    | some (tool, content) => partKeys tool content (Flags.strip (e.flags.getD []))

end RuleEntry

namespace Permissions

/-- The keys of the patterns that a list of entries compiles, up to an entry that ends with a
fault. -/
def keysOf (category : Category) : List Value → List (Text × Text)
  | [] => []
  | v :: rest =>
    RuleEntry.compiledKeys (some category.label) (.value v) ++
      match (ruleOf category v).result with
      | .ok _ => keysOf category rest
      | .error _ => []

/-- The keys of the patterns that preparing permissions compiles. -/
def compiledKeys (p : Permissions) : List (Text × Text) :=
  keysOf .deny p.deny ++
    match (rulesOf .deny p.deny).result with
    | .error _ => []
    | .ok _ =>
      keysOf .ask p.ask ++
        match (rulesOf .ask p.ask).result with
        | .error _ => []
        | .ok _ => keysOf .allow p.allow

end Permissions

/-! ## What compiling makes of a cache -/

namespace PatternCache

/-- The flags and texts under which patterns are kept. -/
def keys (cache : PatternCache) : List (Text × Text) := cache.entries.map (·.1)

theorem keys_insert (cache : PatternCache) (pattern flags : Text) (compiled : Pattern) :
    (cache.insert pattern flags compiled).keys = cache.keys ++ [(flags, pattern)] := by
  simp [keys, PatternCache.insert]

/-- What compiling the patterns of some keys makes of a cache: a sound one that has these keys
besides its own, each once. -/
structure Adds (before : PatternCache) (added : List (Text × Text)) (after : PatternCache) :
    Prop where
  sound : after.Sound
  nodup : before.keys.Nodup → after.keys.Nodup
  mem_keys : ∀ key, key ∈ after.keys ↔ key ∈ before.keys ∨ key ∈ added

namespace Adds

variable {first second third : PatternCache} {added more : List (Text × Text)}

theorem refl (h : first.Sound) : Adds first [] first := ⟨h, id, fun key => by simp⟩

theorem trans (h : Adds first added second) (h' : Adds second more third) :
    Adds first (added ++ more) third := by
  refine ⟨h'.sound, fun hn => h'.nodup (h.nodup hn), fun key => ?_⟩
  rw [h'.mem_keys, h.mem_keys, List.mem_append, or_assoc]

end Adds

theorem find?_eq_none_iff {cache : PatternCache} {pattern flags : Text} :
    cache.find? pattern flags = none ↔ (flags, pattern) ∉ cache.keys := by
  simp only [find?, Option.map_eq_none_iff, List.find?_eq_none, beq_iff_eq, keys, List.mem_map,
    not_exists, not_and]

variable {cache : PatternCache}

/-- A pattern that is in the cache is not added again; any other is added if it compiles. -/
theorem adds_compile (h : cache.Sound) (pattern flags : Text) :
    Adds cache (compiledKey pattern flags) (cache.compile pattern flags).1 := by
  cases hf : cache.find? pattern flags with
  | some compiled =>
      have hmem : (flags, pattern) ∈ cache.keys := by
        by_contra hnot
        rw [find?_eq_none_iff.2 hnot] at hf
        cases hf
      rw [compile_of_find? hf, compiledKey, h.compilePattern_of_find? hf]
      refine ⟨h, id, fun key => ⟨Or.inl, ?_⟩⟩
      rintro (hk | hk)
      · exact hk
      · rw [List.mem_singleton.1 hk]
        exact hmem
  | none =>
      rw [compile, hf, compiledKey]
      cases hc : compilePattern pattern flags with
      | error e => exact Adds.refl h
      | ok compiled =>
          refine ⟨h.insert hc, fun hn => ?_, fun key => ?_⟩
          · rw [keys_insert, List.nodup_append]
            refine ⟨hn, List.pairwise_singleton _ _, ?_⟩
            intro key hk other ho heq
            rw [heq, List.mem_singleton.1 ho] at hk
            exact find?_eq_none_iff.1 hf hk
          · rw [keys_insert, List.mem_append]
            rfl

theorem adds_compileRule (h : cache.Sound) (tool content flags : Text) :
    Adds cache (RuleEntry.partKeys tool content flags)
      (RuleEntry.compile cache tool content flags).1 := by
  have hfirst := adds_compile h (RuleText.anchor tool) []
  rw [compiledKey, ← h.compile_snd (RuleText.anchor tool) []] at hfirst
  rw [RuleEntry.compile, RuleEntry.partKeys, ← h.compile_snd (RuleText.anchor tool) []]
  revert hfirst
  rcases cache.compile (RuleText.anchor tool) [] with ⟨first, _ | toolPattern⟩
  · exact id
  · intro hfirst
    have hsecond := hfirst.trans (adds_compile hfirst.sound content flags)
    simp only at hsecond ⊢
    revert hsecond
    rcases first.compile content flags with ⟨second, _ | contentPattern⟩
    · exact id
    · exact id

theorem adds_parse (h : cache.Sound) (category : Option Text) (entry : Entry) :
    Adds cache (RuleEntry.compiledKeys category entry)
      (RuleEntry.parse cache category entry).1 := by
  rw [RuleEntry.parse, RuleEntry.compiledKeys]
  cases RuleEntry.ofEntry category entry with
  | error failure => exact Adds.refl h
  | ok e =>
      simp only [RuleEntry.parseRecord]
      cases e.text? with
      | none => exact Adds.refl h
      | some raw =>
          simp only [RuleEntry.parseText, Option.bind_some]
          cases RuleText.split? raw with
          | none => exact Adds.refl h
          | some parts =>
              obtain ⟨tool, content⟩ := parts
              have hrule := adds_compileRule h tool content (Flags.strip (e.flags.getD []))
              simp only
              revert hrule
              rcases RuleEntry.compile cache tool content (Flags.strip (e.flags.getD [])) with
                ⟨after, (cause | f) | patterns⟩ <;> exact id

theorem adds_parseAll (h : cache.Sound) (category : Category) (entries : List Value) :
    Adds cache (Permissions.keysOf category entries)
      (Permissions.parseAll cache category entries).1 := by
  induction entries generalizing cache with
  | nil => exact Adds.refl h
  | cons v rest ih =>
      have hfirst : Adds cache _ (RuleEntry.parse? cache (some category.label) (.value v)).1 :=
        adds_parse h (some category.label) (.value v)
      have hsnd := h.parse?_snd (some category.label) (.value v)
      rw [Permissions.parseAll, Permissions.keysOf, Permissions.ruleOf, ← hsnd]
      revert hfirst
      rcases RuleEntry.parse? cache (some category.label) (.value v) with ⟨first, outcome⟩
      intro hfirst
      simp only
      cases outcome.result with
      | error f => simpa using hfirst
      | ok rule => exact hfirst.trans (ih hfirst.sound)

theorem adds_prepare (h : cache.Sound) (p : Permissions) :
    Adds cache p.compiledKeys (p.prepare cache).1 := by
  have hdeny := adds_parseAll h .deny p.deny
  rw [Permissions.prepare, Permissions.compiledKeys, ← (h.parseAll .deny p.deny).2]
  revert hdeny
  rcases Permissions.parseAll cache .deny p.deny with ⟨first, deny⟩
  intro hdeny
  simp only
  cases deny.result with
  | error f => simpa using hdeny
  | ok _ =>
      have hask := hdeny.trans (adds_parseAll hdeny.sound .ask p.ask)
      simp only
      rw [← (Sound.parseAll hdeny.sound .ask p.ask).2]
      revert hask
      rcases Permissions.parseAll first .ask p.ask with ⟨second, ask⟩
      intro hask
      simp only
      cases ask.result with
      | error f => simpa using hask
      | ok _ => simpa using hask.trans (adds_parseAll hask.sound .allow p.allow)

end PatternCache

/-! ## Requests -/

/-- A request to a compiler of patterns, or to a parser of entries that shares its cache. -/
inductive CacheStep where
  | compile (pattern flags : Text)
  /-- To compile a pattern, or to say in the log why it is none. -/
  | compile? (pattern flags : Text)
  | clear
  | parse (category : Option Text) (entry : Entry)
  /-- To parse an entry, or to say in the log why it is no rule. -/
  | parse? (category : Option Text) (entry : Entry)
  | prepare (p : Permissions)

namespace CacheStep

/-- What a request is answered with, and what was logged meanwhile. -/
inductive Answer where
  | pattern (outcome : Except CompileFailure Pattern)
  | pattern? (outcome : Logged (Option Pattern))
  | cleared
  | rule (outcome : Logged (Except RuleFailure (Rule Pattern)))
  | rule? (outcome : Logged (Option (Rule Pattern)))
  | rules (outcome : Logged (RuleSet Pattern))

/-- Carries out a request. -/
def run (cache : PatternCache) : CacheStep → PatternCache × Answer
  | compile pattern flags => (cache.compile pattern flags).map id .pattern
  | compile? pattern flags => (cache.compile? pattern flags).map id .pattern?
  | clear => ({}, .cleared)
  | parse category entry => (RuleEntry.parse cache category entry).map id .rule
  | parse? category entry => (RuleEntry.parse? cache category entry).map id .rule?
  | prepare p => (p.prepare cache).map id .rules

/-- Whether everything is to be forgotten. -/
def isClear : CacheStep → Bool
  | clear => true
  | _ => false

/-- The keys of the patterns that are compiled for a request. -/
def compiledKeys : CacheStep → List (Text × Text)
  | compile pattern flags => compiledKey pattern flags
  | compile? pattern flags => compiledKey pattern flags
  | clear => []
  | parse category entry => RuleEntry.compiledKeys category entry
  | parse? category entry => RuleEntry.compiledKeys category entry
  | prepare p => p.compiledKeys

variable {cache : PatternCache}

theorem compile?_fst (pattern flags : Text) :
    (cache.compile? pattern flags).1 = (cache.compile pattern flags).1 := by
  rw [PatternCache.compile?]
  rcases cache.compile pattern flags with ⟨after, (cause | f) | compiled⟩
  · cases h : cause.topic <;> simp only [h]
  · rfl
  · rfl

theorem compile?_snd (h : cache.Sound) (pattern flags : Text) :
    (cache.compile? pattern flags).2 = (PatternCache.compile? {} pattern flags).2 := by
  have hsame := (h.compile_snd pattern flags).trans
    (PatternCache.sound_empty.compile_snd pattern flags).symm
  rw [PatternCache.compile?, PatternCache.compile?]
  revert hsame
  generalize cache.compile pattern flags = own
  generalize PatternCache.compile {} pattern flags = fresh
  obtain ⟨after, result⟩ := own
  obtain ⟨other, result'⟩ := fresh
  rintro rfl
  rcases result with (cause | f) | compiled
  · cases h : cause.topic <;> simp only [h]
  · rfl
  · rfl

/-- A request that clears nothing adds what it compiles. -/
theorem adds_run (h : cache.Sound) {step : CacheStep} (hstep : step.isClear = false) :
    PatternCache.Adds cache step.compiledKeys (step.run cache).1 := by
  cases step with
  | compile pattern flags => exact PatternCache.adds_compile h pattern flags
  | compile? pattern flags =>
      simp only [run, Prod.map_fst, id, compile?_fst]
      exact PatternCache.adds_compile h pattern flags
  | clear => cases hstep
  | parse category entry => exact PatternCache.adds_parse h category entry
  | parse? category entry => exact PatternCache.adds_parse h category entry
  | prepare p => exact PatternCache.adds_prepare h p

/-- Through a sound cache a request is answered as through a new one. -/
theorem run_snd (h : cache.Sound) (step : CacheStep) : (step.run cache).2 = (step.run {}).2 := by
  have hempty := PatternCache.sound_empty
  cases step with
  | compile pattern flags =>
      simp only [run, Prod.map_snd, h.compile_snd, hempty.compile_snd]
  | compile? pattern flags => simp only [run, Prod.map_snd, compile?_snd h]
  | clear => rfl
  | parse category entry => simp only [run, Prod.map_snd, (h.parse category entry).2]
  | parse? category entry => simp only [run, Prod.map_snd, h.parse?_snd category entry]
  | prepare p =>
      simp only [run, Prod.map_snd, Permissions.prepare_snd h, Permissions.prepare_snd hempty]

end CacheStep

/-! ## Histories -/

namespace PatternCache

/-- The cache after some requests, which begin with a new one. -/
def after (steps : List CacheStep) : PatternCache :=
  steps.foldl (fun cache step => (step.run cache).1) {}

/-- The requests since everything was last forgotten, the latest first. -/
def sinceClear (steps : List CacheStep) : List CacheStep :=
  steps.reverse.takeWhile fun step => !step.isClear

@[simp] theorem after_append (steps : List CacheStep) (step : CacheStep) :
    after (steps ++ [step]) = (step.run (after steps)).1 := by
  simp [after]

theorem sinceClear_append (steps : List CacheStep) (step : CacheStep) :
    sinceClear (steps ++ [step]) = if step.isClear then [] else step :: sinceClear steps := by
  cases h : step.isClear <;> simp [sinceClear, h]

/-- The run lemma: a history leaves a sound cache with what was compiled since the last clearing,
each key once. -/
theorem holds_after (steps : List CacheStep) :
    (after steps).Sound ∧ (after steps).keys.Nodup ∧
      ∀ key, key ∈ (after steps).keys ↔ ∃ step ∈ sinceClear steps, key ∈ step.compiledKeys := by
  induction steps using List.reverseRecOn with
  | nil => exact ⟨sound_empty, List.nodup_nil, fun key => by simp [after, keys, sinceClear]⟩
  | append_singleton steps step ih =>
      obtain ⟨hsound, hnodup, hmem⟩ := ih
      rw [after_append, sinceClear_append]
      cases hstep : step.isClear with
      | true =>
          cases step with
          | clear => exact ⟨sound_empty, List.nodup_nil, fun key => by simp [CacheStep.run, keys]⟩
          | _ => cases hstep
      | false =>
          have hadds := CacheStep.adds_run hsound hstep
          refine ⟨hadds.sound, hadds.nodup hnodup, fun key => ?_⟩
          rw [hadds.mem_keys, hmem]
          simp [or_comm]

theorem sound_after (steps : List CacheStep) : (after steps).Sound := (holds_after steps).1

/-- A pattern that compiles is free of nested repetition, and its flags are known. -/
theorem compilePattern_eq_ok {pattern flags : Text} {compiled : Pattern}
    (h : compilePattern pattern flags = .ok compiled) :
    Safety.isSafe pattern = true ∧
      ∃ options, Flags.options flags = .ok options ∧
        Pattern.compile pattern options = .ok compiled := by
  rw [compilePattern] at h
  cases hs : Safety.isSafe pattern with
  | false => rw [hs] at h; cases h
  | true =>
      rw [hs] at h
      cases ho : Flags.options flags with
      | error letter => rw [ho] at h; cases h
      | ok options =>
          rw [ho] at h
          simp only at h
          cases hc : Pattern.compile pattern options with
          | error failure => rw [hc] at h; cases failure <;> cases h
          | ok found =>
              rw [hc] at h
              cases h
              exact ⟨rfl, options, rfl, hc⟩

/-- **A cache cannot be told from a new one.**  After any history of requests, faults among them
included: whatever the cache holds is safe, has known flags, and is what its text compiles to under
just these; its keys are those compiled since it was last cleared; a pattern that does not compile
leaves it as it is; and the next request, whichever it is, gets the answer, the error and the log
that it gets from a new cache. -/
theorem history_transparent (steps : List CacheStep) :
    (∀ e ∈ (after steps).entries, Safety.isSafe e.1.2 = true ∧
      ∃ options, Flags.options e.1.1 = .ok options ∧
        Pattern.compile e.1.2 options = .ok e.2) ∧
    ((after steps).keys.Nodup ∧ ∀ key, key ∈ (after steps).keys ↔
      ∃ step ∈ sinceClear steps, key ∈ step.compiledKeys) ∧
    (∀ pattern flags, (∀ compiled, ((after steps).compile pattern flags).2 ≠ .ok compiled) →
      ((after steps).compile pattern flags).1 = after steps ∧
        ((after steps).compile? pattern flags).1 = after steps) ∧
    ∀ step, (CacheStep.run (after steps) step).2 = (CacheStep.run {} step).2 := by
  obtain ⟨hsound, hnodup, hmem⟩ := holds_after steps
  refine ⟨fun e he => compilePattern_eq_ok (hsound e he), ⟨hnodup, hmem⟩, ?_, fun step =>
    CacheStep.run_snd hsound step⟩
  intro pattern flags hfails
  have hsame : ((after steps).compile pattern flags).1 = after steps := by
    cases hc : ((after steps).compile pattern flags).2 with
    | ok compiled => exact absurd hc (hfails compiled)
    | error e => exact cache_of_error hc
  exact ⟨hsame, by rw [CacheStep.compile?_fst, hsame]⟩

/-- Letters in another order are other flags; a rule whose content does not compile leaves the
pattern for its tool. -/
example : (after [.compile "a" "im", .parse none (.value (.str "b([)")), .compile? "a" "mi"]).keys =
    ([("im", "a"), ([], "\\A(?:b)\\Z"), ("mi", "a")] : List (Text × Text)) := by
  decide +kernel

end PatternCache

end ToolPolicy
