import ToolPolicy.Policy.Preparation

/-!
# Rules through a cache

Entries are turned into rules one after the other, all through one cache of compiled patterns. A
cache is sound if each of its patterns is what its text compiles to; the empty cache is sound,
compiling through a sound cache keeps it so, and then nothing that is compiled, parsed or prepared
depends on what the cache holds.

* `Sound.compile_snd`, `Sound.compile_fst`: the step lemma, for one pattern.
* `Sound.parse?_snd`, `Sound.parse?_fst`: the same for one entry.
* `Sound.parseAll`: the run lemma, for a list of entries.
* `prepare_snd`: the rules of permissions are those of their entries, each taken alone.
-/

namespace ToolPolicy

open Regex (Pattern)

/-! ## Results of logged work -/

/-- Two steps have a value exactly if the first has one from which the second gets there. -/
theorem bind_eq_ok_iff {ε α β : Type} {x : Except ε α} {f : α → Except ε β} {b : β} :
    x.bind f = .ok b ↔ ∃ a, x = .ok a ∧ f a = .ok b := by
  cases x <;> simp [Except.bind]

namespace Logged

variable {α β : Type}

/-- What comes out of two steps is what comes out of the second one, if the first has a value. -/
theorem result_bind (m : Logged α) (f : α → Logged β) :
    (m >>= f).result = m.result.bind fun a => (f a).result := by
  cases h : m.result with
  | ok a => rw [result_bind_of_ok f h]; rfl
  | error e => rw [bind_of_error f h]; rfl

theorem result_bind_eq_ok_iff {m : Logged α} {f : α → Logged β} {b : β} :
    (m >>= f).result = .ok b ↔ ∃ a, m.result = .ok a ∧ (f a).result = .ok b := by
  rw [result_bind, bind_eq_ok_iff]

end Logged

/-! ## One pattern -/

namespace PatternCache

variable {cache : PatternCache}

/-- Every pattern in the cache is what its text compiles to under its flags. -/
def Sound (cache : PatternCache) : Prop :=
  ∀ e ∈ cache.entries, compilePattern e.1.2 e.1.1 = .ok e.2

theorem sound_empty : Sound {} := fun _ he => absurd he List.not_mem_nil

namespace Sound

theorem compilePattern_of_find? (h : cache.Sound) {pattern flags : Text} {compiled : Pattern}
    (hf : cache.find? pattern flags = some compiled) :
    compilePattern pattern flags = .ok compiled := by
  obtain ⟨e, he, rfl⟩ := Option.map_eq_some_iff.1 hf
  have hkey : e.1 = (flags, pattern) := by simpa using List.find?_some he
  have := h e (List.mem_of_find?_eq_some he)
  rwa [hkey] at this

theorem insert (h : cache.Sound) {pattern flags : Text} {compiled : Pattern}
    (hc : compilePattern pattern flags = .ok compiled) :
    (cache.insert pattern flags compiled).Sound := by
  intro e he
  rcases List.mem_append.1 he with he | he
  · exact h e he
  · rw [List.mem_singleton.1 he]
    exact hc

/-- Through a sound cache a pattern compiles to what it compiles to afresh. -/
theorem compile_snd (h : cache.Sound) (pattern flags : Text) :
    (cache.compile pattern flags).2 = compilePattern pattern flags := by
  cases hf : cache.find? pattern flags with
  | some compiled => rw [compile_of_find? hf, h.compilePattern_of_find? hf]
  | none =>
      rw [compile, hf]
      cases compilePattern pattern flags <;> rfl

theorem compile_fst (h : cache.Sound) (pattern flags : Text) :
    (cache.compile pattern flags).1.Sound := by
  cases hf : cache.find? pattern flags with
  | some compiled => rwa [compile_of_find? hf]
  | none =>
      rw [compile, hf]
      cases hc : compilePattern pattern flags with
      | ok compiled => exact h.insert hc
      | error e => exact h

end Sound

end PatternCache

/-! ## One entry -/

namespace RuleEntry

/-- The two patterns of a rule, compiled afresh. -/
def compileAfresh (tool content flags : Text) : Except CompileFailure (Pattern × Pattern) := do
  let toolPattern ← compilePattern (RuleText.anchor tool) []
  let contentPattern ← compilePattern content flags
  return (toolPattern, contentPattern)

end RuleEntry

namespace PatternCache.Sound

open RuleEntry

variable {cache : PatternCache}

theorem compileRule (h : cache.Sound) (tool content flags : Text) :
    (RuleEntry.compile cache tool content flags).1.Sound ∧
      (RuleEntry.compile cache tool content flags).2 = compileAfresh tool content flags := by
  have hs := h.compile_snd (RuleText.anchor tool) []
  have hf := h.compile_fst (RuleText.anchor tool) []
  rw [RuleEntry.compile, compileAfresh, ← hs]
  revert hf
  rcases cache.compile (RuleText.anchor tool) [] with ⟨first, _ | toolPattern⟩
  · exact fun hf => ⟨hf, rfl⟩
  · intro hf
    have hs' := PatternCache.Sound.compile_snd hf content flags
    have hf' := PatternCache.Sound.compile_fst hf content flags
    simp only [bind, Except.bind, ← hs']
    revert hf'
    rcases first.compile content flags with ⟨second, _ | contentPattern⟩
    · exact fun hf' => ⟨hf', rfl⟩
    · exact fun hf' => ⟨hf', rfl⟩

theorem parseText (h : cache.Sound) (category : Option Text) (raw : Text) (e : RuleEntry) :
    (RuleEntry.parseText cache category raw e).1.Sound ∧
      (RuleEntry.parseText cache category raw e).2 = (RuleEntry.parseText {} category raw e).2 := by
  rw [RuleEntry.parseText, RuleEntry.parseText]
  cases RuleText.split? raw with
  | none => exact ⟨h, rfl⟩
  | some parts =>
      obtain ⟨tool, content⟩ := parts
      obtain ⟨hf, hs⟩ := h.compileRule tool content (Flags.strip (e.flags.getD []))
      obtain ⟨-, hs'⟩ := sound_empty.compileRule tool content (Flags.strip (e.flags.getD []))
      rw [← hs'] at hs
      simp only
      revert hf hs
      generalize RuleEntry.compile cache tool content (Flags.strip (e.flags.getD [])) = own
      generalize RuleEntry.compile {} tool content (Flags.strip (e.flags.getD [])) = fresh
      obtain ⟨first, result⟩ := own
      obtain ⟨other, result'⟩ := fresh
      rintro hf rfl
      cases result with
      | ok patterns => exact ⟨hf, rfl⟩
      | error failure => cases failure <;> exact ⟨hf, rfl⟩

theorem parse (h : cache.Sound) (category : Option Text) (entry : Entry) :
    (RuleEntry.parse cache category entry).1.Sound ∧
      (RuleEntry.parse cache category entry).2 = (RuleEntry.parse {} category entry).2 := by
  rw [RuleEntry.parse, RuleEntry.parse]
  cases ofEntry category entry with
  | error failure => exact ⟨h, rfl⟩
  | ok e =>
      simp only [RuleEntry.parseRecord]
      cases e.text? with
      | none => exact ⟨h, rfl⟩
      | some raw => exact h.parseText category raw e

theorem parse?_fst (h : cache.Sound) (category : Option Text) (entry : Entry) :
    (RuleEntry.parse? cache category entry).1.Sound :=
  (h.parse category entry).1

/-- Through a sound cache an entry comes to what it comes to alone, with the same log. -/
theorem parse?_snd (h : cache.Sound) (category : Option Text) (entry : Entry) :
    (RuleEntry.parse? cache category entry).2 = (RuleEntry.parse? {} category entry).2 := by
  simp only [RuleEntry.parse?, (h.parse category entry).2]

end PatternCache.Sound

/-! ## Lists of entries -/

namespace Permissions

/-- What an entry of a category comes to, taken alone. -/
def ruleOf (category : Category) (v : Value) : Logged (Option (Rule Pattern)) :=
  (RuleEntry.parse? {} (some category.label) (.value v)).2

/-- The rules of entries of a category, each taken alone. -/
def rulesOf (category : Category) : List Value → Logged (List (Rule Pattern))
  | [] => pure []
  | v :: rest => do return keep (← ruleOf category v) (← rulesOf category rest)

end Permissions

namespace PatternCache.Sound

open Permissions

/-- A list of entries comes to what its entries come to, and leaves the cache sound. -/
theorem parseAll {cache : PatternCache} (h : cache.Sound) (category : Category)
    (entries : List Value) :
    (Permissions.parseAll cache category entries).1.Sound ∧
      (Permissions.parseAll cache category entries).2 = rulesOf category entries := by
  induction entries generalizing cache with
  | nil => exact ⟨h, rfl⟩
  | cons v rest ih =>
      have hf := h.parse?_fst (some category.label) (.value v)
      have hs := h.parse?_snd (some category.label) (.value v)
      rw [Permissions.parseAll, rulesOf, ruleOf, ← hs]
      revert hf
      rcases RuleEntry.parse? cache (some category.label) (.value v) with ⟨first, outcome⟩
      intro hf
      obtain ⟨hrest, hrules⟩ := ih hf
      simp only
      cases hr : outcome.result with
      | error f => exact ⟨hf, (Logged.bind_of_error _ hr).symm⟩
      | ok rule => exact ⟨hrest, by simp only [← hrules]⟩

end PatternCache.Sound

namespace Permissions

/-- **Each entry is taken alone.**  The rules of permissions are those of their entries, category by
category, whatever patterns the entries share and whatever a sound cache held before. -/
theorem prepare_snd {cache : PatternCache} (h : cache.Sound) (p : Permissions) :
    (prepare cache p).2 = do
      let deny ← rulesOf .deny p.deny
      let ask ← rulesOf .ask p.ask
      let allow ← rulesOf .allow p.allow
      let rules : RuleSet Pattern := { deny, ask, allow }
      let _ ← (⟨[loadedRecord rules], .ok ()⟩ : Logged Unit)
      return rules := by
  obtain ⟨hf, hdeny⟩ := h.parseAll .deny p.deny
  rw [prepare, ← hdeny]
  revert hf
  rcases parseAll cache .deny p.deny with ⟨first, deny⟩
  intro hf
  simp only
  cases hd : deny.result with
  | error f => exact (Logged.bind_of_error _ hd).symm
  | ok denyRules =>
      obtain ⟨hf', hask⟩ := PatternCache.Sound.parseAll hf .ask p.ask
      rw [← hask]
      revert hf'
      rcases parseAll first .ask p.ask with ⟨second, ask⟩
      intro hf'
      simp only
      cases ha : ask.result with
      | error f =>
          refine Logged.ext ?_ ?_
          · rw [Logged.log_bind_of_ok _ hd, Logged.bind_of_error _ ha]
          · rw [Logged.result_bind_of_ok _ hd, Logged.bind_of_error _ ha]
      | ok askRules =>
          obtain ⟨-, hallow⟩ := PatternCache.Sound.parseAll hf' .allow p.allow
          simp only [← hallow]

end Permissions

end ToolPolicy
