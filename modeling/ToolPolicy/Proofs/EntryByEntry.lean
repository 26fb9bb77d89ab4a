import ToolPolicy.Proofs.CacheHistory
import ToolPolicy.Proofs.Preparation

/-!
# Preparing rules entry by entry

All entries of permissions are parsed one after the other, through one cache that may have been in
use for long before. What comes out is nevertheless a plain map over the entries: each of them
gives its rule or nothing, whatever stands in front of it, and the order is kept. So permissions
that are put together have the rules of the first, then those of the second.

* `ruleOf_result`: writing failures into the log keeps the rules and nothing else.
* `parses_iff`: preparing has a value exactly if every entry is a rule or fails in a regular way.
* `rules_listed`: the rules of a category are those of its entries, in order.
* `prepare_entrywise`: the same through a cache with a history, and for permissions put together.
-/

namespace ToolPolicy

open Regex (Pattern)

namespace RuleSet

variable {M : Type}

/-- The rules of a category. -/
def listed (rules : RuleSet M) : Category → List (Rule M)
  | .deny => rules.deny
  | .ask => rules.ask
  | .allow => rules.allow

theorem listed_append (a b : RuleSet M) (c : Category) :
    (a.append b).listed c = a.listed c ++ b.listed c := by
  cases c <;> rfl

end RuleSet

namespace Permissions

/-! ## What an entry comes to -/

/-- What parsing an entry of a category comes to, with a new parser: a fault, a failure or a
rule. -/
def outcomeOf (category : Category) (v : Value) :
    Except Fault (Except RuleFailure (Rule Pattern)) :=
  (RuleEntry.parse {} (some category.label) (.value v)).2.result

/-- The rule that parsing an entry of a category gives, if it gives one. -/
def ruleOf? (category : Category) (v : Value) : Option (Rule Pattern) :=
  (outcomeOf category v).toOption.bind Except.toOption

theorem ruleOf?_eq {category : Category} {v : Value}
    {outcome : Except RuleFailure (Rule Pattern)} (h : outcomeOf category v = .ok outcome) :
    ruleOf? category v = outcome.toOption := by
  rw [ruleOf?, h]
  rfl

/-- Permissions whose entries are all rules or fail in a regular way, without a fault. -/
def Parses (p : Permissions) : Prop :=
  ∀ c, ∀ v ∈ p.entries c, ∃ outcome, outcomeOf c v = .ok outcome

/-- Writing failures into the log keeps the rules and nothing else. -/
theorem ruleOf_result (category : Category) (v : Value) :
    (ruleOf category v).result = (outcomeOf category v).map Except.toOption := by
  rw [ruleOf, RuleEntry.parse?, Logged.result_bind, outcomeOf]
  cases (RuleEntry.parse {} (some category.label) (.value v)).2.result with
  | error f => rfl
  | ok outcome => exact RuleEntry.result_logFailure outcome

/-! ## What a list of entries comes to -/

theorem keep_eq (rule : Option (Rule Pattern)) (rules : List (Rule Pattern)) :
    keep rule rules = rule.toList ++ rules := by
  cases rule <;> rfl

/-- The rules of a list of entries without faults are those that its entries give. -/
theorem rulesOf_result_eq {category : Category} {entries : List Value}
    (h : ∀ v ∈ entries, ∃ outcome, outcomeOf category v = .ok outcome) :
    (rulesOf category entries).result = .ok (entries.filterMap (ruleOf? category)) := by
  induction entries with
  | nil => rfl
  | cons v rest ih =>
      rw [List.forall_mem_cons] at h
      obtain ⟨⟨outcome, hv⟩, hrest⟩ := h
      rw [rulesOf_result_cons, ruleOf_result, hv, ih hrest]
      simp only [Except.map, Except.bind, keep_eq, Except.ok.injEq]
      rw [List.filterMap_cons, ruleOf?_eq hv]
      cases outcome.toOption <;> rfl

theorem rulesOf_isOk_iff_outcomes (category : Category) (entries : List Value) :
    (∃ rules, (rulesOf category entries).result = .ok rules) ↔
      ∀ v ∈ entries, ∃ outcome, outcomeOf category v = .ok outcome := by
  rw [rulesOf_isOk_iff]
  refine forall₂_congr fun v _ => ?_
  simp only [← ruleOf_result_error_iff category, ruleOf_result]
  cases outcomeOf category v <;> simp [Except.map]

/-! ## Permissions -/

/-- Preparing has a value exactly if no entry ends with a fault. -/
theorem parses_iff {p : Permissions} : p.Parses ↔ ∃ rules, p.rules.result = .ok rules := by
  rw [rules_isOk_iff, Parses]
  refine forall_congr' fun c => ?_
  rw [← rulesOf_isOk_iff_outcomes, rulesOf_isOk_iff]

/-- The rules of a category are those that its entries give, in their order. -/
theorem rules_listed {p : Permissions} {rules : RuleSet Pattern}
    (h : p.rules.result = .ok rules) (c : Category) :
    rules.listed c = (p.entries c).filterMap (ruleOf? c) := by
  have hc := parses_iff.2 ⟨rules, h⟩ c
  obtain ⟨hdeny, hask, hallow⟩ := rules_result_eq_ok_iff.1 h
  cases c with
  | deny => exact Except.ok.inj (hdeny.symm.trans (rulesOf_result_eq hc))
  | ask => exact Except.ok.inj (hask.symm.trans (rulesOf_result_eq hc))
  | allow => exact Except.ok.inj (hallow.symm.trans (rulesOf_result_eq hc))

/-- What a cache held before makes no difference to the rules. -/
theorem prepare_after (p : Permissions) (history : List CacheStep) :
    (p.prepare (PatternCache.after history)).2 = p.rules := by
  rw [prepare_snd (PatternCache.sound_after history), rules, prepare_snd PatternCache.sound_empty]

/-- **Preparing is a map over the entries.**  Through a cache with any history, the rules of each
category are those that a new parser gives for its entries, one by one: entries that fail are left
out, and order and repetitions are kept. So the rules of two permissions together are, category by
category, those of the first, then those of the second. -/
theorem prepare_entrywise {a b : Permissions} (ha : a.Parses) (hb : b.Parses) :
    (∀ history, ∃ rules, (a.prepare (PatternCache.after history)).2.result = .ok rules ∧
      ∀ c, rules.listed c = (a.entries c).filterMap (ruleOf? c)) ∧
    ∀ first second third, ∃ rulesA rulesB both,
      (a.prepare (PatternCache.after first)).2.result = .ok rulesA ∧
      (b.prepare (PatternCache.after second)).2.result = .ok rulesB ∧
      ((merge (some a) (some b)).prepare (PatternCache.after third)).2.result = .ok both ∧
        ∀ c, both.listed c = rulesA.listed c ++ rulesB.listed c := by
  obtain ⟨rulesA, hrulesA⟩ := parses_iff.1 ha
  obtain ⟨rulesB, hrulesB⟩ := parses_iff.1 hb
  simp only [prepare_after, merge_some]
  refine ⟨fun _ => ⟨rulesA, hrulesA, rules_listed hrulesA⟩, fun _ _ _ => ?_⟩
  exact ⟨rulesA, rulesB, rulesA.append rulesB, hrulesA, hrulesB,
    rules_result_append hrulesA hrulesB, RuleSet.listed_append rulesA rulesB⟩

theorem parses_of_isOk {p : Permissions} (h : p.rules.result.isOk = true) : p.Parses := by
  cases hr : p.rules.result with
  | ok rules => exact parses_iff.2 ⟨rules, hr⟩
  | error f =>
      rw [hr] at h
      cases h

/-- Permissions with a repeated entry and one that is no rule, and others with that entry and a
broken one: the rules come out in order, through a cache that has seen the entry before. -/
theorem prepare_entrywise_repeated :
    let a : Permissions := { deny := [.str "Bash(rm)", .int 7, .str "Bash(rm)"] }
    let b : Permissions := { deny := [.str "Bash([)", .str "Bash(rm)"] }
    a.Parses ∧ b.Parses ∧ ∃ both : RuleSet Pattern,
      ((merge (some a) (some b)).prepare
        (PatternCache.after [.parse none (.value (.str "Bash(rm)"))])).2.result = .ok both ∧
      (both.listed .deny).map (·.raw) = (["Bash(rm)", "Bash(rm)", "Bash(rm)"] : List Text) := by
  intro a b
  have ha : a.Parses := parses_of_isOk (by decide +kernel)
  have hb : b.Parses := parses_of_isOk (by decide +kernel)
  obtain ⟨rulesA, rulesB, both, hrulesA, hrulesB, hboth, hlisted⟩ :=
    (prepare_entrywise ha hb).2 [] [] [.parse none (.value (.str "Bash(rm)"))]
  obtain ⟨rules, hrules, hmapA⟩ := (prepare_entrywise ha hb).1 []
  obtain ⟨rules', hrules', hmapB⟩ := (prepare_entrywise hb ha).1 []
  obtain rfl : rulesA = rules := Except.ok.inj (hrulesA.symm.trans hrules)
  obtain rfl : rulesB = rules' := Except.ok.inj (hrulesB.symm.trans hrules')
  refine ⟨ha, hb, both, hboth, ?_⟩
  rw [hlisted, hmapA, hmapB]
  decide +kernel

end Permissions

end ToolPolicy
