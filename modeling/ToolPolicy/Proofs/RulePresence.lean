import ToolPolicy.Proofs.ScopeVerdict

/-!
# What rules are there for

Within a category the first rule that matches gives the reason, so the order of rules matters for
what is said. For the label it does not: wherever an evaluation comes to a decision, its label only
depends on which rules there are, and more rules of a category can only lead to the label of that
category. What order does decide is whether an evaluation gets that far, since a rule whose search
ends with a fault does no harm behind a rule that matches.

* `findM?_isSome_iff`: a search that comes to an end finds something if there is something.
* `Touched`, `Permitted`, `verdict_of_decided`: the verdict without any order of rules.
* `evaluate_isOk`: an evaluation whose searches have no faults comes to a decision.
* `label_follows_rules`: how the labels under two rule sets are related.
* `label_lost_to_order`: two rules in either order, and only one of the orders gives an answer.
-/

namespace ToolPolicy

open Regex (Pattern)

/-! ## Searches that come to an end -/

section
variable {α : Type} {p : α → Except Fault Bool} {l : List α}

theorem findM?_isSome_iff {found : Option α} (h : l.findM? p = .ok found) :
    found.isSome = true ↔ ∃ a ∈ l, p a = .ok true := by
  induction l with
  | nil =>
      cases h
      simp
  | cons a rest ih =>
      rw [List.findM?] at h
      obtain ⟨b, hp, h⟩ := bind_eq_ok_iff.1 h
      cases b with
      | true =>
          cases h
          simp [hp]
      | false =>
          rw [ih h]
          simp [hp]

end

namespace RuleSet

/-! ## The verdict without an order -/

/-- Whether some rule matches a content or one of its lines. -/
def Touched (rules : List (Rule Pattern)) (tool : Text) (content : Option Text) : Prop :=
  ∃ r ∈ rules, hitsAny tool content (Lines.split? content) r = (.ok true : Except Fault Bool)

/-- Whether rules allow a content: one of them a content of one line, and for each line of a longer
one some rule or other. -/
def Permitted (rules : List (Rule Pattern)) (tool : Text) (content : Option Text) : Prop :=
  match Lines.split? content with
  | some lines => lines ≠ [] ∧ ∀ line ∈ lines, ∃ r ∈ rules,
      r.hits tool (some line) = (.ok true : Except Fault Bool)
  | none => ∃ r ∈ rules, r.hits tool content = (.ok true : Except Fault Bool)

section
variable {rules more : List (Rule Pattern)} {tool : Text} {content : Option Text}

theorem Touched.mono (h : ∀ r ∈ rules, r ∈ more) (ht : Touched rules tool content) :
    Touched more tool content := by
  obtain ⟨r, hr, hhit⟩ := ht
  exact ⟨r, h r hr, hhit⟩

theorem Permitted.mono (h : ∀ r ∈ rules, r ∈ more) (hp : Permitted rules tool content) :
    Permitted more tool content := by
  unfold Permitted at hp ⊢
  cases hlines : Lines.split? content with
  | none =>
      rw [hlines] at hp
      obtain ⟨r, hr, hhit⟩ := hp
      exact ⟨r, h r hr, hhit⟩
  | some lines =>
      rw [hlines] at hp
      refine ⟨hp.1, fun line hline => ?_⟩
      obtain ⟨r, hr, hhit⟩ := hp.2 line hline
      exact ⟨r, h r hr, hhit⟩

theorem touched_iff_of_firstHit {found : Option (Rule Pattern)}
    (h : firstHit rules tool content (Lines.split? content) = (.ok found : Except Fault _)) :
    Touched rules tool content ↔ found.isSome = true :=
  (findM?_isSome_iff h).symm

theorem permitted_iff_of_evaluateAllow {d : Decision}
    (h : evaluateAllow rules tool content (Lines.split? content) =
      (.ok d : Except Fault Decision)) :
    Permitted rules tool content ↔ d.verdict = some .allow := by
  unfold Permitted
  cases hlines : Lines.split? content with
  | none =>
      rw [hlines, evaluateAllow] at h
      obtain ⟨found, hfound, h⟩ := bind_eq_ok_iff.1 h
      show (∃ r ∈ rules, _) ↔ _
      rw [← findM?_isSome_iff hfound]
      cases found <;> cases h <;> simp [Decision.allow, Decision.noMatch]
  | some lines =>
      rw [hlines, evaluateAllow_block] at h
      cases hcovers : (coversLines rules tool lines : Except Fault Bool) with
      | error f => rw [hcovers] at h; cases h
      | ok covered =>
          rw [hcovers] at h
          show (lines ≠ [] ∧ _) ↔ _
          rw [← coversLines_true_iff hcovers]
          cases covered <;> cases h <;> simp [Decision.allow, Decision.noMatch]

end

section
variable {rules : RuleSet Pattern} {tool : Text} {content : Option Text} {d : Decision}

/-- The verdict of an evaluation that comes to a decision: the strictest category that has
something to say, in whatever order its rules are. -/
theorem verdict_of_decided
    (h : rules.evaluateContent tool content = (.ok d : Except Fault Decision)) :
    (d.verdict = some .deny ↔ Touched rules.deny tool content) ∧
    (d.verdict = some .ask ↔
      ¬Touched rules.deny tool content ∧ Touched rules.ask tool content) ∧
    (d.verdict = some .allow ↔ ¬Touched rules.deny tool content ∧
      ¬Touched rules.ask tool content ∧ Permitted rules.allow tool content) := by
  rcases evaluateContent_cases h with ⟨hv, r, hd, -⟩ | ⟨hv, hd, r, ha, -⟩ | ⟨hv, hd, ha, hallow⟩
  · rw [touched_iff_of_firstHit hd]
    simp [hv]
  · rw [touched_iff_of_firstHit hd, touched_iff_of_firstHit ha]
    simp [hv]
  · rw [touched_iff_of_firstHit hd, touched_iff_of_firstHit ha,
      permitted_iff_of_evaluateAllow hallow]
    simp [hv]

/-! ## Evaluations without faults -/

/-- No search for the patterns of a rule, in the name of a tool and in a content and its lines, ends
with a fault. -/
def Untroubled (rules : RuleSet Pattern) (tool : Text) (content : Option Text) : Prop :=
  ∀ c, ∀ r ∈ rules.listed c, ∀ t, (t = content ∨ ∃ line ∈ (Lines.split? content).getD [],
    t = some line) → ∃ b, r.hits tool t = (.ok b : Except Fault Bool)

theorem Untroubled.searchedWithin (h : rules.Untroubled tool content) {c : Category}
    {r : Rule Pattern} (hr : r ∈ rules.listed c) :
    SearchedWithin (fun _ => False) tool content (Lines.split? content) r := by
  have hits : ∀ t, (t = content ∨ ∃ line ∈ (Lines.split? content).getD [], t = some line) →
      FaultsWithin (fun _ => False) (r.hits tool t) := by
    intro t ht f hf
    obtain ⟨b, hb⟩ := h c r hr t ht
    rw [hb] at hf
    cases hf
  exact ⟨hits content (Or.inl rfl), fun line hline => hits _ (Or.inr ⟨line, hline, rfl⟩)⟩

/-- Where no search ends with a fault, an evaluation comes to a decision. -/
theorem evaluate_isOk {arguments : List (Value × Value)}
    (h : rules.Untroubled tool (Content.content? tool arguments)) :
    ∃ d, rules.evaluate tool arguments = (.ok d : Except Fault Decision) := by
  have hwithin : FaultsWithin (fun _ => False) (rules.evaluate tool arguments) := by
    refine evaluate_within ?_
    rw [List.forall_mem_append, List.forall_mem_append]
    exact ⟨⟨fun r hr => h.searchedWithin (c := .deny) hr,
      fun r hr => h.searchedWithin (c := .ask) hr⟩,
      fun r hr => h.searchedWithin (c := .allow) hr⟩
  cases hresult : (rules.evaluate tool arguments : Except Fault Decision) with
  | error f => exact absurd (hwithin f hresult) id
  | ok d => exact ⟨d, rfl⟩

end

/-! ## Two rule sets -/

/-- Two rule sets that hold the same rules in a category, in any order and any number of times. -/
def SameIn (a b : RuleSet Pattern) (c : Category) : Prop :=
  ∀ r, r ∈ a.listed c ↔ r ∈ b.listed c

/-- A rule set and one that has more rules in a category, and the same ones in the others. -/
def GrowsIn (a b : RuleSet Pattern) (c : Category) : Prop :=
  (∀ r ∈ a.listed c, r ∈ b.listed c) ∧ ∀ other, other ≠ c → SameIn a b other

section
variable {a b : RuleSet Pattern} {tool : Text} {content : Option Text}

theorem touched_congr {c : Category} (h : SameIn a b c) :
    Touched (a.listed c) tool content ↔ Touched (b.listed c) tool content :=
  ⟨.mono fun r hr => (h r).1 hr, .mono fun r hr => (h r).2 hr⟩

theorem permitted_congr (h : SameIn a b .allow) :
    Permitted a.allow tool content ↔ Permitted b.allow tool content :=
  ⟨.mono fun r hr => (h r).1 hr, .mono fun r hr => (h r).2 hr⟩

section
variable {da db : Decision} {arguments : List (Value × Value)}

/-- Labels are equal where the same passes find something, as far as it comes to them. -/
theorem label_eq_of_iff
    (ha : a.evaluateContent tool content = (.ok da : Except Fault Decision))
    (hb : b.evaluateContent tool content = (.ok db : Except Fault Decision))
    (hdeny : Touched a.deny tool content ↔ Touched b.deny tool content)
    (hask : ¬Touched b.deny tool content →
      (Touched a.ask tool content ↔ Touched b.ask tool content))
    (hallow : ¬Touched b.deny tool content → ¬Touched b.ask tool content →
      (Permitted a.allow tool content ↔ Permitted b.allow tool content)) :
    db.label = da.label := by
  obtain ⟨hdenyA, haskA, hallowA⟩ := verdict_of_decided ha
  obtain ⟨hdenyB, haskB, hallowB⟩ := verdict_of_decided hb
  refine Decision.label_ext fun c => ?_
  rw [Decision.label_eq_iff, Decision.label_eq_iff]
  cases c with
  | deny => rw [hdenyA, hdenyB, hdeny]
  | ask =>
      rw [haskA, haskB, hdeny]
      exact and_congr_right fun h => (hask h).symm
  | allow =>
      rw [hallowA, hallowB, hdeny]
      refine and_congr_right fun h => ?_
      rw [hask h]
      exact and_congr_right fun h' => (hallow h h').symm

theorem label_of_sameIn (ha : a.evaluateContent tool content = (.ok da : Except Fault Decision))
    (hb : b.evaluateContent tool content = (.ok db : Except Fault Decision))
    (h : ∀ c, SameIn a b c) : db.label = da.label :=
  label_eq_of_iff ha hb (touched_congr (h .deny)) (fun _ => touched_congr (h .ask))
    fun _ _ => permitted_congr (h .allow)

/-- More rules that deny: what was denied stays denied, and the rest stays as it was or is
denied. -/
theorem label_of_growsIn_deny
    (ha : a.evaluateContent tool content = (.ok da : Except Fault Decision))
    (hb : b.evaluateContent tool content = (.ok db : Except Fault Decision))
    (h : GrowsIn a b .deny) :
    (da.label = Category.deny.label → db.label = Category.deny.label) ∧
      (db.label = da.label ∨ db.label = Category.deny.label) := by
  have hmono : Touched a.deny tool content → Touched b.deny tool content := .mono h.1
  rw [Decision.label_eq_iff, Decision.label_eq_iff, (verdict_of_decided ha).1,
    (verdict_of_decided hb).1]
  refine ⟨hmono, ?_⟩
  by_cases hdeny : Touched b.deny tool content
  · exact Or.inr hdeny
  · refine Or.inl (label_eq_of_iff ha hb ⟨hmono, fun hb => absurd hb hdeny⟩ ?_ ?_)
    · exact fun _ => touched_congr (h.2 .ask (by decide))
    · exact fun _ _ => permitted_congr (h.2 .allow (by decide))

/-- More rules that ask: denials and questions stay, and the rest stays as it was or is asked
about. -/
theorem label_of_growsIn_ask
    (ha : a.evaluateContent tool content = (.ok da : Except Fault Decision))
    (hb : b.evaluateContent tool content = (.ok db : Except Fault Decision))
    (h : GrowsIn a b .ask) :
    (da.label = Category.deny.label ∨ da.label = Category.ask.label → db.label = da.label) ∧
      (db.label = da.label ∨ db.label = Category.ask.label) := by
  have hdeny : Touched a.deny tool content ↔ Touched b.deny tool content :=
    touched_congr (h.2 .deny (by decide))
  have hmono : Touched a.ask tool content → Touched b.ask tool content := .mono h.1
  -- labels are equal unless a question is new
  have hsame : (Touched b.ask tool content → ¬Touched b.deny tool content →
      Touched a.ask tool content) → db.label = da.label := fun hold =>
    label_eq_of_iff ha hb hdeny (fun hnot => ⟨hmono, fun hask => hold hask hnot⟩) fun _ _ =>
      permitted_congr (h.2 .allow (by decide))
  constructor
  · rw [Decision.label_eq_iff, Decision.label_eq_iff, (verdict_of_decided ha).1,
      (verdict_of_decided ha).2.1]
    rintro (hd | ⟨-, hask⟩)
    · exact hsame fun _ hnot => absurd (hdeny.1 hd) hnot
    · exact hsame fun _ _ => hask
  · by_cases hnew : Touched b.ask tool content ∧ ¬Touched b.deny tool content
    · refine Or.inr ?_
      rw [Decision.label_eq_iff, (verdict_of_decided hb).2.1]
      exact ⟨hnew.2, hnew.1⟩
    · exact Or.inl (hsame fun hask hnot => absurd ⟨hask, hnot⟩ hnew)

/-- More rules that allow: only what nothing was said about may change, and then it is allowed. -/
theorem label_of_growsIn_allow
    (ha : a.evaluateContent tool content = (.ok da : Except Fault Decision))
    (hb : b.evaluateContent tool content = (.ok db : Except Fault Decision))
    (h : GrowsIn a b .allow) :
    db.label = da.label ∨ da.label = "passthrough" ∧ db.label = Category.allow.label := by
  have hdeny : Touched a.deny tool content ↔ Touched b.deny tool content :=
    touched_congr (h.2 .deny (by decide))
  have hask : Touched a.ask tool content ↔ Touched b.ask tool content :=
    touched_congr (h.2 .ask (by decide))
  have hmono : Permitted a.allow tool content → Permitted b.allow tool content := .mono h.1
  by_cases hnew : (¬Touched b.deny tool content ∧ ¬Touched b.ask tool content) ∧
      Permitted b.allow tool content ∧ ¬Permitted a.allow tool content
  · obtain ⟨⟨hnotDeny, hnotAsk⟩, hpermitted, hnot⟩ := hnew
    obtain ⟨hdenyA, haskA, hallowA⟩ := verdict_of_decided ha
    have hnone : da.verdict = none := by
      cases hv : da.verdict with
      | none => rfl
      | some c =>
          cases c with
          | deny => exact absurd (hdeny.1 (hdenyA.1 hv)) hnotDeny
          | ask => exact absurd (hask.1 (haskA.1 hv).2) hnotAsk
          | allow => exact absurd (hallowA.1 hv).2.2 hnot
    refine Or.inr ⟨by rw [Decision.label, hnone], ?_⟩
    rw [Decision.label_eq_iff, (verdict_of_decided hb).2.2]
    exact ⟨hnotDeny, hnotAsk, hpermitted⟩
  · refine Or.inl (label_eq_of_iff ha hb hdeny (fun _ => hask) fun hnotDeny hnotAsk =>
      ⟨hmono, fun hpermitted => ?_⟩)
    by_contra hnot
    exact hnew ⟨⟨hnotDeny, hnotAsk⟩, hpermitted, hnot⟩

/-- **The label follows from which rules there are.** Of two evaluations with the same rules in each
category, in whatever order and however often, both have the same outcome exactly if both come to a
decision or neither does; and they do come to one if no search ends with a fault. Wherever both come
to a decision, the same rules lead to the same label, and more rules of one category leave it as it
is or change it to the label of that category, where no stricter category has spoken and, for rules
that allow, nothing was said at all. -/
theorem label_follows_rules (a b : RuleSet Pattern) (tool : Text)
    (arguments : List (Value × Value)) :
    let resultA : Except Fault Decision := a.evaluate tool arguments
    let resultB : Except Fault Decision := b.evaluate tool arguments
    ((∀ c, SameIn a b c) → (resultB.map Decision.label = resultA.map Decision.label ↔
      ((∃ d, resultA = .ok d) ↔ ∃ d, resultB = .ok d))) ∧
    (a.Untroubled tool (Content.content? tool arguments) → ∃ d, resultA = .ok d) ∧
    ∀ da db, resultA = .ok da → resultB = .ok db →
      ((∀ c, SameIn a b c) → db.label = da.label) ∧
      (GrowsIn a b .deny →
        (da.label = Category.deny.label → db.label = Category.deny.label) ∧
          (db.label = da.label ∨ db.label = Category.deny.label)) ∧
      (GrowsIn a b .ask →
        (da.label = Category.deny.label ∨ da.label = Category.ask.label → db.label = da.label) ∧
          (db.label = da.label ∨ db.label = Category.ask.label)) ∧
      (GrowsIn a b .allow →
        db.label = da.label ∨ da.label = "passthrough" ∧ db.label = Category.allow.label) := by
  intro resultA resultB
  refine ⟨fun hsame => ?_, evaluate_isOk, fun da db ha hb => ⟨label_of_sameIn ha hb,
    label_of_growsIn_deny ha hb, label_of_growsIn_ask ha hb, label_of_growsIn_allow ha hb⟩⟩
  cases ha : resultA with
  | ok da =>
      cases hb : resultB with
      | ok db => simp [Except.map, label_of_sameIn ha hb hsame]
      | error f => simp [Except.map]
  | error f =>
      cases hb : resultB with
      | ok db => simp [Except.map]
      | error g =>
          rw [evaluate_error a tool ha, evaluate_error b tool hb]
          simp [Except.map]

end

end

end RuleSet

namespace Permissions

variable {a b : Permissions} {rulesA rulesB : RuleSet Pattern}

/-- Permissions with the same entries in a category have the same rules in it. -/
theorem sameIn_of_entries (ha : a.rules.result = .ok rulesA) (hb : b.rules.result = .ok rulesB)
    {c : Category} (h : ∀ v, v ∈ a.entries c ↔ v ∈ b.entries c) :
    RuleSet.SameIn rulesA rulesB c := by
  intro r
  rw [rules_listed ha, rules_listed hb]
  simp only [List.mem_filterMap, h]

/-- One rule that denies is added to one that allows: what was allowed is denied. -/
theorem label_follows_added_rule :
    let a : Permissions := { allow := [.str "t(.)"] }
    let b : Permissions := { deny := [.str "t(b)"], allow := [.str "t(.)"] }
    let arguments : List (Value × Value) := [(.str "command", .str "b")]
    ∃ rulesA rulesB : RuleSet Pattern, a.rules.result = .ok rulesA ∧ b.rules.result = .ok rulesB ∧
      RuleSet.GrowsIn rulesA rulesB .deny ∧ ∃ da db,
        rulesA.evaluate "t" arguments = (.ok da : Except Fault Decision) ∧
        rulesB.evaluate "t" arguments = (.ok db : Except Fault Decision) ∧
        da.label = Category.allow.label ∧ db.label = Category.deny.label ∧
        (db.label = da.label ∨ db.label = Category.deny.label) := by
  intro a b arguments
  obtain ⟨rulesA, hrulesA, -, ha⟩ := decide_result_eq_ok_iff.1
    (show (Check.decide a "t" arguments).result = .ok (.allow (some "t(.)")) by decide +kernel)
  obtain ⟨rulesB, hrulesB, -, hb⟩ := decide_result_eq_ok_iff.1
    (show (Check.decide b "t" arguments).result = .ok (.deny none (some "t(b)")) by decide +kernel)
  have hgrows : RuleSet.GrowsIn rulesA rulesB .deny := by
    refine ⟨fun r hr => ?_, fun c hc => sameIn_of_entries hrulesA hrulesB fun v => ?_⟩
    · rw [rules_listed hrulesA] at hr
      cases hr
    · cases c with
      | deny => exact absurd rfl hc
      | ask => exact Iff.rfl
      | allow => exact Iff.rfl
  refine ⟨rulesA, rulesB, hrulesA, hrulesB, hgrows, _, _, ha, hb, rfl, rfl, ?_⟩
  exact (((RuleSet.label_follows_rules rulesA rulesB "t" arguments).2.2 _ _ ha hb).2.1 hgrows).2

/-- Two rules that deny, of which the search for one records a group backwards: behind the other one
it is never searched for and the request is denied, in front of it there is no decision. -/
theorem label_lost_to_order :
    let troubled : Value := .str "t(^(?:b\x7b0\x7d((b)(?>)*?|.+?)++)$)"
    let a : Permissions := { deny := [.str "t(.)", troubled] }
    let b : Permissions := { deny := [troubled, .str "t(.)"] }
    let arguments : List (Value × Value) := [(.str "command", .str "aaabaa")]
    ∃ rulesA rulesB : RuleSet Pattern, a.rules.result = .ok rulesA ∧ b.rules.result = .ok rulesB ∧
      (∀ c, RuleSet.SameIn rulesA rulesB c) ∧
      (∃ d, rulesA.evaluate "t" arguments = (.ok d : Except Fault Decision) ∧
        d.label = Category.deny.label) ∧
      rulesB.evaluate "t" arguments = (.error .reversedGroup : Except Fault Decision) := by
  intro troubled a b arguments
  obtain ⟨rulesA, hrulesA, -, ha⟩ := decide_result_eq_ok_iff.1
    (show (Check.decide a "t" arguments).result = .ok (.deny none (some "t(.)")) by decide +kernel)
  obtain ⟨rulesB, hrulesB⟩ := parses_iff.1 (parses_of_isOk (p := b) (by decide +kernel))
  have hb : (Check.decide b "t" arguments).result = .error .reversedGroup := by decide +kernel
  rw [Check.decide, Logged.result_bind_of_ok _ hrulesB] at hb
  refine ⟨rulesA, rulesB, hrulesA, hrulesB, fun c => ?_, ⟨_, ha, rfl⟩, hb⟩
  refine sameIn_of_entries hrulesA hrulesB fun v => ?_
  cases c with
  | deny =>
      have hpair : ∀ x y : Value, v ∈ [x, y] ↔ v ∈ [y, x] := by simp [or_comm]
      exact hpair _ _
  | ask => exact Iff.rfl
  | allow => exact Iff.rfl

end Permissions

end ToolPolicy
