import ToolPolicy.Check
import ToolPolicy.Proofs.EntryByEntry
import ToolPolicy.Proofs.ProjectScope

/-!
# The verdict of two scopes

The rules of a project and those of the user are put together before a request is evaluated. The
verdict on the request is the stricter one of the two verdicts, with the project's reason before the
user's; only where neither scope objects to a content of several lines do the scopes work together,
since each may cover the lines that the other one leaves out.

* `anyM_eq_iff`, `allM_eq_iff`: where a search with faults through a list arrives.
* `coversLines_error_iff`, `coversLines_true_iff`: what covering lines comes to.
* `evaluateContent_append`: an evaluation with the rules of both scopes, from the two evaluations.
* `Combined`, `merge_combines`: what two scopes decide together, and when they decide at all.
* `merge_interrupted`: two scopes that both decide, and do not decide together.
-/

namespace ToolPolicy

open Regex (Pattern)

/-! ## Searches with faults -/

section
variable {α : Type} {p : α → Except Fault Bool} {l : List α}

/-- A search through a list that passes over what gives a certain answer, and arrives at an element
with some other result. -/
def Arrives (p : α → Except Fault Bool) (l : List α) (passing : Bool) (x : Except Fault Bool) :
    Prop :=
  ∃ before a after, l = before ++ a :: after ∧ (∀ b ∈ before, p b = .ok passing) ∧ p a = x

theorem arrives_cons_iff {a : α} {passing : Bool} {x : Except Fault Bool} :
    Arrives p (a :: l) passing x ↔ p a = x ∨ (p a = .ok passing ∧ Arrives p l passing x) := by
  constructor
  · rintro ⟨before, b, after, hl, hbefore, hb⟩
    cases before with
    | nil =>
        cases hl
        exact Or.inl hb
    | cons c before =>
        cases hl
        rw [List.forall_mem_cons] at hbefore
        exact Or.inr ⟨hbefore.1, before, b, after, rfl, hbefore.2, hb⟩
  · rintro (ha | ⟨ha, before, b, after, rfl, hbefore, hb⟩)
    · exact ⟨[], a, l, rfl, fun b hb => absurd hb List.not_mem_nil, ha⟩
    · exact ⟨a :: before, b, after, rfl, List.forall_mem_cons.2 ⟨ha, hbefore⟩, hb⟩

theorem anyM_eq_false_iff : l.anyM p = .ok false ↔ ∀ a ∈ l, p a = .ok false := by
  induction l with
  | nil => exact ⟨fun _ a ha => absurd ha List.not_mem_nil, fun _ => rfl⟩
  | cons a rest ih =>
      rw [List.forall_mem_cons, ← ih, List.anyM]
      rcases p a with f | _ | _ <;> simp [bind, Except.bind, pure, Except.pure]

theorem allM_eq_true_iff : l.allM p = .ok true ↔ ∀ a ∈ l, p a = .ok true := by
  induction l with
  | nil => exact ⟨fun _ a ha => absurd ha List.not_mem_nil, fun _ => rfl⟩
  | cons a rest ih =>
      rw [List.forall_mem_cons, ← ih, List.allM]
      rcases p a with f | _ | _ <;> simp [bind, Except.bind, pure, Except.pure]

/-- Looking for an element with a property arrives at the first that has it, or at a fault. -/
theorem anyM_eq_iff {x : Except Fault Bool} (hx : x ≠ .ok false) :
    l.anyM p = x ↔ Arrives p l false x := by
  induction l with
  | nil =>
      constructor
      · intro h
        exact absurd h.symm hx
      · rintro ⟨before, a, after, hl, -⟩
        exact absurd hl.symm (by simp)
  | cons a rest ih =>
      rw [arrives_cons_iff, ← ih, List.anyM]
      rcases p a with f | _ | _
      · simp [bind, Except.bind]
      · simpa [bind, Except.bind] using fun h : Except.ok false = x => absurd h.symm hx
      · simp [bind, Except.bind, pure, Except.pure]

/-- Looking whether all elements have a property arrives at the first without it, or at a fault. -/
theorem allM_eq_iff {x : Except Fault Bool} (hx : x ≠ .ok true) :
    l.allM p = x ↔ Arrives p l true x := by
  induction l with
  | nil =>
      constructor
      · intro h
        exact absurd h.symm hx
      · rintro ⟨before, a, after, hl, -⟩
        exact absurd hl.symm (by simp)
  | cons a rest ih =>
      rw [arrives_cons_iff, ← ih, List.allM]
      rcases p a with f | _ | _
      · simp [bind, Except.bind]
      · simp [bind, Except.bind, pure, Except.pure]
      · simpa [bind, Except.bind] using fun h : Except.ok true = x => absurd h.symm hx

end

/-! ## Lines -/

namespace RuleSet

variable (rules : List (Rule Pattern)) (tool : Text)

/-- Rules that are tried on a line one after the other, and come to a result: that of the first rule
that does more than not to match. -/
def Reaches (line : Text) (x : Except Fault Bool) : Prop :=
  Arrives (fun r => r.hits tool (some line)) rules false x

/-- Lines that rules cover one after the other, up to a line on which trying them ends with a
fault. -/
def Interrupted (lines : List Text) : Prop :=
  ∃ before line after f, lines = before ++ line :: after ∧
    (∀ l ∈ before, Reaches rules tool l (.ok true)) ∧ Reaches rules tool line (.error f)

variable {rules tool}

theorem reaches_iff {line : Text} {x : Except Fault Bool} (hx : x ≠ .ok false) :
    Reaches rules tool line x ↔ rules.anyM (fun r => r.hits tool (some line)) = x :=
  (anyM_eq_iff hx).symm

theorem coversLines_of_ne_nil {lines : List Text} (h : lines ≠ []) :
    coversLines rules tool lines =
      (lines.allM fun line => rules.anyM fun r => r.hits tool (some line) : Except Fault Bool) := by
  cases lines with
  | nil => exact absurd rfl h
  | cons line rest => rfl

/-- Covering lines ends with a fault exactly if it is interrupted. -/
theorem coversLines_error_iff {lines : List Text} :
    (∃ f, coversLines rules tool lines = (.error f : Except Fault Bool)) ↔
      Interrupted rules tool lines := by
  by_cases hne : lines = []
  · subst hne
    constructor
    · rintro ⟨f, h⟩
      cases h
    · rintro ⟨before, line, after, f, h, -⟩
      exact absurd h.symm (by simp)
  · rw [coversLines_of_ne_nil hne]
    constructor
    · rintro ⟨f, h⟩
      obtain ⟨before, line, after, hl, hbefore, hline⟩ := (allM_eq_iff (by simp)).1 h
      exact ⟨before, line, after, f, hl,
        fun l hl => (reaches_iff (by simp)).2 (hbefore l hl), (reaches_iff (by simp)).2 hline⟩
    · rintro ⟨before, line, after, f, hl, hbefore, hline⟩
      refine ⟨f, (allM_eq_iff (by simp)).2 ⟨before, line, after, hl, fun l hl => ?_, ?_⟩⟩
      · exact (reaches_iff (by simp)).1 (hbefore l hl)
      · exact (reaches_iff (by simp)).1 hline

/-- Without a fault, lines are covered exactly if there are some and each is matched by a rule. -/
theorem coversLines_true_iff {lines : List Text} {covered : Bool}
    (h : coversLines rules tool lines = (.ok covered : Except Fault Bool)) :
    covered = true ↔
      lines ≠ [] ∧ ∀ line ∈ lines, ∃ r ∈ rules, r.hits tool (some line) =
        (.ok true : Except Fault Bool) := by
  by_cases hne : lines = []
  · subst hne
    cases h
    simp
  · rw [coversLines_of_ne_nil hne] at h
    rw [and_iff_right hne]
    cases covered with
    | true =>
        refine iff_of_true rfl fun line hline => ?_
        have hany := allM_eq_true_iff.1 h line hline
        obtain ⟨before, r, after, rfl, -, hr⟩ := (anyM_eq_iff (by simp)).1 hany
        exact ⟨r, List.mem_append_right before List.mem_cons_self, hr⟩
    | false =>
        refine iff_of_false Bool.false_ne_true fun hall => ?_
        obtain ⟨before, line, after, rfl, -, hline⟩ := (allM_eq_iff (by simp)).1 h
        obtain ⟨r, hr, hhit⟩ := hall line (List.mem_append_right before List.mem_cons_self)
        rw [anyM_eq_false_iff.1 hline r hr] at hhit
        cases hhit

/-! ## Evaluations -/

section
variable {rules : RuleSet Pattern} {tool : Text} {content : Option Text} {d : Decision}

/-- The three ways to a decision: a rule that denies, or else a rule that asks, or else what the
rules that allow come to. -/
theorem evaluateContent_cases
    (h : rules.evaluateContent tool content = (.ok d : Except Fault Decision)) :
    (d.verdict = some .deny ∧ ∃ r, firstHit rules.deny tool content (Lines.split? content) =
        (.ok (some r) : Except Fault _) ∧ d = .deny r.reason (some r.raw)) ∨
    (d.verdict = some .ask ∧ firstHit rules.deny tool content (Lines.split? content) =
        (.ok none : Except Fault _) ∧
      ∃ r, firstHit rules.ask tool content (Lines.split? content) =
        (.ok (some r) : Except Fault _) ∧ d = .ask r.reason (some r.raw)) ∨
    ((d.verdict ≠ some .deny ∧ d.verdict ≠ some .ask) ∧
      firstHit rules.deny tool content (Lines.split? content) = (.ok none : Except Fault _) ∧
      firstHit rules.ask tool content (Lines.split? content) = (.ok none : Except Fault _) ∧
      evaluateAllow rules.allow tool content (Lines.split? content) =
        (.ok d : Except Fault Decision)) := by
  rw [evaluateContent] at h
  obtain ⟨denied, hd, h⟩ := bind_eq_ok_iff.1 h
  cases denied with
  | some r =>
      cases h
      exact Or.inl ⟨rfl, r, hd, rfl⟩
  | none =>
  obtain ⟨asked, ha, h⟩ := bind_eq_ok_iff.1 h
  cases asked with
  | some r =>
      cases h
      exact Or.inr (Or.inl ⟨rfl, hd, r, ha, rfl⟩)
  | none => exact Or.inr (Or.inr ⟨evaluateAllow_verdict _ _ _ h, hd, ha, h⟩)

end

section
variable {a b : RuleSet Pattern} {tool : Text} {content : Option Text} {da db : Decision}

/-- **An evaluation with the rules of two scopes.**  A denial of the first scope comes before one of
the second, both before a question of the first, and that before one of the second; only then the
rules of both that allow are looked at together. -/
theorem evaluateContent_append
    (ha : a.evaluateContent tool content = (.ok da : Except Fault Decision))
    (hb : b.evaluateContent tool content = (.ok db : Except Fault Decision)) :
    ((a.append b).evaluateContent tool content : Except Fault Decision) =
      if da.verdict = some .deny then .ok da
      else if db.verdict = some .deny then .ok db
      else if da.verdict = some .ask then .ok da
      else if db.verdict = some .ask then .ok db
      else evaluateAllow (a.allow ++ b.allow) tool content (Lines.split? content) := by
  rw [evaluateContent, append, firstHit_append, firstHit_append]
  -- Both scopes came to a decision, so no search up to theirs ends with a fault; where `a` asks,
  -- the questions of `b` may never have been searched, and they are not needed either.
  rcases evaluateContent_cases ha with ⟨hva, r, hda, rfl⟩ | ⟨hva, hda, r, haa, rfl⟩ |
    ⟨hva, hda, haa, -⟩
  · rw [hda, if_pos hva]
    rfl
  · rw [hda, haa, if_neg (by simp [hva])]
    rcases evaluateContent_cases hb with ⟨hvb, q, hdb, rfl⟩ | ⟨hvb, hdb, -⟩ | ⟨hvb, hdb, -⟩
    · rw [hdb, if_pos hvb]
      rfl
    · rw [hdb, if_neg (by simp [hvb]), if_pos hva]
      rfl
    · rw [hdb, if_neg hvb.1, if_pos hva]
      rfl
  · rw [hda, haa, if_neg hva.1]
    rcases evaluateContent_cases hb with ⟨hvb, q, hdb, rfl⟩ | ⟨hvb, hdb, q, hab, rfl⟩ |
      ⟨hvb, hdb, hab, -⟩
    · rw [hdb, if_pos hvb]
      rfl
    · rw [hdb, hab, if_neg (by simp [hvb]), if_neg hva.2, if_pos hvb]
      rfl
    · rw [hdb, hab, if_neg hvb.1, if_neg hva.2, if_neg hvb.2]
      rfl

/-- A decision that neither denies nor asks comes from the rules that allow. -/
theorem evaluateAllow_of_evaluateContent
    (h : a.evaluateContent tool content = (.ok da : Except Fault Decision))
    (hdeny : da.verdict ≠ some .deny) (hask : da.verdict ≠ some .ask) :
    evaluateAllow a.allow tool content (Lines.split? content) =
      (.ok da : Except Fault Decision) := by
  rcases evaluateContent_cases h with ⟨hv, -⟩ | ⟨hv, -⟩ | ⟨-, -, -, hallow⟩
  · exact absurd hv hdeny
  · exact absurd hv hask
  · exact hallow

/-- A content of one line is allowed by the first scope that allows it. -/
theorem evaluateAllow_append_line {l l' : List (Rule Pattern)}
    (ha : evaluateAllow l tool content none = (.ok da : Except Fault Decision))
    (hb : evaluateAllow l' tool content none = (.ok db : Except Fault Decision)) :
    (evaluateAllow (l ++ l') tool content none : Except Fault Decision) =
      .ok (if da.verdict = some .allow then da else db) := by
  rw [evaluateAllow, findM?_append]
  rw [evaluateAllow] at ha hb
  obtain ⟨found, hfound, ha⟩ := bind_eq_ok_iff.1 ha
  rw [hfound]
  cases found with
  | some r =>
      cases ha
      rfl
  | none =>
      cases ha
      exact hb

/-- A content of several lines is allowed exactly if its lines are covered; otherwise it is left
alone. -/
theorem evaluateAllow_block {l : List (Rule Pattern)} {lines : List Text} :
    (evaluateAllow l tool content (some lines) : Except Fault Decision) =
      (coversLines l tool lines).map fun covered => if covered then .allow none else .noMatch := by
  rw [evaluateAllow]
  cases (coversLines l tool lines : Except Fault Bool) with
  | error f => rfl
  | ok covered => cases covered <;> rfl

end

end RuleSet

/-! ## What two scopes decide together -/

/-- A decision that denies or asks. -/
def Decision.Objects (d : Decision) : Prop :=
  d.label = Category.deny.label ∨ d.label = Category.ask.label

theorem Decision.not_objects_iff {d : Decision} :
    ¬d.Objects ↔ d.verdict ≠ some .deny ∧ d.verdict ≠ some .ask := by
  rw [Objects, label_eq_iff, label_eq_iff, not_or]

theorem Decision.Objects.label_ne_allow {d : Decision} (h : d.Objects) :
    d.label ≠ Category.allow.label := by
  rw [Objects, label_eq_iff, label_eq_iff] at h
  rw [ne_eq, label_eq_iff]
  rcases h with h | h <;> simp [h]

/-- Decisions with the same labels of categories have the same label. -/
theorem Decision.label_ext {d e : Decision}
    (h : ∀ c : Category, d.label = c.label ↔ e.label = c.label) : d.label = e.label := by
  simp only [label_eq_iff] at h
  have hverdict : d.verdict = e.verdict := by
    cases hd : d.verdict with
    | some c => exact ((h c).1 hd).symm
    | none =>
        cases he : e.verdict with
        | none => rfl
        | some c =>
            have := (h c).2 he
            rw [hd] at this
            cases this
  rw [label, label, hverdict]

namespace Permissions

/-- The rules of permissions that allow. -/
def allowRules (p : Permissions) : List (Rule Pattern) := p.allow.filterMap (ruleOf? .allow)

/-- A decision is made with the rules of permissions, if they can be prepared. -/
theorem decide_result_eq_ok_iff {p : Permissions} {tool : Text} {arguments : List (Value × Value)}
    {d : Decision} : (Check.decide p tool arguments).result = .ok d ↔
      ∃ rules, p.rules.result = .ok rules ∧ rules.allow = p.allowRules ∧
        rules.evaluateContent tool (Content.content? tool arguments) = .ok d := by
  rw [Check.decide, Logged.result_bind_eq_ok_iff]
  constructor
  · rintro ⟨rules, hr, h⟩
    exact ⟨rules, hr, rules_listed hr .allow, h⟩
  · rintro ⟨rules, hr, -, h⟩
    exact ⟨rules, hr, h⟩

/-- What two scopes decide together about a content, from what each of them decides. -/
structure Combined (a b : Permissions) (tool : Text) (content : Option Text)
    (da db d : Decision) : Prop where
  deny : d.label = Category.deny.label ↔
    da.label = Category.deny.label ∨ db.label = Category.deny.label
  ask : d.label = Category.ask.label ↔
    (da.label ≠ Category.deny.label ∧ db.label ≠ Category.deny.label) ∧
      (da.label = Category.ask.label ∨ db.label = Category.ask.label)
  /-- A denial or a question is that of the first scope that has it. -/
  source : d.Objects → d = if da.label = d.label then da else db
  /-- A content of one line is allowed by one of the scopes. -/
  line : ¬da.Objects → ¬db.Objects → (∀ t, content = some t → 10 ∉ t) →
    (d.label = Category.allow.label ↔
      da.label = Category.allow.label ∨ db.label = Category.allow.label)
  /-- A content of several lines is allowed line by line, by any rule of the two scopes. -/
  block : ¬da.Objects → ¬db.Objects → ∀ t, content = some t → 10 ∈ t →
    (d.label = Category.allow.label ↔ Lines.view t ≠ [] ∧ ∀ line ∈ Lines.view t,
      ∃ r ∈ a.allowRules ++ b.allowRules, r.hits tool (some line) = (.ok true : Except Fault Bool))

/-- No fault comes up when the lines of a content to which neither scope objects are covered
with the rules of both. -/
def Steady (a b : Permissions) (tool : Text) (content : Option Text) (da db : Decision) : Prop :=
  ¬da.Objects → ¬db.Objects → ∀ t, content = some t → 10 ∈ t →
    ¬RuleSet.Interrupted (a.allowRules ++ b.allowRules) tool (Lines.view t)

section
variable {a b : Permissions} {tool : Text} {arguments : List (Value × Value)} {da db d : Decision}

/-- The decision of two scopes is that of the first one that denies, or else of the first one that
asks, or else what their rules that allow come to together. -/
theorem decide_merge (ha : (Check.decide a tool arguments).result = .ok da)
    (hb : (Check.decide b tool arguments).result = .ok db) :
    (Check.decide (merge (some a) (some b)) tool arguments).result =
      if da.verdict = some .deny then .ok da
      else if db.verdict = some .deny then .ok db
      else if da.verdict = some .ask then .ok da
      else if db.verdict = some .ask then .ok db
      else RuleSet.evaluateAllow (a.allowRules ++ b.allowRules) tool
        (Content.content? tool arguments) (Lines.split? (Content.content? tool arguments)) := by
  obtain ⟨rulesA, hrulesA, hallowA, hdecideA⟩ := decide_result_eq_ok_iff.1 ha
  obtain ⟨rulesB, hrulesB, hallowB, hdecideB⟩ := decide_result_eq_ok_iff.1 hb
  rw [Check.decide, merge_some, Logged.result_bind_of_ok _ (rules_result_append hrulesA hrulesB),
    ← hallowA, ← hallowB]
  exact RuleSet.evaluateContent_append hdecideA hdecideB

/-- Where neither scope objects to a content of one line, the first scope that allows it decides. -/
theorem decide_merge_line (ha : (Check.decide a tool arguments).result = .ok da)
    (hb : (Check.decide b tool arguments).result = .ok db)
    (hda : da.verdict ≠ some .deny ∧ da.verdict ≠ some .ask)
    (hdb : db.verdict ≠ some .deny ∧ db.verdict ≠ some .ask)
    (hline : Lines.split? (Content.content? tool arguments) = none) :
    (Check.decide (merge (some a) (some b)) tool arguments).result =
      .ok (if da.verdict = some .allow then da else db) := by
  obtain ⟨rulesA, -, hallowA, hdecideA⟩ := decide_result_eq_ok_iff.1 ha
  obtain ⟨rulesB, -, hallowB, hdecideB⟩ := decide_result_eq_ok_iff.1 hb
  have hevalA := RuleSet.evaluateAllow_of_evaluateContent hdecideA hda.1 hda.2
  have hevalB := RuleSet.evaluateAllow_of_evaluateContent hdecideB hdb.1 hdb.2
  rw [hline, hallowA] at hevalA
  rw [hline, hallowB] at hevalB
  rw [decide_merge ha hb, if_neg hda.1, if_neg hdb.1, if_neg hda.2, if_neg hdb.2, hline]
  exact RuleSet.evaluateAllow_append_line hevalA hevalB

/-- Where neither scope objects to a content of several lines, it is allowed if the rules of both
cover its lines. -/
theorem decide_merge_block (ha : (Check.decide a tool arguments).result = .ok da)
    (hb : (Check.decide b tool arguments).result = .ok db)
    (hda : da.verdict ≠ some .deny ∧ da.verdict ≠ some .ask)
    (hdb : db.verdict ≠ some .deny ∧ db.verdict ≠ some .ask) {lines : List Text}
    (hlines : Lines.split? (Content.content? tool arguments) = some lines) :
    (Check.decide (merge (some a) (some b)) tool arguments).result =
      (RuleSet.coversLines (a.allowRules ++ b.allowRules) tool lines).map fun covered =>
        if covered then .allow none else .noMatch := by
  rw [decide_merge ha hb, if_neg hda.1, if_neg hdb.1, if_neg hda.2, if_neg hdb.2, hlines]
  exact RuleSet.evaluateAllow_block

/-- Where a scope objects, it only matters who denies, who asks, and whose decision it is. -/
theorem combined_of_source {content : Option Text} (hobjects : da.Objects ∨ db.Objects)
    (hdeny : d.verdict = some .deny ↔ da.verdict = some .deny ∨ db.verdict = some .deny)
    (hask : d.verdict = some .ask ↔ (da.verdict ≠ some .deny ∧ db.verdict ≠ some .deny) ∧
      (da.verdict = some .ask ∨ db.verdict = some .ask))
    (hsource : d = if da.label = d.label then da else db) : Combined a b tool content da db d := by
  have hnone : ¬da.Objects → ¬db.Objects → False := fun hda hdb => hobjects.elim hda hdb
  refine ⟨?_, ?_, fun _ => hsource, fun hda hdb => (hnone hda hdb).elim,
    fun hda hdb => (hnone hda hdb).elim⟩
  · simpa only [Decision.label_eq_iff] using hdeny
  · simpa only [ne_eq, Decision.label_eq_iff] using hask

/-- Where a scope objects, the decision of both scopes is that of the first one with the strictest
label. -/
theorem combined_of_objects (ha : (Check.decide a tool arguments).result = .ok da)
    (hb : (Check.decide b tool arguments).result = .ok db)
    (hd : (Check.decide (merge (some a) (some b)) tool arguments).result = .ok d)
    (hobjects : da.Objects ∨ db.Objects) :
    Combined a b tool (Content.content? tool arguments) da db d := by
  have hother : ∀ c, db.verdict = some c → da.verdict ≠ some c →
      db = if da.label = db.label then da else db := by
    intro c hdb hda
    rw [if_neg fun hlabel => hda ((da.label_eq_iff c).1 (hlabel.trans ((db.label_eq_iff c).2 hdb)))]
  rw [decide_merge ha hb] at hd
  by_cases hdenyA : da.verdict = some .deny
  · rw [if_pos hdenyA] at hd
    obtain rfl := Except.ok.inj hd
    exact combined_of_source hobjects (by simp [hdenyA]) (by simp [hdenyA]) (if_pos rfl).symm
  rw [if_neg hdenyA] at hd
  by_cases hdenyB : db.verdict = some .deny
  · rw [if_pos hdenyB] at hd
    obtain rfl := Except.ok.inj hd
    exact combined_of_source hobjects (by simp [hdenyB]) (by simp [hdenyB])
      (hother .deny hdenyB hdenyA)
  rw [if_neg hdenyB] at hd
  by_cases haskA : da.verdict = some .ask
  · rw [if_pos haskA] at hd
    obtain rfl := Except.ok.inj hd
    exact combined_of_source hobjects (by simp [haskA, hdenyB]) (by simp [haskA, hdenyB])
      (if_pos rfl).symm
  have haskB : db.verdict = some .ask := by
    simpa [Decision.Objects, Decision.label_eq_iff, hdenyA, hdenyB, haskA] using hobjects
  rw [if_neg haskA, if_pos haskB] at hd
  obtain rfl := Except.ok.inj hd
  exact combined_of_source hobjects (by simp [haskB, hdenyA]) (by simp [haskB, hdenyA])
    (hother .ask haskB haskA)

/-- Where neither scope objects, neither do both together, and only what is
allowed is left to say. -/
theorem combined_of_not_objects {content : Option Text} (hda : ¬da.Objects) (hdb : ¬db.Objects)
    (hd : ¬d.Objects)
    (hline : (∀ t, content = some t → 10 ∉ t) → (d.label = Category.allow.label ↔
      da.label = Category.allow.label ∨ db.label = Category.allow.label))
    (hblock : ∀ t, content = some t → 10 ∈ t → (d.label = Category.allow.label ↔
      Lines.view t ≠ [] ∧ ∀ line ∈ Lines.view t, ∃ r ∈ a.allowRules ++ b.allowRules,
        r.hits tool (some line) = (.ok true : Except Fault Bool))) :
    Combined a b tool content da db d := by
  rw [Decision.Objects, not_or] at hda hdb
  rw [Decision.Objects] at hd
  refine ⟨iff_of_false (fun h => hd (Or.inl h)) ?_, iff_of_false (fun h => hd (Or.inr h)) ?_,
    fun h => absurd h hd, fun _ _ => hline, fun _ _ => hblock⟩
  · exact fun h => h.elim hda.1 hdb.1
  · exact fun h => h.2.elim hda.2 hdb.2

/-- Whatever two scopes decide together is what their own decisions say. -/
theorem combined_of_decide (ha : (Check.decide a tool arguments).result = .ok da)
    (hb : (Check.decide b tool arguments).result = .ok db)
    (hd : (Check.decide (merge (some a) (some b)) tool arguments).result = .ok d) :
    Combined a b tool (Content.content? tool arguments) da db d := by
  by_cases hobjects : da.Objects ∨ db.Objects
  · exact combined_of_objects ha hb hd hobjects
  obtain ⟨hda, hdb⟩ := not_or.1 hobjects
  have hda' := Decision.not_objects_iff.1 hda
  have hdb' := Decision.not_objects_iff.1 hdb
  cases hlines : Lines.split? (Content.content? tool arguments) with
  | none =>
      rw [decide_merge_line ha hb hda' hdb' hlines] at hd
      obtain rfl := Except.ok.inj hd
      refine combined_of_not_objects hda hdb ?_ (fun _ => ?_) fun t ht hfeed => ?_
      · split
        · exact hda
        · exact hdb
      · simp only [Decision.label_eq_iff]
        split
        · next hallow => simp [hallow]
        · next hallow => simp [hallow]
      · rw [ht, Lines.split?_of_mem hfeed] at hlines
        cases hlines
  | some lines =>
      rw [decide_merge_block ha hb hda' hdb' hlines] at hd
      cases hcovers : (RuleSet.coversLines (a.allowRules ++ b.allowRules) tool lines :
          Except Fault Bool) with
      | error f => rw [hcovers] at hd; cases hd
      | ok covered =>
          rw [hcovers] at hd
          obtain rfl := Except.ok.inj hd
          refine combined_of_not_objects hda hdb ?_ (fun hline => ?_) fun t ht hfeed => ?_
          · rw [Decision.not_objects_iff]
            cases covered <;> simp [Decision.allow, Decision.noMatch]
          · cases hcontent : Content.content? tool arguments with
            | none => rw [hcontent] at hlines; cases hlines
            | some t =>
                rw [hcontent, Lines.split?_of_notMem (hline t hcontent)] at hlines
                cases hlines
          · rw [ht, Lines.split?_of_mem hfeed] at hlines
            cases hlines
            rw [← RuleSet.coversLines_true_iff hcovers, Decision.label_eq_iff]
            cases covered <;> simp [Decision.allow, Decision.noMatch]

/-- What two scopes decide together exists exactly if covering lines with the rules of
both runs into no fault. -/
theorem decide_merge_isOk_iff (ha : (Check.decide a tool arguments).result = .ok da)
    (hb : (Check.decide b tool arguments).result = .ok db) :
    (∃ d, (Check.decide (merge (some a) (some b)) tool arguments).result = .ok d) ↔
      Steady a b tool (Content.content? tool arguments) da db := by
  by_cases hobjects : da.Objects ∨ db.Objects
  · refine iff_of_true ?_ fun hda hdb => (hobjects.elim hda hdb).elim
    rw [Decision.Objects, Decision.Objects] at hobjects
    simp only [Decision.label_eq_iff] at hobjects
    rw [decide_merge ha hb]
    split_ifs with hdenyA hdenyB haskA haskB
    · exact ⟨da, rfl⟩
    · exact ⟨db, rfl⟩
    · exact ⟨da, rfl⟩
    · exact ⟨db, rfl⟩
    · exact absurd hobjects (by simp [hdenyA, hdenyB, haskA, haskB])
  obtain ⟨hda, hdb⟩ := not_or.1 hobjects
  have hda' := Decision.not_objects_iff.1 hda
  have hdb' := Decision.not_objects_iff.1 hdb
  cases hlines : Lines.split? (Content.content? tool arguments) with
  | none =>
      refine iff_of_true ⟨_, decide_merge_line ha hb hda' hdb' hlines⟩ fun _ _ t ht hfeed => ?_
      rw [ht, Lines.split?_of_mem hfeed] at hlines
      cases hlines
  | some lines =>
      have hsteady : Steady a b tool (Content.content? tool arguments) da db ↔
          ¬RuleSet.Interrupted (a.allowRules ++ b.allowRules) tool lines := by
        cases hcontent : Content.content? tool arguments with
        | none => rw [hcontent] at hlines; cases hlines
        | some t =>
            rw [hcontent] at hlines
            by_cases hfeed : 10 ∈ t
            · rw [Lines.split?_of_mem hfeed] at hlines
              cases hlines
              refine ⟨fun h => h hda hdb t rfl hfeed, fun h _ _ t' ht' _ => ?_⟩
              cases ht'
              exact h
            · rw [Lines.split?_of_notMem hfeed] at hlines
              cases hlines
      rw [hsteady, ← RuleSet.coversLines_error_iff, decide_merge_block ha hb hda' hdb' hlines]
      cases (RuleSet.coversLines (a.allowRules ++ b.allowRules) tool lines : Except Fault Bool) with
      | error f => simp [Except.map]
      | ok covered => simp [Except.map]

/-- Two scopes object together exactly if one of them does. -/
theorem Combined.objects_iff {content : Option Text} (h : Combined a b tool content da db d) :
    d.Objects ↔ da.Objects ∨ db.Objects := by
  rw [Decision.Objects, h.deny, h.ask, Decision.Objects, Decision.Objects]
  by_cases hdeny : da.label = Category.deny.label ∨ db.label = Category.deny.label
  · exact iff_of_true (Or.inl hdeny) (hdeny.imp Or.inl Or.inl)
  · obtain ⟨hdenyA, hdenyB⟩ := not_or.1 hdeny
    simp [hdenyA, hdenyB]

/-- The order in which two scopes are put together makes no difference to the label. -/
theorem Combined.label_swapped {content : Option Text} {other : Decision}
    (h : Combined a b tool content da db d) (h' : Combined b a tool content db da other) :
    other.label = d.label := by
  refine Decision.label_ext fun c => ?_
  cases c with
  | deny => rw [h.deny, h'.deny, or_comm]
  | ask =>
      rw [h.ask, h'.ask]
      exact and_congr and_comm or_comm
  | allow =>
      by_cases hobjects : da.Objects ∨ db.Objects
      · exact iff_of_false (h'.objects_iff.2 hobjects.symm).label_ne_allow
          (h.objects_iff.2 hobjects).label_ne_allow
      obtain ⟨hda, hdb⟩ := not_or.1 hobjects
      by_cases hblock : ∃ t, content = some t ∧ 10 ∈ t
      · obtain ⟨t, ht, hfeed⟩ := hblock
        rw [h.block hda hdb t ht hfeed, h'.block hdb hda t ht hfeed]
        simp only [List.mem_append, or_comm]
      · have hline : ∀ t, content = some t → 10 ∉ t := fun t ht hfeed => hblock ⟨t, ht, hfeed⟩
        rw [h.line hda hdb hline, h'.line hdb hda hline, or_comm]

/-- **Two scopes decide together as they decide apart.**  Where the rules of a project and those of
the user both come to a decision about a request, the rules of both come to one exactly if no fault
comes up when they cover lines together, and then it combines the two: it denies if one of them
does, it asks if one of them does and none denies, both with the decision of the first scope that
does; otherwise a content of one line is allowed if one of them allows it, and one of several lines
if each line is matched by a rule of one of them that allows. So the order of the scopes makes no
difference to the label. -/
theorem merge_combines (ha : (Check.decide a tool arguments).result = .ok da)
    (hb : (Check.decide b tool arguments).result = .ok db) :
    ((∃ d, (Check.decide (merge (some a) (some b)) tool arguments).result = .ok d) ↔
      Steady a b tool (Content.content? tool arguments) da db) ∧
    (∀ f, (Check.decide (merge (some a) (some b)) tool arguments).result = .error f →
      f = .reversedGroup) ∧
    ∀ d, (Check.decide (merge (some a) (some b)) tool arguments).result = .ok d →
      Combined a b tool (Content.content? tool arguments) da db d ∧
      ∀ other, (Check.decide (merge (some b) (some a)) tool arguments).result = .ok other →
        other.label = d.label := by
  refine ⟨decide_merge_isOk_iff ha hb, fun f hf => ?_, fun d hd => ?_⟩
  · obtain ⟨rulesA, hrulesA, -⟩ := decide_result_eq_ok_iff.1 ha
    obtain ⟨rulesB, hrulesB, -⟩ := decide_result_eq_ok_iff.1 hb
    rw [Check.decide, merge_some,
      Logged.result_bind_of_ok _ (rules_result_append hrulesA hrulesB)] at hf
    exact RuleSet.evaluate_error _ tool hf
  · refine ⟨combined_of_decide ha hb hd, fun other hother => ?_⟩
    exact (combined_of_decide ha hb hd).label_swapped (combined_of_decide hb ha hother)

end

/-- A project that allows one line of a content and a user who allows the other one: neither allows
the content, both together do. -/
theorem merge_combines_lines :
    let a : Permissions := { allow := [.str "Bash(^ls$)"] }
    let b : Permissions := { allow := [.str "Bash(^pwd$)"] }
    let arguments : List (Value × Value) := [(.str "command", .str "ls\npwd")]
    (Check.decide a "Bash" arguments).result = .ok .noMatch ∧
      (Check.decide b "Bash" arguments).result = .ok .noMatch ∧
        Steady a b "Bash" (Content.content? "Bash" arguments) .noMatch .noMatch ∧
          Combined a b "Bash" (Content.content? "Bash" arguments) .noMatch .noMatch
            (.allow none) := by
  intro a b arguments
  have ha : (Check.decide a "Bash" arguments).result = .ok .noMatch := by decide +kernel
  have hb : (Check.decide b "Bash" arguments).result = .ok .noMatch := by decide +kernel
  have hd : (Check.decide (merge (some a) (some b)) "Bash" arguments).result =
      .ok (.allow none) := by decide +kernel
  obtain ⟨hsteady, -, hcombined⟩ := merge_combines ha hb
  exact ⟨ha, hb, hsteady.1 ⟨_, hd⟩, (hcombined _ hd).1⟩

/-- A project and a user who both come to a decision, and together do not: the user's rule covers
both lines, but the second line is tried on the project's rule first, which records a group
backwards. In the other order both lines are allowed. -/
theorem merge_interrupted :
    let a : Permissions :=
      { allow := [.str "t(^(?=aaab)(?:b\x7b0\x7d((b)(?>)*?|.+?)++)$)"] }
    let b : Permissions := { allow := [.str "t(.)"] }
    let arguments : List (Value × Value) := [(.str "command", .str "c\naaabaa")]
    (Check.decide a "t" arguments).result = .ok .noMatch ∧
      (Check.decide b "t" arguments).result = .ok (.allow none) ∧
      (Check.decide (merge (some a) (some b)) "t" arguments).result = .error .reversedGroup ∧
      (Check.decide (merge (some b) (some a)) "t" arguments).result = .ok (.allow none) := by
  refine ⟨?_, ?_, ?_, ?_⟩
  · decide +kernel
  · decide +kernel
  · decide +kernel
  · decide +kernel

end Permissions

end ToolPolicy
