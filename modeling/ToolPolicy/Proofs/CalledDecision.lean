import Mathlib.Logic.Basic
import ToolPolicy.Proofs.LineVerdict

/-!
# The decision that rules call for

Rules say what they are for: the earliest rule that denies decides, or else the earliest that asks,
or else the rules that allow, of which one has to match a content of one line and some rule or other
has to match each line of a longer one. `Calls` writes that down without passes over lists and
without early exits, one constructor for each way to a decision. Matchers are predicates here.

* `Earliest`, `find?_eq_some_iff_earliest`: what it means to be the first in a list.
* `Rule.Hits`: that a rule matches a content or one of its lines.
* `evaluateContent_eq`: an evaluation as three searches in a row.
* `evaluate_eq_iff`: an evaluation comes to a decision exactly if the rules call for it.
-/

namespace ToolPolicy

/-! ## The earliest of a list -/

/-- The first element of a list with a property. -/
def Earliest {α : Type} (p : α → Prop) (l : List α) (a : α) : Prop :=
  p a ∧ ∃ before after, l = before ++ a :: after ∧ ∀ b ∈ before, ¬p b

section
variable {α : Type} {p : α → Prop} {q : α → Bool} {l : List α}

theorem find?_eq_some_iff_earliest (h : ∀ a, q a = true ↔ p a) {a : α} :
    l.find? q = some a ↔ Earliest p l a := by
  simp only [List.find?_eq_some_iff_append, Earliest, Bool.not_eq_true', ← h,
    Bool.not_eq_true]

theorem find?_eq_none_iff_forall (h : ∀ a, q a = true ↔ p a) :
    l.find? q = none ↔ ∀ a ∈ l, ¬p a := by
  simp only [List.find?_eq_none, h]

end

/-! ## Reasons -/

/-- The reason that is shown for a rule: its own one, or the usual one if that is absent or
empty. -/
inductive Decision.Shows (usual : Text) : Option Text → Text → Prop where
  | own {t : Text} (h : t ≠ []) : Shows usual (some t) t
  | absent : Shows usual none usual
  | empty : Shows usual (some []) usual

theorem Decision.reasonOr_eq_iff {usual : Text} {given : Option Text} {shown : Text} :
    reasonOr usual given = shown ↔ Shows usual given shown := by
  constructor
  · intro h
    subst h
    cases given with
    | none => exact .absent
    | some t =>
        cases t with
        | nil => exact .empty
        | cons c rest => exact .own (List.cons_ne_nil c rest)
  · intro h
    cases h with
    | own h => simp [reasonOr, h]
    | absent => rfl
    | empty => rfl

/-! ## Rules and contents -/

namespace Rule

variable {r : Rule (Text → Bool)} {tool : Text}

/-- Whether a rule matches the content of a request, or one of its lines. -/
def Hits (r : Rule (Text → Bool)) (tool : Text) (content : Option Text) : Prop :=
  Id.run (r.hits tool content) = true ∨
    ∃ lines, Lines.split? content = some lines ∧
      ∃ line ∈ lines, Id.run (r.hits tool (some line)) = true

/-- Without content there is nothing to match. -/
theorem not_hits_none : ¬r.Hits tool none := by
  have hwhole : Id.run (r.hits tool none) = false := by
    show (if r.tool tool = true then false else false) = false
    exact ite_self false
  rintro (h | ⟨lines, hlines, -⟩)
  · rw [hwhole] at h
    cases h
  · cases hlines

theorem run_hits (r : Rule (Text → Bool)) (tool t : Text) :
    Id.run (r.hits tool (some t)) = r.covers tool t :=
  r.hits_eq_covers tool t

theorem touches_iff_hits {t : Text} : r.touches tool t = true ↔ r.Hits tool (some t) := by
  simp only [touches, Hits, run_hits, Bool.or_eq_true]
  refine or_congr_right ?_
  cases Lines.split? (some t) with
  | none => simp
  | some lines => simp

end Rule

namespace RuleSet

/-- What rules call for about a content: a way to a decision, and the decision at its end. -/
inductive Calls (rules : RuleSet (Text → Bool)) (tool : Text) : Option Text → Decision → Prop where
  | deny {content : Option Text} {r : Rule (Text → Bool)} {reason : Text}
      (first : Earliest (·.Hits tool content) rules.deny r)
      (shown : Decision.Shows Decision.denyReason r.reason reason) :
      Calls rules tool content ⟨some .deny, some reason, some r.raw⟩
  | ask {content : Option Text} {r : Rule (Text → Bool)} {reason : Text}
      (free : ∀ r ∈ rules.deny, ¬r.Hits tool content)
      (first : Earliest (·.Hits tool content) rules.ask r)
      (shown : Decision.Shows Decision.askReason r.reason reason) :
      Calls rules tool content ⟨some .ask, some reason, some r.raw⟩
  /-- Every line is matched by a rule that allows, be it by another one each time. -/
  | allowLines {t : Text} (free : ∀ r ∈ rules.deny ++ rules.ask, ¬r.Hits tool (some t))
      (feed : 10 ∈ t) (lines : Lines.view t ≠ [])
      (covered : ∀ line ∈ Lines.view t, ∃ r ∈ rules.allow,
        Id.run (r.hits tool (some line)) = true) :
      Calls rules tool (some t) ⟨some .allow, none, none⟩
  | allowLine {t : Text} {r : Rule (Text → Bool)}
      (free : ∀ r ∈ rules.deny ++ rules.ask, ¬r.Hits tool (some t)) (noFeed : 10 ∉ t)
      (first : Earliest (fun r => Id.run (r.hits tool (some t)) = true) rules.allow r) :
      Calls rules tool (some t) ⟨some .allow, none, some r.raw⟩
  | noContent : Calls rules tool none ⟨none, none, none⟩
  /-- There is no line, or one that no rule allows. -/
  | uncoveredLines {t : Text} (free : ∀ r ∈ rules.deny ++ rules.ask, ¬r.Hits tool (some t))
      (feed : 10 ∈ t)
      (uncovered : Lines.view t = [] ∨ ∃ line ∈ Lines.view t, ∀ r ∈ rules.allow,
        ¬Id.run (r.hits tool (some line)) = true) :
      Calls rules tool (some t) ⟨none, none, none⟩
  | uncoveredLine {t : Text} (free : ∀ r ∈ rules.deny ++ rules.ask, ¬r.Hits tool (some t))
      (noFeed : 10 ∉ t)
      (uncovered : ∀ r ∈ rules.allow, ¬Id.run (r.hits tool (some t)) = true) :
      Calls rules tool (some t) ⟨none, none, none⟩

/-- Rules that call for no verdict call for nothing else. -/
theorem Calls.eq_noMatch {rules : RuleSet (Text → Bool)} {tool : Text} {content : Option Text}
    {d : Decision} (h : rules.Calls tool content d) (hd : d.verdict = none) : d = .noMatch := by
  cases h with
  | deny => cases hd
  | ask => cases hd
  | allowLines => cases hd
  | allowLine => cases hd
  | noContent => rfl
  | uncoveredLines => rfl
  | uncoveredLine => rfl

/-! ## Evaluations as searches -/

variable (rules : RuleSet (Text → Bool)) (tool : Text)

theorem evaluateAllow_lines {allow : List (Rule (Text → Bool))} {t : Text} (h : 10 ∈ t) :
    Id.run (evaluateAllow allow tool (some t) (Lines.split? (some t))) =
      if permits allow tool t then .allow none else .noMatch := by
  have hrule : ∀ line, (fun r : Rule (Text → Bool) => (r.hits tool (some line) : Id Bool)) =
      fun r => pure (r.covers tool line) :=
    fun line => funext fun r => r.hits_eq_covers tool line
  rw [permits, Lines.split?_of_mem h, evaluateAllow, coversLines]
  by_cases he : (Lines.view t).isEmpty
  · simp [he]
  · simp only [he, hrule, List.anyM_pure, List.allM_pure]
    cases hall : (Lines.view t).all fun line => allow.any (·.covers tool line) <;> simp

theorem evaluateAllow_single {allow : List (Rule (Text → Bool))} {t : Text} (h : 10 ∉ t) :
    Id.run (evaluateAllow allow tool (some t) (Lines.split? (some t))) =
      match allow.find? (·.covers tool t) with
      | some r => .allow (some r.raw)
      | none => .noMatch := by
  have hrule : (fun r : Rule (Text → Bool) => (r.hits tool (some t) : Id Bool)) =
      fun r => pure (r.covers tool t) :=
    funext fun r => r.hits_eq_covers tool t
  rw [Lines.split?_of_notMem h, evaluateAllow, hrule, List.findM?_pure]
  cases allow.find? (·.covers tool t) <;> rfl

/-- An evaluation is a search through the rules that deny, then one through those that ask, and
then what the rules that allow come to. -/
theorem evaluateContent_eq (t : Text) : Id.run (rules.evaluateContent tool (some t)) =
    match rules.deny.find? (·.touches tool t), rules.ask.find? (·.touches tool t) with
    | some r, _ => .deny r.reason (some r.raw)
    | none, some r => .ask r.reason (some r.raw)
    | none, none => Id.run (evaluateAllow rules.allow tool (some t) (Lines.split? (some t))) := by
  rw [evaluateContent, firstHit_eq_find?, firstHit_eq_find?]
  cases rules.deny.find? (·.touches tool t) with
  | some r => rfl
  | none => cases rules.ask.find? (·.touches tool t) <;> rfl

/-- A request without content is left alone. -/
theorem evaluateContent_none : Id.run (rules.evaluateContent tool none) = .noMatch := by
  have hnone : ∀ r : Rule (Text → Bool), (r.hits tool none : Id Bool) = pure false := by
    intro r
    have hfree : ¬r.Hits tool none := Rule.not_hits_none
    exact Bool.eq_false_iff.2 fun h => hfree (.inl h)
  have hfirst : ∀ l : List (Rule (Text → Bool)),
      (firstHit l tool none (Lines.split? none) : Id _) = pure none := fun l =>
    firstHit_of_forall fun r _ => by rw [hitsAny, hnone r]; rfl
  have hallow : (rules.allow.findM? fun r => (r.hits tool none : Id Bool)) = pure none := by
    rw [funext hnone, List.findM?_pure, List.find?_eq_none.2 fun _ _ => Bool.false_ne_true]
  rw [evaluateContent, hfirst, hfirst]
  show Id.run (evaluateAllow rules.allow tool none none) = _
  rw [evaluateAllow, hallow]
  rfl

/-! ## Evaluations as rules call for them -/

/-- Rules without a hit in a search. -/
theorem free_of_find?_eq_none {t : Text}
    (hd : rules.deny.find? (·.touches tool t) = none)
    (ha : rules.ask.find? (·.touches tool t) = none) :
    ∀ r ∈ rules.deny ++ rules.ask, ¬r.Hits tool (some t) := by
  rw [List.forall_mem_append]
  exact ⟨(find?_eq_none_iff_forall fun _ => Rule.touches_iff_hits).1 hd,
    (find?_eq_none_iff_forall fun _ => Rule.touches_iff_hits).1 ha⟩

/-- Whether the lines of a block are not all matched by rules that allow. -/
theorem not_permits_iff {allow : List (Rule (Text → Bool))} {t : Text} (h : 10 ∈ t) :
    ¬permits allow tool t = true ↔ Lines.view t = [] ∨ ∃ line ∈ Lines.view t, ∀ r ∈ allow,
      ¬r.covers tool line = true := by
  rw [permits_iff h, not_and_or, not_not]
  refine or_congr_right ?_
  simp only [List.any_eq_true, not_forall, not_exists, not_and, exists_prop]

/-- The rules call for the decision that an evaluation comes to. -/
theorem calls_evaluateContent (content : Option Text) :
    rules.Calls tool content (Id.run (rules.evaluateContent tool content)) := by
  cases content with
  | none =>
      rw [evaluateContent_none]
      exact .noContent
  | some t =>
      rw [evaluateContent_eq]
      cases hd : rules.deny.find? (·.touches tool t) with
      | some r =>
          have hfirst := (find?_eq_some_iff_earliest fun _ => Rule.touches_iff_hits).1 hd
          exact .deny hfirst (Decision.reasonOr_eq_iff.1 rfl)
      | none =>
          have hfree := (find?_eq_none_iff_forall fun _ => Rule.touches_iff_hits).1 hd
          cases ha : rules.ask.find? (·.touches tool t) with
          | some r =>
              have hfirst := (find?_eq_some_iff_earliest fun _ => Rule.touches_iff_hits).1 ha
              exact .ask hfree hfirst (Decision.reasonOr_eq_iff.1 rfl)
          | none =>
              have hfree := free_of_find?_eq_none rules tool hd ha
              by_cases hfeed : 10 ∈ t
              · simp only [evaluateAllow_lines tool hfeed]
                by_cases hp : permits rules.allow tool t = true
                · rw [if_pos hp]
                  obtain ⟨hne, hall⟩ := (permits_iff hfeed).1 hp
                  simp only [List.any_eq_true] at hall
                  refine .allowLines hfree hfeed hne ?_
                  simpa only [Rule.run_hits] using hall
                · rw [if_neg hp]
                  refine .uncoveredLines hfree hfeed ?_
                  simpa only [Rule.run_hits] using (not_permits_iff tool hfeed).1 hp
              · simp only [evaluateAllow_single tool hfeed]
                cases hl : rules.allow.find? (·.covers tool t) with
                | some r =>
                    refine .allowLine hfree hfeed ((find?_eq_some_iff_earliest fun r => ?_).1 hl)
                    rw [Rule.run_hits]
                | none =>
                    refine .uncoveredLine hfree hfeed ?_
                    simpa only [Rule.run_hits] using List.find?_eq_none.1 hl

/-- Where no rule denies or asks, the rules that allow decide. -/
theorem evaluateContent_of_free {t : Text}
    (h : ∀ r ∈ rules.deny ++ rules.ask, ¬r.Hits tool (some t)) :
    Id.run (rules.evaluateContent tool (some t)) =
      Id.run (evaluateAllow rules.allow tool (some t) (Lines.split? (some t))) := by
  rw [List.forall_mem_append] at h
  have hd := (find?_eq_none_iff_forall fun _ => Rule.touches_iff_hits).2 h.1
  have ha := (find?_eq_none_iff_forall fun _ => Rule.touches_iff_hits).2 h.2
  rw [evaluateContent_eq, hd, ha]

/-- An evaluation comes to any decision that the rules call for. -/
theorem evaluateContent_of_calls {content : Option Text} {d : Decision}
    (h : rules.Calls tool content d) : Id.run (rules.evaluateContent tool content) = d := by
  cases h with
  | @deny _ r reason first shown =>
      cases content with
      | none => exact absurd first.1 Rule.not_hits_none
      | some t =>
          have hd := (find?_eq_some_iff_earliest fun _ => Rule.touches_iff_hits).2 first
          rw [evaluateContent_eq, hd, ← Decision.reasonOr_eq_iff.2 shown]
          rfl
  | @ask _ r reason free first shown =>
      cases content with
      | none => exact absurd first.1 Rule.not_hits_none
      | some t =>
          have hd := (find?_eq_none_iff_forall fun _ => Rule.touches_iff_hits).2 free
          have ha := (find?_eq_some_iff_earliest fun _ => Rule.touches_iff_hits).2 first
          rw [evaluateContent_eq, hd, ha, ← Decision.reasonOr_eq_iff.2 shown]
          rfl
  | allowLines free feed lines covered =>
      simp only [Rule.run_hits, ← List.any_eq_true] at covered
      rw [evaluateContent_of_free rules tool free, evaluateAllow_lines tool feed,
        if_pos ((permits_iff feed).2 ⟨lines, covered⟩)]
      rfl
  | @allowLine t r free noFeed first =>
      have hfirst : rules.allow.find? (·.covers tool t) = some r :=
        (find?_eq_some_iff_earliest fun r => by rw [Rule.run_hits]).2 first
      rw [evaluateContent_of_free rules tool free, evaluateAllow_single tool noFeed, hfirst]
      rfl
  | noContent => exact evaluateContent_none rules tool
  | uncoveredLines free feed uncovered =>
      simp only [Rule.run_hits] at uncovered
      rw [evaluateContent_of_free rules tool free, evaluateAllow_lines tool feed,
        if_neg ((not_permits_iff tool feed).2 uncovered)]
      rfl
  | uncoveredLine free noFeed uncovered =>
      simp only [Rule.run_hits] at uncovered
      rw [evaluateContent_of_free rules tool free, evaluateAllow_single tool noFeed,
        List.find?_eq_none.2 uncovered]
      rfl

/-- **An evaluation comes to what the rules call for.**  For any rules, any tool and any arguments,
or none: the decision is the one that the rules call for about the content, and no other one is. It
has no verdict exactly if it has neither reason nor rule and is sent as an empty answer. -/
theorem evaluate_eq_iff (arguments : Option (List (Value × Value))) :
    let decision := Id.run (rules.evaluate tool (arguments.getD []))
    (∀ d, decision = d ↔ rules.Calls tool (Content.content? tool (arguments.getD [])) d) ∧
      (decision.label = "passthrough" ↔ decision = .noMatch) ∧
        (decision.envelope = [] ↔ decision = .noMatch) := by
  intro decision
  have hcalls : rules.Calls tool _ decision := calls_evaluateContent rules tool _
  have hnoMatch : decision.verdict = none ↔ decision = .noMatch := by
    refine ⟨hcalls.eq_noMatch, fun h => ?_⟩
    rw [h]
    rfl
  refine ⟨fun d => ⟨?_, evaluateContent_of_calls rules tool⟩, ?_, ?_⟩
  · intro h
    rwa [← h]
  · rw [← hnoMatch, ← not_iff_not, ← ne_eq, ← Decision.label_ne_passthrough_iff,
      Decision.isMatched, Option.isSome_iff_ne_none]
  · rw [Decision.envelope_eq_nil_iff, hnoMatch]

/-- A block of which one rule allows the first line and another one the second: no rule is named. -/
example : Id.run (evaluate (M := Text → Bool)
    { allow := [⟨fun _ => true, (· == "ls"), none, "a"⟩, ⟨fun _ => true, (· == "pwd"), none, "b"⟩] }
    "Bash" [(.str "command", .str "ls\n pwd")]) = .allow none := by
  decide

end RuleSet

end ToolPolicy
