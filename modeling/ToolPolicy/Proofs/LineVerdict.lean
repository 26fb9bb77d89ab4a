import ToolPolicy.Files.Path
import ToolPolicy.Policy.Engine
import ToolPolicy.Proofs.SelectedContent

/-!
# The verdict on a block and the verdicts on its lines

A content of several lines is answered in one go, but the answer is made of the answers to its
lines. Matchers are predicates here, so that an evaluation is a plain function of the rules, the
tool and the content.

* `verdict_evaluateContent`: what the three passes over the rules come to, as one conditional.
* `verdict_line`: a line of a block is a content of one line, so it is evaluated without a view.
* `label_block`: a block is denied, asked about or allowed exactly as its lines and the rules for
  the whole block say, and never answered more loosely than any of its lines.
-/

namespace ToolPolicy

/-! ## Lines of a block -/

namespace Lines

theorem mem_of_mem_trim {c : CodePoint} {t : Text} (h : c ∈ trim t) : c ∈ t := by
  rw [trim, Text.trimBoth, List.mem_reverse] at h
  have h' := List.mem_reverse.1 ((List.dropWhile_sublist _).subset h)
  exact (List.dropWhile_sublist _).subset h'

/-- A line of a view holds no line feed. -/
theorem lineFeed_notMem {t line : Text} (h : line ∈ view t) : 10 ∉ line := by
  rw [view, List.mem_filter, List.mem_map] at h
  obtain ⟨⟨piece, hpiece, rfl⟩, -⟩ := h
  exact fun hc => Path.notMem_of_mem_splitOn hpiece (mem_of_mem_trim hc)

theorem split?_of_mem {t : Text} (h : 10 ∈ t) : split? (some t) = some (view t) := by
  rw [split?, if_pos (List.contains_iff_mem.2 h)]

theorem split?_of_notMem {t : Text} (h : 10 ∉ t) : split? (some t) = none := by
  rw [split?, if_neg (fun hc => h (List.contains_iff_mem.1 hc))]

end Lines

/-! ## The content under the main argument -/

namespace Content

/-- A content that is given under the main argument of a tool is the one that rules see. -/
theorem content?_primary {t : Text} (h : t ≠ []) (tool : Text) :
    content? tool [(.str (primaryField tool), .str t)] = some t := by
  have hselected : Selected tool (Value.putField (primaryField tool) (.str t) []) t :=
    selected_putField (.inl h)
  exact content?_eq_some_iff.2 hselected

end Content

/-! ## Evaluation with predicates -/

/-- The strictest category that has something to say. -/
def Category.strictest (deny ask allow : Bool) : Option Category :=
  if deny then some .deny else if ask then some .ask else if allow then some .allow else none

section
variable {deny ask allow : Bool}

@[simp] theorem Category.strictest_eq_deny_iff :
    strictest deny ask allow = some .deny ↔ deny = true := by
  cases deny <;> cases ask <;> cases allow <;> decide

@[simp] theorem Category.strictest_eq_ask_iff :
    strictest deny ask allow = some .ask ↔ deny = false ∧ ask = true := by
  cases deny <;> cases ask <;> cases allow <;> decide

@[simp] theorem Category.strictest_eq_allow_iff :
    strictest deny ask allow = some .allow ↔ deny = false ∧ ask = false ∧ allow = true := by
  cases deny <;> cases ask <;> cases allow <;> decide

end

namespace Rule

/-- Whether a rule of predicates matches a tool and a text. -/
def covers (r : Rule (Text → Bool)) (tool t : Text) : Bool := r.tool tool && r.content t

/-- Whether a rule of predicates matches a text or one of its lines. -/
def touches (r : Rule (Text → Bool)) (tool t : Text) : Bool :=
  r.covers tool t || ((Lines.split? (some t)).getD []).any (r.covers tool)

theorem hits_eq_covers (r : Rule (Text → Bool)) (tool t : Text) :
    (r.hits tool (some t) : Id Bool) = pure (r.covers tool t) :=
  hits_predicate r tool t

end Rule

namespace RuleSet

section
variable {α : Type} {p : α → Bool} {l : List α}

theorem any_of_find? {a : α} (h : l.find? p = some a) : l.any p = true :=
  List.any_eq_true.2 ⟨a, List.mem_of_find?_eq_some h, List.find?_some h⟩

theorem not_any_of_find? (h : l.find? p = none) : ¬l.any p = true := by
  rw [List.find?_eq_none] at h
  simpa using h

end

theorem hitsAny_eq_touches (tool t : Text) (r : Rule (Text → Bool)) :
    (hitsAny tool (some t) (Lines.split? (some t)) r : Id Bool) = pure (r.touches tool t) := by
  have hline : (fun line => (r.hits tool (some line) : Id Bool)) = fun line =>
    pure (r.covers tool line) :=
    funext (r.hits_eq_covers tool)
  rw [hitsAny, r.hits_eq_covers, hline, List.anyM_pure]
  cases hc : r.covers tool t <;> simp [Rule.touches, hc]

theorem firstHit_eq_find? (rules : List (Rule (Text → Bool))) (tool t : Text) :
    (firstHit rules tool (some t) (Lines.split? (some t)) : Id _) =
      pure (rules.find? fun r => r.touches tool t) := by
  have htouch : (hitsAny tool (some t) (Lines.split? (some t)) : _ → Id Bool) =
      fun r => pure (r.touches tool t) :=
    funext (hitsAny_eq_touches tool t)
  rw [firstHit, htouch, List.findM?_pure]

/-- Whether rules allow a content that no other rule is about: its line, or each of its lines. -/
def permits (rules : List (Rule (Text → Bool))) (tool t : Text) : Bool :=
  match Lines.split? (some t) with
  | some lines => !lines.isEmpty && lines.all fun line => rules.any (·.covers tool line)
  | none => rules.any (·.covers tool t)

theorem verdict_evaluateAllow (rules : List (Rule (Text → Bool))) (tool t : Text) :
    (Id.run (evaluateAllow rules tool (some t) (Lines.split? (some t)))).verdict =
      if permits rules tool t then some .allow else none := by
  have hrule : ∀ line, (fun r : Rule (Text → Bool) => (r.hits tool (some line) : Id Bool)) =
      fun r => pure (r.covers tool line) :=
    fun line => funext fun r => r.hits_eq_covers tool line
  cases hl : Lines.split? (some t) with
  | some lines =>
      rw [evaluateAllow, coversLines, permits, hl]
      by_cases he : lines.isEmpty
      · simp [he, Decision.noMatch]
      · simp only [he, hrule, List.anyM_pure, List.allM_pure]
        cases hall : lines.all fun line => rules.any (·.covers tool line) <;>
          simp [Decision.allow, Decision.noMatch]
  | none =>
      rw [evaluateAllow, hrule, List.findM?_pure, permits, hl]
      cases hf : rules.find? fun r => r.covers tool t with
      | some r => rw [if_pos (any_of_find? hf)]; rfl
      | none => rw [if_neg (not_any_of_find? hf)]; rfl

/-- **What an evaluation comes to.**  Three passes, each of them only if those before it find
nothing. -/
theorem verdict_evaluateContent (rules : RuleSet (Text → Bool)) (tool t : Text) :
    (Id.run (rules.evaluateContent tool (some t))).verdict =
      Category.strictest (rules.deny.any (·.touches tool t)) (rules.ask.any (·.touches tool t))
        (permits rules.allow tool t) := by
  rw [evaluateContent, firstHit_eq_find?, firstHit_eq_find?, Category.strictest,
    ← verdict_evaluateAllow]
  cases hd : rules.deny.find? fun r => r.touches tool t with
  | some r => rw [if_pos (any_of_find? hd)]; rfl
  | none =>
      rw [if_neg (not_any_of_find? hd)]
      cases ha : rules.ask.find? fun r => r.touches tool t with
      | some r => rw [if_pos (any_of_find? ha)]; rfl
      | none => rw [if_neg (not_any_of_find? ha)]; rfl

end RuleSet

/-! ## Labels -/

namespace Category

theorem label_injective {a b : Category} (h : a.label = b.label) : a = b := by
  have ha := ofLabel?_label a
  rw [h, ofLabel?_label] at ha
  exact (Option.some.inj ha).symm

theorem label_ne_passthrough (c : Category) : c.label ≠ "passthrough" := by
  cases c <;> decide

end Category

namespace Decision

/-- A decision has the label of a category exactly if that is its verdict. -/
theorem label_eq_iff (d : Decision) (c : Category) : d.label = c.label ↔ d.verdict = some c := by
  rw [label]
  cases d.verdict with
  | none => exact ⟨fun h => absurd h.symm c.label_ne_passthrough, fun h => by cases h⟩
  | some c' => exact ⟨fun h => congrArg some (Category.label_injective h), fun h => by cases h; rfl⟩

/-- How much a verdict lets through: a denial the least, a permission the most. -/
def looseness : Option Category → Nat
  | some .deny => 0
  | some .ask => 1
  | none => 2
  | some .allow => 3

end Decision

/-! ## Blocks -/

namespace RuleSet

/-- The answer to a content that is given under the main argument of a tool. -/
def answerTo (rules : RuleSet (Text → Bool)) (tool t : Text) : Decision :=
  Id.run (rules.evaluate tool [(.str (Content.primaryField tool), .str t)])

variable (rules : RuleSet (Text → Bool)) (tool : Text)

theorem verdict_answerTo {t : Text} (h : t ≠ []) : (rules.answerTo tool t).verdict =
    Category.strictest (rules.deny.any (·.touches tool t)) (rules.ask.any (·.touches tool t))
      (permits rules.allow tool t) := by
  rw [answerTo, evaluate, Content.content?_primary h, verdict_evaluateContent]

/-- The answer to a line of a block: no view is made of it, so single rules decide. -/
theorem verdict_line {t line : Text} (h : line ∈ Lines.view t) :
    (rules.answerTo tool line).verdict =
    Category.strictest (rules.deny.any (·.covers tool line)) (rules.ask.any (·.covers tool line))
      (rules.allow.any (·.covers tool line)) := by
  have hnone := Lines.split?_of_notMem (Lines.lineFeed_notMem h)
  have htouch : (fun r : Rule (Text → Bool) => r.touches tool line) = fun r =>
    r.covers tool line := by
    funext r
    simp [Rule.touches, hnone]
  rw [verdict_answerTo rules tool (Lines.ne_nil_of_mem_view h), htouch, permits, hnone]

/-- A rule touches a block if it covers the whole of it or one of its lines. -/
theorem any_touches_iff {rules : List (Rule (Text → Bool))} {tool t : Text} (h : 10 ∈ t) :
    rules.any (·.touches tool t) = true ↔
      (∃ r ∈ rules, r.covers tool t = true) ∨
        ∃ line ∈ Lines.view t, rules.any (·.covers tool line) = true := by
  simp only [Rule.touches, Lines.split?_of_mem h, Option.getD_some, List.any_eq_true,
    Bool.or_eq_true]
  constructor
  · rintro ⟨r, hr, hwhole | ⟨line, hline, hcov⟩⟩
    · exact Or.inl ⟨r, hr, hwhole⟩
    · exact Or.inr ⟨line, hline, r, hr, hcov⟩
  · rintro (⟨r, hr, hwhole⟩ | ⟨line, hline, r, hr, hcov⟩)
    · exact ⟨r, hr, Or.inl hwhole⟩
    · exact ⟨r, hr, Or.inr ⟨line, hline, hcov⟩⟩

/-- A block is allowed line by line. -/
theorem permits_iff {rules : List (Rule (Text → Bool))} {tool t : Text} (h : 10 ∈ t) :
    permits rules tool t = true ↔
      Lines.view t ≠ [] ∧ ∀ line ∈ Lines.view t, rules.any (·.covers tool line) = true := by
  rw [permits, Lines.split?_of_mem h]
  simp only [Bool.and_eq_true, Bool.not_eq_true', List.isEmpty_eq_false_iff, List.all_eq_true,
    ne_eq]

/-- What is denied for a whole block or for a line of it is denied. -/
theorem block_eq_deny_iff {t : Text} (h : 10 ∈ t) :
    (rules.answerTo tool t).verdict = some .deny ↔
      (∃ r ∈ rules.deny, r.covers tool t = true) ∨
        ∃ line ∈ Lines.view t, (rules.answerTo tool line).verdict = some .deny := by
  rw [verdict_answerTo rules tool (List.ne_nil_of_mem h), Category.strictest_eq_deny_iff,
    any_touches_iff h]
  refine or_congr_right (exists_congr fun line => and_congr_right fun hline => ?_)
  rw [verdict_line rules tool hline, Category.strictest_eq_deny_iff]

theorem block_eq_ask_iff {t : Text} (h : 10 ∈ t) :
    (rules.answerTo tool t).verdict = some .ask ↔
      (rules.answerTo tool t).verdict ≠ some .deny ∧
        ((∃ r ∈ rules.ask, r.covers tool t = true) ∨
          ∃ line ∈ Lines.view t, (rules.answerTo tool line).verdict = some .ask) := by
  have hdeny := block_eq_deny_iff rules tool h
  rw [verdict_answerTo rules tool (List.ne_nil_of_mem h), Category.strictest_eq_deny_iff] at hdeny
  rw [verdict_answerTo rules tool (List.ne_nil_of_mem h), Category.strictest_eq_ask_iff, ne_eq,
    Category.strictest_eq_deny_iff, Bool.not_eq_true, any_touches_iff h]
  refine and_congr_right fun hnot => or_congr_right
    (exists_congr fun line => and_congr_right fun hline => ?_)
  have hline' : rules.deny.any (·.covers tool line) = false := by
    rw [← Bool.not_eq_true, ← Category.strictest_eq_deny_iff, ← verdict_line rules tool hline]
    intro hd
    rw [hdeny.2 (Or.inr ⟨line, hline, hd⟩)] at hnot
    cases hnot
  rw [verdict_line rules tool hline, Category.strictest_eq_ask_iff, and_iff_right hline']

theorem block_eq_allow_iff {t : Text} (h : 10 ∈ t) :
    (rules.answerTo tool t).verdict = some .allow ↔
      Lines.view t ≠ [] ∧ (∀ r ∈ rules.deny ++ rules.ask, r.covers tool t = false) ∧
        ∀ line ∈ Lines.view t, (rules.answerTo tool line).verdict = some .allow := by
  have hline : ∀ line ∈ Lines.view t, (rules.answerTo tool line).verdict = some .allow ↔
      rules.deny.any (·.covers tool line) = false ∧ rules.ask.any (·.covers tool line) = false ∧
        rules.allow.any (·.covers tool line) = true := fun line hl => by
    rw [verdict_line rules tool hl, Category.strictest_eq_allow_iff]
  have huntouched : ∀ l : List (Rule (Text → Bool)), l.any (·.touches tool t) = false ↔
      (∀ r ∈ l, r.covers tool t = false) ∧
        ∀ line ∈ Lines.view t, l.any (·.covers tool line) = false := by
    intro l
    rw [← Bool.not_eq_true, any_touches_iff h]
    simp only [not_or, not_exists, not_and, Bool.not_eq_true]
  rw [verdict_answerTo rules tool (List.ne_nil_of_mem h), Category.strictest_eq_allow_iff,
    huntouched,
    huntouched, permits_iff h, List.forall_mem_append]
  constructor
  · rintro ⟨⟨hd, hdl⟩, ⟨ha, hal⟩, hne, hp⟩
    exact ⟨hne, ⟨hd, ha⟩, fun line hl => (hline line hl).2 ⟨hdl line hl, hal line hl, hp line hl⟩⟩
  · rintro ⟨hne, ⟨hd, ha⟩, hall⟩
    have hall' := fun line hl => (hline line hl).1 (hall line hl)
    exact ⟨⟨hd, fun line hl => (hall' line hl).1⟩, ⟨ha, fun line hl => (hall' line hl).2.1⟩, hne,
      fun line hl => (hall' line hl).2.2⟩

/-- No line of a block is answered more strictly than the block. -/
theorem looseness_block_le {t line : Text} (h : 10 ∈ t) (hline : line ∈ Lines.view t) :
    Decision.looseness (rules.answerTo tool t).verdict ≤
      Decision.looseness (rules.answerTo tool line).verdict := by
  have hdeny := fun hl => (block_eq_deny_iff rules tool h).2 (Or.inr ⟨line, hline, hl⟩)
  have hask := fun hd hl => (block_eq_ask_iff rules tool h).2 ⟨hd, Or.inr ⟨line, hline, hl⟩⟩
  have hallow := fun hb => ((block_eq_allow_iff rules tool h).1 hb).2.2 line hline
  revert hdeny hask hallow
  generalize (rules.answerTo tool t).verdict = block
  generalize (rules.answerTo tool line).verdict = single
  intro hdeny hask hallow
  cases block with
  | none =>
      cases single with
      | none => exact Nat.le_refl _
      | some c => cases c <;> simp_all [Decision.looseness]
  | some b =>
      cases b with
      | deny => exact Nat.zero_le _
      | ask =>
          cases single with
          | none => decide
          | some c => cases c <;> simp_all [Decision.looseness]
      | allow =>
          have hsame := hallow rfl
          subst hsame
          exact Nat.le_refl _

/-- **A block is answered as its lines are.**  With predicates for matchers, whatever the rules and
the lines are: the label of a block follows from the labels of its lines and from the rules that
match the block as a whole, and no line has a stricter answer than the block. -/
theorem label_block {t : Text} (h : 10 ∈ t) :
    ((rules.answerTo tool t).label = Category.deny.label ↔
      (∃ r ∈ rules.deny, Id.run (r.hits tool (some t)) = true) ∨
        ∃ line ∈ Lines.view t, (rules.answerTo tool line).label = Category.deny.label) ∧
    ((rules.answerTo tool t).label = Category.ask.label ↔
      (rules.answerTo tool t).label ≠ Category.deny.label ∧
        ((∃ r ∈ rules.ask, Id.run (r.hits tool (some t)) = true) ∨
          ∃ line ∈ Lines.view t, (rules.answerTo tool line).label = Category.ask.label)) ∧
    ((rules.answerTo tool t).label = Category.allow.label ↔
      Lines.view t ≠ [] ∧ (∀ r ∈ rules.deny ++ rules.ask, Id.run (r.hits tool (some t)) = false) ∧
        ∀ line ∈ Lines.view t, (rules.answerTo tool line).label = Category.allow.label) ∧
    ∀ line ∈ Lines.view t, Decision.looseness (rules.answerTo tool t).verdict ≤
      Decision.looseness (rules.answerTo tool line).verdict := by
  have hhits : ∀ r : Rule (Text → Bool), Id.run (r.hits tool (some t)) = r.covers tool t :=
    fun r => r.hits_eq_covers tool t
  simp only [Decision.label_eq_iff, hhits, ne_eq]
  exact ⟨block_eq_deny_iff rules tool h, block_eq_ask_iff rules tool h,
    block_eq_allow_iff rules tool h,
    fun line hline => looseness_block_le rules tool h hline⟩

/-- A command that a rule denies stays denied behind a command that a rule allows. -/
theorem label_block_smuggled :
    let rules : RuleSet (Text → Bool) :=
      { deny := [⟨(· == "Bash"), (· == "sudo"), none, "Bash(sudo)"⟩]
        allow := [⟨(· == "Bash"), (· == "ls"), none, "Bash(ls)"⟩] }
    10 ∈ ("ls\n sudo" : Text) ∧ (rules.answerTo "Bash" "ls").label = Category.allow.label ∧
      (rules.answerTo "Bash" "ls\n sudo").label = Category.deny.label := by
  intro rules
  have hfeed : 10 ∈ ("ls\n sudo" : Text) := by decide
  exact ⟨hfeed, by decide, (label_block rules "Bash" hfeed).1.2
    (Or.inr ⟨"sudo", by decide, by decide⟩)⟩

end RuleSet

end ToolPolicy
