import Mathlib.Data.List.Forall2
import ToolPolicy.Proofs.RuleLetters

/-!
# What the log says about entries that are left out

Preparing rules leaves out what is no rule, and says so. Its log is made of one block for each
entry, in the order in which the entries are parsed, and of one last record: a block warns of the
letters that are taken out, and if the entry is left out it says why, after a warning of its own for
a content that is screened out. So the log can be read backwards, from its warnings to the entries.

* `FailsBy`, `parse_failsBy`: the ways in which parsing an entry fails.
* `Reports`, `reports_block`: the block of an entry.
* `rules_log`: the log is the blocks in order, then the sizes of the rule set.
* `Accounts`, `leaves_none_out_silently`: what the warnings of the log tell about the entries.
-/

namespace ToolPolicy

open Regex (Pattern)

/-! ## Kinds of records -/

namespace LogRecord

/-- Whether a record warns that an entry is left out. -/
def isSkip (r : LogRecord) : Bool :=
  r.level == .warning && Text.startsWith r.text "Skipping invalid rule"

/-- A record that warns of a letter that is taken out. -/
def IsStripping (r : LogRecord) : Prop :=
  ∃ raw, ∃ letter ∈ ("gy" : Text), r = Flags.strippedWarning raw letter

theorem IsStripping.isSkip_eq {r : LogRecord} (h : r.IsStripping) : r.isSkip = false := by
  obtain ⟨raw, letter, -, rfl⟩ := h
  simp [isSkip, Flags.strippedWarning, Text.startsWith, List.isPrefixOf, Text.ofString]

theorem isSkip_nestedWarning (pattern : Text) :
    (PatternCache.nestedWarning pattern).isSkip = false := by
  simp [isSkip, PatternCache.nestedWarning, Text.startsWith, List.isPrefixOf, Text.ofString]

theorem isSkip_skippedWarning (e : PolicyError) (rule : Text) :
    (RuleEntry.skippedWarning e rule).isSkip = true := by
  simp [isSkip, RuleEntry.skippedWarning, Text.startsWith, List.isPrefixOf, Text.ofString]

theorem filter_isSkip_eq_nil {l : List LogRecord} (h : ∀ r ∈ l, r.isSkip = false) :
    l.filter isSkip = [] := by
  rw [List.filter_eq_nil_iff]
  intro r hr
  rw [h r hr]
  exact Bool.false_ne_true

theorem filter_isSkip_stripping {l : List LogRecord} (h : ∀ r ∈ l, r.IsStripping) :
    l.filter isSkip = [] :=
  filter_isSkip_eq_nil fun r hr => (h r hr).isSkip_eq

theorem IsStripping.ne_nestedWarning {r : LogRecord} (h : r.IsStripping) (pattern : Text) :
    r ≠ PatternCache.nestedWarning pattern := by
  obtain ⟨raw, letter, -, rfl⟩ := h
  simp [Flags.strippedWarning, PatternCache.nestedWarning, Text.ofString]

end LogRecord

theorem PatternCache.nestedWarning_inj {a b : Text} :
    PatternCache.nestedWarning a = PatternCache.nestedWarning b ↔ a = b := by
  simp [PatternCache.nestedWarning]

/-! ## One entry -/

namespace RuleEntry

/-- The ways in which parsing an entry fails: it cannot be read, it has no rule text, its text is
not written as a rule, or one of the two patterns is refused. -/
inductive FailsBy (category : Option Text) (entry : Entry) : RuleFailure → Prop where
  | reading {failure : RuleFailure} (read : ofEntry category entry = .error failure) :
    FailsBy category entry failure
  | empty {e : RuleEntry} (read : ofEntry category entry = .ok e) (text : e.text? = none) :
    FailsBy category entry ⟨.make (.empty [] category), none⟩
  | shape {e : RuleEntry} {raw : Text} (read : ofEntry category entry = .ok e)
    (text : e.text? = some raw) (parts : RuleText.split? raw = none) :
    FailsBy category entry ⟨.make (.shape raw category), none⟩
  | pattern {e : RuleEntry} {raw tool content : Text} {cause : PolicyError}
    (read : ofEntry category entry = .ok e) (text : e.text? = some raw)
    (parts : RuleText.split? raw = some (tool, content))
    (checks : FirstFailing tool content (Flags.strip e.letters) cause) :
    FailsBy category entry (patternFailure category raw cause)

theorem parse_failsBy {category : Option Text} {entry : Entry} {failure : RuleFailure}
    (h : (parse {} category entry).2.result = .ok (.error failure)) :
    FailsBy category entry failure := by
  rw [parse] at h
  cases hread : ofEntry category entry with
  | error reading =>
      rw [hread] at h
      cases h
      exact .reading hread
  | ok e =>
      rw [hread] at h
      simp only [parseRecord] at h
      cases htext : e.text? with
      | none =>
          rw [htext] at h
          cases h
          exact .empty hread htext
      | some raw =>
          rw [htext] at h
          simp only at h
          cases hparts : RuleText.split? raw with
          | none =>
              rw [parseText, hparts] at h
              cases h
              exact .shape hread htext hparts
          | some parts =>
              obtain ⟨tool, content⟩ := parts
              have hopen : 40 ∉ tool := (RuleText.compose_of_split? hparts).2.2.1
              rw [parseText_result hparts] at h
              rcases hc : compileAfresh tool content (Flags.strip e.letters) with
                (cause | f) | patterns
              · rw [hc] at h
                cases h
                exact .pattern hread htext hparts ((compileAfresh_eq_error_iff hopen).1 hc)
              · rw [hc] at h; cases h
              · rw [hc] at h; cases h

/-- The rule text that a value holds: that of its record, and if it cannot be read as one, the text
under the name of rules; empty if there is none. -/
def heldText (v : Value) : Text :=
  match ofEntry none (.value v) with
  | .ok e => e.rule.getD []
  | .error _ => (Lint.ruleText? v).getD []

/-- Whether a value is a rule but for its content, which has a repetition within a repetition. -/
def ScreenedOut (v : Value) (content : Text) : Prop :=
  ∃ e raw tool, ofEntry none (.value v) = .ok e ∧ e.text? = some raw ∧
    RuleText.split? raw = some (tool, content) ∧
      (∃ p, Pattern.compile (RuleText.anchor tool) {} = .ok p) ∧ Safety.HasNestedShape content

/-- A value that is screened out is read in one way only. -/
theorem ScreenedOut.of_read {category : Option Text} {v : Value} {content : Text} {e : RuleEntry}
    (h : ScreenedOut v content) (hread : ofEntry category (.value v) = .ok e) :
    ∃ raw tool, e.text? = some raw ∧ RuleText.split? raw = some (tool, content) ∧
      (∃ p, Pattern.compile (RuleText.anchor tool) {} = .ok p) ∧ Safety.HasNestedShape content := by
  obtain ⟨e', raw, tool, hread', hfacts⟩ := h
  cases hread.symm.trans (ofEntry_eq_ok_iff.1 hread')
  exact ⟨raw, tool, hfacts⟩

theorem ScreenedOut.unique {v : Value} {a b : Text} (ha : ScreenedOut v a)
    (hb : ScreenedOut v b) : a = b := by
  obtain ⟨e, raw, tool, hread, htext, hparts, -⟩ := ha
  obtain ⟨raw', tool', htext', hparts', -⟩ := hb.of_read hread
  cases htext.symm.trans htext'
  cases hparts.symm.trans hparts'
  rfl

theorem heldText_of_read {category : Option Text} {v : Value} {e : RuleEntry}
    (h : ofEntry category (.value v) = .ok e) : heldText v = e.rule.getD [] := by
  rw [heldText, ofEntry_eq_ok_iff.1 h]

theorem rule_of_text {e : RuleEntry} {raw : Text} (h : e.text? = some raw) :
    e.rule = some raw := (Option.filter_eq_some_iff.1 h).1

theorem rule_of_no_text {e : RuleEntry} (h : e.text? = none) : e.rule.getD [] = [] := by
  cases hrule : e.rule with
  | none => rfl
  | some raw => simpa [text?, hrule] using h

/-- An entry that cannot be read fails with the text under the name of rules. -/
theorem reading_failure {category : Option Text} {v : Value} {failure : RuleFailure}
    (h : ofEntry category (.value v) = .error failure) :
    ∃ message, failure = malformed category (heldText v) message := by
  have hunread : ∀ e, ofEntry none (.value v) ≠ .ok e := by
    intro e he
    rw [ofEntry_eq_ok_iff.1 he] at h
    cases h
  have htext : heldText v = (Lint.ruleText? v).getD [] := by
    rw [heldText]
    cases hnone : ofEntry none (.value v) with
    | ok e => exact absurd hnone (hunread e)
    | error _ => rfl
  rw [htext]
  cases v with
  | str t => cases h
  | mapping fields =>
      simp only [ofEntry] at h
      cases hfields : ofFields fields with
      | ok e => rw [hfields] at h; cases h
      | error problems =>
          rw [hfields] at h
          cases h
          exact ⟨_, rfl⟩
  | _ =>
      cases h
      exact ⟨_, rfl⟩

/-- The records about an entry that is left out: it is named, or its error where it has no text, and
the warning for the screen is in front of that. -/
theorem dropRecords_eq {category : Option Text} {v : Value} {failure : RuleFailure}
    (h : FailsBy category (.value v) failure) :
    (∃ content, ScreenedOut v content ∧ dropRecords failure =
      [PatternCache.nestedWarning content, skippedWarning failure.error (heldText v),
        ⟨.debug, failure.error.display⟩]) ∨
    (∀ content, ¬ScreenedOut v content) ∧ dropRecords failure =
      [skippedWarning failure.error (heldText v), ⟨.debug, failure.error.display⟩] := by
  cases h with
  | reading read =>
      obtain ⟨message, rfl⟩ := reading_failure read
      refine .inr ⟨?_, rfl⟩
      rintro content ⟨e, raw, tool, hread, -⟩
      rw [ofEntry_eq_ok_iff.1 hread] at read
      cases read
  | empty read text =>
      refine .inr ⟨fun content hscreened => ?_, by
        rw [heldText_of_read read, rule_of_no_text text]; rfl⟩
      obtain ⟨raw, tool, htext, -⟩ := hscreened.of_read read
      cases text.symm.trans htext
  | shape read text parts =>
      refine .inr ⟨fun content hscreened => ?_, by
        rw [heldText_of_read read, rule_of_text text]; rfl⟩
      obtain ⟨raw, tool, htext, hparts, -⟩ := hscreened.of_read read
      cases text.symm.trans htext
      cases parts.symm.trans hparts
  | @pattern e raw tool content cause read text parts checks =>
      have hheld : heldText v = raw := by
        rw [heldText_of_read read, rule_of_text text, Option.getD_some]
      -- a content that is screened out is this one, and its pattern for the tool compiles
      have hscreened : ∀ {other}, ScreenedOut v other → other = content ∧
          (∃ p, Pattern.compile (RuleText.anchor tool) {} = .ok p) ∧
            Safety.HasNestedShape content := by
        intro other hother
        obtain ⟨raw', tool', htext, hparts, htool, hshape⟩ := hother.of_read read
        cases text.symm.trans htext
        cases parts.symm.trans hparts
        exact ⟨rfl, htool, hshape⟩
      rw [hheld]
      cases checks with
      | tool compiles =>
          refine .inr ⟨fun other hother => ?_, rfl⟩
          obtain ⟨-, ⟨p, hp⟩, -⟩ := hscreened hother
          cases compiles.symm.trans hp
      | nested first shape =>
          exact .inl ⟨content, ⟨e, raw, tool, ofEntry_eq_ok_iff.1 read, text, parts, ⟨_, first⟩,
            shape⟩, rfl⟩
      | letter first safe meaning => exact .inr ⟨fun other h => safe (hscreened h).2.2, rfl⟩
      | content first safe meaning compiles =>
          exact .inr ⟨fun other h => safe (hscreened h).2.2, rfl⟩

/-- While it is parsed, an entry is only warned about for letters that are taken out. -/
theorem parse_log_stripping (category : Option Text) (entry : Entry) :
    ∀ r ∈ (parse {} category entry).2.log, r.IsStripping := by
  intro r hr
  rw [parse] at hr
  cases hread : ofEntry category entry with
  | error failure => rw [hread] at hr; cases hr
  | ok e =>
      rw [hread] at hr
      simp only [parseRecord] at hr
      cases htext : e.text? with
      | none => rw [htext] at hr; cases hr
      | some raw =>
          rw [htext] at hr
          simp only at hr
          cases hparts : RuleText.split? raw with
          | none => rw [parseText, hparts] at hr; cases hr
          | some parts =>
              rw [parseText_log hparts, Flags.statefulOf_eq] at hr
              obtain ⟨letter, hletter, rfl⟩ := List.mem_map.1 hr
              exact ⟨raw, letter, (List.mem_filter.1 hletter).1, rfl⟩

end RuleEntry

/-! ## Blocks of records -/

/-- An element of two lists in a row is one of the first or one of the second. -/
theorem append_eq_append_cons {α : Type} {l rest front back : List α} {r : α}
    (h : l ++ rest = front ++ r :: back) :
    (∃ more, l = front ++ r :: more ∧ back = more ++ rest) ∨
      ∃ more, front = l ++ more ∧ rest = more ++ r :: back := by
  rcases List.append_eq_append_iff.1 h with ⟨more, hfront, hrest⟩ | ⟨more, hl, hback⟩
  · exact .inr ⟨more, hfront, hrest⟩
  · cases more with
    | nil => exact .inr ⟨[], by rw [hl, List.append_nil, List.append_nil], hback.symm⟩
    | cons a more =>
        cases hback
        exact .inl ⟨more, hl, rfl⟩

theorem getLast?_append_ne {α : Type} {a b : List α} {r : α} (ha : a.getLast? ≠ some r)
    (hb : r ∉ b) : (a ++ b).getLast? ≠ some r := by
  rw [List.getLast?_append]
  cases hlast : b.getLast? with
  | none => exact ha
  | some x =>
      rintro ⟨⟩
      exact hb (List.mem_of_getLast? hlast)

/-- An element of blocks in a row, with something behind them that does not hold it, is in one of
the blocks. -/
theorem flatMap_append_eq_append_cons {α β : Type} {l : List α} {g : α → List β}
    {rest front back : List β} {r : β} (h : l.flatMap g ++ rest = front ++ r :: back)
    (hr : r ∉ rest) : ∃ first x last before after, l = first ++ x :: last ∧
      g x = before ++ r :: after ∧ front = first.flatMap g ++ before ∧
        back = after ++ (last.flatMap g ++ rest) := by
  induction l generalizing front with
  | nil =>
      rw [List.flatMap_nil, List.nil_append] at h
      rw [h] at hr
      exact absurd (by simp) hr
  | cons x l ih =>
      rw [List.flatMap_cons, List.append_assoc] at h
      rcases append_eq_append_cons h with ⟨after, hx, hback⟩ | ⟨more, hfront, hmore⟩
      · exact ⟨[], x, l, front, after, rfl, hx, rfl, hback⟩
      · obtain ⟨first, y, last, before, after, hl, hy, hbefore, hafter⟩ := ih hmore
        refine ⟨x :: first, y, last, before, after, by rw [hl]; rfl, hy, ?_, hafter⟩
        rw [hfront, hbefore, List.flatMap_cons, List.append_assoc]

namespace Permissions

/-- The records in front of the one that says that an entry is left out: one that names the content,
if this is screened out. -/
inductive Screens (v : Value) : List LogRecord → Prop where
  | out {content : Text} (h : RuleEntry.ScreenedOut v content) :
    Screens v [PatternCache.nestedWarning content]
  | free (h : ∀ content, ¬RuleEntry.ScreenedOut v content) : Screens v []

/-- A record that warns of an entry that fails: it names the rule text, or what the error says if
the entry has none. -/
def Skips (e : Category × Value) (r : LogRecord) : Prop :=
  ∃ failure, outcomeOf e.1 e.2 = .ok (.error failure) ∧
    r = RuleEntry.skippedWarning failure.error (RuleEntry.heldText e.2)

/-- The records about an entry. -/
inductive Reports (e : Category × Value) : List LogRecord → Prop where
  | kept {rule : Rule Pattern} {stripped : List LogRecord}
    (outcome : outcomeOf e.1 e.2 = .ok (.ok rule)) (letters : ∀ r ∈ stripped, r.IsStripping) :
    Reports e stripped
  | dropped {stripped screen : List LogRecord} {skip : LogRecord} {text : Text}
    (letters : ∀ r ∈ stripped, r.IsStripping) (front : Screens e.2 screen) (skips : Skips e skip) :
    Reports e (stripped ++ (screen ++ [skip, ⟨.debug, text⟩]))

/-- The records that are logged for an entry. -/
def block (e : Category × Value) : List LogRecord := (ruleOf e.1 e.2).log

theorem reports_block {e : Category × Value} (h : ∃ outcome, outcomeOf e.1 e.2 = .ok outcome) :
    Reports e (block e) := by
  obtain ⟨outcome, houtcome⟩ := h
  have hletters := RuleEntry.parse_log_stripping (some e.1.label) (.value e.2)
  rw [block, ruleOf, RuleEntry.parse?, Logged.log_bind_of_ok _ houtcome]
  cases outcome with
  | ok rule =>
      rw [show (RuleEntry.logFailure (.ok rule)).log = [] from rfl, List.append_nil]
      exact .kept houtcome hletters
  | error failure =>
      have hskips : Skips e _ := ⟨failure, houtcome, rfl⟩
      rw [show (RuleEntry.logFailure (.error failure)).log = RuleEntry.dropRecords failure from rfl]
      rcases RuleEntry.dropRecords_eq (RuleEntry.parse_failsBy houtcome) with
        ⟨content, hscreened, hrecords⟩ | ⟨hfree, hrecords⟩
      · rw [hrecords]
        exact .dropped hletters (.out hscreened) hskips
      · rw [hrecords]
        exact .dropped hletters (.free hfree) hskips

theorem Screens.isSkip_eq {v : Value} {screen : List LogRecord} (h : Screens v screen) :
    ∀ r ∈ screen, r.isSkip = false := by
  intro r hr
  cases h with
  | out hscreened =>
      rw [List.mem_singleton.1 hr]
      exact LogRecord.isSkip_nestedWarning _
  | free hfree => cases hr

theorem Skips.isSkip_eq {e : Category × Value} {r : LogRecord} (h : Skips e r) :
    r.isSkip = true := by
  obtain ⟨failure, -, rfl⟩ := h
  exact LogRecord.isSkip_skippedWarning _ _

/-- Whether parsing an entry gives no rule. -/
def isDropped (e : Category × Value) : Bool := (ruleOf? e.1 e.2).isNone

theorem isDropped_eq {e : Category × Value} {outcome : Except RuleFailure (Rule Pattern)}
    (h : outcomeOf e.1 e.2 = .ok outcome) : isDropped e = outcome.toOption.isNone := by
  rw [isDropped, ruleOf?_eq h]

theorem Skips.isDropped_eq {e : Category × Value} {r : LogRecord} (h : Skips e r) :
    isDropped e = true := by
  obtain ⟨failure, houtcome, -⟩ := h
  rw [Permissions.isDropped_eq houtcome]
  rfl

/-- A block warns of its entry being left out once if it is, and else not at all. -/
theorem Reports.skips {e : Category × Value} {records : List LogRecord} (h : Reports e records) :
    isDropped e = false ∧ records.filter LogRecord.isSkip = [] ∨
      ∃ r, isDropped e = true ∧ records.filter LogRecord.isSkip = [r] ∧ Skips e r := by
  cases h with
  | kept outcome letters =>
      exact .inl ⟨isDropped_eq outcome, LogRecord.filter_isSkip_stripping letters⟩
  | @dropped stripped screen skip text letters front hskips =>
      refine .inr ⟨skip, hskips.isDropped_eq, ?_, hskips⟩
      rw [List.filter_append, List.filter_append,
        LogRecord.filter_isSkip_stripping letters,
        LogRecord.filter_isSkip_eq_nil front.isSkip_eq, List.nil_append, List.nil_append,
        List.filter_cons_of_pos hskips.isSkip_eq]
      rfl

/-- Blocks in a row warn once of each entry that is left out, in order. -/
theorem skips_flatMap {entries : List (Category × Value)}
    (h : ∀ e ∈ entries, ∃ outcome, outcomeOf e.1 e.2 = .ok outcome) :
    List.Forall₂ Skips (entries.filter isDropped)
      ((entries.flatMap block).filter LogRecord.isSkip) := by
  induction entries with
  | nil => exact .nil
  | cons e rest ih =>
      obtain ⟨he, hrest⟩ := List.forall_mem_cons.1 h
      rw [List.flatMap_cons, List.filter_append]
      rcases (reports_block he).skips with ⟨hkept, hblock⟩ | ⟨r, hdropped, hblock, hskips⟩
      · rw [hblock, List.filter_cons_of_neg (by rw [hkept]; exact Bool.false_ne_true)]
        exact ih hrest
      · rw [hblock, List.filter_cons_of_pos hdropped]
        exact .cons hskips (ih hrest)

/-- No block ends with a record that names a content. -/
theorem Reports.getLast?_ne {e : Category × Value} {records : List LogRecord}
    (h : Reports e records) (pattern : Text) :
    records.getLast? ≠ some (PatternCache.nestedWarning pattern) := by
  intro hlast
  cases h with
  | kept outcome letters =>
      exact (letters _ (List.mem_of_getLast? hlast)).ne_nestedWarning pattern rfl
  | dropped letters front hskips =>
      rw [← List.append_assoc, List.getLast?_append] at hlast
      cases hlast

theorem getLast?_flatMap_block_ne {entries : List (Category × Value)}
    (h : ∀ e ∈ entries, ∃ outcome, outcomeOf e.1 e.2 = .ok outcome) (pattern : Text) :
    (entries.flatMap block).getLast? ≠ some (PatternCache.nestedWarning pattern) := by
  intro hlast
  rw [List.getLast?_flatMap] at hlast
  obtain ⟨e, he, hblock⟩ := List.exists_of_findSome?_eq_some hlast
  exact (reports_block (h e (List.mem_reverse.1 he))).getLast?_ne pattern hblock

/-- Behind what does not end with the name of a content, the records in front of a warning end with
one exactly if it is screened out. -/
theorem Screens.getLast?_append {v : Value} {screen earlier : List LogRecord} (h : Screens v screen)
    {pattern : Text} (hearlier : earlier.getLast? ≠ some (PatternCache.nestedWarning pattern)) :
    (earlier ++ screen).getLast? = some (PatternCache.nestedWarning pattern) ↔
      RuleEntry.ScreenedOut v pattern := by
  cases h with
  | @out content hscreened =>
      rw [List.getLast?_concat, Option.some.injEq, PatternCache.nestedWarning_inj]
      exact ⟨fun heq => heq ▸ hscreened, hscreened.unique⟩
  | free hfree =>
      rw [List.append_nil]
      exact ⟨fun heq => absurd heq hearlier, fun hscreened => absurd hscreened (hfree pattern)⟩

/-- In front of the warning that an entry is left out, its block has no other, and ends with the
name of a content exactly if this is screened out. -/
theorem Reports.at_skip {e : Category × Value} {front back : List LogRecord} {r : LogRecord}
    (h : Reports e (front ++ r :: back)) (hr : r.isSkip = true) :
    Skips e r ∧ front.filter LogRecord.isSkip = [] ∧
      ∀ earlier : List LogRecord, ∀ pattern,
        earlier.getLast? ≠ some (PatternCache.nestedWarning pattern) →
          ((earlier ++ front).getLast? = some (PatternCache.nestedWarning pattern) ↔
            RuleEntry.ScreenedOut e.2 pattern) := by
  have hletter : ¬r.IsStripping := fun hs => by rw [hs.isSkip_eq] at hr; cases hr
  generalize hrecords : front ++ r :: back = records at h
  cases h with
  | kept outcome letters =>
      exact absurd (letters r (by rw [← hrecords]; simp)) hletter
  | @dropped stripped screen skip text letters hfront hskips =>
      rcases append_eq_append_cons hrecords.symm with ⟨more, hstripped, -⟩ | ⟨more, rfl, hrest⟩
      · exact absurd (letters r (by rw [hstripped]; simp)) hletter
      rcases append_eq_append_cons hrest with ⟨more', hscreen, -⟩ | ⟨more', rfl, hlast⟩
      · rw [hfront.isSkip_eq r (by rw [hscreen]; simp)] at hr
        cases hr
      -- the last record of the block is for those who look into details
      cases more' with
      | cons a more' =>
          have hmem : r ∈ [⟨.debug, text⟩] := by rw [(List.cons.inj hlast).2]; simp
          rw [List.mem_singleton.1 hmem] at hr
          cases hr
      | nil =>
          obtain rfl : skip = r := (List.cons.inj hlast).1
          rw [List.append_nil]
          refine ⟨hskips, ?_, fun earlier pattern hearlier => ?_⟩
          · rw [List.filter_append, LogRecord.filter_isSkip_eq_nil hfront.isSkip_eq,
              LogRecord.filter_isSkip_stripping letters, List.append_nil]
          · rw [← List.append_assoc]
            exact hfront.getLast?_append (getLast?_append_ne hearlier fun hmem =>
              (letters _ hmem).ne_nestedWarning pattern rfl)

/-- Any other warning of a block is about a letter that is taken out, or directly in front of the
warning that the entry is left out. -/
theorem Reports.at_warning {e : Category × Value} {front back : List LogRecord} {r : LogRecord}
    (h : Reports e (front ++ r :: back)) (hlevel : r.level = .warning) (hr : r.isSkip = false) :
    r.IsStripping ∨ ∃ pattern, r = PatternCache.nestedWarning pattern ∧
      ∃ skip more, back = skip :: more ∧ skip.isSkip = true := by
  generalize hrecords : front ++ r :: back = records at h
  cases h with
  | kept outcome letters => exact .inl (letters r (by rw [← hrecords]; simp))
  | @dropped stripped screen skip text letters hfront hskips =>
      rcases append_eq_append_cons hrecords.symm with ⟨more, hstripped, -⟩ | ⟨more, -, hrest⟩
      · exact .inl (letters r (by rw [hstripped]; simp))
      rcases append_eq_append_cons hrest with ⟨more', hscreen, hback⟩ | ⟨more', -, hlast⟩
      · right
        cases hfront with
        | @out content hscreened =>
            cases more with
            | nil =>
                cases hscreen
                exact ⟨content, rfl, skip, [⟨.debug, text⟩], hback, hskips.isSkip_eq⟩
            | cons a more => simp at hscreen
        | free hfree => simp at hscreen
      · have hmem : r ∈ [skip, ⟨.debug, text⟩] := by rw [hlast]; simp
        rcases List.mem_cons.1 hmem with rfl | hmem
        · rw [hskips.isSkip_eq] at hr
          cases hr
        · rw [List.mem_singleton.1 hmem] at hlevel
          cases hlevel

/-! ## The log of preparing -/

/-- All entries with their categories, in the order in which they are parsed. -/
def inOrder (p : Permissions) : List (Category × Value) :=
  Category.all.flatMap fun c => (p.entries c).map (c, ·)

/-- The entries that are left out, in order. -/
def dropped (p : Permissions) : List (Category × Value) := p.inOrder.filter isDropped

theorem mem_inOrder {p : Permissions} {e : Category × Value} :
    e ∈ p.inOrder ↔ e.2 ∈ p.entries e.1 := by
  obtain ⟨c, v⟩ := e
  simp only [inOrder, List.mem_flatMap, List.mem_map, Prod.mk.injEq]
  constructor
  · rintro ⟨c', -, v', hv, rfl, rfl⟩
    exact hv
  · exact fun hv => ⟨c, Category.mem_all c, v, hv, rfl, rfl⟩

theorem rulesOf_log {c : Category} {entries : List Value}
    (h : ∀ v ∈ entries, ∃ outcome, outcomeOf c v = .ok outcome) :
    (rulesOf c entries).log = (entries.map (c, ·)).flatMap block := by
  induction entries with
  | nil => rfl
  | cons v rest ih =>
      obtain ⟨⟨outcome, hv⟩, hrest⟩ := List.forall_mem_cons.1 h
      have hfirst : (ruleOf c v).result = .ok outcome.toOption := by
        rw [ruleOf_result, hv]
        rfl
      rw [rulesOf, Logged.log_bind_of_ok _ hfirst,
        Logged.log_bind_of_ok _ (rulesOf_result_eq hrest), ih hrest, Logged.log_pure,
        List.append_nil]
      rfl

/-- The log of preparing is the blocks of the entries in order, then the sizes of the rule set. -/
theorem rules_log {p : Permissions} (h : p.Parses) {rules : RuleSet Pattern}
    (hrules : p.rules.result = .ok rules) :
    p.rules.log = p.inOrder.flatMap block ++ [loadedRecord rules] := by
  obtain ⟨hdeny, hask, hallow⟩ := rules_result_eq_ok_iff.1 hrules
  have hdenyLog : (rulesOf .deny p.deny).log = _ := rulesOf_log (h .deny)
  have haskLog : (rulesOf .ask p.ask).log = _ := rulesOf_log (h .ask)
  have hallowLog : (rulesOf .allow p.allow).log = _ := rulesOf_log (h .allow)
  have hall : p.inOrder.flatMap block = (p.deny.map (Category.deny, ·)).flatMap block ++
      ((p.ask.map (Category.ask, ·)).flatMap block ++
        (p.allow.map (Category.allow, ·)).flatMap block) := by
    simp [inOrder, Category.all, entries, List.flatMap_append]
  rw [Permissions.rules, prepare_snd PatternCache.sound_empty, Logged.log_bind_of_ok _ hdeny,
    Logged.log_bind_of_ok _ hask, Logged.log_bind_of_ok _ hallow, hdenyLog, haskLog, hallowLog,
    hall, List.append_assoc, List.append_assoc]
  rfl

/-- Of a category, each entry is left out or gives a rule. -/
theorem length_dropped_entries (c : Category) (entries : List Value) :
    ((entries.map (c, ·)).filter isDropped).length + (entries.filterMap (ruleOf? c)).length =
      entries.length := by
  induction entries with
  | nil => rfl
  | cons v rest ih =>
      rw [List.map_cons, List.filterMap_cons, List.filter_cons, isDropped]
      cases ruleOf? c v <;> simp <;> omega

theorem length_dropped_add_size {p : Permissions} {rules : RuleSet Pattern}
    (hrules : p.rules.result = .ok rules) : p.dropped.length + rules.size = p.total := by
  have hdeny := length_dropped_entries .deny p.deny
  have hask := length_dropped_entries .ask p.ask
  have hallow := length_dropped_entries .allow p.allow
  have hsize : rules.size = (p.deny.filterMap (ruleOf? .deny)).length +
      (p.ask.filterMap (ruleOf? .ask)).length + (p.allow.filterMap (ruleOf? .allow)).length := by
    rw [RuleSet.size, ← show _ = p.deny.filterMap (ruleOf? .deny) from rules_listed hrules .deny,
      ← show _ = p.ask.filterMap (ruleOf? .ask) from rules_listed hrules .ask,
      ← show _ = p.allow.filterMap (ruleOf? .allow) from rules_listed hrules .allow]
    rfl
  have hdropped : p.dropped.length = ((p.deny.map (Category.deny, ·)).filter isDropped).length +
      ((p.ask.map (Category.ask, ·)).filter isDropped).length +
        ((p.allow.map (Category.allow, ·)).filter isDropped).length := by
    simp [dropped, inOrder, Category.all, entries]
    omega
  rw [total]
  omega

/-- What a log says about entries that are left out. -/
structure Accounts (p : Permissions) (rules : RuleSet Pattern) (log : List LogRecord) : Prop where
  /-- Each entry that is left out has one warning that says so, in order. -/
  skips : List.Forall₂ Skips p.dropped (log.filter LogRecord.isSkip)
  /-- A content is named directly in front of the warning of its entry, if it is screened out. -/
  screens : ∀ before r after, log = before ++ r :: after → r.isSkip = true →
    ∃ e, p.dropped[(before.filter LogRecord.isSkip).length]? = some e ∧ Skips e r ∧
      ∀ pattern, before.getLast? = some (PatternCache.nestedWarning pattern) ↔
        RuleEntry.ScreenedOut e.2 pattern
  /-- All other warnings are about letters that are taken out. -/
  others : ∀ before r after, log = before ++ r :: after → r.level = .warning → r.isSkip = false →
    r.IsStripping ∨ ∃ pattern, r = PatternCache.nestedWarning pattern ∧
      ∃ skip more, after = skip :: more ∧ skip.isSkip = true
  /-- The last record tells the sizes of the rule set. -/
  loaded : log.getLast? = some (loadedRecord rules)
  /-- Entries without a rule are as many as the warnings. -/
  count : (log.filter LogRecord.isSkip).length + rules.size = p.total

theorem loadedRecord_isSkip (rules : RuleSet Pattern) : (loadedRecord rules).isSkip = false := rfl

theorem filter_isSkip_loaded (records : List LogRecord) (rules : RuleSet Pattern) :
    (records ++ [loadedRecord rules]).filter LogRecord.isSkip =
      records.filter LogRecord.isSkip := by
  rw [List.filter_append, LogRecord.filter_isSkip_eq_nil (l := [loadedRecord rules])
    fun r hr => by rw [List.mem_singleton.1 hr, loadedRecord_isSkip], List.append_nil]

/-- A record of the log but the last is in the block of an entry. -/
theorem exists_block {p : Permissions} (h : p.Parses) {rules : RuleSet Pattern}
    (hrules : p.rules.result = .ok rules) {before after : List LogRecord} {r : LogRecord}
    (hlog : p.rules.log = before ++ r :: after) (hr : r ≠ loadedRecord rules) :
    ∃ first e last front back, p.inOrder = first ++ e :: last ∧ Reports e (front ++ r :: back) ∧
      before = first.flatMap block ++ front ∧
        after = back ++ (last.flatMap block ++ [loadedRecord rules]) := by
  rw [rules_log h hrules] at hlog
  obtain ⟨first, e, last, front, back, hsplit, hblock, hbefore, hafter⟩ :=
    flatMap_append_eq_append_cons hlog fun hmem => hr (List.mem_singleton.1 hmem)
  have hmem : e ∈ p.inOrder := by rw [hsplit]; simp
  have hreports : Reports e (front ++ r :: back) :=
    hblock ▸ reports_block (h e.1 e.2 (mem_inOrder.1 hmem))
  exact ⟨first, e, last, front, back, hsplit, hreports, hbefore, hafter⟩

theorem accounts_rules {p : Permissions} (h : p.Parses) {rules : RuleSet Pattern}
    (hrules : p.rules.result = .ok rules) : p.Accounts rules p.rules.log := by
  have houtcome : ∀ e ∈ p.inOrder, ∃ outcome, outcomeOf e.1 e.2 = .ok outcome :=
    fun e he => h e.1 e.2 (mem_inOrder.1 he)
  have hskips : List.Forall₂ Skips p.dropped (p.rules.log.filter LogRecord.isSkip) := by
    rw [rules_log h hrules, filter_isSkip_loaded]
    exact skips_flatMap houtcome
  refine ⟨hskips, fun before r after hlog hr => ?_, fun before r after hlog hlevel hr => ?_,
    by rw [rules_log h hrules, List.getLast?_concat], ?_⟩
  · have hloaded : r ≠ loadedRecord rules := by
      rintro rfl
      rw [loadedRecord_isSkip] at hr
      cases hr
    obtain ⟨first, e, last, front, back, hsplit, hreports, rfl, -⟩ :=
      exists_block h hrules hlog hloaded
    have hfirst : ∀ e ∈ first, ∃ outcome, outcomeOf e.1 e.2 = .ok outcome :=
      fun e he => houtcome e (by rw [hsplit]; simp [he])
    obtain ⟨hskip, hfront, hscreen⟩ := hreports.at_skip hr
    refine ⟨e, ?_, hskip, fun pattern =>
      hscreen _ pattern (getLast?_flatMap_block_ne hfirst pattern)⟩
    -- the warnings in front of this one are those of the entries in front of this one
    rw [List.filter_append, hfront, List.append_nil, ← (skips_flatMap hfirst).length_eq, dropped,
      hsplit, List.filter_append, List.filter_cons_of_pos hskip.isDropped_eq,
      List.getElem?_append_right (Nat.le_refl _), Nat.sub_self]
    rfl
  · have hloaded : r ≠ loadedRecord rules := by
      rintro rfl
      cases hlevel
    obtain ⟨first, e, last, front, back, -, hreports, -, rfl⟩ :=
      exists_block h hrules hlog hloaded
    rcases hreports.at_warning hlevel hr with hletter | ⟨pattern, rfl, skip, more, rfl, hskip⟩
    · exact .inl hletter
    · exact .inr ⟨pattern, rfl, skip, _, rfl, hskip⟩
  · rw [← hskips.length_eq]
    exact length_dropped_add_size hrules

/-- **No entry is left out silently.**  Permissions whose entries all parse or fail in a regular way
have a rule set, whatever history the cache has. The log warns of each entry that is left out, once
and in the order of parsing, by its rule text or, if it has none, by what its error says; directly
in front of that it names the content exactly if the entry is left out because its content is
screened out; all other warnings are about letters that are taken out, and the last record tells the
sizes. So the entries and the rules differ by as many as there are such warnings. -/
theorem leaves_none_out_silently (steps : List CacheStep) {p : Permissions} (h : p.Parses) :
    ∃ rules, (p.prepare (PatternCache.after steps)).2.result = .ok rules ∧
      (∀ c, rules.listed c = (p.entries c).filterMap (ruleOf? c)) ∧
        p.Accounts rules (p.prepare (PatternCache.after steps)).2.log := by
  obtain ⟨rules, hrules⟩ := parses_iff.1 h
  rw [prepare_after]
  exact ⟨rules, hrules, rules_listed hrules, accounts_rules h hrules⟩

/-- A number, a content that is screened out, and a rule with a letter that is taken out: two of
three entries are left out, and the warnings say which and why. -/
theorem leaves_none_out_silently_mixed :
    let p : Permissions :=
      { deny := [.int 7, .str "Bash((a+)+)"],
        allow := [.mapping [(.str "rule", .str "Bash(rm)"), (.str "flags", .str "gi")]] }
    let prepared := (p.prepare (PatternCache.after [.compile "rm" "i"])).2
    p.Parses ∧ (∃ rules, prepared.result = .ok rules ∧ rules.size = 1) ∧
      (prepared.log.filter (·.level == .warning)).map (·.text) =
        (["Skipping invalid rule: Rule entry must be a string or an object, got int",
          "Skipping unsafe regex (possible ReDoS): (a+)+", "Skipping invalid rule: Bash((a+)+)",
          "Stripping \"g\" flag from rule (causes stateful matching): Bash(rm)"] : List Text) := by
  intro p prepared
  have hp : p.Parses := parses_of_isOk (by decide +kernel)
  obtain ⟨rules, hrules, -, haccounts⟩ := leaves_none_out_silently [.compile "rm" "i"] hp
  refine ⟨hp, ⟨rules, hrules, ?_⟩, by decide +kernel⟩
  have hdropped : p.dropped.length = 2 := by decide +kernel
  have htotal : p.total = 3 := rfl
  have hcount := haccounts.count
  rw [← haccounts.skips.length_eq] at hcount
  omega

end Permissions

end ToolPolicy
