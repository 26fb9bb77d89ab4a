import ToolPolicy.Proofs.MatchingOptions
import ToolPolicy.Proofs.NameReading
import ToolPolicy.Proofs.RuleShape

/-!
# Plain tool names

A rule whose tool pattern is a choice between plain names is about the tools with these names, and
about no others: not about a name that only begins with one of them, nor one in other letters of the
alphabet's two cases, nor one with a line feed behind it.

* `passes_names`: the pattern of a choice between names leads through a name as a whole.
* `isFoundIn_names`: the choice is found in the names, and in nothing else.
* `matches_plain_names`: rules about plain names are accepted, and are about these names.
* `name_without_content_refused`: a content that is empty compiles, but there is no rule with it.
-/

namespace ToolPolicy.Regex

/-! ## Names -/

section
variable {p : Pattern} {t : Text} {i j : Nat}

/-- The letters of a name lead over that name. -/
theorem passes_spelled (hcase : p.flags.ignoreCase = false) (word : Text) :
    p.Passes t (ofItems (spelled word)) i j ↔
      t.drop i = word ++ t.drop j ∧ j = i + word.length := by
  induction word generalizing i with
  | nil =>
      simp only [spelled, List.map_nil, ofItems, Pattern.Passes, leads_empty]
      constructor
      · rintro rfl
        exact ⟨rfl, rfl⟩
      · exact fun h => h.2
  | cons c word ih =>
      simp only [spelled, List.map_cons] at ih ⊢
      simp only [leads_ofItems_cons, ih, Pattern.passes_one_iff, CharTest.holds_literal hcase]
      constructor
      · rintro ⟨m, ⟨_, rfl, hdrop, rfl⟩, hrest, rfl⟩
        rw [hdrop, hrest, List.length_cons]
        exact ⟨rfl, by omega⟩
      · rintro ⟨hdrop, rfl⟩
        have hrest := Pattern.drop_cons hdrop
        refine ⟨i + 1, ⟨c, rfl, by rw [hrest]; exact hdrop, rfl⟩, hrest, ?_⟩
        rw [List.length_cons]
        omega

/-- The pattern of a choice between names leads through a text that is one of them. -/
theorem passes_names {names : List Text} (hne : names ≠ []) :
    (namesPattern names).Passes t (namesPattern names).tree i j ↔
      i = 0 ∧ j = t.length ∧ t ∈ names := by
  have hbody : ∀ m n, (namesPattern names).Passes t (ofItems (namesBody names).items) m n ↔
      ∃ name ∈ names, t.drop m = name ++ t.drop n ∧ n = m + name.length := by
    intro m n
    rw [Pattern.Passes, leads_items, namesBody, leads_partsOfAlternatives rfl (by simpa using hne)]
    simp only [List.mem_map, exists_exists_and_eq_and]
    exact exists_congr fun name => and_congr_right fun _ => passes_spelled rfl name
  constructor
  · intro h
    obtain ⟨n, hfront, hend⟩ := leads_ofItems_append.1 h
    obtain ⟨m, hstart, hnames⟩ := leads_ofItems_cons.1 hfront
    obtain ⟨rfl, rfl⟩ := Pattern.passes_textStart.1 hstart
    obtain ⟨rfl, rfl⟩ := Pattern.passes_textEnd.1 hend
    obtain ⟨name, hname, hdrop, -⟩ := (hbody 0 t.length).1 hnames
    rw [List.drop_zero, List.drop_length, List.append_nil] at hdrop
    exact ⟨rfl, rfl, hdrop ▸ hname⟩
  · rintro ⟨rfl, rfl, ht⟩
    refine leads_ofItems_append.2 ⟨t.length, ?_, Pattern.passes_textEnd.2 ⟨rfl, rfl⟩⟩
    refine leads_ofItems_cons.2 ⟨0, Pattern.passes_textStart.2 ⟨rfl, rfl⟩, ?_⟩
    exact (hbody 0 t.length).2 ⟨t, ht, by simp, by simp⟩

/-- A choice between names is found in the names, and in no other text. -/
theorem isFoundIn_names {names : List Text} (hne : names ≠ []) (t : Text) :
    (namesPattern names).isFoundIn t = .ok (decide (t ∈ names)) := by
  obtain ⟨found, hfound, hiff⟩ := Pattern.isFoundIn_iff_passes (t := t)
    (isStraight_namesPattern names) (.inl (startTest?_ofItems_anchor ..))
  have hnames : (∃ i ≤ t.length, ∃ j, (namesPattern names).Passes t (namesPattern names).tree i j) ↔
      t ∈ names := by
    simp only [passes_names hne]
    constructor
    · rintro ⟨i, -, j, -, -, ht⟩
      exact ht
    · exact fun ht => ⟨0, Nat.zero_le _, t.length, rfl, rfl, ht⟩
  rw [hfound, Bool.eq_iff_iff.2 ((hiff.trans hnames).trans decide_eq_true_iff.symm)]

end

end ToolPolicy.Regex

namespace ToolPolicy

open Regex (Pattern IsWord namesPattern)

/-! ## Options of letters -/

namespace Flags

/-- Letters only stand for options for matching. -/
theorem matching_of_meaning {c : CodePoint} {o : Regex.Flags} (h : meaning c = .option o) :
    ({} : Regex.Flags).matching o = o := by
  unfold meaning at h
  split at h
  · cases h
    rfl
  split at h
  · cases h
    rfl
  split at h
  · cases h
    rfl
  split at h
  · cases h
  · cases h

theorem matching_of_optionsFrom {flags o : Regex.Flags} {letters : Text}
    (hflags : ({} : Regex.Flags).matching flags = flags) (h : optionsFrom flags letters = .ok o) :
    ({} : Regex.Flags).matching o = o := by
  induction letters generalizing flags with
  | nil =>
      cases h
      exact hflags
  | cons c rest ih =>
      rw [optionsFrom] at h
      cases hc : meaning c with
      | option more =>
          rw [hc] at h
          refine ih ?_ h
          rw [← hflags, ← matching_of_meaning hc]
          rfl
      | nothing =>
          rw [hc] at h
          exact ih hflags h
      | unsupported =>
          rw [hc] at h
          cases h

/-- Whether a pattern compiles is the same for all letters that have a meaning. -/
theorem compile_isOk_iff {letters : Text} {o : Regex.Flags} (h : options letters = .ok o)
    (source : Text) :
    (∃ p, Pattern.compile source o = .ok p) ↔ ∃ p, Pattern.compile source {} = .ok p := by
  rw [← matching_of_optionsFrom rfl h]
  exact Pattern.compile_isOk_matching source {}

end Flags

/-! ## Rules -/

namespace RuleText

theorem join_bar (name : Text) (names : List Text) :
    Text.join "|" (name :: names) = name ++ names.flatMap (124 :: ·) :=
  Regex.join_cons name names

theorem mem_join {names : List Text} (hnames : ∀ name ∈ names, IsWord name) {c : CodePoint}
    (h : c ∈ Text.join "|" names) : c = 124 ∨ CodePoint.isAsciiWord c = true := by
  cases names with
  | nil => cases h
  | cons name names =>
      rw [join_bar, List.mem_append, List.mem_flatMap] at h
      rcases h with h | ⟨other, hother, h⟩
      · exact .inr (hnames name (List.mem_cons_self ..) c h)
      · rcases List.mem_cons.1 h with rfl | h
        · exact .inl rfl
        · exact .inr (hnames other (List.mem_cons_of_mem name hother) c h)

/-- A choice between plain names, with a content in parentheses, is written as a rule. -/
theorem written_names {names : List Text} (hnames : names ≠ [])
    (hwords : ∀ name ∈ names, name ≠ [] ∧ IsWord name) {content : Text} (hfilled : content ≠ []) :
    Written (Text.join "|" names ++ "(" ++ content ++ ")") (Text.join "|" names) content := by
  refine ⟨rfl, ?_, fun hopen => ?_, hfilled⟩
  · obtain ⟨name, names, rfl⟩ := List.exists_cons_of_ne_nil hnames
    rw [join_bar]
    exact List.append_ne_nil_of_left_ne_nil (hwords name (List.mem_cons_self ..)).1 _
  · rcases mem_join (fun name h => (hwords name h).2) hopen with h | h
    · cases h
    · cases h

end RuleText

namespace RuleEntry

/-- **Plain names are matched exactly.**  After any history of requests, a rule is accepted if it is
about a choice between plain names and its content is not empty and compiles, under whichever
letters, as long as its own letters are all accepted.  It is about the tools of these names and
about no others. -/
theorem matches_plain_names (steps : List CacheStep) (category : Option Text) {entry : Entry}
    {e : RuleEntry} (hread : ofEntry category entry = .ok e) {names : List Text} {content : Text}
    (htext : e.rule = some (Text.join "|" names ++ "(" ++ content ++ ")")) (hnames : names ≠ [])
    (hwords : ∀ name ∈ names, name ≠ [] ∧ ∀ c ∈ name, CodePoint.isAsciiWord c = true)
    (hfilled : content ≠ []) (hcontent : ∃ letters q, compilePattern content letters = .ok q)
    (hletters : ∀ c ∈ e.flags.getD [], Flags.isStateful c = true ∨ Flags.isSupported c = true) :
    ∃ rule, (parse (PatternCache.after steps) category entry).2.result = .ok (.ok rule) ∧
      rule.raw = Text.join "|" names ++ "(" ++ content ++ ")" ∧
        ∀ n, rule.matchesTool n = .ok (decide (n ∈ names)) := by
  have hparts :=
    RuleText.split?_eq_some_iff_written.2 (RuleText.written_names hnames hwords hfilled)
  have hsupported : ∀ c ∈ Flags.strip (e.flags.getD []), Flags.isSupported c = true := by
    intro c hc
    obtain ⟨hc, hkept⟩ := Flags.mem_strip.1 hc
    exact (hletters c hc).resolve_left (by simp [hkept])
  obtain ⟨options, hoptions⟩ := (Flags.options_isOk_iff _).2 hsupported
  -- the content compiles under the letters of the rule as well
  obtain ⟨letters, q, hcontent⟩ := hcontent
  obtain ⟨hsafe, under, hunder, hq⟩ := compilePattern_eq_ok_iff.1 hcontent
  obtain ⟨compiled, hcompiled⟩ := (Flags.compile_isOk_iff hoptions content).2
    ((Flags.compile_isOk_iff hunder content).1 ⟨q, hq⟩)
  have hgives :
      Gives category entry ⟨namesPattern names, compiled, e.reason, _⟩ e _ content options :=
    { record := hread
      text := by
        rw [text?, htext, Option.filter_eq_some_iff]
        exact ⟨rfl, by simp [Text.ofString]⟩
      reason := rfl
      parts := hparts
      toolPattern := Regex.compile_names hnames fun name h => (hwords name h).2
      letters := hoptions
      contentPattern := hcompiled }
  refine ⟨⟨namesPattern names, compiled, e.reason, _⟩, ?_, rfl, Regex.isFoundIn_names hnames⟩
  rw [((PatternCache.sound_after steps).parse category entry).2]
  exact hgives.parse hsafe

/-- Two names of which one is a prefix of the other, with letters of both kinds. -/
theorem matches_plain_names_prefix : ∃ rule : Rule Pattern,
    (parse (PatternCache.after []) (some "deny") (.value (.object
      [("rule", .str "Bash|BashOutput(rm)"), ("flags", .str "ig")]))).2.result = .ok (.ok rule) ∧
      rule.raw = ("Bash|BashOutput(rm)" : Text) ∧
        ∀ n, rule.matchesTool n = .ok (decide (n ∈ (["Bash", "BashOutput"] : List Text))) := by
  have hcontent : ∃ q, compilePattern "rm" [] = .ok q := exists_ok_of_isOk (by decide +kernel)
  have htext : (⟨some "Bash|BashOutput(rm)", none, some "ig"⟩ : RuleEntry).rule =
      some (Text.join "|" ["Bash", "BashOutput"] ++ "(" ++ "rm" ++ ")") := by
    decide
  exact matches_plain_names [] (some "deny") rfl htext (by decide) (by decide) (by decide)
    ⟨[], hcontent⟩ (by decide)

/-- A content that is empty compiles, but a name with nothing in its parentheses is no rule. -/
theorem name_without_content_refused : (∃ q, compilePattern [] [] = .ok q) ∧
    ∀ steps category rule, (parse (PatternCache.after steps) category
      (.value (.str "Bash()"))).2.result ≠ .ok (.ok rule) := by
  refine ⟨exists_ok_of_isOk (by decide +kernel), fun steps category rule h => ?_⟩
  rw [((PatternCache.sound_after steps).parse category _).2] at h
  obtain ⟨e, tool, content, options, hgives, -⟩ := gives_of_parse h
  have hrecord := hgives.record
  cases hrecord
  have htext := hgives.text
  have hparts := hgives.parts
  rw [← Option.some.inj htext] at hparts
  cases hparts

end RuleEntry

end ToolPolicy
