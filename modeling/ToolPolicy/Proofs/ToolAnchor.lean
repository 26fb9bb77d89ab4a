import ToolPolicy.Proofs.Preparation
import ToolPolicy.Proofs.ToolSequences

/-!
# Matching whole tool names

The pattern for the tool of a rule is wrapped so that it should match whole names only. It does
where everything it is read to stands between the two ends of the wrapping, as one alternative. A
pattern that closes the group of the wrapping itself, and whose last backslash keeps the wrapping
from closing it, stands there as several alternatives with one end each.

* `Pattern.Enclosed`: the patterns that wrapped texts are read to.
* `matchAt_textStart`, `matchAt_textEnd`: what the ends of the wrapping do to the alternatives they
  stand in.
* `parse_enclosed`: the rules that are accepted have such patterns for their tools.
* `matchesWholeNames_iff`: which of them match whole names only.
-/

namespace ToolPolicy.Regex

open Reading

/-! ## Ends of alternatives -/

section
variable {subject : Subject} {flags : Flags} {repeated : Bool} {next : Option CodePoint}

/-- Parts that end with the end of the text match up to it. -/
theorem run_endsText {parts : List Regex} (hplain : ∀ r ∈ parts, isPlain r = true)
    (hend : EndsText parts) {low : Nat} {marks : Marks} {s final : State}
    (hs : s.Within low subject.text.size marks)
    (h : run subject flags repeated next (ofItems parts) s accepted = .found final) :
    final.position = subject.text.size := by
  induction parts generalizing next s with
  | nil => cases hend
  | cons r rest ih =>
      rw [List.forall_mem_cons] at hplain
      cases rest with
      | nil =>
          cases hend
          rw [ofItems, run] at h
          split at h
          · next hholds =>
              cases h
              exact eq_of_beq hholds
          · cases h
      | cons r' rest =>
          rw [run_ofItems_cons] at h
          have hk : FailsFrom low subject.text.size marks
            (s.position + (width subject.groupWidth r).least)
              (fun s => run subject flags repeated next (ofItems (r' :: rest)) s accepted) :=
            fun t ht _ => Reached.failsWithin
              (run_reached subject (isPlain_ofItems hplain.2) flags repeated next ht .accepted)
          have hreached := run_reached subject hplain.1 flags repeated
            (literalAhead flags (ofItems (r' :: rest)) next) hs hk
          rw [h] at hreached
          cases hreached with
          | found ht hp hrest => exact ih hplain.2 hend ht hrest

/-- Parts that begin with the start of the text match nowhere else. -/
theorem run_startsText {parts : List Regex} (hstart : parts.head? = some (.anchor .textStart))
    {s : State} (hs : s.position ≠ 0) (k : Continuation) :
    run subject flags repeated next (ofItems parts) s k = s.fail := by
  obtain ⟨rest, rfl⟩ := List.head?_eq_some_iff.1 hstart
  rw [run_ofItems_cons, run, if_neg]
  exact fun h => hs (eq_of_beq h)

theorem startTest?_ofItems_anchor (outer flags : Flags) (a : Anchor) (rest : List Regex) :
    startTest? outer flags (ofItems (.anchor a :: rest)) = none := by
  cases rest <;> rfl

theorem leadingLiterals?_ofItems_anchor (flags : Flags) (a : Anchor) (rest : List Regex) :
    leadingLiterals? flags (ofItems (.anchor a :: rest)) = none := by
  cases rest <;> rfl

end

/-! ## Enclosed patterns -/

namespace Pattern

theorem size_subject (p : Pattern) (t : Text) : (p.subject t).text.size = t.length :=
  List.size_toArray

theorem isFoundIn_eq_true_iff (p : Pattern) (t : Text) :
    p.isFoundIn t = .ok true ↔ ∃ span, p.search t = .ok (some span) := by
  rw [isFoundIn]
  cases p.search t with
  | error f => simp [Except.map]
  | ok span? => cases span? <;> simp [Except.map]

/-- The alternatives of a pattern, in their order. -/
def alternatives (p : Pattern) : List (List Regex) :=
  match readTopLevel (6 * p.source.length + 7) p.options.verbose
    { rest := p.source, flags := p.options } with
  | .ok (alternatives, _) => alternatives
  | .error _ => []

/-- A pattern that is made from plain alternatives, the first of which begins with the start of the
text and the last of which ends with its end. -/
structure Enclosed (p : Pattern) : Prop where
  tree_eq : p.tree = ofItems (partsOfAlternatives p.alternatives)
  plain : ∀ parts ∈ p.alternatives, ∀ r ∈ parts, isPlain r = true
  starts : ∃ first ∈ p.alternatives.head?, first.head? = some (.anchor .textStart)
  ends : ∃ last ∈ p.alternatives.getLast?, EndsText last

/-- Another alternative is preferred to one that matches at a place: one before it that matches
there, or any that matches at an earlier place. -/
def Outranked (p : Pattern) (earlier : List (List Regex)) (t : Text) (place : Nat) : Prop :=
  (∃ other ∈ earlier, ∃ span, (p.alone other).matchAt (p.subject t) place = .ok (some span)) ∨
    ∃ before < place, ∃ other ∈ p.alternatives, ∃ span,
      (p.alone other).matchAt (p.subject t) before = .ok (some span)

/-- Where a pattern is found, its match is the whole text. -/
def MatchesWhole (p : Pattern) : Prop :=
  ∀ t, p.isFoundIn t = .ok true → p.search t = .ok (some ⟨0, t.length⟩)

namespace Enclosed

variable {p : Pattern} {t : Text}

theorem isPlain_tree (h : p.Enclosed) : isPlain p.tree = true := by
  rw [h.tree_eq]
  exact isPlain_ofItems (isPlain_partsOfAlternatives h.plain)

theorem isPlain_alone (h : p.Enclosed) {parts : List Regex} (hparts : parts ∈ p.alternatives) :
    isPlain (p.alone parts).tree = true := isPlain_ofItems (h.plain parts hparts)

theorem exists_end (h : p.Enclosed) : ∃ before, before ++ [.anchor .textEnd] ∈ p.alternatives := by
  obtain ⟨last, hlast, hend⟩ := h.ends
  obtain ⟨before, rfl⟩ := List.getLast?_eq_some_iff.1 hend
  exact ⟨before, List.mem_of_getLast? hlast⟩

/-- No place of a text is left out for what stands there. -/
theorem startTest?_tree (h : p.Enclosed) (outer flags : Flags) :
    startTest? outer flags p.tree = none := by
  obtain ⟨first, hfirst, hstart⟩ := h.starts
  obtain ⟨others, halternatives⟩ := List.head?_eq_some_iff.1 hfirst
  obtain ⟨tail, rfl⟩ := List.head?_eq_some_iff.1 hstart
  rw [h.tree_eq, halternatives]
  unfold partsOfAlternatives
  split
  · next parts heq =>
      cases heq
      exact startTest?_ofItems_anchor ..
  · next hmany =>
      have hlen : 2 ≤ ((.anchor .textStart :: tail) :: others).length := by
        cases others with
        | nil => exact absurd rfl (hmany _)
        | cons => simp
      simp only
      generalize ((.anchor .textStart :: tail) :: others).foldl
        (fun n parts => max n parts.length) 0 = fuel
      have hshared := eq_map_sharedStart fuel hlen
      revert hshared
      generalize sharedStart fuel _ = shared
      obtain ⟨start, rests⟩ := shared
      intro hshared
      cases start with
      | cons head start =>
          -- what is shared begins with the start of the text, as the first alternative does
          cases rests with
          | nil => cases hshared
          | cons rest rests =>
              cases hshared
              split <;> exact startTest?_ofItems_anchor ..
      | nil =>
          have hrests : rests = (.anchor .textStart :: tail) :: others := by
            rw [hshared]
            simp
          have hno : asMembers? rests = none := by
            rw [hrests, asMembers?, mapM_eq_none (List.mem_cons_self ..)]
            · rfl
            · rfl
          simp only [hno, List.nil_append]
          cases others with
          | nil => exact absurd rfl (hmany _)
          | cons other others =>
              rw [hrests, ofItems, List.map_cons, List.map_cons, ofAlternatives, startTest?,
                leadingLiterals?]
              · rw [leadingLiterals?_ofItems_anchor]
                split <;> rfl
              · intro h
                cases h

/-- At a place, the first alternative that matches there is matched. -/
theorem matchAt_eq_some_iff (h : p.Enclosed) {place : Nat} (hplace : place ≤ t.length)
    {span : Span} :
    p.matchAt (p.subject t) place = .ok (some span) ↔ ∃ earlier parts later,
      p.alternatives = earlier ++ parts :: later ∧
        (p.alone parts).matchAt (p.subject t) place = .ok (some span) ∧
        ∀ other ∈ earlier, (p.alone other).matchAt (p.subject t) place = .ok none := by
  obtain ⟨before, hend⟩ := h.exists_end
  exact matchAt_alternatives h.tree_eq h.plain hend (by rw [size_subject]; exact hplace)

/-- At a place, nothing is matched if no alternative matches there. -/
theorem matchAt_eq_none_iff (h : p.Enclosed) {place : Nat} (hplace : place ≤ t.length) :
    p.matchAt (p.subject t) place = .ok none ↔
      ∀ parts ∈ p.alternatives, (p.alone parts).matchAt (p.subject t) place = .ok none := by
  have hsize : place ≤ (p.subject t).text.size := by rw [size_subject]; exact hplace
  obtain ⟨before, hend⟩ := h.exists_end
  rw [matchAt_eq h.isPlain_tree hsize, h.tree_eq, last?_run_partsOfAlternatives hend rfl,
    Except.ok.injEq,
    Option.map_eq_none_iff, List.findSome?_eq_none_iff]
  refine forall₂_congr fun parts hparts => ?_
  rw [matchAt_eq (h.isPlain_alone hparts) hsize, Except.ok.injEq, Option.map_eq_none_iff]
  rfl

/-- An alternative on its own matches something or nothing. -/
theorem matchAt_alone (h : p.Enclosed) {parts : List Regex} (hparts : parts ∈ p.alternatives)
    {place : Nat} (hplace : place ≤ t.length) :
    (p.alone parts).matchAt (p.subject t) place = .ok none ∨
      ∃ span, (p.alone parts).matchAt (p.subject t) place = .ok (some span) := by
  rw [matchAt_eq (h.isPlain_alone hparts) (by rw [size_subject]; exact hplace)]
  cases (run (p.subject t) (p.alone parts).flags false none (p.alone parts).tree
    ⟨place, place, []⟩ accepted).last? with
  | none => exact Or.inl rfl
  | some last => exact Or.inr ⟨_, rfl⟩

theorem search_eq_some_iff (h : p.Enclosed) {span : Span} : p.search t = .ok (some span) ↔
    ∃ i ≤ t.length, p.matchAt (p.subject t) i = .ok (some span) ∧
      ∀ j < i, p.matchAt (p.subject t) j = .ok none :=
  Pattern.search_eq_some_iff h.isPlain_tree (h.startTest?_tree _ _) t

/-- Matches of an alternative that begins with the start of the text begin there. -/
theorem first_eq_zero (h : p.Enclosed) {parts : List Regex} (hparts : parts ∈ p.alternatives)
    (hstart : parts.head? = some (.anchor .textStart)) {place : Nat} (hplace : place ≤ t.length)
    {span : Span} (hspan : (p.alone parts).matchAt (p.subject t) place = .ok (some span)) :
    place = 0 := by
  have hsize : place ≤ (p.subject t).text.size := by rw [size_subject]; exact hplace
  obtain ⟨hlast, -⟩ := (Pattern.matchAt_eq_some_iff (h.isPlain_alone hparts) hsize).1 hspan
  refine Classical.byContradiction fun hne => ?_
  have hfail : run (p.subject t) p.flags false none (ofItems parts) ⟨place, place, []⟩ accepted =
      State.fail ⟨place, place, []⟩ := run_startsText hstart hne accepted
  rw [alone, hfail] at hlast
  cases hlast

/-- Matches of an alternative that ends with the end of the text end there. -/
theorem last_eq_length (h : p.Enclosed) {parts : List Regex} (hparts : parts ∈ p.alternatives)
    (hend : EndsText parts) {place : Nat} (hplace : place ≤ t.length) {span : Span}
    (hspan : (p.alone parts).matchAt (p.subject t) place = .ok (some span)) :
    span.last = t.length := by
  have hsize : place ≤ (p.subject t).text.size := by rw [size_subject]; exact hplace
  obtain ⟨hlast, -⟩ := (Pattern.matchAt_eq_some_iff (h.isPlain_alone hparts) hsize).1 hspan
  cases hrun : run (p.subject t) p.flags false none (ofItems parts) ⟨place, place, []⟩ accepted with
  | failed resume left =>
      rw [alone, hrun] at hlast
      cases hlast
  | found final =>
      rw [alone, hrun] at hlast
      have hfinal := run_endsText (h.plain parts hparts) hend
        (.atPlace (Nat.le_refl place) hsize) hrun
      rw [← Option.some.inj hlast, hfinal, size_subject]

/-- **When an enclosed pattern matches whole texts only**: if every match of an alternative on its
own that is not the whole text is outranked. -/
theorem matchesWhole_iff (h : p.Enclosed) : p.MatchesWhole ↔ ∀ t earlier parts later span,
    p.alternatives = earlier ++ parts :: later → span.first ≤ t.length →
      (p.alone parts).matchAt (p.subject t) span.first = .ok (some span) → span ≠ ⟨0, t.length⟩ →
        p.Outranked earlier t span.first := by
  constructor
  · intro hwhole t earlier parts later span halternatives hplace hparts hpart
    refine Classical.byContradiction fun hno => ?_
    rw [Outranked, not_or] at hno
    obtain ⟨hearlier, hbefore⟩ := hno
    have hfound : p.search t = .ok (some span) := by
      refine h.search_eq_some_iff.2 ⟨span.first, hplace, ?_, fun j hj => ?_⟩
      · refine (h.matchAt_eq_some_iff hplace).2
          ⟨earlier, parts, later, halternatives, hparts, fun other hother => ?_⟩
        have hmem : other ∈ p.alternatives :=
          by rw [halternatives]; exact List.mem_append_left _ hother
        exact (h.matchAt_alone hmem hplace).resolve_right fun hspan =>
          hearlier ⟨other, hother, hspan⟩
      · have hj' : j ≤ t.length := by omega
        refine (h.matchAt_eq_none_iff hj').2 fun other hother => ?_
        exact (h.matchAt_alone hother hj').resolve_right fun hspan =>
          hbefore ⟨j, hj, other, hother, hspan⟩
    have hall := hwhole t ((p.isFoundIn_eq_true_iff t).2 ⟨span, hfound⟩)
    rw [hfound] at hall
    exact hpart (Option.some.inj (Except.ok.inj hall))
  · intro hall t hfound
    obtain ⟨span, hspan⟩ := (p.isFoundIn_eq_true_iff t).1 hfound
    obtain ⟨i, hi, hmatch, hnone⟩ := h.search_eq_some_iff.1 hspan
    obtain ⟨earlier, parts, later, halternatives, hparts, hearlier⟩ :=
      (h.matchAt_eq_some_iff hi).1 hmatch
    have hfirst : span.first = i := by
      have hmem : parts ∈ p.alternatives := by rw [halternatives]; simp
      have hsize : i ≤ (p.subject t).text.size := by rw [size_subject]; exact hi
      exact ((Pattern.matchAt_eq_some_iff (h.isPlain_alone hmem) hsize).1 hparts).2
    subst hfirst
    refine Classical.byContradiction fun hne => ?_
    have hpart : span ≠ ⟨0, t.length⟩ := by
      rintro rfl
      exact hne hspan
    rcases hall t earlier parts later span halternatives hi hparts hpart with
      ⟨other, hother, s, hs⟩ | ⟨j, hj, other, hother, s, hs⟩
    · rw [hearlier other hother] at hs
      cases hs
    · rw [(h.matchAt_eq_none_iff (by omega)).1 (hnone j hj) other hother] at hs
      cases hs

/-- A pattern with one alternative only matches whole texts only. -/
theorem matchesWhole_of_single (h : p.Enclosed) (hone : p.alternatives.length = 1) :
    p.MatchesWhole := by
  obtain ⟨parts, hparts⟩ := List.length_eq_one_iff.1 hone
  obtain ⟨first, hfirst, hstart⟩ := h.starts
  obtain ⟨last, hlast, hend⟩ := h.ends
  rw [hparts] at hfirst hlast
  cases hfirst
  cases hlast
  have hmem : parts ∈ p.alternatives := by rw [hparts]; exact List.mem_singleton_self parts
  refine h.matchesWhole_iff.2 fun t earlier parts' later span halternatives hplace hspan hpart =>
    absurd ?_ hpart
  have hsame : parts' = parts := by
    refine List.mem_singleton.1 ?_
    rw [← hparts, halternatives]
    simp
  rw [hsame] at hspan
  obtain ⟨first, last⟩ := span
  rw [Span.mk.injEq]
  exact ⟨h.first_eq_zero hmem hstart hplace hspan, h.last_eq_length hmem hend hplace hspan⟩

end Enclosed

end Pattern

/-! ## Reading wrapped texts -/

/-- Alternatives that have been read from a start to the end of the text, and the parts that are
made from them. -/
def ReadWhole (pattern : Text) (start : Reader) (parts : List Regex) (s : Reader) : Prop :=
  ∃ alternatives, readTopLevel (6 * pattern.length + 7) start.flags.verbose start =
    .ok (alternatives, s) ∧
    parts = partsOfAlternatives alternatives

theorem checkNext_yields (P : Reader → Prop) : Yields P checkNext fun _ => P := by
  intro s a s' hs he
  unfold checkNext at he
  split at he
  · cases he
  · cases he
    exact hs

theorem readAlternatives_yields (pattern : Text) (start : Reader) : Yields (fun s => s = start)
    (readAlternatives (fuelFor pattern) start.flags.verbose 0) (ReadWhole pattern start) := by
  have hfuel : fuelFor pattern = 6 * pattern.length + 7 + 1 := rfl
  rw [hfuel, readAlternatives_zero]
  intro s parts s' hs he
  subst hs
  change (readTopLevel _ _ s).map (fun p => (partsOfAlternatives p.1, p.2)) = _ at he
  cases hr : readTopLevel (6 * pattern.length + 7) s.flags.verbose s with
  | error failure =>
      rw [hr] at he
      cases he
  | ok read =>
      rw [hr] at he
      cases he
      exact ⟨read.1, hr, rfl⟩

theorem readPattern_yields (pattern : Text) (start : Reader) :
    Yields (fun s => s = start) (readPattern pattern)
    fun parts s => ReadWhole pattern start parts s ∧ s.rest = [] := by
  unfold readPattern
  refine .bind (checkNext_yields _) fun _ => ?_
  refine .bind (Q := fun s t => s = start ∧ t = start) (.get fun _ hs => ⟨hs, hs⟩) fun s =>
    .assuming fun hs => ?_
  rw [hs]
  refine .bind (readAlternatives_yields pattern start) fun parts => ?_
  refine .bind .get_same fun s => ?_
  simp only
  split
  · exact .bind_never .fault
  refine .bind .peek_same fun t? => ?_
  split
  · exact .bind_never .flaw
  · next hnone =>
      rw [Option.not_isSome_iff_eq_none] at hnone
      subst hnone
      split
      · exact fun s a s' hs he => (nomatch he)
      · exact .pure fun s hs => ⟨hs.2, Reader.next?_eq_none hs.1⟩

theorem parse_ok {pattern : Text} {flags : Flags} {parsed : Parsed}
    (h : parse pattern flags = .ok parsed) :
    ∃ alternatives s, readTopLevel (6 * pattern.length + 7) flags.verbose
      { rest := pattern, flags } =
      .ok (alternatives, s) ∧ s.rest = [] ∧
        parsed.tree = ofItems (partsOfAlternatives alternatives) := by
  unfold parse at h
  cases hr : readPattern pattern { rest := pattern, flags } with
  | error failure =>
      rw [StateT.run, hr] at h
      cases h
  | ok read =>
      obtain ⟨parts, s⟩ := read
      obtain ⟨⟨alternatives, htop, hparts⟩, hrest⟩ := readPattern_yields pattern _ _ _ _ rfl hr
      rw [StateT.run, hr] at h
      refine ⟨alternatives, s, htop, hrest, ?_⟩
      rw [← hparts]
      simp only [bind, Except.bind] at h
      split at h
      · cases h
      · split at h
        · cases h
        · cases h
          rfl

/-- A wrapped text is compiled to an enclosed pattern, and to one alternative unless a backslash
stands in front of the end of the wrapping. -/
theorem compile_enclosed {tool : Text} {p : Pattern} (h : 40 ∉ tool)
    (hc : Pattern.compile (RuleText.anchor tool) {} = .ok p) :
    p.Enclosed ∧ (tool.getLast? ≠ some 92 → p.alternatives.length = 1) := by
  unfold Pattern.compile at hc
  cases hparse : parse (RuleText.anchor tool) {} with
  | error failure =>
      rw [hparse] at hc
      cases hc
  | ok parsed =>
      rw [hparse] at hc
      have hp := Except.ok.inj hc
      have htree : p.tree = parsed.tree := by rw [← hp]
      obtain ⟨alternatives, s, htop, hrest, hparsed⟩ := parse_ok hparse
      have hat : Reader.At (RuleText.anchor tool) { rest := RuleText.anchor tool, flags := {} } :=
        ⟨rfl, List.suffix_refl _, rfl, rfl, rfl⟩
      have hsame : p.alternatives = alternatives := by
        rw [Pattern.alternatives, ← hp]
        simp only
        rw [htop]
      refine ⟨?_, fun hlast => ?_⟩
      · obtain ⟨first, others, halternatives, hplain, hstart, hread⟩ :=
          readTopLevel_bounds h _ _ _ _ hat htop
        constructor
        · rw [hsame, htree]
          exact hparsed
        · rw [hsame]
          exact hplain
        · refine ⟨first, ?_, hstart⟩
          rw [hsame, halternatives]
          rfl
        · refine ⟨others.getLastD first, ?_, ?_⟩
          · rw [hsame, halternatives, List.getLast?_cons, List.getLastD_eq_getLast?]
            rfl
          · cases hread with
            | ahead h =>
                have hbarrier := h.barrier
                rw [hrest] at hbarrier
                cases List.suffix_nil.1 hbarrier
            | ended hbarrier hclean hrest hlast => exact hlast
      · rw [hsame]
        exact readTopLevel_single h hlast _ _ _ _ hat htop hrest

end ToolPolicy.Regex

namespace ToolPolicy

open Regex (Pattern Span)

/-! ## Rules -/

namespace RuleEntry

/-- The tool pattern of a rule that is accepted is compiled from the wrapped text for the tool. -/
theorem parse_tool {cache : PatternCache} (hs : cache.Sound) {category : Option Text}
    {entry : Entry} {rule : Rule Pattern}
    (h : (parse cache category entry).2.result = .ok (.ok rule)) :
    ∃ tool content, RuleText.split? rule.raw = some (tool, content) ∧
      compilePattern (RuleText.anchor tool) [] = .ok rule.tool := by
  rw [(hs.parse category entry).2] at h
  obtain ⟨e, tool, content, -, -, -, hsplit, hc⟩ := parse_rule h
  refine ⟨tool, content, hsplit, ?_⟩
  rw [compileAfresh] at hc
  cases htool : compilePattern (RuleText.anchor tool) [] with
  | error failure =>
      rw [htool] at hc
      cases hc
  | ok toolPattern =>
      rw [htool] at hc
      cases hcontent : compilePattern content (Flags.strip (e.flags.getD [])) with
      | error failure =>
          simp only [bind, Except.bind, hcontent] at hc
          cases hc
      | ok contentPattern =>
          simp only [bind, Except.bind, hcontent] at hc
          cases hc
          rfl

theorem compile_of_compilePattern {pattern : Text} {p : Pattern}
    (h : compilePattern pattern [] = .ok p) :
    Pattern.compile pattern {} = .ok p := by
  have hoptions : Flags.options [] = .ok {} := rfl
  unfold compilePattern at h
  rw [hoptions] at h
  simp only at h
  split at h
  · cases h
  · split at h
    · next hc =>
        cases h
        exact hc
    · cases h
    · cases h

end RuleEntry

/-- A rule that matches whole names of tools only: where it is about a tool, the match of its
pattern for the tool begins at the start of the name and ends at its end. -/
def Rule.MatchesWholeNames (rule : Rule Pattern) : Prop :=
  ∀ name, rule.matchesTool name = .ok true → rule.tool.search name = .ok (some ⟨0, name.length⟩)

/-- **When a rule matches whole names only.**  A rule that is accepted does exactly if every stretch
that is not the whole of a name, but that an alternative of its wrapped tool pattern matches on its
own, is outranked: by an earlier alternative at the same place, or by any alternative at an earlier
place.  One alternative only is enough for that, and there is one only where the tool pattern does
not end with a backslash. -/
theorem RuleEntry.matchesWholeNames_iff {cache : PatternCache} (hs : cache.Sound)
    {category : Option Text} {entry : Entry} {rule : Rule Pattern}
    (h : (RuleEntry.parse cache category entry).2.result = .ok (.ok rule)) :
    (rule.MatchesWholeNames ↔ ∀ name earlier parts later span,
      rule.tool.alternatives = earlier ++ parts :: later → span.first ≤ name.length →
        (rule.tool.alone parts).matchAt (rule.tool.subject name) span.first = .ok (some span) →
          span ≠ ⟨0, name.length⟩ → rule.tool.Outranked earlier name span.first) ∧
    (rule.tool.alternatives.length = 1 → rule.MatchesWholeNames) ∧
    ∃ tool content, RuleText.split? rule.raw = some (tool, content) ∧
      (tool.getLast? ≠ some 92 → rule.tool.alternatives.length = 1) := by
  obtain ⟨tool, content, hsplit, htool⟩ := parse_tool hs h
  have hopen : 40 ∉ tool := (RuleText.split?_eq_some_iff.1 hsplit).2.2.1
  obtain ⟨henclosed, hsingle⟩ := Regex.compile_enclosed hopen (compile_of_compilePattern htool)
  refine ⟨henclosed.matchesWhole_iff, henclosed.matchesWhole_of_single, tool, content, hsplit,
    hsingle⟩

/-- A rule that is accepted, and something that is computed from it. -/
theorem RuleEntry.exists_rule {α : Type} {o : Except Fault (Except RuleFailure (Rule Pattern))}
    {f : Rule Pattern → α} {a : α} (h : (o.toOption.bind Except.toOption).map f = some a) :
    ∃ rule, o = .ok (.ok rule) ∧ f rule = a := by
  cases o with
  | error fault => cases h
  | ok parsed =>
      cases parsed with
      | error failure => cases h
      | ok rule => exact ⟨rule, rfl, Option.some.inj h⟩

/-- A plain name is one alternative. -/
theorem RuleEntry.matchesWholeNames_name : ∃ rule : Rule Pattern,
    (RuleEntry.parse {} none (.value (.str "Bash(rm)"))).2.result = .ok (.ok rule) ∧
      rule.MatchesWholeNames := by
  have hsingle : ((RuleEntry.parse {} none (.value (.str "Bash(rm)"))).2.result.toOption.bind
      Except.toOption).map (fun rule => rule.tool.alternatives.length) = some 1 := by
    decide +kernel
  obtain ⟨rule, hrule, hone⟩ := exists_rule hsingle
  exact ⟨rule, hrule, (matchesWholeNames_iff PatternCache.sound_empty hrule).2.1 hone⟩

/-- A rule can close the group of the wrapping itself: then its first alternative has no end of its
own, and matches a name that only begins as it says. -/
theorem RuleEntry.name_matched_in_part : ∃ rule : Rule Pattern,
    (RuleEntry.parse {} none (.value (.str "a)|b\\(x)"))).2.result = .ok (.ok rule) ∧
      rule.matchesTool "ab" = .ok true ∧ rule.tool.search "ab" = .ok (some ⟨0, 1⟩) ∧
        ¬rule.MatchesWholeNames := by
  have hpart : ((RuleEntry.parse {} none (.value (.str "a)|b\\(x)"))).2.result.toOption.bind
      Except.toOption).map (fun rule => (rule.tool.search "ab").toOption) =
        some (some (some ⟨0, 1⟩)) := by
    decide +kernel
  obtain ⟨rule, hrule, hspan⟩ := exists_rule hpart
  have hsearch : rule.tool.search "ab" = .ok (some ⟨0, 1⟩) := by
    cases hs : rule.tool.search "ab" with
    | error fault =>
        rw [hs] at hspan
        cases hspan
    | ok span? =>
        rw [hs] at hspan
        cases hspan
        rfl
  have hfound : rule.matchesTool "ab" = .ok true :=
    (rule.tool.isFoundIn_eq_true_iff "ab").2 ⟨_, hsearch⟩
  refine ⟨rule, hrule, hfound, hsearch, fun hwhole => ?_⟩
  have hall := hwhole "ab" hfound
  rw [hsearch] at hall
  cases hall

end ToolPolicy
