import ToolPolicy.Proofs.MatchBounds
import ToolPolicy.Regex.Parser
import ToolPolicy.Regex.Pattern

/-!
# Matching alternatives

Alternatives are not kept as they are read: what all of them begin with is moved in front, and a
choice looks at the next code point before it tries one. None of this shows: a pattern finds at a
place what the first of its alternatives that matches there finds on its own, and in a text the
match at the first place that has one.

* `run_of_not_mayBegin`: a part that a choice passes over does not match.
* `last?_run_ofAlternatives`: a choice is decided by its first part that matches.
* `last?_run_partsOfAlternatives`: the same for alternatives as they are read.
* `search_eq_some_iff`: the match in a text is the match at the first place that has one.
-/

namespace ToolPolicy.Regex

section
variable {subject : Subject} {flags : Flags} {repeated : Bool} {next : Option CodePoint}

/-! ## Parts that are passed over -/

theorem run_of_leading_nothing {r : Regex} (h : leading flags r = .nothing) (s : State)
    (k : Continuation) :
    run subject flags repeated next r s k = k s := by
  induction r generalizing flags next k with
  | empty => rfl
  | seq a b iha ihb =>
      rw [leading] at h
      cases ha : leading flags a with
      | nothing =>
          rw [ha] at h
          rw [run_seq, iha ha, ihb h]
      | test inner t => rw [ha] at h; cases h
      | other => rw [ha] at h; cases h
  | flagged on off body ih => exact ih h k
  | _ => cases h

theorem run_of_leading_test {r : Regex} {inner : Flags} {t : CharTest} {s : State}
    (h : leading flags r = .test inner t)
    (ht : ¬subject.text[s.position]?.any (t.holds inner) = true) (k : Continuation) :
    run subject flags repeated next r s k = s.fail := by
  induction r generalizing flags next k with
  | one test =>
      cases h
      rw [run, if_neg ht]
  | seq a b iha ihb =>
      rw [leading] at h
      cases ha : leading flags a with
      | nothing =>
          rw [ha] at h
          rw [run_seq, run_of_leading_nothing ha, ihb h]
      | test inner' t' =>
          rw [ha] at h
          cases h
          rw [run_seq, iha ha]
      | other => rw [ha] at h; cases h
  | flagged on off body ih => exact ih h k
  | _ => cases h

/-- A part that a choice passes over does not match. -/
theorem run_of_not_mayBegin {r : Regex} {s : State}
    (h : ¬mayBegin subject flags r s.position = true) (k : Continuation) :
    run subject flags repeated next r s k = s.fail := by
  unfold mayBegin at h
  split at h
  · next inner t hl =>
      split at h
      · exact run_of_leading_test hl h k
      · exact absurd rfl h
  · exact absurd rfl h

/-! ## Choices -/

theorem last?_orElse (o : Outcome) (f : Nat → Marks → Outcome) (found : Option Nat)
    (hf : ∀ resume left, (f resume left).last? = found) :
    (o.orElse f).last? = o.last?.or found := by
  cases o with
  | found final => rfl
  | failed resume left => exact hf resume left

theorem last?_restoring (o : Outcome) (saved : Marks) :
    (o.restoring repeated saved).last? = o.last? := by
  cases o <;> rfl

/-- A part of a choice finds what it finds on its own, whether the choice passes over it or not. -/
theorem last?_tried (r : Regex) {s t : State} (hs : s.Alike t) :
    (if mayBegin subject flags r s.position
      then run subject flags repeated none r s accepted else t.fail).last? =
      (run subject flags repeated none r t accepted).last? := by
  split
  · exact last?_run_congr subject flags repeated none r hs
  · next h =>
      rw [hs.position] at h
      rw [run_of_not_mayBegin h]

/-- A choice between two parts is decided by the first that matches. -/
theorem last?_run_alt (a b : Regex) {s : State} (hs : s.marks = []) :
    (run subject flags false next (.alt a b) s accepted).last? =
      (run subject flags false none a s accepted).last?.or
        (run subject flags false none b s accepted).last? := by
  have halike : s.settle.Alike s := ⟨rfl, rfl⟩
  simp only [run, hs]
  rw [last?_restoring, last?_orElse _ _ (run subject flags false none b s accepted).last?]
  · congr 1
    exact last?_tried a halike
  · intro resume left
    have hagain : ∀ place, (⟨s.position, place, Marks.restore false [] left⟩ : State).Alike s :=
      fun _ => ⟨rfl, hs.symm⟩
    split
    · exact last?_run_congr subject flags false none b (hagain resume)
    · split
      · exact last?_run_congr subject flags false none b (hagain s.position)
      · next h => rw [run_of_not_mayBegin h]; rfl

theorem findSome?_cons_or {α β : Type} (a : α) (l : List α) (f : α → Option β) :
    (a :: l).findSome? f = (f a).or (l.findSome? f) := by
  rw [List.findSome?_cons]
  cases f a <;> rfl

/-- A choice is decided by its first part that matches. -/
theorem last?_run_ofAlternatives {parts : List Regex} (hne : parts ≠ []) {s : State}
    (hs : s.marks = []) :
    (run subject flags false none (ofAlternatives parts) s accepted).last? =
      parts.findSome? fun r => (run subject flags false none r s accepted).last? := by
  induction parts with
  | nil => exact absurd rfl hne
  | cons r rest ih =>
      cases rest with
      | nil =>
          rw [ofAlternatives, List.findSome?_singleton]
          split
          · rfl
          · rfl
      | cons r' rest =>
          rw [ofAlternatives, last?_run_alt _ _ hs, ih (List.cons_ne_nil _ _), findSome?_cons_or r]
          intro h
          cases h

/-! ## What all alternatives begin with -/

theorem run_ofItems_cons (r : Regex) (rest : List Regex) (s : State) (k : Continuation) :
    run subject flags repeated next (ofItems (r :: rest)) s k =
      run subject flags repeated (literalAhead flags (ofItems rest) next) r s fun s =>
        run subject flags repeated next (ofItems rest) s k := by
  cases rest <;> rfl

theorem eq_of_isSamePart {a b : Regex} (h : isSamePart a b = true) : a = b := by
  cases a <;> cases b <;> first | cases h | skip
  all_goals
    rw [isSamePart, beq_iff_eq] at h
    rw [h]

/-- A part that may be shared goes on in one way only, or in none. -/
theorem run_shared {a b : Regex} (h : isSamePart a b = true) (s : State) :
    (∃ t : State, t.marks = s.marks ∧ ∀ next k, run subject flags repeated next a s k = k t) ∨
      ∀ next k, run subject flags repeated next a s k = s.fail := by
  cases a with
  | one test =>
      by_cases hany : subject.text[s.position]?.any (test.holds flags) = true
      · exact Or.inl ⟨s.next, rfl, fun _ _ => by rw [run, if_pos hany]⟩
      · exact Or.inr fun _ _ => by rw [run, if_neg hany]
  | anchor c =>
      by_cases hholds : c.holds subject flags s.position = true
      · exact Or.inl ⟨s, rfl, fun _ _ => by rw [run, if_pos hholds]⟩
      · exact Or.inr fun _ _ => by rw [run, if_neg hholds]
  | backref index =>
      cases hg : s.marks.group? index with
      | none => exact Or.inr fun _ _ => by simp only [run, hg]
      | some span =>
          obtain ⟨first, last⟩ := span
          cases hr : repeatStretch subject flags first last s.position with
          | none => exact Or.inr fun _ _ => by simp only [run, hg, hr]
          | some position =>
              exact Or.inl ⟨{ s with position }, rfl, fun _ _ => by simp only [run, hg, hr]⟩
  | _ => cases h

/-- The tails of alternatives that begin with the same part, in front of which that part stands. -/
theorem eq_map_of_mapM {head : Regex} {others tails : List (List Regex)}
    (h : (others.mapM fun other => match other with
      | r :: t => if isSamePart r head then some t else none
      | [] => none) = some tails) :
    others = tails.map (head :: ·) ∧ (others ≠ [] → isSamePart head head = true) := by
  induction others generalizing tails with
  | nil =>
      rw [List.mapM_nil] at h
      cases h
      exact ⟨rfl, fun hne => absurd rfl hne⟩
  | cons other rest ih =>
      rw [List.mapM_cons] at h
      cases other with
      | nil => cases h
      | cons r t =>
          by_cases hsame : isSamePart r head = true
          · simp only [hsame, if_true] at h
            cases hrest : rest.mapM fun other => match other with
                | r :: t => if isSamePart r head then some t else none
                | [] => none with
            | none =>
                rw [hrest] at h
                cases h
            | some tails' =>
                rw [hrest] at h
                cases h
                have hr := eq_of_isSamePart hsame
                subst hr
                rw [(ih hrest).1]
                exact ⟨rfl, fun _ => hsame⟩
          · simp only [hsame] at h
            cases h

theorem eq_map_of_sharedHead? {alternatives tails : List (List Regex)} {head : Regex}
    (h : sharedHead? alternatives = some (head, tails)) (hlen : 2 ≤ alternatives.length) :
    alternatives = tails.map (head :: ·) ∧ isSamePart head head = true := by
  unfold sharedHead? at h
  split at h
  · next first tail others =>
      obtain ⟨tails', htails, he⟩ := Option.map_eq_some_iff.1 h
      cases he
      obtain ⟨hothers, hsame⟩ := eq_map_of_mapM htails
      refine ⟨by rw [hothers]; rfl, hsame ?_⟩
      rintro rfl
      simp at hlen
  · cases h

/-- What is shared stands in front of each of the alternatives. -/
theorem eq_map_sharedStart (fuel : Nat) {alternatives : List (List Regex)}
    (hlen : 2 ≤ alternatives.length) :
    alternatives = (sharedStart fuel alternatives).2.map
      ((sharedStart fuel alternatives).1 ++ ·) := by
  induction fuel generalizing alternatives with
  | zero => simp [sharedStart]
  | succ fuel ih =>
      rw [sharedStart]
      cases hs : sharedHead? alternatives with
      | none => simp
      | some shared =>
          obtain ⟨head, tails⟩ := shared
          have halt := (eq_map_of_sharedHead? hs hlen).1
          have htails : 2 ≤ tails.length := by
            rw [halt, List.length_map] at hlen
            exact hlen
          calc alternatives = tails.map (head :: ·) := halt
            _ = ((sharedStart fuel tails).2.map ((sharedStart fuel tails).1 ++ ·)).map
              (head :: ·) := by
              rw [← ih htails]
            _ = (sharedStart fuel tails).2.map (head :: (sharedStart fuel tails).1 ++ ·) := by
              rw [List.map_map]
              rfl

/-- Moving what is shared in front of a choice does not change what is found. -/
theorem last?_run_sharedStart (fuel : Nat) {alternatives : List (List Regex)}
    (hlen : 2 ≤ alternatives.length) (r : Regex)
    (hr : ∀ t : State, t.marks = [] → (run subject flags false none r t accepted).last? =
      (sharedStart fuel alternatives).2.findSome? fun parts =>
        (run subject flags false none (ofItems parts) t accepted).last?)
    {s : State} (hs : s.marks = []) :
    (run subject flags false none (ofItems ((sharedStart fuel alternatives).1 ++ [r]))
      s accepted).last? =
      alternatives.findSome? fun parts =>
        (run subject flags false none (ofItems parts) s accepted).last? := by
  induction fuel generalizing alternatives s with
  | zero => exact hr s hs
  | succ fuel ih =>
      rw [sharedStart] at hr ⊢
      cases hshared : sharedHead? alternatives with
      | none =>
          rw [hshared] at hr
          exact hr s hs
      | some shared =>
          rw [hshared] at hr
          obtain ⟨head, tails⟩ := shared
          obtain ⟨halt, hsame⟩ := eq_map_of_sharedHead? hshared hlen
          have htails : 2 ≤ tails.length := by
            rw [halt, List.length_map] at hlen
            exact hlen
          simp only [List.cons_append] at hr ⊢
          rw [run_ofItems_cons, halt, List.findSome?_map]
          have hone : (∃ t : State, t.marks = s.marks ∧
            ∀ next k, run subject flags false next head s k = k t) ∨
              ∀ next k, run subject flags false next head s k = s.fail := run_shared hsame s
          rcases hone with ⟨t, ht, hgo⟩ | hfail
          · rw [hgo, ih htails hr (ht.trans hs)]
            congr 1
            funext tail
            rw [Function.comp_apply, run_ofItems_cons, hgo]
          · rw [hfail]
            have hnone : ∀ tail, (run subject flags false none (ofItems (head :: tail))
                s accepted).last? = none := by
              intro tail
              rw [run_ofItems_cons, hfail]
              rfl
            have hall : tails.findSome?
              ((fun parts => (run subject flags false none (ofItems parts) s accepted).last?) ∘
                (head :: ·)) = none :=
              List.findSome?_eq_none_iff.2 fun tail _ => hnone tail
            rw [hall]
            rfl

/-! ## Alternatives as they are read -/

theorem mapM_eq_none {α β : Type} {f : α → Option β} {l : List α} {a : α} (ha : a ∈ l)
    (h : f a = none) :
    l.mapM f = none := by
  induction l with
  | nil => cases ha
  | cons b rest ih =>
      rw [List.mapM_cons]
      rcases List.mem_cons.1 ha with rfl | ha
      · rw [h]
        rfl
      · rw [ih ha]
        cases f b <;> rfl

/-- Alternatives, one of which is empty or ends with a condition on the position, are not made a
class. -/
theorem asMembers?_eq_none {alternatives : List (List Regex)} {parts : List Regex}
    (hmem : parts ∈ alternatives) (h : parts = [] ∨ ∃ before a, parts = before ++ [.anchor a]) :
    asMembers? alternatives = none := by
  rw [asMembers?, mapM_eq_none hmem]
  · rfl
  · rcases h with rfl | ⟨before, a, rfl⟩
    · rfl
    · have hlast : ∀ test, before ++ [.anchor a] ≠ [.one test] := by
        intro test h
        have := congrArg List.getLast? h
        rw [List.getLast?_concat] at this
        cases this
      split
      · next h => exact absurd h (hlast _)
      · next h => exact absurd h (hlast _)
      · rfl

/-- **Alternatives are tried in order.**  Parts that are made from alternatives, one of which ends
with a condition on the position, find what the first alternative that matches finds on its own. -/
theorem last?_run_partsOfAlternatives {alternatives : List (List Regex)} {before : List Regex}
    {a : Anchor} (hmem : before ++ [.anchor a] ∈ alternatives) {s : State} (hs : s.marks = []) :
    (run subject flags false none (ofItems (partsOfAlternatives alternatives)) s accepted).last? =
      alternatives.findSome? fun parts =>
        (run subject flags false none (ofItems parts) s accepted).last? := by
  unfold partsOfAlternatives
  split
  · next parts => rw [List.findSome?_singleton]
  · next hmany =>
      have hlen : 2 ≤ alternatives.length := by
        match alternatives, hmem, hmany with
        | [parts], _, hmany => exact absurd rfl (hmany parts)
        | _ :: _ :: rest, _, _ => simp
      simp only
      generalize alternatives.foldl (fun n parts => max n parts.length) 0 = fuel
      have halt := eq_map_sharedStart fuel hlen
      have hrest : ∃ parts ∈ (sharedStart fuel alternatives).2,
          parts = [] ∨ ∃ before a, parts = before ++ [Regex.anchor a] := by
        rw [halt, List.mem_map] at hmem
        obtain ⟨parts, hparts, he⟩ := hmem
        refine ⟨parts, hparts, ?_⟩
        rcases List.eq_nil_or_concat parts with rfl | ⟨init, last, rfl⟩
        · exact Or.inl rfl
        · have := congrArg List.getLast? he
          rw [List.concat_eq_append, ← List.append_assoc, List.getLast?_concat,
            List.getLast?_concat] at this
          exact Or.inr ⟨init, a, by rw [Option.some.inj this, List.concat_eq_append]⟩
      obtain ⟨parts, hparts, hend⟩ := hrest
      rw [asMembers?_eq_none hparts hend]
      refine last?_run_sharedStart fuel hlen _ (fun t ht => ?_) hs
      rw [last?_run_ofAlternatives ?_ ht, List.findSome?_map]
      · rfl
      · exact fun h => List.ne_nil_of_mem hparts (List.map_eq_nil_iff.1 h)

end

/-! ## Plain parts -/

/-- A property that sequences and choices have if their parts have it. -/
structure Composes (p : Regex → Prop) : Prop where
  empty : p .empty
  one : ∀ test, p (.one test)
  seq : ∀ {a b}, p a → p b → p (.seq a b)
  alt : ∀ {a b}, p a → p b → p (.alt a b)

namespace Composes

variable {p : Regex → Prop}

theorem ofItems (hp : Composes p) {parts : List Regex} (h : ∀ r ∈ parts, p r) :
    p (ofItems parts) := by
  induction parts with
  | nil => exact hp.empty
  | cons r rest ih =>
      rw [List.forall_mem_cons] at h
      cases rest with
      | nil => exact h.1
      | cons r' rest => exact hp.seq h.1 (ih h.2)

theorem ofAlternatives (hp : Composes p) {parts : List Regex} (h : ∀ r ∈ parts, p r) :
    p (ofAlternatives parts) := by
  induction parts with
  | nil => exact hp.empty
  | cons r rest ih =>
      rw [List.forall_mem_cons] at h
      cases rest with
      | nil =>
          rw [Regex.ofAlternatives]
          split
          · exact hp.seq h.1 hp.empty
          · exact h.1
      | cons r' rest => exact hp.alt h.1 (ih h.2)

/-- What is made from alternatives is made of their parts and of classes. -/
theorem partsOfAlternatives (hp : Composes p) {alternatives : List (List Regex)}
    (h : ∀ parts ∈ alternatives, ∀ r ∈ parts, p r) :
    ∀ r ∈ partsOfAlternatives alternatives, p r := by
  unfold Regex.partsOfAlternatives
  split
  · next parts => exact h parts (List.mem_singleton_self parts)
  · next hmany =>
      simp only
      generalize alternatives.foldl (fun n parts => max n parts.length) 0 = fuel
      cases alternatives with
      | nil =>
          have : sharedStart fuel [] = ([], []) := by cases fuel <;> rfl
          rw [this]
          intro r hr
          cases List.mem_singleton.1 hr
          exact hp.one _
      | cons first others =>
          have hlen : 2 ≤ (first :: others).length := by
            cases others with
            | nil => exact absurd rfl (hmany first)
            | cons => simp
          have halt := eq_map_sharedStart fuel hlen
          have hboth : ∀ parts ∈ (sharedStart fuel (first :: others)).2,
              ∀ r ∈ (sharedStart fuel (first :: others)).1 ++ parts, p r := by
            intro parts hparts
            have hmem : (sharedStart fuel (first :: others)).1 ++
              parts ∈ (sharedStart fuel (first :: others)).2.map
                ((sharedStart fuel (first :: others)).1 ++ ·) := List.mem_map_of_mem hparts
            rw [← halt] at hmem
            exact h _ hmem
          have hne : (sharedStart fuel (first :: others)).2 ≠ [] := by
            intro he
            rw [he] at halt
            cases halt
          obtain ⟨some_parts, hsome⟩ := List.exists_mem_of_ne_nil _ hne
          have hstart : ∀ r ∈ (sharedStart fuel (first :: others)).1, p r :=
            fun r hr => hboth some_parts hsome r (List.mem_append_left _ hr)
          split
          · intro r hr
            rcases List.mem_append.1 hr with hr | hr
            · exact hstart r hr
            · cases List.mem_singleton.1 hr
              exact hp.one _
          · intro r hr
            rcases List.mem_append.1 hr with hr | hr
            · exact hstart r hr
            · cases List.mem_singleton.1 hr
              refine hp.ofAlternatives fun q hq => ?_
              obtain ⟨parts, hparts, rfl⟩ := List.mem_map.1 hq
              exact hp.ofItems fun r hr => hboth parts hparts r (List.mem_append_right _ hr)

end Composes

theorem composes_isPlain : Composes fun r => isPlain r = true where
  empty := rfl
  one _ := rfl
  seq ha hb := by rw [isPlain, ha, hb]; rfl
  alt ha hb := by rw [isPlain, ha, hb]; rfl

theorem isPlain_ofItems {parts : List Regex} (h : ∀ r ∈ parts, isPlain r = true) :
    isPlain (ofItems parts) = true :=
  composes_isPlain.ofItems h

/-- Parts that are made from alternatives are plain if the alternatives are. -/
theorem isPlain_partsOfAlternatives {alternatives : List (List Regex)}
    (h : ∀ parts ∈ alternatives, ∀ r ∈ parts, isPlain r = true) :
    ∀ r ∈ partsOfAlternatives alternatives, isPlain r = true :=
  composes_isPlain.partsOfAlternatives h

/-! ## Patterns -/

namespace Pattern

variable {p : Pattern} {subject : Subject}

/-- What a plain pattern matches at a place, without faults. -/
theorem matchAt_eq (hp : isPlain p.tree = true) {first : Nat} (hfirst : first ≤ subject.text.size) :
    p.matchAt subject first =
      .ok ((run subject p.flags false none p.tree ⟨first, first, []⟩ accepted).last?.map
        fun last => ⟨first, last⟩) := by
  rw [matchAt]
  cases h : run subject p.flags false none p.tree ⟨first, first, []⟩ accepted with
  | failed resume left => rfl
  | found final =>
      have hmarks := (found_run_bounds subject hp p.flags hfirst h).2.2
      simp only [hmarks, Marks.hasReversedGroup_nil]
      rfl

theorem matchAt_eq_some_iff (hp : isPlain p.tree = true) {first : Nat}
    (hfirst : first ≤ subject.text.size) {span : Span} : p.matchAt subject first = .ok (some span) ↔
      (run subject p.flags false none p.tree ⟨first, first, []⟩ accepted).last? = some span.last ∧
        span.first = first := by
  rw [matchAt_eq hp hfirst, Except.ok.injEq, Option.map_eq_some_iff]
  constructor
  · rintro ⟨last, hlast, rfl⟩
    exact ⟨hlast, rfl⟩
  · rintro ⟨hlast, rfl⟩
    exact ⟨span.last, hlast, rfl⟩

/-- A match of a plain pattern takes at least its width and ends in the text. -/
theorem matchAt_bounds (hp : isPlain p.tree = true) {first : Nat}
    (hfirst : first ≤ subject.text.size) {span : Span}
    (h : p.matchAt subject first = .ok (some span)) :
    span.first = first ∧ first + (width subject.groupWidth p.tree).least ≤ span.last ∧
      span.last ≤ subject.text.size := by
  obtain ⟨hlast, hspan⟩ := (matchAt_eq_some_iff hp hfirst).1 h
  cases hrun : run subject p.flags false none p.tree ⟨first, first, []⟩ accepted with
  | failed resume left =>
      rw [hrun] at hlast
      cases hlast
  | found final =>
      rw [hrun] at hlast
      obtain ⟨hle, hsize, -⟩ := found_run_bounds subject hp p.flags hfirst hrun
      rw [← Option.some.inj hlast]
      exact ⟨hspan, hle, hsize⟩

/-- The first place with a property, among places that lack another one before it. -/
theorem exists_first_iff {P Q : Nat → Prop} (first count : Nat) :
    (∃ i, first ≤ i ∧ i < first + (count + 1) ∧ P i ∧ ∀ j, first ≤ j → j < i → Q j) ↔
      P first ∨ Q first ∧ ∃ i, first + 1 ≤ i ∧ i < first + 1 + count ∧ P i ∧ ∀ j, first + 1 ≤ j →
        j < i → Q j := by
  constructor
  · rintro ⟨i, hfirst, hlast, hi, hj⟩
    by_cases he : i = first
    · rw [he] at hi
      exact Or.inl hi
    · have hlater : first < i := by omega
      have hrest : ∀ j, first + 1 ≤ j → j < i → Q j := fun j h => hj j (by omega)
      exact Or.inr ⟨hj first (Nat.le_refl _) hlater, i, hlater, by omega, hi, hrest⟩
  · rintro (hi | ⟨hq, i, hfirst, hlast, hi, hj⟩)
    · exact ⟨first, Nat.le_refl _, by omega, hi, fun j h h' => by omega⟩
    · refine ⟨i, by omega, by omega, hi, fun j h h' => ?_⟩
      by_cases he : j = first
      · rw [he]
        exact hq
      · exact hj j (by omega) h'

theorem searchFrom_eq_some_iff (hp : isPlain p.tree = true) {isStart : Nat → Bool}
    (first starts : Nat) (hstarts : first + starts ≤ subject.text.size + 1) {span : Span} :
    p.searchFrom subject isStart first starts = .ok (some span) ↔
      ∃ i, first ≤ i ∧ i < first + starts ∧
        (isStart i = true ∧ p.matchAt subject i = .ok (some span)) ∧
        ∀ j, first ≤ j → j < i → isStart j = true → p.matchAt subject j = .ok none := by
  induction starts generalizing first with
  | zero =>
      constructor
      · intro h
        cases h
      · rintro ⟨i, h, h', -⟩
        omega
  | succ starts ih =>
      rw [searchFrom, exists_first_iff, ← ih (first + 1) (by omega)]
      by_cases hs : isStart first = true
      · rw [if_pos hs]
        have hat : p.matchAt subject first = .ok _ := matchAt_eq hp (by omega)
        cases hm : (run subject p.flags false none p.tree ⟨first, first, []⟩ accepted).last? with
        | none =>
            rw [hm, Option.map_none] at hat
            rw [hat]
            constructor
            · exact fun h => Or.inr ⟨fun _ => rfl, h⟩
            · rintro (⟨-, h⟩ | ⟨-, h⟩)
              · cases h
              · exact h
        | some last =>
            rw [hm, Option.map_some] at hat
            rw [hat]
            constructor
            · exact fun h => Or.inl ⟨hs, h⟩
            · rintro (⟨-, h⟩ | ⟨h, -⟩)
              · exact h
              · cases h hs
      · rw [if_neg hs]
        constructor
        · exact fun h => Or.inr ⟨fun hs' => absurd hs' hs, h⟩
        · rintro (⟨h, -⟩ | ⟨-, h⟩)
          · exact absurd h hs
          · exact h

/-- **The match in a text** is the match at the first place that has one.  The width of the pattern,
by which places are left out, never hides a match. -/
theorem search_eq_some_iff (hp : isPlain p.tree = true)
    (hstart : startTest? p.flags p.flags p.tree = none) (t : Text) {span : Span} :
    p.search t = .ok (some span) ↔ ∃ i ≤ t.length, p.matchAt (p.subject t) i = .ok (some span) ∧
      ∀ j < i, p.matchAt (p.subject t) j = .ok none := by
  have hsize : (p.subject t).text.size = t.length := List.size_toArray
  have hroom : ∀ i, i ≤ t.length → p.matchAt (p.subject t) i = .ok (some span) →
    i + p.least ≤ t.length := by
    intro i hi hm
    obtain ⟨-, hle, hlast⟩ := matchAt_bounds hp (by omega) hm
    exact Nat.le_trans hle (hsize ▸ hlast)
  have hfrom : ∀ count, count ≤ t.length + 1 →
      (∀ i, i ≤ t.length → p.matchAt (p.subject t) i = .ok (some span) → i < count) →
        (p.searchFrom (p.subject t) (fun _ => true) 0 count = .ok (some span) ↔ ∃ i ≤ t.length,
          p.matchAt (p.subject t) i = .ok (some span) ∧
            ∀ j < i, p.matchAt (p.subject t) j = .ok none) := by
    intro count hcount hall
    rw [searchFrom_eq_some_iff hp 0 count (by omega)]
    constructor
    · rintro ⟨i, -, hi, ⟨-, hm⟩, hj⟩
      exact ⟨i, by omega, hm, fun j hji => hj j (Nat.zero_le _) hji rfl⟩
    · rintro ⟨i, hi, hm, hj⟩
      have hcounted := hall i hi hm
      exact ⟨i, Nat.zero_le _, by omega, ⟨rfl, hm⟩, fun j _ hji _ => hj j hji⟩
  rw [search]
  split
  · next hshort =>
      constructor
      · intro h
        cases h
      · rintro ⟨i, hi, hm, -⟩
        have := hroom i hi hm
        omega
  · next hlong =>
      simp only [starts, hstart, hsize]
      split
      · exact hfrom _ (Nat.le_refl _) fun i hi _ => Nat.lt_succ_of_le hi
      · next hwide =>
          rw [Bool.or_eq_true, decide_eq_true_eq, not_or] at hwide
          refine hfrom _ (by omega) fun i hi hm => ?_
          have := hroom i hi hm
          omega

/-! ## Alternatives of a pattern -/

/-- A pattern with some parts in place of its own. -/
def alone (p : Pattern) (parts : List Regex) : Pattern := { p with tree := .ofItems parts }

/-- A pattern that is made from alternatives, one of which ends with a condition on the position,
matches at a place what the first alternative that matches there matches on its own. -/
theorem matchAt_alternatives {alternatives : List (List Regex)}
    (htree : p.tree = ofItems (partsOfAlternatives alternatives))
    (hplain : ∀ parts ∈ alternatives, ∀ r ∈ parts, isPlain r = true) {before : List Regex}
    {a : Anchor} (hmem : before ++ [.anchor a] ∈ alternatives) {first : Nat}
    (hfirst : first ≤ subject.text.size) {span : Span} :
    p.matchAt subject first = .ok (some span) ↔
      ∃ earlier parts later, alternatives = earlier ++ parts :: later ∧
      (p.alone parts).matchAt subject first = .ok (some span) ∧
        ∀ other ∈ earlier, (p.alone other).matchAt subject first = .ok none := by
  have htreePlain : isPlain p.tree = true := by
    rw [htree]
    exact isPlain_ofItems (isPlain_partsOfAlternatives hplain)
  have halone : ∀ parts ∈ alternatives, isPlain (p.alone parts).tree = true :=
    fun parts hparts => isPlain_ofItems (hplain parts hparts)
  rw [matchAt_eq_some_iff htreePlain hfirst, htree, last?_run_partsOfAlternatives hmem rfl,
    List.findSome?_eq_some_iff]
  constructor
  · rintro ⟨⟨earlier, parts, later, he, hparts, hearlier⟩, hspan⟩
    refine ⟨earlier, parts, later, he, ?_, fun other hother => ?_⟩
    · exact (matchAt_eq_some_iff (halone parts (by rw [he]; simp)) hfirst).2 ⟨hparts, hspan⟩
    · have hnone : (run subject (p.alone other).flags false none (p.alone other).tree
        ⟨first, first, []⟩
          accepted).last? = none := hearlier other hother
      rw [matchAt_eq (halone other (by rw [he]; simp [hother])) hfirst, hnone]
      rfl
  · rintro ⟨earlier, parts, later, he, hparts, hearlier⟩
    obtain ⟨hlast, hspan⟩ := (matchAt_eq_some_iff (halone parts (by rw [he]; simp)) hfirst).1 hparts
    refine ⟨⟨earlier, parts, later, he, hlast, fun other hother => ?_⟩, hspan⟩
    have hnone := hearlier other hother
    rw [matchAt_eq (halone other (by rw [he]; simp [hother])) hfirst, Except.ok.injEq,
      Option.map_eq_none_iff] at hnone
    exact hnone

end Pattern

end ToolPolicy.Regex
