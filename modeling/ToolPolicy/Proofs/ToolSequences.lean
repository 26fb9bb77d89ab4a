import ToolPolicy.Proofs.Alternatives
import ToolPolicy.Proofs.ToolReading
import ToolPolicy.Policy.RuleText

/-!
# Reading a sequence up to its end

A text without parentheses of its own is read to plain parts, and the end of its wrapping is read
last or not at all. So the last alternative of what is read ends with the condition at the end of
the text, as the first begins with the condition at its start. And where no backslash stands before
the end of the wrapping, nothing but its own parenthesis closes the group, and there is one
alternative only.

* `reads`: what the mutually recursive readers of a wrapped text lead to, by induction on their
  fuel.
* `readTopLevel_bounds`: the first and the last of the alternatives of a wrapped text.
* `readTopLevel_single`: when there is one alternative only.
-/

namespace ToolPolicy.Regex

open Reading

section
variable {source barrier : Text}

/-! ## Parts -/

/-- A part as a sequence takes it: a group that neither records nor switches is its body. -/
def ungrouped : Regex → Regex
  | .flagged on off body => if on.isEmpty && off.isEmpty then body else .flagged on off body
  | r => r

theorem ungrouped_of_isPlain {r : Regex} (h : isPlain r = true) : ungrouped r = r := by
  cases r <;> first | rfl | cases h

theorem isPlain_items {r : Regex} (h : isPlain r = true) : ∀ q ∈ r.items, isPlain q = true := by
  induction r with
  | empty => exact fun q hq => (by cases hq)
  | seq a b iha ihb =>
      rw [isPlain, Bool.and_eq_true] at h
      intro q hq
      rcases List.mem_append.1 hq with hq | hq
      · exact iha h.1 q hq
      · exact ihb h.2 q hq
  | _ =>
      intro q hq
      cases List.mem_singleton.1 hq
      exact h

theorem isPlain_dissolveGroups {parts : List Regex}
    (h : ∀ r ∈ parts, isPlain (ungrouped r) = true) :
    ∀ q ∈ dissolveGroups parts, isPlain q = true := by
  intro q hq
  obtain ⟨r, hr, hq⟩ := List.mem_flatMap.1 hq
  have hplain := h r hr
  split at hq
  · next on off body =>
      rw [ungrouped] at hplain
      split at hq
      · next hnone =>
          rw [if_pos hnone] at hplain
          exact isPlain_items hplain q hq
      · next hsome =>
          rw [if_neg hsome] at hplain
          cases hplain
  · next hother =>
      cases List.mem_singleton.1 hq
      have : ungrouped q = q := by
        cases q <;> first | rfl | exact absurd rfl (hother _ _ _)
      rw [← this]
      exact hplain

/-- A sequence that begins with a condition on the position is left to begin with it. -/
theorem head?_dissolveGroups {parts : List Regex} {a : Anchor}
    (h : parts.head? = some (.anchor a)) :
    (dissolveGroups parts).head? = some (.anchor a) := by
  obtain ⟨rest, rfl⟩ := List.head?_eq_some_iff.1 h
  rfl

theorem getLast?_dissolveGroups {parts : List Regex} {a : Anchor}
    (h : parts.getLast? = some (.anchor a)) :
    (dissolveGroups parts).getLast? = some (.anchor a) := by
  obtain ⟨before, rfl⟩ := List.getLast?_eq_some_iff.1 h
  rw [dissolveGroups, List.flatMap_append]
  exact List.getLast?_concat ..

theorem repeatLast_tame (hw : Wrapped source barrier) (place : Nat) (counts : Nat × Option Nat)
    {parts : List Regex} (hplain : ∀ r ∈ parts, isPlain (ungrouped r) = true) :
    Yields (Reader.Tame source barrier) (repeatLast place counts parts) fun parts' s =>
      (∀ r ∈ parts', isPlain (ungrouped r) = true) ∧
        (∀ a, parts.getLast? = some (.anchor a) → parts'.getLast? = some (.anchor a)) ∧
          s.Tame source barrier := by
  unfold repeatLast
  refine .bind .get_same fun s => ?_
  split
  · exact .flaw
  · exact .flaw
  · exact .flaw
  · next last before hanchor hrep =>
      refine .bind (readGreed_tame hw) fun greed => .pure fun s hs => ⟨?_, ?_, hs⟩
      · rw [List.forall_mem_cons] at hplain ⊢
        refine ⟨?_, hplain.2⟩
        cases last <;> exact hplain.1
      · intro a hlast
        cases before with
        | nil => exact absurd (Option.some.inj hlast) (hanchor a)
        | cons r before => exact hlast

/-! ## Sequences and alternatives -/

/-- Parts of which the last is the condition at the end of the text. -/
def EndsText (parts : List Regex) : Prop := parts.getLast? = some (.anchor .textEnd)

/-- What reading leads to: the end of the wrapping is ahead still, or it has been read last and
nothing is left. -/
inductive Reader.Read (source barrier : Text) (last : List Regex) (s : Reader) : Prop where
  | ahead (h : s.Tame source barrier)
  | ended (hbarrier : 41 ∉ barrier) (hclean : s.Clean source) (hrest : s.rest = [])
    (hlast : EndsText last)

/-- Where the groups of a text only group. -/
def Grouping (source barrier : Text) : Prop :=
  ∀ after, 40 :: after <:+ source → [63, 58] <+: after ∧ 41 ∉ barrier

theorem Reader.Read.tame {last : List Regex} {s : Reader} {t : Token}
    (h : s.Read source barrier last) (hn : s.next? = some t) : s.Tame source barrier := by
  cases h with
  | ahead h => exact h
  | ended hbarrier hclean hrest hlast =>
      rw [Reader.next?, hrest] at hn
      cases hn

/-- Taking an escape: the end of the wrapping is the condition at the end of the text. -/
theorem take_escape (hw : Wrapped source barrier) {c : CodePoint} :
    Yields (fun s => s.next? = some (.escape c) ∧ s.Tame source barrier) take fun _ s =>
      s.Tame source barrier ∨ c = 90 ∧ 41 ∉ barrier ∧ s.Clean source ∧ s.rest = [] := by
  intro s t? s' hs h
  obtain ⟨ht, hclean, -, htame | ⟨t, ht', hb⟩⟩ := take_tame hw hs.2 h
  · exact Or.inl htame
  · rw [ht, hs.1] at ht'
    cases ht'
    rcases hw.shape with hshape | hshape | hshape
    · rw [hshape] at hb
      cases hb
    · rw [hshape] at hb
      obtain ⟨-, hb⟩ := List.cons.inj hb
      obtain ⟨hc, hb⟩ := List.cons.inj hb
      exact Or.inr ⟨hc.symm, by rw [hshape]; decide, hclean, hb.symm⟩
    · rw [hshape] at hb
      cases hb

/-- Taking a plain token in a sequence. -/
theorem take_plain {c : CodePoint} (hw : Wrapped source barrier) (hc : c ≠ 41) :
    Yields (fun s => s.next? = some (.plain c) ∧ s.Tame source barrier) take fun _ s =>
      s.Tame source barrier ∧ c :: s.rest <:+ source := by
  intro s t? s' hs h
  refine ⟨take_plain_tame hw (Or.inl hc) s t? s' hs h, ?_⟩
  obtain ⟨ht, -, hrest, -⟩ := take_tame hw hs.2 h
  have htext := hrest (.plain c) (ht.trans hs.1)
  have hsuffix := hs.2.clean.rest
  rw [htext] at hsuffix
  exact hsuffix

section
variable {fuel : Nat}

/-- What a sequence is read to from the parts so far, the last of which is given first: plain parts
that begin as the parts so far do, if those begin with a condition on the position. -/
structure ReadFrom (source barrier : Text) (parts result : List Regex) (s : Reader) : Prop where
  plain : ∀ r ∈ result, isPlain r = true
  begins : ∀ a, parts.getLast? = some (.anchor a) → result.head? = some (.anchor a)
  read : s.Read source barrier result

/-- Sequences are read to plain parts. -/
def SequenceReads (source barrier : Text) (fuel : Nat) : Prop :=
  ∀ depth first parts, (∀ r ∈ parts, isPlain (ungrouped r) = true) →
    Yields (Reader.Read source barrier parts.reverse) (readSequence fuel false depth first parts)
      (ReadFrom source barrier parts)

/-- The alternatives after one are read to plain parts. -/
def OthersRead (source barrier : Text) (fuel : Nat) : Prop :=
  ∀ depth parts, Yields (Reader.Read source barrier parts)
    (readOthers fuel false depth) fun others s =>
    (∀ parts ∈ others, ∀ r ∈ parts, isPlain r = true) ∧
      s.Read source barrier (others.getLastD parts)

/-- What a group is read to. -/
def GroupReads (source barrier : Text) (fuel : Nat) : Prop :=
  ∀ depth start first, Yields (fun s => s.Tame source barrier ∧ 40 :: s.rest <:+ source)
    (readGroup fuel false depth start first) fun outcome s =>
      ∃ body, outcome = .part (.flagged {} {} body) ∧ isPlain body = true ∧ s.Tame source barrier

/-- Going on with one more part. -/
theorem SequenceReads.push (hs : SequenceReads source barrier fuel) {parts : List Regex}
    (hparts : ∀ r ∈ parts, isPlain (ungrouped r) = true) (depth : Nat) (first : Bool) {r : Regex}
    (hr : isPlain (ungrouped r) = true) : Yields (Reader.Read source barrier (r :: parts).reverse)
      (readSequence fuel false depth first (r :: parts)) (ReadFrom source barrier parts) := by
  have hall : ∀ q ∈ r :: parts, isPlain (ungrouped q) = true :=
    List.forall_mem_cons.2 ⟨hr, hparts⟩
  refine (hs depth first (r :: parts) hall).strengthen fun result s h => ?_
  refine ⟨h.plain, fun a ha => h.begins a ?_, h.read⟩
  rw [List.getLast?_cons, ha]
  rfl

/-- A sequence from its first part on. -/
theorem SequenceReads.fresh (hs : SequenceReads source barrier fuel) (depth : Nat) (first : Bool) :
    Yields (Reader.Tame source barrier) (readSequence fuel false depth first []) fun result s =>
      (∀ r ∈ result, isPlain r = true) ∧ s.Read source barrier result :=
  ((hs depth first [] fun _ h => (by cases h)).weaken fun _ => .ahead).strengthen fun _ _ h =>
    ⟨h.plain, h.read⟩

/-- A sequence that ends here. -/
theorem pure_dissolveGroups {parts : List Regex}
    (hparts : ∀ r ∈ parts, isPlain (ungrouped r) = true) :
    Yields (Reader.Read source barrier parts.reverse) (pure (dissolveGroups parts.reverse))
      (ReadFrom source barrier parts) := by
  refine .pure fun s hs => ⟨?_, fun a ha => ?_, ?_⟩
  · exact isPlain_dissolveGroups fun r hr => hparts r (List.mem_reverse.1 hr)
  · exact head?_dissolveGroups (by rw [List.head?_reverse, ha])
  · cases hs with
    | ahead h => exact .ahead h
    | ended hbarrier hclean hrest hlast =>
        exact .ended hbarrier hclean hrest (getLast?_dissolveGroups hlast)

theorem sequenceReads_succ (hw : Wrapped source barrier) (hs : SequenceReads source barrier fuel)
    (hg : GroupReads source barrier fuel) : SequenceReads source barrier (fuel + 1) := by
  intro depth first parts hparts
  rw [readSequence]
  simp only [Bool.false_and, Bool.false_eq_true, if_false]
  split
  · exact .bind_never .fault
  refine .bind .get_same fun here => ?_
  refine .bind .peek_same fun t? => ?_
  split
  · exact (pure_dissolveGroups hparts).weaken fun s hs => hs.2
  · next c =>
      refine .bind ((take_escape hw).weaken fun s hs => ⟨hs.1, hs.2.tame hs.1⟩) fun _ => .or ?_ ?_
      · refine .bind (readEscape_tame hw c) fun r => .assuming fun hr => ?_
        exact (hs.push hparts depth first (by rw [ungrouped_of_isPlain hr, hr])).weaken fun _ =>
          .ahead
      · -- the end of the wrapping is the last part, and nothing is left
        refine .assuming fun hc => ?_
        subst hc
        refine (hs.push hparts depth first rfl).weaken fun s hs => ?_
        exact .ended hs.1 hs.2.1 hs.2.2 (by rw [EndsText, List.getLast?_reverse]; rfl)
  · next c =>
      split
      · exact (pure_dissolveGroups hparts).weaken fun s hs => hs.2
      · next hc =>
          rw [Bool.or_eq_true, decide_eq_true_eq, decide_eq_true_eq, not_or] at hc
          have hpart : ∀ r, isPlain (ungrouped r) = true → Yields (Reader.Tame source barrier)
              (readSequence fuel false depth first (r :: parts)) (ReadFrom source barrier parts) :=
            fun r hr => (hs.push hparts depth first hr).weaken fun _ => .ahead
          refine .bind ((take_plain hw hc.2).weaken fun s hs => ⟨hs.1, hs.2.tame hs.1⟩) fun _ => ?_
          split
          · exact (hpart _ rfl).weaken fun _ hs => hs.1
          split
          · exact .bind ((readClass_tame hw).weaken fun _ hs => hs.1) fun test => hpart _ rfl
          split
          · exact (hpart _ rfl).weaken fun _ hs => hs.1
          split
          · exact (hpart _ rfl).weaken fun _ hs => hs.1
          split
          · exact (hpart _ rfl).weaken fun _ hs => hs.1
          split
          · next hopen =>
              subst hopen
              refine .bind (hg depth here.position _) fun outcome s result s' hread => ?_
              obtain ⟨body, rfl, hbody, htame⟩ := hread
              exact hpart (.flagged {} {} body) hbody s result s' htame
          · refine .bind ((readCounts?_tame hw c).weaken fun _ hs => hs.1) fun counts? => ?_
            split
            · exact hpart _ rfl
            · next counts =>
                refine .bind (repeatLast_tame hw here.position counts hparts) fun parts' => ?_
                refine .assuming fun hparts' => .assuming fun hfirst => ?_
                have hread := (hs depth first parts' hparts').weaken fun _ => .ahead
                refine hread.strengthen fun result s h => ?_
                exact ⟨h.plain, fun a ha => h.begins a (hfirst a ha), h.read⟩

theorem accept_read (hw : Wrapped source barrier) {c : CodePoint} (hc : c ≠ 41 ∨ 41 ∉ barrier)
    (last : List Regex) :
    Yields (Reader.Read source barrier last) (accept c) fun accepted s =>
      s.Read source barrier last ∧ (accepted = true → s.Tame source barrier) := by
  refine .bind .peek_same fun t? => ?_
  split
  · next ht =>
      subst ht
      refine .bind ((take_plain_tame hw hc).weaken fun s hs => ⟨hs.1, hs.2.tame hs.1⟩) fun _ => ?_
      exact .pure fun s hs => ⟨.ahead hs, fun _ => hs⟩
  · exact .pure fun s hs => ⟨hs.2, fun h => (by cases h)⟩

theorem othersRead_succ (hw : Wrapped source barrier) (hs : SequenceReads source barrier fuel)
    (ho : OthersRead source barrier fuel) : OthersRead source barrier (fuel + 1) := by
  intro depth parts
  rw [readOthers]
  refine .bind (accept_read hw (Or.inl (by decide)) parts) fun more => ?_
  split
  · next hmore =>
      refine .bind (Q := fun s t => s.flags = {} ∧ t.Tame source barrier)
        (.get fun _ hs => ⟨(hs.2 hmore).clean.flags, hs.2 hmore⟩) fun s => .assuming fun hflags =>
          ?_
      simp only [hflags, ite_self]
      refine .bind (hs.fresh (depth + 1) false) fun next => ?_
      refine .assuming fun hnext => ?_
      refine .bind (ho depth next) fun others => .pure fun s hs => ?_
      refine ⟨List.forall_mem_cons.2 ⟨hnext, hs.1⟩, ?_⟩
      rw [List.getLastD_cons]
      exact hs.2
  · exact .pure fun s hs => ⟨fun _ h => (by cases h), hs.1⟩

/-- What alternatives are read to. -/
def AlternativesRead (source barrier : Text) (fuel : Nat) : Prop :=
  ∀ depth, Yields (Reader.Tame source barrier) (readAlternatives fuel false depth) fun parts s =>
    (∀ r ∈ parts, isPlain r = true) ∧ ∃ last, s.Read source barrier last

theorem alternativesRead_succ (hs : SequenceReads source barrier fuel)
    (ho : OthersRead source barrier fuel) :
    AlternativesRead source barrier (fuel + 1) := by
  intro depth
  rw [readAlternatives]
  refine .bind (hs.fresh (depth + 1) _) fun first => ?_
  refine .assuming fun hfirst => ?_
  refine .bind (ho depth first) fun others => .pure fun s hs => ⟨?_, _, hs.2⟩
  exact isPlain_partsOfAlternatives (List.forall_mem_cons.2 ⟨hfirst, hs.1⟩)

theorem closeParenthesis_tame (hw : Wrapped source barrier) (hc : 41 ∉ barrier) (start : Nat)
    (last : List Regex) :
    Yields (Reader.Read source barrier last) (closeParenthesis start) fun _ =>
      Reader.Tame source barrier := by
  unfold closeParenthesis
  refine .bind (accept_read hw (Or.inr hc) last) fun closed => ?_
  split
  · exact .bind (Q := fun _ _ => True) (.get fun _ _ => trivial) fun _ => .flaw
  · next h =>
      rw [Bool.not_eq_true', Bool.not_eq_false] at h
      exact .pure fun s hs => hs.2 h

/-- What the body of a group is read to. -/
def BodyReads (source barrier : Text) (fuel : Nat) : Prop :=
  41 ∉ barrier → ∀ depth start, Yields (Reader.Tame source barrier)
    (readBody fuel false depth start) fun body s =>
    isPlain body = true ∧ s.Tame source barrier

theorem bodyReads_succ (hw : Wrapped source barrier) (ha : AlternativesRead source barrier fuel) :
    BodyReads source barrier (fuel + 1) := by
  intro hc depth start
  rw [readBody]
  refine .bind (ha (depth + 1)) fun parts => .assuming fun hparts => ?_
  refine .bind (.exists_left (closeParenthesis_tame hw hc start)) fun _ => ?_
  exact .pure fun s hs => ⟨isPlain_ofItems hparts, hs⟩

/-- A group that only groups. -/
theorem readGroup_at {depth start : Nat} {first : Bool} {rest : Text}
    {Q : GroupOutcome → Reader → Prop}
    (h : Yields (Reader.At rest) (readBody fuel false depth start) fun body s =>
      Q (.part (.flagged {} {} body)) s) :
    Yields (Reader.At (63 :: 58 :: rest)) (readGroup (fuel + 1) false depth start first) Q := by
  rw [readGroup]
  refine .bind (accept_at (by decide)) fun opened => .assuming fun hopened => ?_
  subst hopened
  simp only [Bool.not_true, Bool.false_eq_true, if_false]
  refine .bind (take_at_plain (by decide)) fun t? => .assuming fun ht => ?_
  subst ht
  exact .bind h fun body => .pure fun s hs => hs

theorem groupReads_succ (hw : Wrapped source barrier) (hgroup : Grouping source barrier)
    (hb : BodyReads source barrier fuel) :
    GroupReads source barrier (fuel + 1) := by
  intro depth start first
  have hshape : ∀ s : Reader, s.Tame source barrier ∧ 40 :: s.rest <:+ source → ∃ rest,
      (41 ∉ barrier ∧ rest <:+ source ∧ barrier <:+ rest) ∧ s.At (63 :: 58 :: rest) := by
    intro s hs
    obtain ⟨⟨rest, hrest⟩, hc⟩ := hgroup s.rest hs.2
    have hsuffix := hs.1.barrier
    rw [← hrest] at hsuffix
    refine ⟨rest, ⟨hc, ?_, ?_⟩, ?_⟩
    · have hall := hs.1.clean.rest
      rw [← hrest] at hall
      exact (List.suffix_append [63, 58] rest).trans hall
    · have hcolon := suffix_of_not_mem hsuffix (List.suffix_refl _) (hw.not_mem (by decide))
      exact suffix_of_not_mem hcolon (List.suffix_refl _) (hw.not_mem (by decide))
    · have hat := hs.1.clean.at_rest
      rw [← hrest] at hat
      exact hat
  refine Yields.weaken (.exists_left fun rest => .assuming fun hrest => ?_) hshape
  refine readGroup_at ?_
  have hbody := (hb hrest.1 depth start).weaken fun s (hs : s.At rest) =>
    hs.tame hrest.2.1 hrest.2.2
  refine hbody.strengthen fun body s hs => ?_
  exact ⟨body, rfl, hs.1, hs.2⟩

/-- What everything in a text is read to. -/
structure Reads (source barrier : Text) (fuel : Nat) : Prop where
  sequence : SequenceReads source barrier fuel
  others : OthersRead source barrier fuel
  alternatives : AlternativesRead source barrier fuel
  body : BodyReads source barrier fuel
  group : GroupReads source barrier fuel

/-- **Everything in a wrapped text is read to plain parts**, and up to the end of the wrapping. -/
theorem reads (hw : Wrapped source barrier) (hgroup : Grouping source barrier) (fuel : Nat) :
    Reads source barrier fuel := by
  induction fuel with
  | zero =>
      constructor
      · intro depth first parts hparts
        rw [readSequence]
        exact .fault
      · intro depth parts
        rw [readOthers]
        exact .fault
      · intro depth
        rw [readAlternatives]
        exact .fault
      · intro hc depth start
        rw [readBody]
        exact .fault
      · intro depth start first
        rw [readGroup]
        exact .fault
  | succ fuel ih =>
      constructor
      · exact sequenceReads_succ hw ih.sequence ih.group
      · exact othersRead_succ hw ih.sequence ih.others
      · exact alternativesRead_succ ih.sequence ih.others
      · exact bodyReads_succ hw ih.alternatives
      · exact groupReads_succ hw hgroup ih.body

end

end

/-! ## Known beginnings -/

section
variable {depth : Nat} {first : Bool} {parts : List Regex} {rest : Text}
    {Q : List Regex → Reader → Prop}

/-- A sequence in front of an escape. -/
theorem readSequence_escape {c : CodePoint} (h : ∀ fuel, Yields (Reader.At rest)
      (readEscape c >>= fun r => readSequence fuel false depth first (r :: parts)) Q) (fuel : Nat) :
    Yields (Reader.At (92 :: c :: rest)) (readSequence fuel false depth first parts) Q := by
  cases fuel with
  | zero =>
      rw [readSequence]
      exact .fault
  | succ fuel =>
      rw [readSequence]
      simp only [Bool.false_and, Bool.false_eq_true, if_false]
      split
      · exact .bind_never .fault
      refine .bind .get_same fun here => ?_
      refine .bind (Q := fun t? s => t? = some (.escape c) ∧ s.At (92 :: c :: rest))
        (.peek fun s hs => ⟨by rw [Reader.next?, hs.rest_eq]; rfl, hs⟩) fun t? =>
          .assuming fun ht => ?_
      subst ht
      exact .bind take_at_escape fun _ => (h fuel).weaken fun _ hs => hs.2

/-- A sequence in front of a group that only groups. -/
theorem readSequence_group {R : Regex → Reader → Prop}
    (hb : ∀ fuel start, Yields (Reader.At rest) (readBody fuel false depth start) R)
    (h : ∀ fuel body, Yields (R body) (readSequence fuel false depth first
      (.flagged {} {} body :: parts)) Q)
    (fuel : Nat) :
    Yields (Reader.At (40 :: 63 :: 58 :: rest)) (readSequence fuel false depth first parts) Q := by
  cases fuel with
  | zero =>
      rw [readSequence]
      exact .fault
  | succ fuel =>
      rw [readSequence]
      simp only [Bool.false_and, Bool.false_eq_true, if_false]
      split
      · exact .bind_never .fault
      refine .bind .get_same fun here => ?_
      refine .bind (Q := fun t? s => t? = some (.plain 40) ∧ s.At (40 :: 63 :: 58 :: rest))
        (.peek fun s hs => ⟨Reader.next?_of_rest hs.rest_eq (by decide), hs⟩) fun t? =>
          .assuming fun ht => ?_
      subst ht
      refine .bind (take_at_plain (by decide)) fun _ => .assuming fun _ => ?_
      have hgroup : ∀ start first', Yields (Reader.At (63 :: 58 :: rest))
        (readGroup fuel false depth start first')
          fun outcome s => ∃ body, outcome = .part (.flagged {} {} body) ∧ R body s := by
        intro start first'
        cases fuel with
        | zero =>
            rw [readGroup]
            exact .fault
        | succ fuel =>
            exact readGroup_at ((hb fuel start).strengthen fun body s hs => ⟨body, rfl, hs⟩)
      refine .bind (hgroup here.position (first && parts.isEmpty)) fun outcome => ?_
      refine .exists_left fun body => .assuming fun houtcome => ?_
      subst houtcome
      exact h fuel body

theorem readSequence_nil (fuel : Nat) :
    Yields (Reader.At []) (readSequence fuel false depth first parts) fun _ => Reader.At [] := by
  cases fuel with
  | zero =>
      rw [readSequence]
      exact .fault
  | succ fuel =>
      rw [readSequence]
      simp only [Bool.false_and, Bool.false_eq_true, if_false]
      split
      · exact .bind_never .fault
      refine .bind .get_same fun here => ?_
      refine .bind (Q := fun t? s => t? = none ∧ s.At [])
        (.peek fun s hs => ⟨by rw [Reader.next?, hs.rest_eq], hs⟩)
        fun t? => .assuming fun ht => ?_
      subst ht
      exact .pure fun _ hs => hs

theorem readOthers_nil (fuel : Nat) :
    Yields (Reader.At []) (readOthers fuel false depth) fun others _ => others = [] := by
  cases fuel with
  | zero =>
      rw [readOthers]
      exact .fault
  | succ fuel =>
      rw [readOthers]
      refine .bind (Q := fun accepted _ => accepted = false) ?_ fun accepted => ?_
      · refine .bind (Q := fun t? s => t? = none)
          (.peek fun s hs => by rw [Reader.next?, hs.rest_eq]) fun t? => ?_
        intro s a s' ht he
        subst ht
        cases he
        rfl
      · intro s a s' ht he
        subst ht
        cases he
        rfl

end

/-! ## Whole patterns -/

/-- The alternatives of a whole pattern, in their order. -/
def readTopLevel (fuel : Nat) (verbose : Bool) : Reading (List (List Regex)) := do
  let first ← readSequence fuel verbose 1 true []
  let others ← readOthers fuel verbose 0
  return first :: others

theorem readAlternatives_zero (fuel : Nat) (verbose : Bool) :
    readAlternatives (fuel + 1) verbose 0 = partsOfAlternatives <$> readTopLevel fuel verbose := by
  rw [readAlternatives, readTopLevel]
  simp only [map_bind, map_pure]
  rfl

section
variable {tool : Text}

theorem anchor_eq (tool : Text) :
    RuleText.anchor tool = 92 :: 65 :: 40 :: 63 :: 58 :: (tool ++ [41, 92, 90]) := rfl

/-- Reading a wrapped text begins with the start of the text. -/
theorem readSequence_anchor {depth : Nat} {first : Bool} {Q : List Regex → Reader → Prop}
    (h : ∀ fuel, Yields (Reader.At (40 :: 63 :: 58 :: (tool ++ [41, 92, 90])))
      (readSequence fuel false depth first [.anchor .textStart]) Q) (fuel : Nat) :
    Yields (Reader.At (RuleText.anchor tool)) (readSequence fuel false depth first []) Q := by
  rw [anchor_eq]
  have hstart : readEscape 65 = pure (.anchor .textStart) := rfl
  exact readSequence_escape (fun fuel => by rw [hstart, pure_bind]; exact h fuel) fuel

/-- Only the parenthesis of the wrapping opens a group. -/
theorem grouping_anchor (h : 40 ∉ tool) : Grouping (RuleText.anchor tool) [92, 90] := by
  rintro after ⟨front, hfront⟩
  rw [anchor_eq] at hfront
  have htail : 40 ∉ 63 :: 58 :: (tool ++ [41, 92, 90]) := by simp [h]
  match front with
  | [] => cases hfront
  | [x] => cases hfront
  | [x, y] =>
      cases hfront
      exact ⟨List.prefix_append [63, 58] _, by decide⟩
  | x :: y :: z :: front =>
      injection hfront with _ hfront
      injection hfront with _ hfront
      injection hfront with _ hfront
      rw [← hfront] at htail
      exact absurd (List.mem_append_right front (List.mem_cons_self ..)) htail

theorem wrapped_anchor (tool : Text) : Wrapped (RuleText.anchor tool) [92, 90] := by
  refine ⟨Or.inr (Or.inl rfl), fun _ ⟨front, hfront⟩ => ?_⟩
  have hend : RuleText.anchor tool = (92 :: 65 :: 40 :: 63 :: 58 :: tool) ++ [41, 92, 90] := rfl
  rw [hend] at hfront
  cases (List.append_inj' hfront rfl).2

/-- Behind the parenthesis that opens the group of the wrapping, none opens a group. -/
theorem grouping_tool (h : 40 ∉ tool) : Grouping (tool ++ [41, 92, 90]) [41, 92, 90] := by
  intro after hafter
  have hmem := hafter.subset (List.mem_cons_self ..)
  exact absurd hmem (by simp [h])

/-- Unless a backslash stands in front of it, the parenthesis of the wrapping is a token. -/
theorem wrapped_parenthesis (h : tool.getLast? ≠ some 92) :
    Wrapped (tool ++ [41, 92, 90]) [41, 92, 90] := by
  refine ⟨Or.inr (Or.inr rfl), fun _ ⟨front, hfront⟩ => h ?_⟩
  have hfront' : (front ++ [92]) ++ [41, 92, 90] = tool ++ [41, 92, 90] := by
    rw [← hfront, List.append_assoc]
    rfl
  rw [← List.append_cancel_right hfront', List.getLast?_concat]

/-- The alternatives of a wrapped text: the first begins with the start of the text, and if
everything has been read, the last ends with its end. -/
theorem readTopLevel_bounds (h : 40 ∉ tool) (fuel : Nat) :
    Yields (Reader.At (RuleText.anchor tool)) (readTopLevel fuel false) fun alternatives s =>
      ∃ first others, alternatives = first :: others ∧
        (∀ parts ∈ alternatives, ∀ r ∈ parts, isPlain r = true) ∧
        first.head? = some (.anchor .textStart) ∧
          s.Read (RuleText.anchor tool) [92, 90] (others.getLastD first) := by
  have hreads := reads (wrapped_anchor tool) (grouping_anchor h)
  have hinside : ∀ s : Reader, s.At (40 :: 63 :: 58 :: (tool ++ [41, 92, 90])) →
      s.Read (RuleText.anchor tool) [92, 90] [.anchor .textStart] := by
    intro s hs
    refine .ahead (hs.tame (List.suffix_append [92, 65] _) ?_)
    exact ((List.suffix_append [41] [92, 90]).trans (List.suffix_append tool _)).trans
      (List.suffix_append [40, 63, 58] _)
  unfold readTopLevel
  refine .bind (Q := fun first s => (∀ r ∈ first, isPlain r = true) ∧
    first.head? = some (.anchor .textStart) ∧ s.Read (RuleText.anchor tool) [92, 90] first) ?_
      fun first => .assuming fun hplain => .assuming fun hhead => ?_
  · refine readSequence_anchor (fun fuel => ?_) fuel
    have hsequence := (hreads fuel).sequence 1 true [.anchor .textStart]
      (List.forall_mem_singleton.2 rfl)
    exact (hsequence.weaken hinside).strengthen fun result s hs =>
      ⟨hs.plain, hs.begins _ rfl, hs.read⟩
  · refine .bind ((hreads fuel).others 0 first) fun others => .pure fun s hs => ?_
    exact ⟨first, others, rfl, List.forall_mem_cons.2 ⟨hplain, hs.1⟩, hhead, hs.2⟩

theorem Reader.Read.tame_of_mem {source barrier : Text} {last : List Regex} {s : Reader}
    (h : s.Read source barrier last) (hb : 41 ∈ barrier) : s.Tame source barrier := by
  cases h with
  | ahead h => exact h
  | ended hbarrier => exact absurd hb hbarrier

/-- Closing a group in front of a barrier that begins with its parenthesis: either that one has been
taken, or it is ahead still. -/
theorem closeParenthesis_barrier {source rest : Text} (hw : Wrapped source (41 :: rest))
    (start : Nat) :
    Yields (Reader.Tame source (41 :: rest)) (closeParenthesis start) fun _ s =>
      s.At rest ∨ s.Tame source (41 :: rest) := by
  have htake : Yields (fun s => s.next? = some (.plain 41) ∧ s.Tame source (41 :: rest)) take
    fun _ s =>
      s.At rest ∨ s.Tame source (41 :: rest) := by
    intro s t? s' hs he
    obtain ⟨ht, hclean, -, htame | ⟨t, ht', hb⟩⟩ := take_tame hw hs.2 he
    · exact Or.inr htame
    · rw [ht, hs.1] at ht'
      cases ht'
      rw [(List.cons.inj hb).2]
      exact Or.inl hclean.at_rest
  unfold closeParenthesis
  refine .bind (Q := fun closed s => closed = true → s.At rest ∨ s.Tame source (41 :: rest)) ?_
    fun closed => ?_
  · refine .bind .peek_same fun t? => ?_
    split
    · next ht =>
        subst ht
        exact .bind htake fun _ => .pure fun s hs _ => hs
    · exact .pure fun s _ h => (by cases h)
  · split
    · exact .bind (Q := fun _ _ => True) (.get fun _ _ => trivial) fun _ => .flaw
    · next h =>
        rw [Bool.not_eq_true', Bool.not_eq_false] at h
        exact .pure fun s hs => hs h

/-- Where the tool pattern does not end with a backslash, only the parenthesis of the wrapping
closes the group, or what is read stops in front of it. -/
theorem readBody_single (h : 40 ∉ tool) (hlast : tool.getLast? ≠ some 92) (depth fuel start : Nat) :
    Yields (Reader.At (tool ++ [41, 92, 90])) (readBody fuel false depth start) fun body s =>
      isPlain body = true ∧ (s.At [92, 90] ∨ s.Tame (tool ++ [41, 92, 90]) [41, 92, 90]) := by
  have hw := wrapped_parenthesis hlast
  cases fuel with
  | zero =>
      rw [readBody]
      exact .fault
  | succ fuel =>
      rw [readBody]
      have halternatives := (reads hw (grouping_tool h) fuel).alternatives (depth + 1)
      refine .bind (halternatives.weaken fun s hs =>
        hs.tame (List.suffix_refl _) (List.suffix_append _ _)) fun parts => ?_
      refine .assuming fun hparts => .exists_left fun last => ?_
      refine .bind ((closeParenthesis_barrier hw start).weaken fun s hs => ?_) fun _ => ?_
      · exact hs.tame_of_mem (List.mem_cons_self ..)
      · exact .pure fun s hs => ⟨isPlain_ofItems hparts, hs⟩

/-- Where the tool pattern does not end with a backslash there is one alternative only. -/
theorem readTopLevel_single (h : 40 ∉ tool) (hlast : tool.getLast? ≠ some 92) (fuel : Nat) :
    Yields (Reader.At (RuleText.anchor tool)) (readTopLevel fuel false) fun alternatives s =>
      s.rest = [] → alternatives.length = 1 := by
  have hw := wrapped_parenthesis hlast
  have hreads := reads hw (grouping_tool h)
  have hstopped : ∀ (s : Reader) (last : List Regex),
    s.Read (tool ++ [41, 92, 90]) [41, 92, 90] last → s.rest ≠ [] := by
    intro s last hs hnil
    have hbarrier := (hs.tame_of_mem (List.mem_cons_self ..)).barrier
    rw [hnil] at hbarrier
    cases List.suffix_nil.1 hbarrier
  unfold readTopLevel
  refine .bind (Q := fun _ s => s.At [] ∨ ∃ last, s.Read (tool ++ [41, 92, 90]) [41, 92, 90] last)
    ?_ fun first => ?_
  · refine readSequence_anchor (readSequence_group (readBody_single h hlast 1) fun fuel body => ?_)
      fuel
    refine .assuming fun hbody => .or ?_ ?_
    · refine readSequence_escape (fun fuel => ?_) fuel
      have hend : readEscape 90 = pure (.anchor .textEnd) := rfl
      rw [hend, pure_bind]
      exact (readSequence_nil fuel).strengthen fun _ _ => Or.inl
    · have hsequence := (hreads fuel).sequence 1 true [.flagged {} {} body, .anchor .textStart]
        (List.forall_mem_cons.2 ⟨hbody, List.forall_mem_singleton.2 rfl⟩)
      exact (hsequence.weaken fun _ => .ahead).strengthen fun result s hs =>
        Or.inr ⟨result, hs.read⟩
  · refine .or ?_ (.exists_left fun last => ?_)
    · exact .bind (readOthers_nil fuel) fun others => .pure fun s hs _ => by rw [hs]; rfl
    · refine .bind ((hreads fuel).others 0 last) fun others => .pure fun s hs hnil => ?_
      exact absurd hnil (hstopped s _ hs.2)

end

end ToolPolicy.Regex
