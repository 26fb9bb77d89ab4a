import ToolPolicy.Proofs.MatchBounds
import ToolPolicy.Regex.Parser

/-!
# Reading a tool pattern

The text for a tool is wrapped before it is read, and it has no parenthesis that opens a group of
its own. So little of the syntax of patterns is within its reach: no group records, no option
changes, nothing looks around. And the end of the wrapping, a condition on the position, is a token
of its own wherever the text ends before it. Code points stand as numbers: 40 and 41 for the
parentheses, 63 and 58 for the sign of a group that only groups, 92 for the backslash, 90 for the
letter of the condition.

* `Yields`: what a reader leads to if it succeeds, with a rule for each way to combine readers.
* `Reader.Tame`: the states while such a text is read, up to a barrier.
* `take_tame`: taking a token, with the one case in which it is where the barrier begins.
* `readEscape_tame`, `readClass_tame`, `readCounts?_tame`: the readers of single parts.
-/

namespace ToolPolicy.Regex

open Reading

/-! ## What readers lead to -/

/-- A reader that leads from states of one kind to results and states of another if it succeeds. -/
def Yields {α : Type} (P : Reader → Prop) (m : Reading α) (Q : α → Reader → Prop) : Prop :=
  ∀ s a s', P s → m s = .ok (a, s') → Q a s'

namespace Yields

variable {α β : Type} {P : Reader → Prop} {m : Reading α} {Q : α → Reader → Prop}

theorem bind {f : α → Reading β} {R : β → Reader → Prop} (h : Yields P m Q)
    (hf : ∀ a, Yields (Q a) (f a) R) :
    Yields P (m >>= f) R := by
  intro s b s' hs he
  change (m s >>= fun p => f p.1 p.2) = _ at he
  cases hm : m s with
  | error failure => rw [hm] at he; cases he
  | ok p =>
      rw [hm] at he
      exact hf p.1 p.2 b s' (h s p.1 p.2 hs hm) he

theorem pure {a : α} (h : ∀ s, P s → Q a s) : Yields P (pure a) Q := by
  intro s b s' hs he
  cases he
  exact h s hs

theorem get {Q : Reader → Reader → Prop} (h : ∀ s, P s → Q s s) :
    Yields P (MonadState.get : Reading Reader) Q := by
  intro s a s' hs he
  cases he
  exact h s hs

theorem get_same : Yields P (MonadState.get : Reading Reader) fun _ => P := get fun _ hs => hs

theorem peek {Q : Option Token → Reader → Prop} (h : ∀ s, P s → Q s.next? s) : Yields P peek Q := by
  intro s a s' hs he
  cases he
  exact h s hs

theorem peek_same :
    Yields P Reading.peek fun t? s => s.next? = t? ∧ P s := peek fun _ hs => ⟨rfl, hs⟩

theorem flaw {cause : Flaw.Cause} {back : Nat} : Yields P (flaw cause back : Reading α) Q := by
  intro s a s' hs he
  cases he

theorem fault {f : Fault} : Yields P (fault f : Reading α) Q := by
  intro s a s' hs he
  cases he

theorem weaken {P' : Reader → Prop} (h : Yields P m Q) (hP : ∀ s, P' s → P s) : Yields P' m Q :=
  fun s a s' hs he => h s a s' (hP s hs) he

theorem strengthen {Q' : α → Reader → Prop} (h : Yields P m Q) (hQ : ∀ a s, Q a s → Q' a s) :
    Yields P m Q' :=
  fun s a s' hs he => hQ a s' (h s a s' hs he)

/-- After a reader that never succeeds, nothing is read. -/
theorem bind_never {f : α → Reading β} {R : β → Reader → Prop} (h : Yields P m fun _ _ => False) :
    Yields P (m >>= f) R := .bind h fun _ _ _ _ hs => hs.elim

theorem or {P' : Reader → Prop} (h : Yields P m Q) (h' : Yields P' m Q) :
    Yields (fun s => P s ∨ P' s) m Q := by
  intro s a s' hs he
  rcases hs with hs | hs
  · exact h s a s' hs he
  · exact h' s a s' hs he

theorem exists_left {ι : Type} {P : ι → Reader → Prop} (h : ∀ i, Yields (P i) m Q) :
    Yields (fun s => ∃ i, P i s) m Q := by
  rintro s a s' ⟨i, hs⟩ he
  exact h i s a s' hs he

/-- What holds of the states before and does not depend on them is at hand. -/
theorem assuming {p : Prop} (h : p → Yields P m Q) : Yields (fun s => p ∧ P s) m Q :=
  fun s a s' hs he => h hs.1 s a s' hs.2 he

end Yields

/-! ## Texts and barriers -/

/-- A text that is read up to a barrier at its end, which is nothing or an end of the wrapping: the
parenthesis and the condition, or only the condition.  No token lies across its start. -/
structure Wrapped (source barrier : Text) : Prop where
  shape : barrier = [] ∨ barrier = [92, 90] ∨ barrier = [41, 92, 90]
  aligned : barrier ≠ [] → ¬92 :: barrier <:+ source

/-- Any text is read up to its very end. -/
theorem Wrapped.nil (source : Text) : Wrapped source [] := ⟨Or.inl rfl, fun h => absurd rfl h⟩

theorem Wrapped.not_mem {source barrier : Text} (hw : Wrapped source barrier) {c : CodePoint}
    (h : c ≠ 41 ∧ c ≠ 92 ∧ c ≠ 90) : c ∉ barrier := by
  rcases hw.shape with rfl | rfl | rfl <;> simp [h]

namespace Reader

/-- A state in which a text is read and nothing has been recorded or switched. -/
structure Clean (source : Text) (s : Reader) : Prop where
  rest : s.rest <:+ source
  widths : s.widths = []
  flags : s.flags = {}
  conditions : s.conditions = []

/-- A clean state in front of the barrier. -/
structure Tame (source barrier : Text) (s : Reader) : Prop where
  clean : s.Clean source
  barrier : barrier <:+ s.rest

/-- A clean state in front of a given text. -/
structure At (rest : Text) (s : Reader) : Prop where
  rest_eq : s.rest = rest
  clean : s.Clean rest

variable {source barrier rest : Text} {s : Reader}

theorem At.tame (h : s.At rest) (hr : rest <:+ source) (hb : barrier <:+ rest) :
    s.Tame source barrier :=
  ⟨⟨h.clean.rest.trans hr, h.clean.widths, h.clean.flags, h.clean.conditions⟩,
    by rw [h.rest_eq]; exact hb⟩

theorem Clean.at_rest (h : s.Clean source) : s.At s.rest :=
  ⟨rfl, List.suffix_refl _, h.widths, h.flags, h.conditions⟩

theorem Clean.tame_nil (h : s.Clean source) : s.Tame source [] := ⟨h, List.nil_suffix⟩

theorem next?_eq_some {t : Token} (h : s.next? = some t) : ∃ after, s.rest = t.text ++ after := by
  unfold next? at h
  split at h
  · cases h
  · next c hr => cases h; exact ⟨[], hr⟩
  · next c d after hr =>
      split at h
      · next hc => cases h; exact ⟨after, by rw [hr, hc]; rfl⟩
      · cases h; exact ⟨d :: after, hr⟩

theorem next?_eq_none (h : s.next? = none) : s.rest = [] := by
  unfold next? at h
  split at h
  · next hr => exact hr
  · cases h
  · split at h <;> cases h

theorem next?_of_rest {c : CodePoint} {after : Text} (h : s.rest = c :: after) (hc : c ≠ 92) :
    s.next? = some (.plain c) := by
  unfold next?
  rw [h]
  cases after with
  | nil => rfl
  | cons d after => exact if_neg hc

end Reader

/-- Of two ends of a text, the shorter one is an end of the longer one. -/
theorem suffix_of_le {a b t : Text} (ha : a <:+ t) (hb : b <:+ t) (h : a.length ≤ b.length) :
    a <:+ b :=
  List.suffix_of_suffix_length_le ha hb h

/-- An end of a text without some code point is behind every place of that code point. -/
theorem suffix_of_not_mem {a b t : Text} {c : CodePoint} (ha : a <:+ t) (hb : c :: b <:+ t)
    (hc : c ∉ a) : a <:+ b := by
  by_cases h : a.length ≤ b.length
  · exact suffix_of_le ha ((List.suffix_cons c b).trans hb) h
  · have hlong : c :: b <:+ a := suffix_of_le hb ha (by rw [List.length_cons]; omega)
    exact absurd (hlong.subset (List.mem_cons_self ..)) hc

/-! ## Taking tokens -/

section
variable {source barrier : Text}

/-- No token lies across the start of the barrier: a barrier that is ahead is behind the token that
is next, or begins with it. -/
theorem barrier_of_token (hw : Wrapped source barrier) (t : Token) {after : Text}
    (hb : barrier <:+ t.text ++ after) (hs : t.text ++ after <:+ source) :
    barrier <:+ after ∨ barrier = t.text ++ after := by
  by_cases hlen : barrier.length ≤ after.length
  · exact Or.inl (suffix_of_le hb (List.suffix_append _ _) hlen)
  · right
    obtain ⟨front, hfront⟩ := hb
    have hlong : barrier ≠ [] := by
      rintro rfl
      simp at hlen
    have hfrontLength := congrArg List.length hfront
    rw [List.length_append, List.length_append] at hfrontLength
    match t, front, hfront with
    | t, [], hfront => exact hfront
    | .plain c, x :: front, hfront =>
        simp only [Token.text, List.length_cons, List.length_nil] at hfrontLength
        omega
    | .escape c, [x], hfront =>
        cases hfront
        exact absurd hs (hw.aligned hlong)
    | .escape c, x :: y :: front, hfront =>
        simp only [Token.text, List.length_cons, List.length_nil] at hfrontLength
        omega

/-- Taking a token: the state stays in front of the barrier, unless the token begins the barrier. -/
theorem take_tame (hw : Wrapped source barrier) {s s' : Reader} {t? : Option Token}
    (hs : s.Tame source barrier) (h : take s = .ok (t?, s')) :
    t? = s.next? ∧ s'.Clean source ∧ (∀ t, t? = some t → s.rest = t.text ++ s'.rest) ∧
      (s'.Tame source barrier ∨ ∃ t, t? = some t ∧ barrier = t.text ++ s'.rest) := by
  unfold take at h
  split at h
  · next hn =>
      cases h
      exact ⟨hn.symm, hs.clean, fun t ht => (by cases ht), Or.inl hs⟩
  · next t hn =>
      obtain ⟨after, hrest⟩ := Reader.next?_eq_some hn
      have hdrop : s.rest.drop t.length = after := by
        rw [hrest]
        cases t <;> rfl
      rw [hdrop] at h
      unfold checkNext at h
      split at h
      · cases h
      · cases h
        have hsuffix := hs.clean.rest
        rw [hrest] at hsuffix
        have hbarrier := hs.barrier
        rw [hrest] at hbarrier
        have hclean : Reader.Clean source
          { s with rest := after, position := s.position + t.length } :=
          ⟨(List.suffix_append _ _).trans hsuffix, hs.clean.widths, hs.clean.flags,
            hs.clean.conditions⟩
        refine ⟨hn.symm, hclean, fun t' ht => ?_, ?_⟩
        · cases ht
          exact hrest
        · rcases barrier_of_token hw t hbarrier hsuffix with hb | hb
          · exact Or.inl ⟨hclean, hb⟩
          · exact Or.inr ⟨t, rfl, hb⟩

/-- Taking a token that is known. -/
theorem take_at {t : Token} {rest : Text}
    (ht : ∀ s : Reader, s.rest = t.text ++ rest → s.next? = some t) :
    Yields (Reader.At (t.text ++ rest)) take fun t? s => t? = some t ∧ s.At rest := by
  intro s t? s' hs h
  obtain ⟨heq, hclean, hrest, -⟩ := take_tame (.nil (t.text ++ rest)) hs.clean.tame_nil h
  rw [ht s hs.rest_eq] at heq
  have hboth := hrest t heq
  rw [hs.rest_eq] at hboth
  refine ⟨heq, ?_⟩
  rw [List.append_cancel_left hboth]
  exact hclean.at_rest

theorem take_at_plain {c : CodePoint} {rest : Text} (hc : c ≠ 92) :
    Yields (Reader.At (c :: rest)) take fun t? s => t? = some (.plain c) ∧ s.At rest :=
  take_at fun _ hs => Reader.next?_of_rest hs hc

theorem take_at_escape {c : CodePoint} {rest : Text} :
    Yields (Reader.At (92 :: c :: rest)) take fun t? s => t? = some (.escape c) ∧ s.At rest :=
  take_at (t := .escape c) fun s hs => by rw [Reader.next?, hs]; rfl

theorem accept_at {c : CodePoint} {rest : Text} (hc : c ≠ 92) :
    Yields (Reader.At (c :: rest)) (accept c) fun accepted s => accepted = true ∧ s.At rest := by
  refine .bind (Q := fun t? s => t? = some (.plain c) ∧ s.At (c :: rest))
    (.peek fun s hs => ⟨Reader.next?_of_rest hs.rest_eq hc, hs⟩) fun t? => .assuming fun ht => ?_
  rw [if_pos ht]
  exact .bind (take_at_plain hc) fun _ => .pure fun _ hs => ⟨rfl, hs.2⟩

/-- Taking a plain token: only the parenthesis of the wrapping is in the barrier. -/
theorem take_plain_tame (hw : Wrapped source barrier) {c : CodePoint} (hc : c ≠ 41 ∨ 41 ∉ barrier) :
    Yields (fun s => s.next? = some (.plain c) ∧ s.Tame source barrier) take fun _ =>
      Reader.Tame source barrier := by
  intro s t? s' hs h
  obtain ⟨ht, -, hrest, htame | ⟨t, ht', hb⟩⟩ := take_tame hw hs.2 h
  · exact htame
  · have htext := hrest t ht'
    rw [ht, hs.1] at ht'
    cases ht'
    rcases hw.shape with hshape | hshape | hshape
    · rw [hshape] at hb
      cases hb
    · -- what is left is the condition, which is an escape
      rw [← hb, hshape] at htext
      have hnext := hs.1
      rw [Reader.next?, htext] at hnext
      cases hnext
    · rw [hshape] at hb hc
      rcases hc with hc | hc
      · exact absurd (List.cons.inj hb).1.symm hc
      · exact absurd (List.mem_cons_self ..) hc

theorem accept_tame (hw : Wrapped source barrier) {c : CodePoint} (hc : c ≠ 41 ∨ 41 ∉ barrier) :
    Yields (Reader.Tame source barrier) (accept c) fun _ => Reader.Tame source barrier := by
  refine .bind .peek_same fun t? => ?_
  split
  · next ht =>
      subst ht
      exact .bind (take_plain_tame hw hc) fun _ => .pure fun _ hs => hs
  · exact .pure fun _ hs => hs.2

/-- Taking code points of a class without the parenthesis. -/
theorem takeSome_tame (hw : Wrapped source barrier) {p : CodePoint → Bool} (hp : p 41 = false)
    (n : Nat) :
    Yields (Reader.Tame source barrier) (takeSome p n) fun _ => Reader.Tame source barrier := by
  induction n with
  | zero => exact .pure fun _ hs => hs
  | succ n ih =>
      rw [takeSome]
      refine .bind .peek_same fun t? => ?_
      split
      · next c =>
          split
          · next hc =>
              have hne : c ≠ 41 := by
                rintro rfl
                rw [hp] at hc
                cases hc
              exact .bind (take_plain_tame hw (Or.inl hne)) fun _ => .bind ih fun _ =>
                .pure fun _ hs => hs
          · exact .pure fun _ hs => hs.2
      · exact .pure fun _ hs => hs.2

theorem takeAll_tame (hw : Wrapped source barrier) {p : CodePoint → Bool} (hp : p 41 = false) :
    Yields (Reader.Tame source barrier) (takeAll p) fun _ => Reader.Tame source barrier :=
  .bind .get_same fun _ => takeSome_tame hw hp _

/-- A reader that stops behind a given code point stays in front of a barrier without it. -/
theorem Yields.tame_of_ended {α : Type} {m : Reading α} {c : CodePoint} (hc : c ∉ barrier)
    (h : ∀ source, Yields (Reader.Clean source) m fun _ s => s.Clean source ∧
      c :: s.rest <:+ source) :
    Yields (Reader.Tame source barrier) m fun _ => Reader.Tame source barrier := by
  intro s a s' hs he
  obtain ⟨hclean, hended⟩ := h s.rest s a s'
    ⟨List.suffix_refl _, hs.clean.widths, hs.clean.flags, hs.clean.conditions⟩ he
  refine ⟨⟨hclean.rest.trans hs.clean.rest, hclean.widths, hclean.flags, hclean.conditions⟩, ?_⟩
  exact suffix_of_not_mem hs.barrier hended hc

/-- What is taken from a clean state is a part of the text. -/
theorem take_clean : Yields (Reader.Clean source) take fun t? s =>
    s.Clean source ∧ ∀ t, t? = some t → t.text ++ s.rest <:+ source := by
  intro s t? s' hs h
  obtain ⟨-, hclean, hrest, -⟩ := take_tame (.nil source) hs.tame_nil h
  refine ⟨hclean, fun t ht => ?_⟩
  rw [← hrest t ht]
  exact hs.rest

theorem takeName_clean (terminator : CodePoint) (what : Text) :
    Yields (Reader.Clean source) (takeName terminator what)
    fun _ s => s.Clean source ∧ terminator :: s.rest <:+ source := by
  have hgo : ∀ n name, Yields (Reader.Clean source) (takeName.go terminator what n name)
      fun _ s => s.Clean source ∧ terminator :: s.rest <:+ source := by
    intro n
    induction n with
    | zero => exact fun _ => .flaw
    | succ n ih =>
        intro name
        rw [takeName.go]
        refine .bind take_clean fun t? => ?_
        split
        · split
          · exact .flaw
          · exact .flaw
        · next t =>
            split
            · next ht =>
                split
                · exact .flaw
                · refine .pure fun s hs => ⟨hs.1, ?_⟩
                  rw [ht] at hs
                  exact hs.2 _ rfl
            · exact (ih _).weaken fun s hs => hs.1
  exact .bind .get_same fun s => hgo _ _

/-! ## Escapes -/

theorem readHexEscape_tame (hw : Wrapped source barrier) (letter : CodePoint) (count : Nat) :
    Yields (Reader.Tame source barrier) (readHexEscape letter count) fun _ =>
      Reader.Tame source barrier := by
  refine .bind (takeSome_tame hw (by decide) count) fun digits => ?_
  simp only
  split
  · exact .flaw
  · split
    · exact .pure fun _ hs => hs
    · split
      · exact .flaw
      · exact .fault

theorem readNamedEscape_tame (hw : Wrapped source barrier) :
    Yields (Reader.Tame source barrier) readNamedEscape fun _ => Reader.Tame source barrier := by
  unfold readNamedEscape
  refine .bind (accept_tame hw (Or.inl (by decide))) fun opened => ?_
  simp only
  have hname : ∀ what, Yields (Reader.Tame source barrier) (takeName 125 what) fun _ =>
    Reader.Tame source barrier :=
    fun what => .tame_of_ended (hw.not_mem (by decide)) fun source => takeName_clean 125 what
  split
  · exact .bind_never .flaw
  · refine .bind (hname _) fun name => ?_
    split
    · exact .bind_never .flaw
    split
    · exact .pure fun _ hs => hs
    · exact .flaw

theorem readNumericEscape?_tame (hw : Wrapped source barrier) {c : CodePoint}
    {m : Reading CodePoint} (h : readNumericEscape? c = some m) :
    Yields (Reader.Tame source barrier) m fun _ => Reader.Tame source barrier := by
  unfold readNumericEscape? at h
  split at h
  · cases h; exact readHexEscape_tame hw _ _
  · split at h
    · cases h; exact readHexEscape_tame hw _ _
    · split at h
      · cases h; exact readHexEscape_tame hw _ _
      · split at h
        · cases h; exact readNamedEscape_tame hw
        · cases h

theorem octalValue_tame (digits : Text) :
    Yields (Reader.Tame source barrier) (octalValue digits) fun _ =>
      Reader.Tame source barrier := by
  unfold octalValue
  simp only
  split
  · exact .flaw
  · exact .pure fun _ hs => hs

/-- There is no group to refer to. -/
theorem readBackref_tame (digits : Text) {Q : Regex → Reader → Prop} :
    Yields (Reader.Tame source barrier) (readBackref digits) Q := by
  unfold readBackref
  simp only
  refine .bind (Q := fun s t => s.widths = [] ∧ t.Tame source barrier)
    (.get fun _ hs => ⟨hs.clean.widths, hs⟩) fun s => ?_
  refine .assuming fun hwidths => ?_
  split
  · next hindex =>
      rw [Reader.groupCount, hwidths, List.length_nil] at hindex
      have hopen : s.isClosed (Text.toNatBase 10 digits) = false := by
        rw [Nat.lt_one_iff.1 hindex]
        rfl
      rw [hopen]
      exact .bind_never .flaw
  · exact .flaw

theorem readEscape_tame (hw : Wrapped source barrier) (c : CodePoint) :
    Yields (Reader.Tame source barrier) (readEscape c) fun r s => isPlain r = true ∧
      s.Tame source barrier := by
  have htest : ∀ test, Yields (Reader.Tame source barrier) (pure (.one test) : Reading Regex)
      fun r s => isPlain r = true ∧ s.Tame source barrier := fun _ => .pure fun _ hs => ⟨rfl, hs⟩
  unfold readEscape
  split
  · exact .pure fun _ hs => ⟨rfl, hs⟩
  split
  · exact htest _
  split
  · exact htest _
  split
  · next hm => exact .bind (readNumericEscape?_tame hw hm) fun _ => htest _
  split
  · exact .bind (takeSome_tame hw (by decide) 2) fun _ => htest _
  split
  · refine .bind (takeSome_tame hw (by decide) 1) fun second => ?_
    simp only
    split
    · refine .bind (takeSome_tame hw (by decide) 1) fun third => ?_
      split
      · exact .bind (octalValue_tame _) fun _ => htest _
      · exact readBackref_tame _
    · exact readBackref_tame _
  · split
    · exact .flaw
    · exact htest _

/-! ## Classes -/

theorem readClassEscape_tame (hw : Wrapped source barrier) (c : CodePoint) :
    Yields (Reader.Tame source barrier) (readClassEscape c) fun _ =>
      Reader.Tame source barrier := by
  have hitem : ∀ item, Yields (Reader.Tame source barrier) (pure item : Reading ClassItem)
      fun _ => Reader.Tame source barrier := fun _ => .pure fun _ hs => hs
  unfold readClassEscape
  split
  · exact hitem _
  split
  · exact hitem _
  split
  · next hm => exact .bind (readNumericEscape?_tame hw hm) fun _ => hitem _
  split
  · exact .bind (takeSome_tame hw (by decide) 2) fun _ => .bind (octalValue_tame _) fun _ => hitem _
  · split
    · exact .flaw
    · exact hitem _

theorem Yields.clean {α : Type} {m : Reading α}
    (h : Yields (Reader.Tame source []) m fun _ => Reader.Tame source []) :
    Yields (Reader.Clean source) m fun _ => Reader.Clean source :=
  fun s a s' hs he => (h s a s' hs.tame_nil he).clean

theorem readClassMember_clean (t : Token) :
    Yields (Reader.Clean source) (readClassMember t) fun _ => Reader.Clean source := by
  cases t with
  | plain c => exact .pure fun _ hs => hs
  | escape c => exact .clean (readClassEscape_tame (.nil source) c)

theorem readMembers_clean (start fuel : Nat) (members : List ClassItem) :
    Yields (Reader.Clean source) (readMembers start fuel members)
      fun _ s => s.Clean source ∧ 93 :: s.rest <:+ source := by
  induction fuel generalizing members with
  | zero => exact .flaw
  | succ fuel ih =>
      rw [readMembers]
      refine .bind take_clean fun first? => ?_
      split
      · exact .bind (Q := fun _ _ => True) (.get fun _ _ => trivial) fun _ => .flaw
      · next first =>
          split
          · next hend =>
              rw [Bool.and_eq_true, decide_eq_true_eq] at hend
              refine .pure fun s hs => ⟨hs.1, ?_⟩
              exact hs.2 _ (congrArg some hend.1)
          · refine .bind ((readClassMember_clean first).weaken fun _ hs => hs.1) fun low => ?_
            refine .bind (.clean (accept_tame (.nil source) (Or.inl (by decide)))) fun ranged => ?_
            split
            · exact ih _
            · refine .bind take_clean fun last? => ?_
              split
              · exact .bind (Q := fun _ _ => True) (.get fun _ _ => trivial) fun _ => .flaw
              · next last =>
                  split
                  · next hend =>
                      refine .pure fun s hs => ⟨hs.1, ?_⟩
                      exact hs.2 _ (congrArg some hend)
                  · refine .bind ((readClassMember_clean last).weaken fun _ hs => hs.1) fun high =>
                      ?_
                    simp only
                    split
                    · split
                      · exact .flaw
                      · exact ih _
                    · exact .flaw

theorem readClass_tame (hw : Wrapped source barrier) :
    Yields (Reader.Tame source barrier) readClass fun _ => Reader.Tame source barrier := by
  unfold readClass
  refine .bind .get_same fun s => ?_
  simp only
  refine .bind (accept_tame hw (Or.inl (by decide))) fun negated => ?_
  refine .bind .get_same fun s => ?_
  refine .bind (.tame_of_ended (hw.not_mem (by decide)) fun source => readMembers_clean _ _ _)
    fun members => ?_
  exact .pure fun _ hs => hs

/-! ## Repetition -/

theorem readCount_tame (digits : Text) :
    Yields (Reader.Tame source barrier) (readCount digits) fun _ => Reader.Tame source barrier := by
  unfold readCount
  split
  · exact .bind_never .fault
  · simp only
    split
    · exact .bind_never .fault
    · exact .pure fun _ hs => hs

theorem backTo_tame {here : Reader} (h : here.Tame source barrier) :
    Yields (Reader.Tame source barrier) (backTo here) fun _ => Reader.Tame source barrier := by
  intro s a s' hs he
  unfold backTo checkNext at he
  split at he
  · cases he
  · cases he
    exact ⟨⟨h.clean.rest, hs.clean.widths, hs.clean.flags, hs.clean.conditions⟩, h.barrier⟩

theorem countsFrom_tame (here : Reader) (high : Text) (least : Nat) :
    Yields (Reader.Tame source barrier) (countsFrom here high least) fun _ =>
      Reader.Tame source barrier := by
  unfold countsFrom
  split
  · exact .pure fun _ hs => hs
  refine .bind (readCount_tame _) fun most => ?_
  simp only
  split
  · exact .bind (Q := fun _ _ => True) (.get fun _ _ => trivial) fun _ => .bind_never .flaw
  · exact .pure fun _ hs => hs

theorem closeCounts_tame (hw : Wrapped source barrier) {here : Reader}
    (hhere : here.Tame source barrier) (low high : Text) :
    Yields (Reader.Tame source barrier) (closeCounts here low high) fun _ =>
      Reader.Tame source barrier := by
  unfold closeCounts
  refine .bind (accept_tame hw (Or.inl (by decide))) fun closed => ?_
  split
  · exact .bind (backTo_tame hhere) fun _ => .pure fun _ hs => hs
  simp only
  split
  · exact .bind (.pure fun _ hs => hs) (countsFrom_tame here high)
  · exact .bind (readCount_tame _) (countsFrom_tame here high)

/-- Counts in braces: a brace may turn out to be a literal, and then reading goes back. -/
theorem bracedCounts_tame (hw : Wrapped source barrier) :
    Yields (Reader.Tame source barrier) bracedCounts fun _ => Reader.Tame source barrier := by
  have hdigits := takeAll_tame hw (p := CodePoint.isAsciiDigit) (by decide)
  unfold bracedCounts
  refine .bind (.strengthen .peek_same fun _ _ hs => hs.2) fun next? => ?_
  split
  · exact .pure fun _ hs => hs
  refine .bind (Q := fun here s => here.Tame source barrier ∧ s.Tame source barrier)
    (.get fun _ hs => ⟨hs, hs⟩) fun here => .assuming fun hhere => ?_
  have hclose := fun low high => closeCounts_tame hw hhere low high
  refine .bind hdigits fun low => .bind (accept_tame hw (Or.inl (by decide))) fun comma => ?_
  simp only
  split
  · exact .bind hdigits (hclose low)
  · exact .bind (.pure fun _ hs => hs) (hclose low)

theorem readCounts?_tame (hw : Wrapped source barrier) (sign : CodePoint) :
    Yields (Reader.Tame source barrier) (readCounts? sign) fun _ => Reader.Tame source barrier := by
  rw [readCounts?_eq]
  split
  · exact .pure fun _ hs => hs
  split
  · exact .pure fun _ hs => hs
  split
  · exact .pure fun _ hs => hs
  · exact bracedCounts_tame hw

theorem readGreed_tame (hw : Wrapped source barrier) :
    Yields (Reader.Tame source barrier) readGreed fun _ => Reader.Tame source barrier := by
  unfold readGreed
  refine .bind (accept_tame hw (Or.inl (by decide))) fun reluctant => ?_
  split
  · exact .pure fun _ hs => hs
  · refine .bind (accept_tame hw (Or.inl (by decide))) fun possessive => ?_
    split
    · exact .pure fun _ hs => hs
    · exact .pure fun _ hs => hs

end

end ToolPolicy.Regex
