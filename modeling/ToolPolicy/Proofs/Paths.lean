import Mathlib.Logic.Basic
import ToolPolicy.Proofs.Alternatives

/-!
# Where a pattern leads

The matcher looks for one way through a text, in an order, passes over parts that cannot begin, and
skips places where a code point is missing that has to follow. For a pattern without groups none of
this decides whether there is a match: the matcher finds one exactly if some way through the pattern
leads to a place from which the rest goes on.

* `Leads`: from where to where a pattern leads, with no order and nothing passed over.
* `Decides`: a continuation that finds something exactly where something is to be found.
* `Decides.run`: a pattern without groups in front of such a continuation is one again, for the
  places from which it leads to where the rest goes on; `Decides.capture` adds a group around it.
* `leads_partsOfAlternatives`: what is made from alternatives leads where one of them leads.
* `Pattern.isFoundIn_iff_passes`: when a pattern without groups is found in a text.
-/

namespace ToolPolicy.Regex

/-- A pattern without groups, in which only single tests are repeated, each as often as possible. -/
def isStraight : Regex → Bool
  | empty => true
  | one _ => true
  | anchor _ => true
  | seq a b => isStraight a && isStraight b
  | alt a b => isStraight a && isStraight b
  | rep .greedy _ _ (one _) => true
  | _ => false

/-- A pattern leads from a place to another one. -/
def Leads (subject : Subject) (flags : Flags) : Regex → Nat → Nat → Prop
  | empty, i, j => j = i
  | one t, i, j => subject.text[i]?.any (t.holds flags) = true ∧ j = i + 1
  | anchor a, i, j => a.holds subject flags i = true ∧ j = i
  | seq a b, i, j => ∃ m, Leads subject flags a i m ∧ Leads subject flags b m j
  | alt a b, i, j => Leads subject flags a i j ∨ Leads subject flags b i j
  | rep _ least most (one t), i, j => ∃ n, j = i + n ∧ least ≤ n ∧ (∀ m, most = some m → n ≤ m) ∧
      ∀ k < n, subject.text[i + k]?.any (t.holds flags) = true
  | _, _, _ => False

section
variable {subject : Subject} {flags : Flags} {i j : Nat}

@[simp] theorem leads_empty : Leads subject flags .empty i j ↔ j = i := Iff.rfl

@[simp] theorem leads_one {t : CharTest} : Leads subject flags (.one t) i j ↔
    subject.text[i]?.any (t.holds flags) = true ∧ j = i + 1 := Iff.rfl

@[simp] theorem leads_anchor {a : Anchor} : Leads subject flags (.anchor a) i j ↔
    a.holds subject flags i = true ∧ j = i := Iff.rfl

@[simp] theorem leads_seq {a b : Regex} : Leads subject flags (.seq a b) i j ↔
    ∃ m, Leads subject flags a i m ∧ Leads subject flags b m j := Iff.rfl

@[simp] theorem leads_alt {a b : Regex} : Leads subject flags (.alt a b) i j ↔
    Leads subject flags a i j ∨ Leads subject flags b i j := Iff.rfl

@[simp] theorem leads_rep {greed : Greed} {least : Nat} {most : Option Nat} {t : CharTest} :
    Leads subject flags (.rep greed least most (.one t)) i j ↔
      ∃ n, j = i + n ∧ least ≤ n ∧ (∀ m, most = some m → n ≤ m) ∧
        ∀ k < n, subject.text[i + k]?.any (t.holds flags) = true := Iff.rfl

end

/-! ## Outcomes -/

theorem Marks.restore_of_prefix {saved left : Marks} (h : saved <+: left) (repeated : Bool) :
    saved.restore repeated left = saved := by
  cases repeated with
  | true => rfl
  | false => exact (List.prefix_iff_eq_take.1 h).symm

/-- An outcome that is an admitted end, or a failure where there is none; a failure may add to the
records and does not change them. -/
inductive Settled (marks : Marks) (ends : State → Prop) : Outcome → Prop where
  | found {final : State} (h : ends final) : Settled marks ends (.found final)
  | failed {resume : Nat} {left : Marks} (none : ∀ final, ¬ends final) (keeps : marks <+: left) :
    Settled marks ends (.failed resume left)

namespace Settled

variable {marks : Marks} {ends ends' : State → Prop} {o : Outcome}

theorem congr (h : Settled marks ends o) (hends : ∀ final, ends final ↔ ends' final) :
    Settled marks ends' o := by
  cases h with
  | found h => exact .found ((hends _).1 h)
  | failed none keeps => exact .failed (fun final h => none final ((hends final).2 h)) keeps

theorem weaken {shorter : Marks} (h : Settled marks ends o) (hshorter : shorter <+: marks) :
    Settled shorter ends o := by
  cases h with
  | found h => exact .found h
  | failed none keeps => exact .failed none (hshorter.trans keeps)

theorem fail {s : State} (hs : s.marks = marks) (none : ∀ final, ¬ends final) :
    Settled marks ends s.fail :=
  .failed none (hs ▸ List.prefix_rfl)

theorem orElse {f : Nat → Marks → Outcome} (h : Settled marks ends o)
    (hf : ∀ resume left, marks <+: left → Settled marks ends' (f resume left)) :
    Settled marks (fun final => ends final ∨ ends' final) (o.orElse f) := by
  cases h with
  | found h => exact .found (.inl h)
  | @failed resume left none keeps =>
      refine (hf resume left keeps).congr fun final => ?_
      simp [none final]

theorem restoring (h : Settled marks ends o) (repeated : Bool) :
    Settled marks ends (o.restoring repeated marks) := by
  cases h with
  | found h => exact .found h
  | failed none keeps =>
      rw [Outcome.restoring, Marks.restore_of_prefix keeps]
      exact .failed none List.prefix_rfl

end Settled

/-- A continuation that, from a state with the given records, ends in one of the states to which
the place leads, and fails if it leads to none. -/
def Decides (marks : Marks) (ends : Nat → State → Prop) (k : Continuation) : Prop :=
  ∀ s : State, s.marks = marks → Settled marks (ends s.position) (k s)

theorem Decides.accepted (marks : Marks) :
    Decides marks (fun i final => final = ⟨i, i, marks⟩) accepted := by
  rintro s rfl
  exact .found rfl

/-! ## Repetition of one code point -/

section
variable {subject : Subject}

/-- The count of a repeated test is the greatest that its bound and the text admit. -/
theorem le_countWhile_iff (p : CodePoint → Bool) {n position bound : Nat} :
    n ≤ countWhile subject p position bound ↔
      n ≤ bound ∧ ∀ k < n, subject.text[position + k]?.any p = true := by
  induction bound generalizing n position with
  | zero =>
      rw [countWhile]
      constructor
      · intro h
        exact ⟨h, fun k hk => by omega⟩
      · exact fun h => h.1
  | succ bound ih =>
      cases n with
      | zero => simp
      | succ n =>
          have hshift : (∀ k < n + 1, subject.text[position + k]?.any p = true) ↔
              subject.text[position]?.any p = true ∧
                ∀ k < n, subject.text[position + 1 + k]?.any p = true := by
            constructor
            · intro h
              refine ⟨h 0 (Nat.succ_pos n), fun k hk => ?_⟩
              rw [Nat.add_right_comm]
              exact h (k + 1) (Nat.succ_lt_succ hk)
            · rintro ⟨hfirst, hrest⟩ k hk
              cases k with
              | zero => exact hfirst
              | succ k =>
                  have := hrest k (Nat.lt_of_succ_lt_succ hk)
                  rwa [Nat.add_right_comm] at this
          rw [hshift, countWhile]
          cases hat : subject.text[position]? with
          | none => simp
          | some c =>
              by_cases hc : p c = true
              · simp only [hc, if_true, Nat.add_le_add_iff_right, ih, Option.any_some, true_and]
              · simp [hc]

theorem le_countUpTo_iff (p : CodePoint → Bool) (most : Option Nat) {n position : Nat} :
    n ≤ countUpTo subject p most position ↔ (∀ m, most = some m → n ≤ m) ∧
      ∀ k < n, subject.text[position + k]?.any p = true := by
  have hroom : (∀ k < n, subject.text[position + k]?.any p = true) →
      n ≤ subject.text.size - position := by
    intro h
    cases n with
    | zero => exact Nat.zero_le _
    | succ n =>
        obtain ⟨c, hc, -⟩ := Option.any_eq_true _ _ |>.1 (h n (Nat.lt_succ_self n))
        have := (Array.getElem?_eq_some_iff.1 hc).1
        omega
  unfold countUpTo
  rw [le_countWhile_iff]
  cases most with
  | none => exact ⟨fun h => ⟨by simp, h.2⟩, fun h => ⟨hroom h.2, h.2⟩⟩
  | some m =>
      simp only [Option.some.injEq, forall_eq', Nat.le_min]
      exact ⟨fun h => ⟨h.1.1, h.2⟩, fun h => ⟨⟨h.1, hroom h.2⟩, h.2⟩⟩

variable {marks : Marks} {ends : Nat → State → Prop} {k : Continuation} {next : Option CodePoint}

/-- A code point that has to follow stands at every place from which the rest goes on. -/
def Awaits (subject : Subject) (next : Option CodePoint) (ends : Nat → State → Prop) : Prop :=
  ∀ c, next = some c → ∀ i final, ends i final → subject.text[i]? = some c

theorem Awaits.none : Awaits subject none ends := fun _ h => by cases h

/-- Giving back code points, each place is tried from which the rest can go on. -/
theorem settled_giveBack (hk : Decides marks ends k) (hnext : Awaits subject next ends)
    {start : State} (hs : start.marks = marks) (repeated : Bool) (least extra resume : Nat) :
    Settled marks (fun final => ∃ e ≤ extra, ends (start.position + least + e) final)
      (giveBack subject next repeated start least k extra resume marks) := by
  have htried : ∀ extra resume, Settled marks (ends (start.position + least + extra))
      (if next.all fun c => subject.text[start.position + least + extra]? == some c
        then k ⟨start.position + least + extra, start.position + least + extra, marks⟩
        else .failed resume marks) := by
    intro extra resume
    split
    · exact hk ⟨_, _, marks⟩ rfl
    · next hno =>
        refine .failed (fun final hfinal => hno ?_) List.prefix_rfl
        cases next with
        | none => rfl
        | some c => simpa using hnext c rfl _ _ hfinal
  induction extra generalizing resume with
  | zero =>
      rw [giveBack, hs]
      exact ((htried 0 resume).restoring repeated).congr fun final => by simp
  | succ extra ih =>
      have hfewer : ∀ resume left, marks <+: left →
          Settled marks (fun final => ∃ e ≤ extra, ends (start.position + least + e) final)
            (giveBack subject next repeated start least k extra resume
              (start.marks.restore repeated left)) := by
        intro resume left keeps
        rw [hs, Marks.restore_of_prefix keeps]
        exact ih resume
      rw [giveBack]
      refine ((htried (extra + 1) resume).orElse hfewer).congr fun final => ?_
      constructor
      · rintro (h | ⟨e, he, h⟩)
        · exact ⟨extra + 1, Nat.le_refl _, h⟩
        · exact ⟨e, Nat.le_succ_of_le he, h⟩
      · rintro ⟨e, he, h⟩
        rcases Nat.le_or_eq_of_le_succ he with he | rfl
        · exact .inr ⟨e, he, h⟩
        · exact .inl h

/-- A test that is repeated as often as possible leads to all places that the counts admit. -/
theorem Decides.repeatTest (hk : Decides marks ends k) (hnext : Awaits subject next ends)
    (repeated : Bool) (test : RepeatedTest) (least : Nat) (most : Option Nat) :
    Decides marks (fun i final => ∃ n, least ≤ n ∧ n ≤ countUpTo subject test.holds most i ∧
        ends (i + n) final)
      (repeatTest subject next repeated test .greedy least most · k) := by
  intro s hs
  have hcount : countUpTo subject test.holds most s.position ≤ subject.text.size - s.position :=
    countUpTo_le test.holds most s.position
  simp only [Regex.repeatTest]
  generalize countUpTo subject test.holds most s.position = count at hcount
  have hshort : count < least →
      ∀ final, ¬∃ n, least ≤ n ∧ n ≤ count ∧ ends (s.position + n) final := by
    rintro h final ⟨n, hleast, hn, -⟩
    omega
  split
  · exact .fail hs (hshort (by omega))
  · split
    · next h => exact .failed (hshort h) (hs ▸ List.prefix_rfl)
    · rw [hs]
      refine (settled_giveBack hk hnext hs repeated least (count - least) _).congr fun final => ?_
      constructor
      · rintro ⟨e, he, hfinal⟩
        exact ⟨least + e, by omega, by omega, Nat.add_assoc .. ▸ hfinal⟩
      · rintro ⟨n, hleast, hn, hfinal⟩
        refine ⟨n - least, by omega, ?_⟩
        rwa [Nat.add_assoc, Nat.add_sub_cancel' hleast]

/-! ## Patterns without groups -/

variable {flags : Flags}

theorem leads_of_leading_nothing {r : Regex} (h : leading flags r = .nothing) {i j : Nat}
    (hleads : Leads subject flags r i j) : j = i := by
  induction r generalizing i j with
  | empty => exact hleads
  | seq a b iha ihb =>
      rw [leading] at h
      obtain ⟨m, hfirst, hsecond⟩ := hleads
      cases ha : leading flags a with
      | nothing =>
          rw [ha] at h
          rw [ihb h hsecond, iha ha hfirst]
      | test inner t => rw [ha] at h; cases h
      | other => rw [ha] at h; cases h
  | flagged => cases hleads
  | _ => cases h

theorem leads_of_leading_test {r : Regex} {inner : Flags} {t : CharTest}
    (h : leading flags r = .test inner t) {i j : Nat} (hleads : Leads subject flags r i j) :
    subject.text[i]?.any (t.holds inner) = true := by
  induction r generalizing i j with
  | one test =>
      cases h
      exact hleads.1
  | seq a b iha ihb =>
      rw [leading] at h
      obtain ⟨m, hfirst, hsecond⟩ := hleads
      cases ha : leading flags a with
      | nothing =>
          rw [ha] at h
          rw [← leads_of_leading_nothing ha hfirst]
          exact ihb h hsecond
      | test inner' t' =>
          rw [ha] at h
          cases h
          exact iha ha hfirst
      | other => rw [ha] at h; cases h
  | flagged => cases hleads
  | _ => cases h

/-- What a part looks ahead for stands at every place from which it leads on. -/
theorem Awaits.literalAhead {r : Regex} (hnext : Awaits subject next ends) :
    Awaits subject (literalAhead flags r next)
      fun i final => ∃ j, Leads subject flags r i j ∧ ends j final := by
  rintro c hc i final ⟨j, hleads, hfinal⟩
  rw [Regex.literalAhead] at hc
  cases hl : leading flags r with
  | nothing =>
      rw [hl] at hc
      rw [← leads_of_leading_nothing hl hleads]
      exact hnext c hc j final hfinal
  | test inner t =>
      rw [hl] at hc
      obtain ⟨d, hd, hholds⟩ := Option.any_eq_true _ _ |>.1 (leads_of_leading_test hl hleads)
      rw [hd, (CharTest.holds_iff_of_onlyLiteral? hc d).1 hholds]
  | other => rw [hl] at hc; cases hc

/-- A part of a choice, whether the choice passes over it or not. -/
theorem Decides.tried {r : Regex} {repeated : Bool} (h : Decides marks ends
      (run subject flags repeated none r · k)) {s t : State} (hs : s.marks = marks)
    (ht : t.marks = marks) (hplace : t.position = s.position) :
    Settled marks (ends s.position) (if mayBegin subject flags r s.position
      then run subject flags repeated none r t k else s.fail) := by
  split
  · exact hplace ▸ h t ht
  · next hno =>
      rw [← run_of_not_mayBegin hno k]
      exact h s hs

/-- **The matcher finds a way if there is one.** A pattern without groups, in front
of a continuation that ends where a place leads, ends where the places lead to
which the pattern leads. -/
theorem Decides.run {r : Regex} (hr : isStraight r = true) (hk : Decides marks ends k)
    (hnext : Awaits subject next ends) (repeated : Bool) :
    Decides marks (fun i final => ∃ j, Leads subject flags r i j ∧ ends j final)
      (run subject flags repeated next r · k) := by
  induction r generalizing next ends k with
  | empty =>
      intro s hs
      exact (hk s hs).congr fun final => by simp
  | one t =>
      intro s hs
      simp only [Regex.run]
      split
      · next ht => exact (hk s.next hs).congr fun final => by simp [ht, State.next]
      · next ht => exact .fail hs fun final => by simp [ht]
  | anchor a =>
      intro s hs
      simp only [Regex.run]
      split
      · next ha => exact (hk s hs).congr fun final => by simp [ha]
      · next ha => exact .fail hs fun final => by simp [ha]
  | seq a b iha ihb =>
      rw [isStraight, Bool.and_eq_true] at hr
      intro s hs
      have hsecond := ihb hr.2 hk hnext
      refine (iha hr.1 hsecond hnext.literalAhead s hs).congr fun final => ?_
      constructor
      · rintro ⟨m, hfirst, j, hm, hj⟩
        exact ⟨j, ⟨m, hfirst, hm⟩, hj⟩
      · rintro ⟨j, ⟨m, hfirst, hm⟩, hj⟩
        exact ⟨m, hfirst, j, hm, hj⟩
  | alt a b iha ihb =>
      rw [isStraight, Bool.and_eq_true] at hr
      intro s hs
      have hfirst := iha hr.1 hk Awaits.none
      have hsecond := ihb hr.2 hk Awaits.none
      simp only [Regex.run]
      rw [hs]
      have hother : ∀ resume left, marks <+: left →
          Settled marks (fun final => ∃ j, Leads subject flags b s.position j ∧ ends j final)
            (let s := { s with resume, marks := marks.restore repeated left }
            if b.isChoice then Regex.run subject flags repeated none b s k
            else if mayBegin subject flags b s.position
            then Regex.run subject flags repeated none b s.settle k else s.fail) := by
        intro resume left keeps
        have hagain : marks.restore repeated left = marks := Marks.restore_of_prefix keeps repeated
        let again : State := ⟨s.position, resume, marks.restore repeated left⟩
        dsimp only
        split
        · exact hsecond again hagain
        · exact hsecond.tried (s := again) (t := again.settle) hagain hagain rfl
      refine (((hfirst.tried hs (t := s.settle) hs rfl).orElse hother).restoring repeated).congr
        fun final => ?_
      simp only [leads_alt, or_and_right, exists_or]
  | rep greed least most body ih =>
      cases greed with
      | greedy =>
          cases body with
          | one t =>
              intro s hs
              have hrep := hk.repeatTest hnext repeated ⟨t.holds flags, t.comparesForms flags⟩
                least most
              refine (hrep s hs).congr fun final => ?_
              simp only [leads_rep, le_countUpTo_iff]
              constructor
              · rintro ⟨n, hleast, ⟨hmost, hall⟩, hfinal⟩
                exact ⟨_, ⟨n, rfl, hleast, hmost, hall⟩, hfinal⟩
              · rintro ⟨_, ⟨n, rfl, hleast, hmost, hall⟩, hfinal⟩
                exact ⟨n, hleast, ⟨hmost, hall⟩, hfinal⟩
          | _ => cases hr
      | reluctant => cases hr
      | possessive => cases hr
  | capture | flagged | atomic | look | backref | cond => cases hr

/-! ## Groups -/

theorem Marks.record_length (marks : Marks) (position : Nat) :
    marks.record marks.length position = marks ++ [some position] := by
  rw [Marks.record, if_neg (Nat.lt_irrefl _), Nat.sub_self]
  simp

/-- A group with the next number records where its body begins and ends. -/
theorem Decides.capture {body : Regex} (hbody : isStraight body = true) {index : Nat}
    (hfresh : marks.length = 2 * index) {ends : Nat → Nat → Nat → State → Prop}
    (hk : ∀ i j, Decides (marks ++ [some i, some j]) (ends i j) k) (repeated : Bool) :
    Decides marks (fun i final => ∃ j, Leads subject flags body i j ∧ ends i j j final)
      (Regex.run subject flags repeated next (.capture (index + 1) body) · k) := by
  intro s hs
  have hfirst : marks.record (2 * (index + 1) - 2) s.position = marks ++ [some s.position] := by
    rw [show 2 * (index + 1) - 2 = marks.length by omega, Marks.record_length]
  have hlast : Decides (marks ++ [some s.position]) (fun j => ends s.position j j)
      fun t => k { t with marks := t.marks.record (2 * (index + 1) - 1) t.position } := by
    intro t ht
    have hlength : (marks ++ [some s.position]).length = 2 * (index + 1) - 1 := by
      rw [List.length_append, List.length_singleton]
      omega
    dsimp only
    rw [ht, ← hlength, Marks.record_length, List.append_assoc]
    exact (hk s.position t.position ⟨t.position, t.resume, _⟩ rfl).weaken
      (List.prefix_append_right_inj marks |>.2 ⟨[some t.position], rfl⟩)
  simp only [Regex.run]
  rw [hs, hfirst]
  exact (Decides.run hbody hlast Awaits.none repeated ⟨s.position, s.resume, _⟩ rfl).weaken
    (List.prefix_append _ _)

end

/-! ## Sequences and choices -/

section
variable {subject : Subject} {flags : Flags} {i j : Nat}

theorem leads_ofItems_cons {r : Regex} {rest : List Regex} :
    Leads subject flags (ofItems (r :: rest)) i j ↔
      ∃ m, Leads subject flags r i m ∧ Leads subject flags (ofItems rest) m j := by
  cases rest with
  | nil => simp [ofItems]
  | cons => rfl

theorem leads_ofItems_append {first second : List Regex} :
    Leads subject flags (ofItems (first ++ second)) i j ↔
      ∃ m, Leads subject flags (ofItems first) i m ∧ Leads subject flags (ofItems second) m j := by
  induction first generalizing i with
  | nil => simp [ofItems]
  | cons r rest ih =>
      simp only [List.cons_append, leads_ofItems_cons, ih]
      constructor
      · rintro ⟨a, hr, b, hrest, hsecond⟩
        exact ⟨b, ⟨a, hr, hrest⟩, hsecond⟩
      · rintro ⟨b, ⟨a, hr, hrest⟩, hsecond⟩
        exact ⟨a, hr, b, hrest, hsecond⟩

theorem leads_items {r : Regex} :
    Leads subject flags (ofItems r.items) i j ↔ Leads subject flags r i j := by
  induction r generalizing i j with
  | seq a b iha ihb => simp only [items, leads_ofItems_append, iha, ihb, leads_seq]
  | _ => rfl

theorem leads_ofAlternatives {parts : List Regex} (hne : parts ≠ []) :
    Leads subject flags (ofAlternatives parts) i j ↔ ∃ r ∈ parts, Leads subject flags r i j := by
  induction parts with
  | nil => exact absurd rfl hne
  | cons r rest ih =>
      cases rest with
      | nil =>
          rw [ofAlternatives]
          split <;> simp
      | cons r' rest =>
          simp only [ofAlternatives, leads_alt, ih (List.cons_ne_nil _ _),
            List.mem_cons, or_and_right, exists_or, exists_eq_left]

/-- A class of literals accepts these, or all others. -/
theorem holds_letters {flags : Flags} (hcase : flags.ignoreCase = false) (negated : Bool)
    (letters : Text) (c : CodePoint) :
    (CharTest.oneOf negated (letters.map .literal)).holds flags c =
      (letters.contains c != negated) := by
  have hany : (letters.map ClassItem.literal).any (ClassItem.holds flags.ascii · c) =
      letters.contains c := by
    rw [List.any_map, List.contains_eq_any_beq]
    congr 1
    funext a
    exact Bool.beq_comm
  rw [CharTest.holds, CharTest.isMember, hcase, Bool.false_and, if_neg Bool.false_ne_true, hany]

/-- A class leads over a code point that one of its members covers. -/
theorem leads_members (hcase : flags.ignoreCase = false) (members : List ClassItem) :
    Leads subject flags (.one (.oneOf false members)) i j ↔
      ∃ m ∈ members, subject.text[i]?.any (m.holds flags.ascii) = true ∧ j = i + 1 := by
  rw [leads_one]
  cases subject.text[i]? with
  | none => simp
  | some c => simp [CharTest.holds, CharTest.isMember, hcase, ← exists_and_right, and_assoc]

/-- An alternative that becomes part of a class leads over what its members cover. -/
theorem leads_member (hcase : flags.ignoreCase = false) {parts : List Regex}
    {members : List ClassItem} (h : (match parts with
      | [.one (.literal c)] => some [ClassItem.literal c]
      | [.one (.oneOf false members)] => some members
      | _ => none) = some members) :
    Leads subject flags (ofItems parts) i j ↔
      Leads subject flags (.one (.oneOf false members)) i j := by
  split at h
  · next c =>
      cases h
      rw [leads_members hcase, ofItems, leads_one]
      cases subject.text[i]? with
      | none => simp
      | some d => simp [CharTest.holds, CharTest.isLiteral, hcase, ClassItem.holds]
  · cases h
    rfl
  · cases h

/-- If all alternatives become part of a class, the class leads where one of them leads. -/
theorem leads_asMembers? (hcase : flags.ignoreCase = false) {alternatives : List (List Regex)}
    {members : List ClassItem} (h : asMembers? alternatives = some members) :
    Leads subject flags (.one (.oneOf false members.eraseDups)) i j ↔
      ∃ parts ∈ alternatives, Leads subject flags (ofItems parts) i j := by
  obtain ⟨lists, hlists, rfl⟩ := Option.map_eq_some_iff.1 h
  clear h
  rw [leads_members hcase]
  simp only [List.mem_eraseDups]
  induction alternatives generalizing lists with
  | nil =>
      cases hlists
      simp
  | cons parts rest ih =>
      rw [List.mapM_cons] at hlists
      obtain ⟨first, hfirst, hlists⟩ := Option.bind_eq_some_iff.1 hlists
      obtain ⟨others, hothers, hlists⟩ := Option.bind_eq_some_iff.1 hlists
      cases hlists
      have hhead : Leads subject flags (ofItems parts) i j ↔ _ :=
        (leads_member hcase hfirst).trans (leads_members hcase first)
      simp only [List.flatten_cons, List.mem_append, or_and_right, exists_or, List.mem_cons,
        exists_eq_left, hhead, ih _ hothers]

/-- **A choice leads where one of its alternatives leads.**  It does not matter that what they share
is moved in front, nor that single code points become a class. -/
theorem leads_partsOfAlternatives (hcase : flags.ignoreCase = false)
    {alternatives : List (List Regex)} (hne : alternatives ≠ []) :
    Leads subject flags (ofItems (partsOfAlternatives alternatives)) i j ↔
      ∃ parts ∈ alternatives, Leads subject flags (ofItems parts) i j := by
  unfold partsOfAlternatives
  split
  · next parts => simp
  · next hmany =>
      have hlen : 2 ≤ alternatives.length := by
        match alternatives, hne, hmany with
        | [parts], _, hmany => exact absurd rfl (hmany parts)
        | _ :: _ :: rest, _, _ => simp
      simp only
      generalize alternatives.foldl (fun n parts => max n parts.length) 0 = fuel
      have halt := eq_map_sharedStart fuel hlen
      have hrest : (sharedStart fuel alternatives).2 ≠ [] := by
        intro he
        rw [he] at halt
        exact hne halt
      -- behind what is shared, the class or the choice leads where one of the tails leads
      have hshared : (∃ parts ∈ alternatives, Leads subject flags (ofItems parts) i j) ↔
          ∃ m, Leads subject flags (ofItems (sharedStart fuel alternatives).1) i m ∧
            ∃ parts ∈ (sharedStart fuel alternatives).2,
              Leads subject flags (ofItems parts) m j := by
        conv =>
          lhs
          rw [halt]
        simp only [List.mem_map, exists_exists_and_eq_and, leads_ofItems_append]
        constructor
        · rintro ⟨parts, hparts, m, hstart, htail⟩
          exact ⟨m, hstart, parts, hparts, htail⟩
        · rintro ⟨m, hstart, parts, hparts, htail⟩
          exact ⟨parts, hparts, m, hstart, htail⟩
      rw [hshared]
      cases hmembers : asMembers? (sharedStart fuel alternatives).2 with
      | some members =>
          simp only [leads_ofItems_append, ofItems, leads_asMembers? hcase hmembers]
      | none =>
          have hparts : (sharedStart fuel alternatives).2.map ofItems ≠ [] := by simpa using hrest
          simp only [leads_ofItems_append, ofItems, leads_ofAlternatives hparts, List.mem_map,
            exists_exists_and_eq_and]

end

/-! ## Patterns -/

theorem isPlain_of_isStraight {r : Regex} (h : isStraight r = true) : isPlain r = true := by
  induction r with
  | seq a b iha ihb | alt a b iha ihb =>
      rw [isStraight, Bool.and_eq_true] at h
      rw [isPlain, iha h.1, ihb h.2]
      rfl
  | rep greed least most body =>
      cases greed with
      | greedy =>
          cases body with
          | one => rfl
          | _ => cases h
      | reluctant => cases h
      | possessive => cases h
  | empty | one | anchor => rfl
  | capture | flagged | atomic | look | backref | cond => cases h

namespace Pattern

variable {p : Pattern} {t : Text}

/-- A part of a pattern leads through a text, under the options of the pattern. -/
abbrev Passes (p : Pattern) (t : Text) (r : Regex) (i j : Nat) : Prop :=
  Leads (p.subject t) p.flags r i j

/-- A part of a pattern, in front of what follows it. -/
abbrev before (p : Pattern) (t : Text) (next : Option CodePoint) (r : Regex) (k : Continuation) :
    Continuation := fun s =>
  run (p.subject t) p.flags false next r s k

theorem decides_before {r : Regex} (hr : isStraight r = true) {marks : Marks}
    {ends : Nat → State → Prop} {k : Continuation} (hk : Decides marks ends k) :
    Decides marks (fun i final => ∃ j, p.Passes t r i j ∧ ends j final) (p.before t none r k) :=
  Decides.run hr hk Awaits.none false

theorem decides_before_capture {body : Regex} (hbody : isStraight body = true) {marks : Marks}
    {index : Nat} (hfresh : marks.length = 2 * index) {ends : Nat → Nat → Nat → State → Prop}
    {k : Continuation} (next : Option CodePoint)
    (hk : ∀ i j, Decides (marks ++ [some i, some j]) (ends i j) k) :
    Decides marks (fun i final => ∃ j, p.Passes t body i j ∧ ends i j j final)
      (p.before t next (.capture (index + 1) body) k) :=
  Decides.capture hbody hfresh hk false

/-- A compilation that can be evaluated. -/
theorem compile_of_toOption {source : Text} {options : Flags}
    (h : (compile source options).toOption = some p) : compile source options = .ok p := by
  cases hc : compile source options with
  | ok q =>
      rw [hc] at h
      exact congrArg Except.ok (Option.some.inj h)
  | error e =>
      rw [hc] at h
      cases h

/-- A test leads over the first code point of what is left of the text. -/
theorem passes_one_iff {test : CharTest} {i j : Nat} :
    p.Passes t (.one test) i j ↔
      ∃ c, test.holds p.flags c = true ∧ t.drop i = c :: t.drop (i + 1) ∧ j = i + 1 := by
  have hat : (p.subject t).text[i]? = t[i]? := List.getElem?_toArray
  rw [Passes, leads_one, hat]
  constructor
  · rintro ⟨hany, rfl⟩
    obtain ⟨c, hc, hholds⟩ := Option.any_eq_true _ _ |>.1 hany
    obtain ⟨hlt, rfl⟩ := List.getElem?_eq_some_iff.1 hc
    exact ⟨_, hholds, List.drop_eq_getElem_cons hlt, rfl⟩
  · rintro ⟨c, hholds, hdrop, rfl⟩
    have hc : t[i]? = some c := by
      rw [← List.head?_drop, hdrop, List.head?_cons]
    exact ⟨by rw [hc]; exact hholds, rfl⟩

theorem drop_append {i : Nat} {u v : Text} (h : t.drop i = u ++ v) : t.drop (i + u.length) = v := by
  rw [← List.drop_drop, h, List.drop_left]

theorem drop_cons {i : Nat} {c : CodePoint} {u : Text} (h : t.drop i = c :: u) :
    t.drop (i + 1) = u :=
  drop_append (u := [c]) h

/-- A repeated test leads over a stretch of code points that pass it. -/
theorem passes_rep_iff {test : CharTest} {least : Nat} {most : Option Nat} {i j : Nat} :
    p.Passes t (.rep .greedy least most (.one test)) i j ↔
      ∃ word, least ≤ word.length ∧ (∀ m, most = some m → word.length ≤ m) ∧
        (∀ c ∈ word, test.holds p.flags c = true) ∧ t.drop i = word ++ t.drop j ∧
          j = i + word.length := by
  have hat : ∀ k, (p.subject t).text[k]? = t[k]? := fun k => List.getElem?_toArray
  simp only [leads_rep, hat]
  constructor
  · rintro ⟨n, rfl, hleast, hmost, hall⟩
    have hroom : n ≤ (t.drop i).length := by
      cases n with
      | zero => exact Nat.zero_le _
      | succ n =>
          obtain ⟨c, hc, -⟩ := Option.any_eq_true _ _ |>.1 (hall n (Nat.lt_succ_self n))
          have := (List.getElem?_eq_some_iff.1 hc).1
          rw [List.length_drop]
          omega
    have hlength : ((t.drop i).take n).length = n := List.length_take_of_le hroom
    refine ⟨(t.drop i).take n, ?_, ?_, fun c hc => ?_, ?_, ?_⟩
    · rwa [hlength]
    · rwa [hlength]
    · obtain ⟨k, hk⟩ := List.mem_iff_getElem?.1 hc
      have hlt : k < n := by
        have := (List.getElem?_eq_some_iff.1 hk).1
        rwa [hlength] at this
      rw [List.getElem?_take_of_lt hlt, List.getElem?_drop] at hk
      have := hall k hlt
      rwa [hk] at this
    · rw [← List.drop_drop, List.take_append_drop]
    · rw [hlength]
  · rintro ⟨word, hleast, hmost, hall, hdrop, rfl⟩
    refine ⟨word.length, rfl, hleast, hmost, fun k hk => ?_⟩
    have hk' : t[i + k]? = some word[k] := by
      rw [← List.getElem?_drop, hdrop, List.getElem?_append_left hk, List.getElem?_eq_getElem hk]
    rw [hk']
    exact hall _ (List.getElem_mem hk)

theorem passes_textStart {i j : Nat} :
    p.Passes t (.anchor .textStart) i j ↔ i = 0 ∧ j = i := by
  simp [Anchor.holds]

theorem passes_textEnd {i j : Nat} :
    p.Passes t (.anchor .textEnd) i j ↔ i = t.length ∧ j = i := by
  have hsize : (p.subject t).text.size = t.length := List.size_toArray
  simp [Anchor.holds, hsize]

/-- What is found at a place, if the run is decided there and ends with its records in order. -/
theorem matchAt_of_settled {subject : Subject} {i : Nat} {ends : State → Prop}
    (h : Settled [] ends (run subject p.flags false none p.tree ⟨i, i, []⟩ accepted))
    (hends : ∀ final, ends final → final.marks.hasReversedGroup = false) :
    ∃ o, p.matchAt subject i = .ok o ∧ (o.isSome = true ↔ ∃ final, ends final) := by
  rw [matchAt]
  cases hrun : run subject p.flags false none p.tree ⟨i, i, []⟩ accepted with
  | found final =>
      rw [hrun] at h
      cases h with
      | found h => exact ⟨_, by simp only [hends final h]; rfl, by simpa using ⟨final, h⟩⟩
  | failed resume left =>
      rw [hrun] at h
      cases h with
      | failed none => exact ⟨_, rfl, by simpa using none⟩

theorem isOk_searchFrom {subject : Subject} {isStart : Nat → Bool} {first count : Nat}
    (h : ∀ i < first + count, ∃ o, p.matchAt subject i = .ok o) :
    ∃ o, p.searchFrom subject isStart first count = .ok o := by
  induction count generalizing first with
  | zero => exact ⟨none, rfl⟩
  | succ count ih =>
      have hrest : ∃ o, p.searchFrom subject isStart (first + 1) count = .ok o :=
        ih fun i hi => h i (by omega)
      rw [searchFrom]
      split
      · obtain ⟨o, ho⟩ := h first (by omega)
        cases o with
        | none => simpa only [ho] using hrest
        | some span => exact ⟨some span, by rw [ho]⟩
      · exact hrest

/-- If it is decided at every place whether there is a match, and a match has room for the width of
the pattern, then a search finds out whether there is a place. -/
theorem isFoundIn_of_matchAt {P : Nat → Prop}
    (hat : ∀ i ≤ t.length, ∃ o, p.matchAt (p.subject t) i = .ok o ∧ (o.isSome = true ↔ P i))
    (hwide : ∀ i ≤ t.length, P i → i + p.least ≤ t.length)
    (hstart : startTest? p.flags p.flags p.tree = none ∨ beginsWithLiteral p.flags p.tree = true) :
    ∃ found, p.isFoundIn t = .ok found ∧ (found = true ↔ ∃ i ≤ t.length, P i) := by
  have hsize : (p.subject t).text.size = t.length := List.size_toArray
  have hfrom : ∀ count ≤ t.length + 1, (∀ i ≤ t.length, P i → i < count) →
      ∃ o, p.searchFrom (p.subject t) (fun _ => true) 0 count = .ok o ∧
        (o.isSome = true ↔ ∃ i ≤ t.length, P i) := by
    intro count hcount hall
    obtain ⟨o, ho⟩ : ∃ o, p.searchFrom (p.subject t) (fun _ => true) 0 count = .ok o :=
      isOk_searchFrom fun i hi => (hat i (by omega)).imp fun _ h => h.1
    refine ⟨o, ho, ?_⟩
    have hnone : o = none ↔ ∀ i ≤ t.length, ¬P i := by
      rw [← Except.ok.injEq, ← ho, searchFrom_eq_none_iff]
      constructor
      · intro h i hi hP
        obtain ⟨o, ho, hiff⟩ := hat i hi
        rw [h i (Nat.zero_le _) (by have := hall i hi hP; omega) rfl] at ho
        cases ho
        cases hiff.2 hP
      · intro h i _ hi _
        obtain ⟨o, ho, hiff⟩ := hat i (by omega)
        cases o with
        | none => exact ho
        | some span => exact absurd (hiff.1 rfl) (h i (by omega))
    rw [← Option.ne_none_iff_isSome, Ne, hnone]
    simp only [not_forall, not_not, exists_prop]
  have hsearch : ∃ o, p.search t = .ok o ∧ (o.isSome = true ↔ ∃ i ≤ t.length, P i) := by
    rw [search]
    split
    · next hshort =>
        refine ⟨none, rfl, ?_⟩
        simp only [Option.isSome_none, Bool.false_eq_true, false_iff, not_exists, not_and]
        intro i hi hP
        have := hwide i hi hP
        omega
    · next hlong =>
        simp only [starts, hsize]
        split
        · exact hfrom _ (Nat.le_refl _) fun i hi _ => Nat.lt_succ_of_le hi
        · next hwidth =>
            rw [Bool.or_eq_true, decide_eq_true_eq, not_or] at hwidth
            simp only [hstart.resolve_right hwidth.2]
            refine hfrom _ (by omega) fun i hi hP => ?_
            have := hwide i hi hP
            omega
  obtain ⟨o, ho, hiff⟩ := hsearch
  exact ⟨o.isSome, by rw [isFoundIn, ho]; rfl, hiff⟩

/-- **A pattern without groups is found where it leads anywhere.** -/
theorem isFoundIn_iff_passes (hp : isStraight p.tree = true)
    (hstart : startTest? p.flags p.flags p.tree = none ∨ beginsWithLiteral p.flags p.tree = true) :
    ∃ found, p.isFoundIn t = .ok found ∧
      (found = true ↔ ∃ i ≤ t.length, ∃ j, p.Passes t p.tree i j) := by
  have hat : ∀ i, ∃ o, p.matchAt (p.subject t) i = .ok o ∧
      (o.isSome = true ↔ ∃ j, p.Passes t p.tree i j) := by
    intro i
    have hrun : Decides [] _ (p.before t none p.tree accepted) :=
      decides_before hp (Decides.accepted [])
    obtain ⟨o, ho, hiff⟩ := matchAt_of_settled (hrun ⟨i, i, []⟩ rfl) <| by
      rintro _ ⟨j, -, rfl⟩
      exact Marks.hasReversedGroup_nil
    refine ⟨o, ho, hiff.trans ⟨?_, ?_⟩⟩
    · rintro ⟨_, j, hj, -⟩
      exact ⟨j, hj⟩
    · rintro ⟨j, hj⟩
      exact ⟨_, j, hj, rfl⟩
  refine isFoundIn_of_matchAt (fun i _ => hat i) (fun i hi hP => ?_) hstart
  obtain ⟨o, ho, hiff⟩ := hat i
  obtain ⟨span, rfl⟩ := Option.isSome_iff_exists.1 (hiff.2 hP)
  have hsize : (p.subject t).text.size = t.length := List.size_toArray
  obtain ⟨-, hle, hlast⟩ := matchAt_bounds (isPlain_of_isStraight hp) (by omega) ho
  exact Nat.le_trans hle (hsize ▸ hlast)

end Pattern

end ToolPolicy.Regex
