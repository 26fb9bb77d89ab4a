import ToolPolicy.Proofs.Resumption

/-!
# What a match covers

A pattern without groups that record, look around or refer back moves on through the text and leaves
the records alone. What it finds is what its continuation finds from a state further on, at least as
far as the pattern is wide and never beyond the end of the text.

* `Reached`: the outcomes of a part, seen from its continuation.
* `run_reached`: every run of such a pattern has one.
* `last?_run_bounds`: where the matches of such a pattern end.
-/

namespace ToolPolicy.Regex

/-- A pattern without groups that record, look around or refer back. -/
def isPlain : Regex → Bool
  | empty => true
  | one _ => true
  | anchor _ => true
  | seq a b => isPlain a && isPlain b
  | alt a b => isPlain a && isPlain b
  | rep _ _ _ body => isPlain body
  | _ => false

/-- A state within bounds, with the given records. -/
structure State.Within (low high : Nat) (marks : Marks) (s : State) : Prop where
  low_le_position : low ≤ s.position
  position_le_high : s.position ≤ high
  low_le_resume : low ≤ s.resume
  resume_le_high : s.resume ≤ high
  marks_eq : s.marks = marks

namespace State.Within

variable {low high : Nat} {marks : Marks} {s : State}

theorem settle (h : s.Within low high marks) : s.settle.Within low high marks :=
  ⟨h.low_le_position, h.position_le_high, h.low_le_position, h.position_le_high, h.marks_eq⟩

theorem atPlace {place : Nat} (h : low ≤ place) (h' : place ≤ high) :
    (⟨place, place, marks⟩ : State).Within low high marks :=
  ⟨h, h', h, h', rfl⟩

end State.Within

/-- A failure within bounds, with the given records. -/
inductive FailsWithin (low high : Nat) (marks : Marks) : Outcome → Prop where
  | found (final : State) : FailsWithin low high marks (.found final)
  | failed {resume : Nat} (h : low ≤ resume) (h' : resume ≤ high) :
    FailsWithin low high marks (.failed resume marks)

/-- A continuation that fails within bounds from a place on. -/
def FailsFrom (low high : Nat) (marks : Marks) (place : Nat) (k : Continuation) : Prop :=
  ∀ s : State, s.Within low high marks → place ≤ s.position → FailsWithin low high marks (k s)

/-- The outcome of a part: a failure within bounds, or what its continuation finds from a state
within bounds and not before a place. -/
inductive Reached (low high : Nat) (marks : Marks) (place : Nat) (k : Continuation) : Outcome →
    Prop where
  | failed {resume : Nat} (h : low ≤ resume) (h' : resume ≤ high) :
    Reached low high marks place k (.failed resume marks)
  | found {s final : State} (hs : s.Within low high marks) (hp : place ≤ s.position)
    (hk : k s = .found final) :
      Reached low high marks place k (.found final)

section
variable {low high place : Nat} {marks : Marks} {k l : Continuation} {o : Outcome} {s : State}

theorem FailsFrom.mono {other : Nat} (h : FailsFrom low high marks place k) (hle : place ≤ other) :
    FailsFrom low high marks other k := fun s hs hp => h s hs (Nat.le_trans hle hp)

theorem FailsFrom.accepted : FailsFrom low high marks place accepted := fun s _ _ => .found s.settle

namespace Reached

theorem failsWithin (h : Reached low high marks place k o) : FailsWithin low high marks o := by
  cases h with
  | failed h h' => exact .failed h h'
  | found => exact .found _

theorem mono {other : Nat} (h : Reached low high marks place k o) (hle : other ≤ place) :
    Reached low high marks other k o := by
  cases h with
  | failed h h' => exact .failed h h'
  | found hs hp hk => exact .found hs (Nat.le_trans hle hp) hk

theorem fail (hs : s.Within low high marks) : Reached low high marks place k s.fail := by
  rw [State.fail, hs.marks_eq]
  exact .failed hs.low_le_resume hs.resume_le_high

/-- A continuation that goes on at once. -/
theorem goOn (h : FailsFrom low high marks place k) (hs : s.Within low high marks)
    (hp : place ≤ s.position) :
    Reached low high marks place k (k s) := by
  cases ho : k s with
  | found final => exact .found hs hp ho
  | failed resume left =>
      have := h s hs hp
      rw [ho] at this
      cases this with
      | failed h h' => exact .failed h h'

/-- One part after another. -/
theorem trans {other : Nat} (h : Reached low high marks place k o)
    (hk : ∀ s : State, s.Within low high marks → place ≤ s.position →
      Reached low high marks other l (k s)) :
    Reached low high marks other l o := by
  cases h with
  | failed h h' => exact .failed h h'
  | found hs hp ho => exact ho ▸ hk _ hs hp

theorem orElse {f : Nat → Marks → Outcome} (h : Reached low high marks place k o)
    (hf : ∀ resume, low ≤ resume → resume ≤ high → Reached low high marks place k (f resume marks))
      :
    Reached low high marks place k (o.orElse f) := by
  cases h with
  | failed h h' => exact hf _ h h'
  | found hs hp hk => exact .found hs hp hk

theorem restoring (h : Reached low high marks place k o) (repeated : Bool) :
    Reached low high marks place k (o.restoring repeated marks) := by
  cases h with
  | failed h h' =>
      rw [Outcome.restoring, Marks.restore_self]
      exact .failed h h'
  | found hs hp hk => exact .found hs hp hk

theorem settling {other : Nat} (h : Reached low high marks place k o) (hl : low ≤ other)
    (hh : other ≤ high) :
    Reached low high marks place k (o.settling other) := by
  cases h with
  | failed => exact .failed hl hh
  | found hs hp hk => exact .found hs hp hk

end Reached

end

/-! ## Repetition of one code point -/

section
variable {subject : Subject} {low : Nat} {marks : Marks} {k : Continuation} {s : State}
    {least : Nat}

theorem countWhile_le (p : CodePoint → Bool) (position bound : Nat) :
    countWhile subject p position bound ≤ bound := by
  induction bound generalizing position with
  | zero => exact Nat.le_refl 0
  | succ n ih =>
      rw [countWhile]
      split
      · split
        · exact Nat.succ_le_succ (ih _)
        · exact Nat.zero_le _
      · exact Nat.zero_le _

theorem countUpTo_le (p : CodePoint → Bool) (most : Option Nat) (position : Nat) :
    countUpTo subject p most position ≤ subject.text.size - position := by
  refine Nat.le_trans (countWhile_le p position _) ?_
  cases most with
  | none => exact Nat.le_refl _
  | some n => exact Nat.min_le_right _ _

theorem giveBack_reached {next : Option CodePoint} {repeated : Bool}
    (hs : s.Within low subject.text.size marks)
    (hk : FailsFrom low subject.text.size marks (s.position + least) k) (extra resume : Nat)
    (hextra : s.position + least + extra ≤ subject.text.size) (hlow : low ≤ resume)
    (hhigh : resume ≤ subject.text.size) :
    Reached low subject.text.size marks (s.position + least) k
      (giveBack subject next repeated s least k extra resume marks) := by
  have htried : ∀ extra resume, s.position + least + extra ≤ subject.text.size → low ≤ resume →
      resume ≤ subject.text.size → Reached low subject.text.size marks (s.position + least) k
        (if next.all fun c => subject.text[s.position + least + extra]? == some c
          then k ⟨s.position + least + extra, s.position + least + extra, marks⟩
          else .failed resume marks) := by
    intro extra resume hextra hlow hhigh
    have hplace : low ≤ s.position + least + extra := by
      have := hs.low_le_position
      omega
    split
    · exact .goOn hk (.atPlace hplace hextra) (Nat.le_add_right _ _)
    · exact .failed hlow hhigh
  induction extra generalizing resume with
  | zero =>
      simp only [giveBack, hs.marks_eq]
      exact (htried 0 resume hextra hlow hhigh).restoring repeated
  | succ extra ih =>
      simp only [giveBack, hs.marks_eq]
      refine (htried (extra + 1) resume hextra hlow hhigh).orElse fun m hl hh => ?_
      rw [Marks.restore_self]
      exact ih m (by omega) hl hh

theorem takeMore_reached {repeated : Bool} (test : RepeatedTest)
    (hs : s.Within low subject.text.size marks)
    (hk : FailsFrom low subject.text.size marks (s.position + least) k) (taken more : Nat)
    (hmore : s.position + least + taken + more ≤ subject.text.size) :
    Reached low subject.text.size marks (s.position + least) k
      (takeMore subject test repeated s least k taken more marks) := by
  have hlow := hs.low_le_position
  induction more generalizing taken with
  | zero =>
      simp only [takeMore, hs.marks_eq]
      have htried : Reached low subject.text.size marks (s.position + least) k
          (k ⟨s.position + least + taken, s.position + least + taken, marks⟩) :=
        .goOn hk (.atPlace (by omega) (by omega)) (Nat.le_add_right _ _)
      refine (htried.restoring repeated).settling ?_ ?_
      · split <;> omega
      · split
        · next hbeyond =>
            rw [Bool.and_eq_true] at hbeyond
            obtain ⟨c, hc, -⟩ := Option.any_eq_true _ _ |>.1 hbeyond.2
            exact (Array.getElem?_eq_some_iff.1 hc).1
        · omega
  | succ more ih =>
      simp only [takeMore, hs.marks_eq]
      have htried : Reached low subject.text.size marks (s.position + least) k
          (k ⟨s.position + least + taken, s.position + least + taken, marks⟩) :=
        .goOn hk (.atPlace (by omega) (by omega)) (Nat.le_add_right _ _)
      refine htried.orElse fun m _ _ => ?_
      rw [Marks.restore_self]
      exact ih (taken + 1) (by omega)

theorem repeatTest_reached {next : Option CodePoint} {repeated : Bool} (test : RepeatedTest)
    (greed : Greed) (most : Option Nat) (hs : s.Within low subject.text.size marks)
    (hk : FailsFrom low subject.text.size marks (s.position + least) k) :
    Reached low subject.text.size marks (s.position + least) k
      (repeatTest subject next repeated test greed least most s k) := by
  have hlow := hs.low_le_position
  have hhigh := hs.position_le_high
  have hcount : countUpTo subject test.holds most s.position ≤ subject.text.size - s.position :=
    countUpTo_le test.holds most s.position
  unfold repeatTest
  simp only [hs.marks_eq]
  generalize countUpTo subject test.holds most s.position = count at hcount
  -- where the place that is put down may be when code points are counted
  have hresume : ∀ n, n ≤ count → low ≤ (if test.settles then s.position + n else s.position) ∧
      (if test.settles then s.position + n else s.position) ≤ subject.text.size := by
    intro n hn
    split <;> omega
  split
  · exact .fail hs
  · split
    · cases greed with
      | reluctant =>
          obtain ⟨hl, hh⟩ := hresume (min count least) (Nat.min_le_left _ _)
          exact .failed hl hh
      | greedy =>
          obtain ⟨hl, hh⟩ := hresume count (Nat.le_refl _)
          exact .failed hl hh
      | possessive =>
          obtain ⟨hl, hh⟩ := hresume count (Nat.le_refl _)
          exact .failed hl hh
    · next hshort =>
        obtain ⟨hl, hh⟩ := hresume count (Nat.le_refl _)
        cases greed with
        | greedy => exact giveBack_reached hs hk _ _ (by omega) hl hh
        | reluctant => exact takeMore_reached test hs hk 0 _ (by omega)
        | possessive =>
            refine .goOn hk ⟨?_, ?_, hl, hh, rfl⟩ ?_
            · exact Nat.le_trans hlow (Nat.le_add_right _ _)
            · show s.position + count ≤ subject.text.size
              omega
            · show s.position + least ≤ s.position + count
              omega

end

/-! ## Repetition of a part -/

/-- A part that takes at least some number of code points, however it is continued. -/
def Covers (subject : Subject) (low : Nat) (marks : Marks) (least : Nat) (body : Matcher) : Prop :=
  ∀ s k, s.Within low subject.text.size marks →
    FailsFrom low subject.text.size marks (s.position + least) k →
    Reached low subject.text.size marks (s.position + least) k (body s k)

section
variable {subject : Subject} {low width least : Nat} {marks : Marks} {k : Continuation} {s : State}
    {body : Matcher}
  {most : Option Nat}

/-- What is left to be covered is no more than one round and what is left after it. -/
theorem left_le_round (width least count : Nat) :
    width * (least - count) ≤ width + width * (least - (count + 1)) := by
  rcases Nat.lt_or_ge count least with hmore | hdone
  · have hrounds : least - count = least - (count + 1) + 1 := by omega
    rw [hrounds, Nat.mul_succ]
    exact Nat.le_of_eq (Nat.add_comm _ _)
  · rw [Nat.sub_eq_zero_of_le hdone]
    exact Nat.zero_le _

/-- Once the least count is reached nothing is left to be covered. -/
theorem nothing_left {count : Nat} (h : ¬count < least) (place : Nat) :
    place + width * (least - count) = place := by
  rw [Nat.sub_eq_zero_of_le (Nat.le_of_not_lt h)]
  rfl

/-- A loop over rounds that covers what is left, whatever it has counted. -/
def Loops (subject : Subject) (low width least : Nat) (marks : Marks) (k : Continuation)
    (loop : Nat → Option Nat → Continuation) : Prop :=
  ∀ count last s, s.Within low subject.text.size marks →
    FailsFrom low subject.text.size marks (s.position + width * (least - count)) k →
    Reached low subject.text.size marks (s.position + width * (least - count)) k
      (loop count last s)

/-- One round, with the loop behind it. -/
theorem Loops.round {loop : Nat → Option Nat → Continuation}
    (h : Loops subject low width least marks k loop) (hb : Covers subject low marks width body)
    (hs : s.Within low subject.text.size marks) (count : Nat)
    (hk : FailsFrom low subject.text.size marks (s.position + width * (least - count)) k)
    (last : Option Nat) :
    Reached low subject.text.size marks (s.position + width * (least - count)) k
      (body s (loop (count + 1) last)) := by
  have hleft := left_le_round width least count
  have hloop : ∀ t : State, t.Within low subject.text.size marks → s.position + width ≤ t.position →
      Reached low subject.text.size marks (s.position + width * (least - count)) k
        (loop (count + 1) last t) :=
    fun t ht hp => (h (count + 1) last t ht (hk.mono (by omega))).mono (by omega)
  exact (hb s _ hs fun t ht hp => (hloop t ht hp).failsWithin).trans hloop

theorem repeatGreedy_loops (hb : Covers subject low marks width body) (rounds : Nat) :
    Loops subject low width least marks k (repeatGreedy body least most k rounds) := by
  induction rounds with
  | zero => exact fun _ _ _ hs _ => .fail hs
  | succ rounds ih =>
      intro count last s hs hk
      have hl := hs.low_le_position
      have hh := hs.position_le_high
      have hround := ih.round hb hs.settle count hk
      rw [repeatGreedy]
      split
      · exact (hround last).settling hl hh
      next hdone =>
      have hstop : Reached low subject.text.size marks (s.position + width * (least - count)) k
          ((k s.settle).settling s.position) :=
        (Reached.goOn hk hs.settle (Nat.le_of_eq (nothing_left hdone _))).settling hl hh
      split
      · exact (hround (some s.position)).orElse fun _ _ _ => hstop
      · exact hstop

theorem repeatReluctant_loops {repeated : Bool} (hb : Covers subject low marks width body)
    (rounds : Nat) :
    Loops subject low width least marks k (repeatReluctant repeated body least most k rounds) := by
  induction rounds with
  | zero => exact fun _ _ _ hs _ => .fail hs
  | succ rounds ih =>
      intro count last s hs hk
      have hl := hs.low_le_position
      have hh := hs.position_le_high
      rw [repeatReluctant]
      split
      · exact (ih.round hb hs.settle count hk last).settling hl hh
      next hdone =>
      have hstop := Reached.goOn hk hs.settle (Nat.le_of_eq (nothing_left hdone _))
      refine hstop.orElse fun resume _ _ => ?_
      simp only [hs.marks_eq, Marks.restore_self]
      have hagain : (⟨s.settle.position, s.settle.resume, marks⟩ : State).Within low
          subject.text.size marks :=
        ⟨hl, hh, hl, hh, rfl⟩
      split
      · exact (ih.round hb hagain count hk (some s.position)).settling hl hh
      · exact .fail hagain

/-- A possessive repetition is a failure within bounds, or ends in a state within bounds. -/
theorem repeatPossessive_reached (hb : ∀ low, Covers subject low marks width body) {start : Nat}
    (hstart : low ≤ start) (hstart' : start ≤ subject.text.size) (rounds count : Nat)
    (last : Option Nat) (hrounds : least ≤ rounds + count)
    (hs : s.Within low subject.text.size marks) (hsettled : s.resume = s.position) :
    Reached low subject.text.size marks (s.position + width * (least - count)) (fun t => .found t)
      (repeatPossessive body least most start rounds count last s) := by
  induction rounds generalizing count last s with
  | zero => exact .found hs (Nat.le_of_eq (nothing_left (by omega) _)) rfl
  | succ rounds ih =>
      -- a round is bounded by where it begins, so a round that fails puts nothing down before that
      have hl := hs.low_le_position
      have hbegun : s.Within s.position subject.text.size marks :=
        ⟨Nat.le_refl _, hs.position_le_high, Nat.le_of_eq hsettled.symm, hs.resume_le_high,
          hs.marks_eq⟩
      have hround := hb s.position s accepted hbegun FailsFrom.accepted
      rw [repeatPossessive]
      cases ho : body s accepted with
      | failed resume left =>
          rw [ho] at hround
          cases hround with
          | failed h h' =>
          split
          · exact .failed hstart hstart'
          next hdone =>
          rw [nothing_left hdone]
          split
          · have hlow : low ≤ resume := Nat.le_trans hl h
            have hstand : (s.stand resume).Within low subject.text.size marks :=
              ⟨hlow, h', hlow, h', hs.marks_eq⟩
            exact .found hstand h rfl
          · exact .found hs (Nat.le_refl _) rfl
      | found next =>
          rw [ho] at hround
          cases hround with
          | @found t final ht hp hk =>
          cases hk
          have hlow : low ≤ t.position := Nat.le_trans hl ht.low_le_position
          have hnext : t.settle.Within low subject.text.size marks :=
            ⟨hlow, ht.position_le_high, hlow, ht.position_le_high, ht.marks_eq⟩
          have hplace : s.position + width * (least - count) ≤
              t.settle.position + width * (least - (count + 1)) := by
            have hleft := left_le_round width least count
            have hround : s.position + width ≤ t.settle.position := hp
            omega
          have hagain := fun last => (ih (count + 1) last (by omega) hnext rfl).mono hplace
          split
          · exact hagain last
          next hdone =>
          split
          · exact hagain (some s.position)
          · exact .found hs (Nat.le_of_eq (nothing_left hdone _)) rfl

theorem repeatPart_reached {body : Bool → Matcher} {repeated : Bool}
    (hb : ∀ within low, Covers subject low marks width (body within)) (greed : Greed)
    (hs : s.Within low subject.text.size marks)
    (hk : FailsFrom low subject.text.size marks (s.position + width * least) k) :
    Reached low subject.text.size marks (s.position + width * least) k
      (repeatPart subject repeated body greed least most s k) := by
  cases greed with
  | greedy => exact repeatGreedy_loops (hb true low) _ 0 none s hs hk
  | reluctant => exact repeatReluctant_loops (hb true low) _ 0 none s hs hk
  | possessive =>
      have hrounds : least ≤ roundsFor subject least := Nat.le_add_right least _
      have hloop : Reached low subject.text.size marks (s.position + width * least)
        (fun t => .found t)
          (repeatPossessive (body repeated) least most s.position
            (roundsFor subject least) 0 none s.settle) :=
        repeatPossessive_reached (hb repeated) hs.low_le_position hs.position_le_high
          (roundsFor subject least) 0
          none hrounds hs.settle rfl
      rw [repeatPart]
      cases ho : repeatPossessive (body repeated) least most s.position
        (roundsFor subject least) 0 none s.settle with
      | failed resume left =>
          rw [ho] at hloop
          cases hloop with
          | failed h h' => exact .failed h h'
      | found final =>
          rw [ho] at hloop
          cases hloop with
          | found ht hp he =>
              cases he
              exact .goOn hk ht hp

end

/-! ## Patterns -/

theorem width_times_le (w : Width) (least : Nat) (most : Option Nat) :
    (w.times least most).least ≤ w.least * least := Nat.min_le_left _ _

theorem width_of_repeatedTest {groups : Nat → Width} {flags : Flags} {body : Regex}
    {test : RepeatedTest} (hr : isPlain body = true) (h : repeatedTest? flags body = some test) :
    (width groups body).least = 1 := by
  cases body with
  | one t => rfl
  | flagged on off body => cases hr
  | _ => cases h

/-- **What a pattern finds.**  A run of a pattern without recording, looking or referring back fails
within the text, or finds what its continuation finds at least a width further on. -/
theorem run_reached (subject : Subject) {r : Regex} (hr : isPlain r = true) (flags : Flags)
    (repeated : Bool) (next : Option CodePoint) {low : Nat} {marks : Marks} {s : State}
    {k : Continuation} (hs : s.Within low subject.text.size marks)
    (hk : FailsFrom low subject.text.size marks
      (s.position + (width subject.groupWidth r).least) k) :
    Reached low subject.text.size marks (s.position + (width subject.groupWidth r).least) k
      (run subject flags repeated next r s k) := by
  induction r generalizing flags repeated next low marks s k with
  | empty => exact .goOn hk hs (Nat.le_refl _)
  | one test =>
      rw [run]
      split
      · next hany =>
          obtain ⟨c, hc, -⟩ := Option.any_eq_true _ _ |>.1 hany
          have hlt : s.position < subject.text.size := (Array.getElem?_eq_some_iff.1 hc).1
          have hl := hs.low_le_position
          have hnext : s.next.Within low subject.text.size marks :=
            ⟨Nat.le_succ_of_le hl, hlt, hs.low_le_resume, hs.resume_le_high, hs.marks_eq⟩
          exact .goOn hk hnext (Nat.le_refl _)
      · exact .fail hs
  | anchor a =>
      rw [run]
      split
      · exact .goOn hk hs (Nat.le_refl _)
      · exact .fail hs
  | seq a b iha ihb =>
      rw [isPlain, Bool.and_eq_true] at hr
      have hwidth : (width subject.groupWidth (.seq a b)).least ≤
          (width subject.groupWidth a).least + (width subject.groupWidth b).least :=
            Nat.min_le_left _ _
      have hsecond : ∀ t : State, t.Within low subject.text.size marks →
          s.position + (width subject.groupWidth a).least ≤ t.position →
            Reached low subject.text.size marks
              (s.position + (width subject.groupWidth (.seq a b)).least) k
              (run subject flags repeated next b t k) :=
        fun t ht hp => (ihb hr.2 flags repeated next ht (hk.mono (by omega))).mono (by omega)
      exact (iha hr.1 flags repeated _ hs fun t ht hp => (hsecond t ht hp).failsWithin).trans
        hsecond
  | alt a b iha ihb =>
      rw [isPlain, Bool.and_eq_true] at hr
      have hl := hs.low_le_position
      have hh := hs.position_le_high
      have ha : (width subject.groupWidth (.alt a b)).least ≤ (width subject.groupWidth a).least :=
        Nat.min_le_left _ _
      have hb : (width subject.groupWidth (.alt a b)).least ≤ (width subject.groupWidth b).least :=
        Nat.min_le_right _ _
      simp only [run, hs.marks_eq]
      refine Reached.restoring (Reached.orElse ?_ fun resume hlow hhigh => ?_) repeated
      · split
        · exact (iha hr.1 flags repeated none hs.settle (hk.mono (Nat.add_le_add_left ha _))).mono
            (Nat.add_le_add_left ha _)
        · exact .fail hs
      · rw [Marks.restore_self]
        have hagain : (⟨s.position, resume, marks⟩ : State).Within low subject.text.size marks :=
          ⟨hl, hh, hlow, hhigh, rfl⟩
        split
        · exact (ihb hr.2 flags repeated none hagain (hk.mono (Nat.add_le_add_left hb _))).mono
            (Nat.add_le_add_left hb _)
        · split
          · exact (ihb hr.2 flags repeated none hagain.settle
              (hk.mono (Nat.add_le_add_left hb _))).mono
              (Nat.add_le_add_left hb _)
          · exact .fail hagain
  | rep greed least most body ih =>
      rw [isPlain] at hr
      have hwidth := width_times_le (width subject.groupWidth body) least most
      rw [run]
      split
      · next test htest =>
          rw [width_of_repeatedTest hr htest, Nat.one_mul] at hwidth
          exact (repeatTest_reached test greed most hs
            (hk.mono (Nat.add_le_add_left hwidth _))).mono
            (Nat.add_le_add_left hwidth _)
      · refine (repeatPart_reached (fun within low t l ht hl => ?_) greed hs
          (hk.mono (Nat.add_le_add_left hwidth _))).mono (Nat.add_le_add_left hwidth _)
        exact ih hr flags within none ht hl
  | capture | flagged | atomic | look | backref | cond => cases hr

/-- A match of such a pattern leaves the records alone, takes at least its width, and ends in the
text. -/
theorem found_run_bounds (subject : Subject) {r : Regex} (hr : isPlain r = true) (flags : Flags)
    {place : Nat} (hp : place ≤ subject.text.size) {final : State}
    (h : run subject flags false none r ⟨place, place, []⟩ accepted = .found final) :
    place + (width subject.groupWidth r).least ≤ final.position ∧
      final.position ≤ subject.text.size ∧
      final.marks = [] := by
  have hstart : (⟨place, place, []⟩ : State).Within 0 subject.text.size [] :=
    .atPlace (Nat.zero_le place) hp
  have hreached := run_reached subject hr flags false none hstart FailsFrom.accepted
  rw [h] at hreached
  cases hreached with
  | found ht hle hk =>
      cases hk
      exact ⟨hle, ht.position_le_high, ht.marks_eq⟩

end ToolPolicy.Regex
