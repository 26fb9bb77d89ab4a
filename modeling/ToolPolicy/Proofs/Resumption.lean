import ToolPolicy.Regex.Matcher

/-!
# Where a match goes on from

A state carries the place that was put down last, for possessive repetitions only. Each of them puts
down its own place before it looks at one, so whatever a pattern is entered with makes no difference
to what it finds.

* `giveBack_congr`, `takeMore_congr`, `repeatGreedy_congr`, `repeatReluctant_congr`: the loops,
  round by round.
* `run_congr`: two runs from states that differ in that place alone agree, for every pattern.
-/

namespace ToolPolicy.Regex

/-- States that differ at most in the place that was put down last. -/
structure State.Alike (s t : State) : Prop where
  position : s.position = t.position
  marks : s.marks = t.marks

namespace State.Alike

variable {s t : State}

theorem refl (s : State) : s.Alike s := ⟨rfl, rfl⟩

theorem settle_eq (h : s.Alike t) : s.settle = t.settle := by
  rw [State.settle, State.settle, h.position, h.marks]

theorem stand_eq (h : s.Alike t) (place : Nat) : s.stand place = t.stand place := by
  rw [State.stand, State.stand, h.marks]

theorem next (h : s.Alike t) : s.next.Alike t.next := ⟨congrArg (· + 1) h.position, h.marks⟩

theorem settle (h : s.Alike t) : s.settle.Alike t.settle := ⟨h.position, h.marks⟩

end State.Alike

namespace Outcome

/-- An outcome without the place that was put down last. -/
def outline : Outcome → Outcome
  | found final => found final.settle
  | failed _ left => failed 0 left

/-- The position at which a match ends, if there is one. -/
def last? : Outcome → Option Nat
  | found final => some final.position
  | failed .. => none

theorem last?_outline (o : Outcome) : o.outline.last? = o.last? := by
  cases o <;> rfl

@[simp] theorem outline_settling (o : Outcome) (place : Nat) :
  (o.settling place).outline = o.outline := by
  cases o <;> rfl

theorem outline_fail {s t : State} (h : s.Alike t) : s.fail.outline = t.fail.outline := by
  rw [State.fail, State.fail, h.marks]
  rfl

theorem outline_orElse {o p : Outcome} {f g : Nat → Marks → Outcome} (h : o.outline = p.outline)
    (hf : ∀ m n left, (f m left).outline = (g n left).outline) :
    (o.orElse f).outline = (p.orElse g).outline := by
  cases o with
  | found final =>
      cases p with
      | found other => exact h
      | failed n right => cases h
  | failed m left =>
      cases p with
      | found other => cases h
      | failed n right =>
          cases h
          exact hf m n left

theorem outline_restoring {o p : Outcome} (h : o.outline = p.outline) (repeated : Bool)
    (saved : Marks) :
    (o.restoring repeated saved).outline = (p.restoring repeated saved).outline := by
  cases o with
  | found final =>
      cases p with
      | found other => exact h
      | failed n right => cases h
  | failed m left =>
      cases p with
      | found other => cases h
      | failed n right =>
          cases h
          rfl

end Outcome

/-- Continuations that agree on states that are alike. -/
def Agree (k l : Continuation) : Prop := ∀ s t, s.Alike t → (k s).outline = (l t).outline

theorem Agree.accepted : Agree accepted accepted := by
  intro s t h
  rw [Regex.accepted, Regex.accepted, h.settle_eq]

/-! ## Loops -/

section
variable {subject : Subject} {next : Option CodePoint} {repeated : Bool} {least : Nat}
    {k l : Continuation}

theorem giveBack_congr (h : Agree k l) {start other : State} (hs : start.Alike other)
    (extra resume resume' : Nat) (marks : Marks) :
    (giveBack subject next repeated start least k extra resume marks).outline =
      (giveBack subject next repeated other least l extra resume' marks).outline := by
  induction extra generalizing resume resume' marks with
  | zero =>
      simp only [giveBack, hs.position, hs.marks]
      refine Outcome.outline_restoring ?_ repeated other.marks
      split
      · exact h _ _ (.refl _)
      · rfl
  | succ extra ih =>
      simp only [giveBack, hs.position, hs.marks]
      refine Outcome.outline_orElse ?_ fun m n left => ih m n _
      split
      · exact h _ _ (.refl _)
      · rfl

theorem takeMore_congr (h : Agree k l) {start other : State} (hs : start.Alike other)
    (test : RepeatedTest) (taken more : Nat) (marks : Marks) :
    (takeMore subject test repeated start least k taken more marks).outline =
      (takeMore subject test repeated other least l taken more marks).outline := by
  induction more generalizing taken marks with
  | zero =>
      simp only [takeMore, hs.position, hs.marks, Outcome.outline_settling]
      exact Outcome.outline_restoring (h _ _ (.refl _)) repeated other.marks
  | succ more ih =>
      simp only [takeMore, hs.position, hs.marks]
      exact Outcome.outline_orElse (h _ _ (.refl _)) fun _ _ left => ih (taken + 1) _

variable {most : Option Nat}

theorem repeatTest_congr (h : Agree k l) (test : RepeatedTest) (greed : Greed) {s t : State}
    (hs : s.Alike t) :
    (repeatTest subject next repeated test greed least most s k).outline =
      (repeatTest subject next repeated test greed least most t l).outline := by
  simp only [repeatTest, hs.position]
  split
  · exact Outcome.outline_fail hs
  · split
    · rw [hs.marks]
    · cases greed with
      | greedy =>
          rw [hs.marks]
          exact giveBack_congr h hs _ _ _ _
      | reluctant =>
          rw [hs.marks]
          exact takeMore_congr h hs test _ _ _
      | possessive => exact h _ _ ⟨rfl, hs.marks⟩

/-- A part whose outcome depends on its continuation as it should. -/
def Extensional (body : Matcher) : Prop :=
  ∀ s k l, Agree k l → (body s k).outline = (body s l).outline

variable {body : Matcher}

theorem repeatGreedy_congr (hb : Extensional body) (h : Agree k l) (rounds count : Nat)
    (last : Option Nat) {s t : State} (hs : s.Alike t) :
    (repeatGreedy body least most k rounds count last s).outline =
      (repeatGreedy body least most l rounds count last t).outline := by
  induction rounds generalizing count last s t with
  | zero => exact Outcome.outline_fail hs
  | succ rounds ih =>
      simp only [repeatGreedy, hs.position, hs.settle_eq]
      split
      · rw [Outcome.outline_settling, Outcome.outline_settling]
        exact hb _ _ _ fun _ _ ha => ih _ _ ha
      · split
        · refine Outcome.outline_orElse (hb _ _ _ fun _ _ ha => ih _ _ ha) fun _ _ _ => ?_
          rw [Outcome.outline_settling, Outcome.outline_settling]
          exact h _ _ (.refl _)
        · rw [Outcome.outline_settling, Outcome.outline_settling]
          exact h _ _ (.refl _)

theorem repeatReluctant_congr (hb : Extensional body) (h : Agree k l) (rounds count : Nat)
    (last : Option Nat) {s t : State} (hs : s.Alike t) :
    (repeatReluctant repeated body least most k rounds count last s).outline =
      (repeatReluctant repeated body least most l rounds count last t).outline := by
  induction rounds generalizing count last s t with
  | zero => exact Outcome.outline_fail hs
  | succ rounds ih =>
      simp only [repeatReluctant, hs.position, hs.marks, hs.settle_eq]
      split
      · rw [Outcome.outline_settling, Outcome.outline_settling]
        exact hb _ _ _ fun _ _ ha => ih _ _ ha
      · refine Outcome.outline_orElse (h _ _ (.refl _)) fun _ _ left => ?_
        split
        · rw [Outcome.outline_settling, Outcome.outline_settling]
          exact hb _ _ _ fun _ _ ha => ih _ _ ha
        · exact Outcome.outline_fail (.refl _)

theorem repeatPart_congr {body : Bool → Matcher} (hb : ∀ within, Extensional (body within))
    (h : Agree k l) (greed : Greed) {s t : State} (hs : s.Alike t) :
    (repeatPart subject repeated body greed least most s k).outline =
      (repeatPart subject repeated body greed least most t l).outline := by
  cases greed with
  | greedy => exact repeatGreedy_congr (hb true) h _ _ _ hs
  | reluctant => exact repeatReluctant_congr (hb true) h _ _ _ hs
  | possessive =>
      simp only [repeatPart, hs.position, hs.settle_eq]
      split
      · exact h _ _ (.refl _)
      · rfl

end

/-! ## Patterns -/

/-- **The place that was put down last makes no difference** to what a pattern finds: runs from
states that are alike, with continuations that agree, have the same outcome but for such a place. -/
theorem run_congr (subject : Subject) (r : Regex) (flags : Flags) (repeated : Bool)
    (next : Option CodePoint) {s t : State} {k l : Continuation} (hs : s.Alike t) (h : Agree k l) :
    (run subject flags repeated next r s k).outline =
      (run subject flags repeated next r t l).outline := by
  induction r generalizing flags repeated next s t k l with
  | empty => exact h s t hs
  | one test =>
      simp only [run, hs.position]
      split
      · exact h _ _ hs.next
      · exact Outcome.outline_fail hs
  | anchor a =>
      simp only [run, hs.position]
      split
      · exact h _ _ hs
      · exact Outcome.outline_fail hs
  | seq a b iha ihb => exact iha _ _ _ hs fun _ _ ha => ihb _ _ _ ha h
  | alt a b iha ihb =>
      simp only [run, hs.position, hs.marks]
      refine Outcome.outline_restoring (Outcome.outline_orElse ?_ fun _ _ left => ?_) repeated
        t.marks
      · split
        · exact iha _ _ _ hs.settle h
        · exact Outcome.outline_fail hs
      · split
        · exact ihb _ _ _ ⟨rfl, rfl⟩ h
        · split
          · exact ihb _ _ _ ⟨rfl, rfl⟩ h
          · rfl
  | rep greed least most body ih =>
      simp only [run]
      split
      · exact repeatTest_congr h _ greed hs
      · exact repeatPart_congr (fun within u _ _ hkl => ih flags within none (.refl u) hkl) h greed
          hs
  | capture index body ih =>
      simp only [run, hs.position, hs.marks]
      refine ih _ _ _ ⟨rfl, rfl⟩ fun u v ha => h _ _ ⟨ha.position, ?_⟩
      rw [ha.position, ha.marks]
  | flagged on off body ih => exact ih _ _ _ hs h
  | atomic body ih =>
      simp only [run, hs.position, hs.settle_eq]
      split
      · exact h _ _ (.refl _)
      · rfl
  | look behind negated body ih =>
      simp only [run, hs.position, hs.stand_eq, hs.marks]
      generalize (if behind then (width subject.groupWidth body).least else 0) = back
      split
      · split
        · exact h _ _ hs
        · exact Outcome.outline_fail hs
      · split
        · exact h _ _ (.refl _)
        · rfl
        · rfl
        · exact h _ _ ⟨rfl, rfl⟩
  | backref index =>
      simp only [run, hs.position, hs.marks]
      split
      · exact Outcome.outline_fail hs
      · split
        · exact h _ _ ⟨rfl, rfl⟩
        · exact Outcome.outline_fail hs
  | cond index present absent ihp iha =>
      simp only [run, hs.marks]
      split
      · exact ihp _ _ _ hs h
      · exact iha _ _ _ hs h

/-- What a pattern finds from a state depends on its position and its records alone. -/
theorem last?_run_congr (subject : Subject) (flags : Flags) (repeated : Bool)
    (next : Option CodePoint) (r : Regex) {s t : State} (hs : s.Alike t) :
    (run subject flags repeated next r s accepted).last? =
      (run subject flags repeated next r t accepted).last? := by
  rw [← Outcome.last?_outline, run_congr subject r flags repeated next hs .accepted,
    Outcome.last?_outline]

end ToolPolicy.Regex
