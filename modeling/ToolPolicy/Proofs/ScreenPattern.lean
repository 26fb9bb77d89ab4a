import ToolPolicy.Policy.Safety
import ToolPolicy.Proofs.Paths

/-!
# The screen as a pattern

The screen for nested repetition is described by a pattern, and searches a text for it by hand. The
two agree: the pattern, compiled and searched for by the matcher, is found exactly in the texts that
the screen refuses, and those are the texts that hold a group with one repeated atom which is
repeated itself, whatever stands before and behind it.

* `leads_shape_iff`: the pattern leads from a place exactly if the shape begins there.
* `settled_shape`: how a run of the pattern ends, with what its group has recorded.
* `refuses_iff_shape`: the shape, the search and the pattern.
-/

namespace ToolPolicy.Safety

open Regex

/-! ## The pattern -/

/-- The pattern for the refused shape. -/
def shape : Text := "\\((\\.|\\\\.|[^)\\\\])[+*]\\)[+*\x7b]"

/-- The part of the pattern that stands for one atom. Its first alternative
is covered by the last. -/
def atomPart : Regex :=
  .alt (.one (.literal 46)) (.alt (.seq (.one (.literal 92)) (.one .any))
    (.one (.oneOf true [.literal 41, .literal 92])))

/-- The part of the pattern behind the atom. -/
def repeatsPart : Regex :=
  .seq (.one (.oneOf false [.literal 43, .literal 42])) (.seq (.one (.literal 41))
    (.one (.oneOf false [.literal 43, .literal 42, .literal 123])))

/-- The pattern as it is read. -/
def shapePattern : Pattern where
  source := shape
  options := {}
  tree := .seq (.one (.literal 40)) (.seq (.capture 1 atomPart) repeatsPart)
  flags := { unicode := true }
  widths := [some ⟨1, 2⟩]

theorem compile_shape : Pattern.compile shape {} = .ok shapePattern :=
  Pattern.compile_of_toOption (by decide +kernel)

/-! ## Where it leads -/

section
variable {t : Text} {i j : Nat}

/-- What the tests of the pattern accept; case is not ignored. -/
theorem holds_literal (a c : CodePoint) :
    (CharTest.literal a).holds shapePattern.flags c = true ↔ c = a := by
  rw [CharTest.holds_literal rfl, eq_comm]

theorem holds_any (c : CodePoint) : CharTest.any.holds shapePattern.flags c = true ↔ c ≠ 10 :=
  CharTest.holds_any rfl c

theorem holds_plain (c : CodePoint) :
    (CharTest.oneOf true [.literal 41, .literal 92]).holds shapePattern.flags c = true ↔
      c ≠ 41 ∧ c ≠ 92 := by
  have hcase : shapePattern.flags.ignoreCase = false := rfl
  have h := holds_letters hcase true [41, 92] c
  simp only [List.map_cons, List.map_nil] at h
  simp [h]

theorem holds_repeat (c : CodePoint) :
    (CharTest.oneOf false [.literal 43, .literal 42]).holds shapePattern.flags c = true ↔
      isRepeat c = true := by
  have hcase : shapePattern.flags.ignoreCase = false := rfl
  have h := holds_letters hcase false [43, 42] c
  simp only [List.map_cons, List.map_nil] at h
  simp [h, isRepeat]

theorem holds_outerRepeat (c : CodePoint) :
    (CharTest.oneOf false [.literal 43, .literal 42, .literal 123]).holds shapePattern.flags c =
      true ↔ isOuterRepeat c = true := by
  have hcase : shapePattern.flags.ignoreCase = false := rfl
  have h := holds_letters hcase false [43, 42, 123] c
  simp only [List.map_cons, List.map_nil] at h
  simp [h, isOuterRepeat, isRepeat, or_assoc]

theorem passes_atomPart : shapePattern.Passes t atomPart i j ↔
    ∃ atom, Atom atom ∧ t.drop i = atom ++ t.drop j ∧ j = i + atom.length := by
  simp only [atomPart, leads_alt, leads_seq, Pattern.passes_one_iff, holds_literal, holds_plain,
    holds_any]
  constructor
  · rintro (⟨c, rfl, hdrop, rfl⟩ | ⟨m, ⟨c, rfl, hdrop, rfl⟩, d, hd, hdrop', rfl⟩ |
      ⟨c, hc, hdrop, rfl⟩)
    · exact ⟨[46], .plain (by decide), hdrop, rfl⟩
    · exact ⟨[92, d], .escape hd, by rw [hdrop, hdrop']; rfl, rfl⟩
    · exact ⟨[c], .plain hc, hdrop, rfl⟩
  · rintro ⟨_, ⟨hc⟩ | ⟨hc⟩, hdrop, rfl⟩
    · exact .inr (.inr ⟨_, hc, hdrop, rfl⟩)
    · have hdrop' := Pattern.drop_cons hdrop
      exact .inr (.inl ⟨i + 1, ⟨92, rfl, by rw [hdrop, hdrop']; rfl, rfl⟩, _, hc, hdrop', rfl⟩)

theorem passes_repeatsPart : shapePattern.Passes t repeatsPart i j ↔
    ∃ q r, isRepeat q = true ∧ isOuterRepeat r = true ∧ t.drop i = q :: 41 :: r :: t.drop j ∧
      j = i + 3 := by
  simp only [repeatsPart, leads_seq, Pattern.passes_one_iff, holds_literal, holds_repeat,
    holds_outerRepeat]
  constructor
  · rintro ⟨a, ⟨q, hq, hdrop, rfl⟩, b, ⟨_, rfl, hdrop', rfl⟩, r, hr, hdrop'', rfl⟩
    exact ⟨q, r, hq, hr, by rw [hdrop, hdrop', hdrop''], rfl⟩
  · rintro ⟨q, r, hq, hr, hdrop, rfl⟩
    have hdrop' := Pattern.drop_cons hdrop
    have hdrop'' := Pattern.drop_cons hdrop'
    refine ⟨i + 1, ⟨q, hq, ?_, rfl⟩, i + 2, ⟨41, rfl, ?_, rfl⟩, r, hr, hdrop'', rfl⟩
    · rw [hdrop, hdrop']
    · rw [hdrop', hdrop'']

/-- The pattern leads from a place over a parenthesis, an atom and what follows it. -/
def LeadsOver (t : Text) (i a b j : Nat) : Prop :=
  shapePattern.Passes t (.one (.literal 40)) i a ∧ shapePattern.Passes t atomPart a b ∧
    shapePattern.Passes t repeatsPart b j

theorem leads_shape_iff : (∃ a b j, LeadsOver t i a b j) ↔ startsNested (t.drop i) = true := by
  simp only [LeadsOver, passes_atomPart, passes_repeatsPart, Pattern.passes_one_iff, holds_literal,
    startsNested_iff]
  constructor
  · rintro ⟨_, _, _, ⟨_, rfl, hdrop, rfl⟩, ⟨atom, hatom, hdrop', rfl⟩, q, r, hq, hr, hdrop'', rfl⟩
    exact ⟨atom, q, r, _, by rw [hdrop, hdrop', hdrop'', List.cons_append], hatom, hq, hr⟩
  · rintro ⟨atom, q, r, after, hdrop, hatom, hq, hr⟩
    have hopened : t.drop (i + 1) = atom ++ q :: 41 :: r :: after := Pattern.drop_cons hdrop
    have hclosed : t.drop (i + 1 + atom.length) = q :: 41 :: r :: after :=
      Pattern.drop_append hopened
    have hafter : t.drop (i + 1 + atom.length + 3) = after :=
      Pattern.drop_append (u := [q, 41, r]) hclosed
    refine ⟨_, _, _, ⟨40, rfl, ?_, rfl⟩, ⟨atom, hatom, ?_, rfl⟩, q, r, hq, hr, ?_, rfl⟩
    · rw [hopened, hdrop, List.cons_append]
    · rw [hopened, hclosed]
    · rw [hclosed, hafter]

/-! ## Runs of the pattern -/

theorem hasReversedGroup_pair {a b : Nat} (h : a ≤ b) :
    Marks.hasReversedGroup [some a, some b] = false := by
  simpa [Marks.hasReversedGroup, Marks.span?] using h

/-- A run of the pattern ends where it leads, with its atom recorded. -/
theorem settled_shape (t : Text) (i : Nat) :
    Settled [] (fun final => ∃ a b j, LeadsOver t i a b j ∧ final = ⟨j, j, [some a, some b]⟩)
      (run (shapePattern.subject t) shapePattern.flags false none shapePattern.tree ⟨i, i, []⟩
        accepted) := by
  have hrepeats : ∀ a b, Decides [some a, some b] (fun i final =>
      ∃ j, shapePattern.Passes t repeatsPart i j ∧ final = ⟨j, j, [some a, some b]⟩)
      (shapePattern.before t none repeatsPart accepted) :=
    fun a b => Pattern.decides_before rfl (Decides.accepted _)
  have hgroup : isStraight atomPart = true := rfl
  have hfresh : ([] : Marks).length = 2 * 0 := rfl
  have hatom : Decides [] (fun a final => ∃ b, shapePattern.Passes t atomPart a b ∧
      ∃ j, shapePattern.Passes t repeatsPart b j ∧ final = ⟨j, j, [some a, some b]⟩)
      (shapePattern.before t none (.capture 1 atomPart)
        (shapePattern.before t none repeatsPart accepted)) :=
    Pattern.decides_before_capture hgroup hfresh none hrepeats
  have hopening : isStraight (.one (.literal 40)) = true := rfl
  refine (Pattern.decides_before hopening hatom ⟨i, i, []⟩ rfl).congr fun final => ?_
  constructor
  · rintro ⟨a, ha, b, hb, j, hj, rfl⟩
    exact ⟨a, b, j, ⟨ha, hb, hj⟩, rfl⟩
  · rintro ⟨a, b, j, ⟨ha, hb, hj⟩, rfl⟩
    exact ⟨a, ha, b, hb, j, hj, rfl⟩

theorem isSafe_eq_false_iff_starts (t : Text) :
    isSafe t = false ↔ ∃ i ≤ t.length, startsNested (t.drop i) = true := by
  rw [isSafe_eq_false_iff]
  constructor
  · rintro ⟨before, atom, q, r, after, rfl, h⟩
    refine ⟨before.length, ?_, (startsNested_iff _).2 ⟨atom, q, r, after, ?_, h⟩⟩
    · simp
    · simp
  · rintro ⟨i, -, h⟩
    obtain ⟨atom, q, r, after, hdrop, h⟩ := (startsNested_iff _).1 h
    exact ⟨t.take i, atom, q, r,
      after, by rw [List.append_assoc, ← hdrop, List.take_append_drop], h⟩

/-- The pattern is found in the texts that the screen refuses. -/
theorem isFoundIn_shape (t : Text) : shapePattern.isFoundIn t = .ok (!isSafe t) := by
  have hat : ∀ i ≤ t.length, ∃ o, shapePattern.matchAt (shapePattern.subject t) i = .ok o ∧
      (o.isSome = true ↔ startsNested (t.drop i) = true) := by
    intro i _
    obtain ⟨o, ho, hiff⟩ := Pattern.matchAt_of_settled (settled_shape t i) <| by
      rintro _ ⟨a, b, j, ⟨-, hatom, -⟩, rfl⟩
      obtain ⟨atom, -, -, rfl⟩ := passes_atomPart.1 hatom
      exact hasReversedGroup_pair (Nat.le_add_right a _)
    refine ⟨o, ho, hiff.trans (Iff.trans ?_ leads_shape_iff)⟩
    constructor
    · rintro ⟨_, a, b, j, h, -⟩
      exact ⟨a, b, j, h⟩
    · rintro ⟨a, b, j, h⟩
      exact ⟨_, a, b, j, h, rfl⟩
  have hwide : ∀ i ≤ t.length, startsNested (t.drop i) = true →
    i + shapePattern.least ≤ t.length := by
    intro i hi h
    obtain ⟨atom, q, r, after, hdrop, hatom, -⟩ := (startsNested_iff _).1 h
    have hlength := congrArg List.length hdrop
    have hleast : shapePattern.least = 5 := by decide
    have hpositive : 0 < atom.length := by cases hatom <;> simp
    simp only [List.length_drop, List.length_append, List.length_cons] at hlength
    omega
  obtain ⟨found, hfound, hiff⟩ := Pattern.isFoundIn_of_matchAt hat hwide (.inr rfl)
  rw [← isSafe_eq_false_iff_starts] at hiff
  have hrefused : found = !isSafe t := by
    cases hsafe : isSafe t <;> simpa [hsafe] using hiff
  rw [hfound, hrefused]

/-! ## The shape -/

theorem atom_iff_written {a : Text} :
    Atom a ↔ (∃ c : CodePoint, a = [c] ∧ c ≠ ')' ∧ c ≠ 92) ∨
      ∃ c : CodePoint, a = [92, c] ∧ c ≠ 10 := by
  constructor
  · intro h
    cases h with
    | @plain c h => exact .inl ⟨c, rfl, h⟩
    | @escape c h => exact .inr ⟨c, rfl, h⟩
  · rintro (⟨c, rfl, h⟩ | ⟨c, rfl, h⟩)
    · exact .plain h
    · exact .escape h

theorem isRepeat_iff {q : CodePoint} : isRepeat q = true ↔ q = '+' ∨ q = '*' := by
  rw [isRepeat, Bool.or_eq_true, beq_iff_eq, beq_iff_eq]
  rfl

theorem isOuterRepeat_iff {r : CodePoint} :
    isOuterRepeat r = true ↔ r = '+' ∨ r = '*' ∨ r = 123 := by
  rw [isOuterRepeat, Bool.or_eq_true, isRepeat_iff, beq_iff_eq, or_assoc]

/-- **The screen refuses one shape.**  A text is refused exactly if it can be written as a
parenthesis, an atom, a sign that repeats it, a closing parenthesis and a sign or brace that repeats
the group, with anything before and behind; so is every text that holds a refused one. The pattern
for the shape compiles, and is found in a text exactly if the screen refuses it. -/
theorem refuses_iff_shape :
    (∀ t, isSafe t = false ↔ ∃ (u a v : Text) (q r : CodePoint),
      t = u ++ "(" ++ a ++ [q] ++ ")" ++ [r] ++ v ∧
        ((∃ c : CodePoint, a = [c] ∧ c ≠ ')' ∧ c ≠ 92) ∨ ∃ c : CodePoint, a = [92, c] ∧ c ≠ 10) ∧
        (q = '+' ∨ q = '*') ∧ (r = '+' ∨ r = '*' ∨ r = 123)) ∧
    (∀ t u v, isSafe t = false → isSafe (u ++ t ++ v) = false) ∧
    ∃ p, Pattern.compile shape {} = .ok p ∧ ∀ t, p.isFoundIn t = .ok (!isSafe t) := by
  refine ⟨fun t => ?_, fun t u v h => ?_, shapePattern, compile_shape, isFoundIn_shape⟩
  · have hwritten : ∀ (u a v : Text) (q r : CodePoint),
        u ++ "(" ++ a ++ [q] ++ ")" ++ [r] ++ v = u ++ 40 :: a ++ q :: 41 :: r :: v := by
      intro u a v q r
      simp [Text.ofString]
    simp only [isSafe_eq_false_iff, HasNestedShape, ← atom_iff_written, ← isRepeat_iff,
      ← isOuterRepeat_iff, hwritten]
    constructor
    · rintro ⟨u, a, q, r, v, h⟩
      exact ⟨u, a, v, q, r, h⟩
    · rintro ⟨u, a, v, q, r, h⟩
      exact ⟨u, a, q, r, v, h⟩
  · rw [isSafe_eq_false_iff] at h ⊢
    obtain ⟨before, atom, q, r, after, rfl, hshape⟩ := h
    exact ⟨u ++ before, atom, q, r, after ++ v, by simp, hshape⟩

/-- A refused group within a refused group, and text around both. -/
theorem refuses_iff_shape_nested : isSafe "((a+)+b)*" = false ∧
    isSafe ("rm " ++ "((a+)+b)*" ++ "$") = false :=
  have h : isSafe "((a+)+b)*" = false := by decide
  ⟨h, refuses_iff_shape.2.1 _ "rm " "$" h⟩

end

end ToolPolicy.Safety
