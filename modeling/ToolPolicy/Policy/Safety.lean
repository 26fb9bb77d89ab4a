import ToolPolicy.Text.Basic

/-!
# The screen for nested repetition

A pattern such as `(a+)+` can make matching take exponential time. Before a pattern is compiled its
text is searched for the shape of these patterns: a group that holds one repeated atom and is itself
repeated. `HasNestedShape` says what is searched for, and `isSafe` is the search.

Main statements: `startsNested_iff` (the test at one place finds the shape, and nothing else) and
`isSafe_eq_false_iff` (the search fails exactly on texts that hold the shape somewhere).
-/

namespace ToolPolicy.Safety

/-- The signs that repeat an atom without a count. -/
def isRepeat (c : CodePoint) : Bool := c == 43 || c == 42

/-- The signs that repeat a group: those of an atom, and an opening brace. -/
def isOuterRepeat (c : CodePoint) : Bool := isRepeat c || c == 123

/-- One atom: a code point that is neither a closing parenthesis nor a backslash, or a backslash
with any code point but a line feed. -/
inductive Atom : Text → Prop where
  | plain {c : CodePoint} (h : c ≠ 41 ∧ c ≠ 92) : Atom [c]
  | escape {c : CodePoint} (h : c ≠ 10) : Atom [92, c]

/-- The shape that is refused: somewhere a group with one repeated atom is repeated. -/
def HasNestedShape (t : Text) : Prop :=
  ∃ before atom q r after, t = before ++ 40 :: atom ++ q :: 41 :: r :: after ∧
    Atom atom ∧ isRepeat q = true ∧ isOuterRepeat r = true

/-- Whether a repetition, a closing parenthesis and another repetition come next. -/
def endsNested : Text → Bool
  | q :: p :: r :: _ => isRepeat q && p == 41 && isOuterRepeat r
  | _ => false

/-- Whether the refused shape begins at the start of a text. -/
def startsNested : Text → Bool
  | p :: a :: rest =>
    p == 40 && ((a != 41 && a != 92 && endsNested rest) ||
      (a == 92 && match rest with
        | c :: more => c != 10 && endsNested more
        | [] => false))
  | _ => false

/-- Whether a text is free of the refused shape. -/
def isSafe : Text → Bool
  | [] => true
  | c :: rest => !startsNested (c :: rest) && isSafe rest

theorem endsNested_iff (t : Text) : endsNested t = true ↔
    ∃ q r after, t = q :: 41 :: r :: after ∧ isRepeat q = true ∧ isOuterRepeat r = true := by
  match t with
  | [] => simp [endsNested]
  | [_] => simp [endsNested]
  | [_, _] => simp [endsNested]
  | q :: p :: r :: after =>
    simp only [endsNested, Bool.and_eq_true, beq_iff_eq]
    constructor
    · rintro ⟨⟨hq, rfl⟩, hr⟩
      exact ⟨q, r, after, rfl, hq, hr⟩
    · rintro ⟨q', r', after', h, hq, hr⟩
      simp only [List.cons.injEq] at h
      obtain ⟨rfl, rfl, rfl, rfl⟩ := h
      exact ⟨⟨hq, rfl⟩, hr⟩

theorem startsNested_iff (t : Text) : startsNested t = true ↔
    ∃ atom q r after, t = 40 :: atom ++ q :: 41 :: r :: after ∧
      Atom atom ∧ isRepeat q = true ∧ isOuterRepeat r = true := by
  constructor
  · intro h
    match t with
    | [] => simp [startsNested] at h
    | [_] => simp [startsNested] at h
    | p :: a :: rest =>
      simp only [startsNested, Bool.and_eq_true, Bool.or_eq_true, beq_iff_eq, bne_iff_ne] at h
      obtain ⟨rfl, ⟨ha, hrest⟩ | ⟨rfl, hrest⟩⟩ := h
      · obtain ⟨q, r, after, rfl, hq, hr⟩ := (endsNested_iff rest).1 hrest
        exact ⟨[a], q, r, after, rfl, .plain ha, hq, hr⟩
      · match rest with
        | [] => simp at hrest
        | c :: more =>
          simp only [Bool.and_eq_true, bne_iff_ne] at hrest
          obtain ⟨q, r, after, rfl, hq, hr⟩ := (endsNested_iff more).1 hrest.2
          exact ⟨[92, c], q, r, after, rfl, .escape hrest.1, hq, hr⟩
  · rintro ⟨atom, q, r, after, rfl, hatom, hq, hr⟩
    have hends : endsNested (q :: 41 :: r :: after) = true :=
      (endsNested_iff _).2 ⟨q, r, after, rfl, hq, hr⟩
    cases hatom with
    | plain h => simp [startsNested, h, hends]
    | escape h => simp [startsNested, h, hends]

theorem isSafe_eq_false_iff (t : Text) : isSafe t = false ↔ HasNestedShape t := by
  induction t with
  | nil =>
    simp only [isSafe, Bool.true_eq_false, HasNestedShape, false_iff]
    rintro ⟨before, atom, q, r, after, h, -⟩
    simp at h
  | cons c rest ih =>
    simp only [isSafe, Bool.and_eq_false_iff, Bool.not_eq_false', ih]
    constructor
    · rintro (h | ⟨before, atom, q, r, after, rfl, h⟩)
      · obtain ⟨atom, q, r, after, h, hs⟩ := (startsNested_iff _).1 h
        exact ⟨[], atom, q, r, after, h, hs⟩
      · exact ⟨c :: before, atom, q, r, after, rfl, h⟩
    · rintro ⟨before, atom, q, r, after, h, hs⟩
      cases before with
      | nil => exact .inl ((startsNested_iff _).2 ⟨atom, q, r, after, h, hs⟩)
      | cons b more =>
        simp only [List.cons_append, List.cons.injEq] at h
        exact .inr ⟨more, atom, q, r, after, h.2, hs⟩

end ToolPolicy.Safety
