import Mathlib
import ToolPolicy.Proofs.JsonDigits
import ToolPolicy.Proofs.Numerals
import ToolPolicy.Proofs.PartFault

/-!
# Signs of a fault in the text of a document

Finding the tokens of a document can end in a fault in two places: an escape may stand for a number
that is no code point, and the version of a document may have a number with too many digits. Both
show in the text. Everything else that finds tokens goes on within the text and hands on the faults
of its parts, so for each step there is one statement, that it is `tame`.

Main statements: `escape_tame` and `versionNumber_tame` (the two places), `Scan.next_tame` (the next
token), and `textSign_of_tokens` (all of them).
-/

namespace ToolPolicy.Yaml

open Std.Do

set_option mvcgen.warning false

/-! ## Triples -/

section

variable {σ ε α : Type} {x : StateT σ (Except ε) α} {Q : α → σ → Prop} {R : ε → Prop}

/-- What a triple says about a run. -/
theorem run_cases {P : σ → Prop} (h : ⦃fun s => ⌜P s⌝⦄ x ⦃post⟨fun a s => ⌜Q a s⌝, fun e => ⌜R e⌝⟩⦄)
    {s : σ} (hs : P s) :
    (∃ a s', x.run s = .ok (a, s') ∧ Q a s') ∨ ∃ e, x.run s = .error e ∧ R e := by
  have hrun := h s hs
  rcases hx : x.run s with e | ⟨a, s'⟩
  · refine .inr ⟨e, rfl, ?_⟩
    change wp⟦x.run s⟧ _ |>.down at hrun
    rw [hx] at hrun
    exact hrun
  · refine .inl ⟨a, s', rfl, ?_⟩
    change wp⟦x.run s⟧ _ |>.down at hrun
    rw [hx] at hrun
    exact hrun

/-- It is enough to show whatever follows from the end of a run. So a call that comes last is not
taken to begin where the run itself begins. -/
theorem triple_of_forall {P : Assertion (.arg σ (.except ε .pure))}
    (h : ∀ Q' : α → σ → Prop, (∀ a s, Q a s → Q' a s) →
      ⦃P⦄ x ⦃post⟨fun a s => ⌜Q' a s⌝, fun e => ⌜R e⌝⟩⦄) :
    ⦃P⦄ x ⦃post⟨fun a s => ⌜Q a s⌝, fun e => ⌜R e⌝⟩⦄ :=
  h Q fun _ _ h => h

end

/-! ## Signs -/

/-- That a text has an escape with these eight hexadecimal digits, and they
stand for no code point. -/
structure EscapesBeyond (text digits : Text) : Prop where
  place : 92 :: 85 :: digits <:+: text
  isHex : ∀ c ∈ digits, CodePoint.isHexDigit c = true
  length : digits.length = 8
  beyond : 0x10FFFF < Text.toNatBase 16 digits

/-- What in the text of a document shows a fault of its tokens. -/
inductive TextSign (text : Text) : Fault → Prop where
  | version {n : Nat} (h : text.HasLongNumber n) : TextSign text (.tooManyDigits n)
  | codePoint {digits : Text} (h : EscapesBeyond text digits)
      (small : Text.toNatBase 16 digits < 0x80000000) :
      TextSign text .codePointOutOfRange
  | largeCodePoint {digits : Text} (h : EscapesBeyond text digits)
      (large : 0x80000000 ≤ Text.toNatBase 16 digits) :
      TextSign text .codePointTooLarge

/-- That a failure, if it is a fault, shows in a text. -/
def Failure.ShownIn (text : Text) (e : Failure) : Prop := ∀ f, e = .fault f → TextSign text f

theorem Failure.shownIn_flaw (text : Text) (f : Flaw) : (Failure.flaw f).ShownIn text := by
  intro g h
  cases h

theorem Failure.shownIn_fault {text : Text} {f : Fault} (h : TextSign text f) :
    (Failure.fault f).ShownIn text := by
  intro g hg
  cases hg
  exact h

/-- That a cursor is within a text, which does not end with a fault. -/
structure Cursor.Inside (text : Text) (c : Cursor) : Prop where
  ahead : c.ahead <:+ text
  failure : ∀ f, c.failure ≠ some (.fault f)

/-! ## The cursor -/

namespace Cursor

variable {text : Text} {c : Cursor}

theorem Inside.advance (h : c.Inside text) (count : Nat) : (c.advance count).Inside text :=
  ⟨(List.drop_suffix count c.ahead).trans h.ahead, h.failure⟩

theorem Inside.shownIn_peek (h : c.Inside text) {k : Nat} {e : Failure} (he : c.peek k = .error e) :
    e.ShownIn text := by
  rw [peek] at he
  split at he
  · cases he
  · split at he
    · next hf =>
      cases he
      rintro f rfl
      exact absurd hf (h.failure f)
    · cases he

theorem Inside.shownIn_peekText (h : c.Inside text) {k : Nat} {e : Failure}
    (he : c.peekText k = .error e) :
    e.ShownIn text := by
  rw [peekText] at he
  split at he
  · next hf =>
    split at he
    · cases he
      rintro f rfl
      exact absurd hf (h.failure f)
    · cases he
  · cases he

/-- What is ahead, if it is not the end. -/
theorem getElem?_of_peek {k : Nat} {d : CodePoint} (h : c.peek k = .ok d) (hd : d ≠ 0) :
    c.ahead[k]? = some d := by
  rw [peek] at h
  split at h
  · next hk =>
    cases h
    exact hk
  · split at h
    · cases h
    · cases h
      exact absurd rfl hd

theorem take_of_peekText {k : Nat} {t : Text} (h : c.peekText k = .ok t) : t = c.ahead.take k := by
  rw [peekText] at h
  split at h
  · split at h
    · cases h
    · cases h
      rfl
  · cases h
    rfl

end Cursor

/-! ## Steps that go on within a text -/

/-- A result is what it is, and so is a failure. -/
theorem except_spec {α : Type} (x : Except Failure α) :
    ⦃⌜True⌝⦄ x ⦃post⟨fun a => ⌜x = .ok a⌝, fun e => ⌜x = .error e⌝⟩⦄ := by
  cases x <;> exact fun _ => rfl

/-- The states of reading within a text. -/
abbrev within (text : Text) : Assertion (.arg Lexer (.except Failure .pure)) :=
  fun s => ⌜s.cursor.Inside text⌝

/-- Going on within a text, or failing in a way that is shown in it. -/
abbrev tame {α : Type} (text : Text) : PostCond α (.arg Lexer (.except Failure .pure)) :=
  post⟨fun _ s => ⌜s.cursor.Inside text⌝, fun e => ⌜e.ShownIn text⌝⟩

section

variable {text : Text} {α : Type}

namespace Scan

@[spec] theorem peek_tame (k : Nat) : ⦃within text⦄ peek k ⦃tame text⦄ := by
  mvcgen [peek, except_spec]
  next h e => exact h.shownIn_peek

@[spec] theorem peekText_tame (count : Nat) : ⦃within text⦄ peekText count ⦃tame text⦄ := by
  mvcgen [peekText, except_spec]
  next h e => exact h.shownIn_peekText

@[spec] theorem forward_tame (count : Nat) : ⦃within text⦄ forward count ⦃tame text⦄ := by
  mvcgen [forward]
  next h _ => exact h.advance count

theorem peek_at {c : Cursor} (hc : c.Inside text) (k : Nat) : ⦃fun s => ⌜s.cursor = c⌝⦄ peek k
    ⦃post⟨fun d s => ⌜s.cursor = c ∧ c.peek k = .ok d⌝, fun e => ⌜e.ShownIn text⌝⟩⦄ := by
  mvcgen [peek, except_spec, -peek_tame]
  · next h d =>
    exact fun hd => ⟨h, h ▸ hd⟩
  · next h e => exact fun he => hc.shownIn_peek (h ▸ he)

theorem peekText_at {c : Cursor} (hc : c.Inside text) (count : Nat) :
    ⦃fun s => ⌜s.cursor = c⌝⦄ peekText count
    ⦃post⟨fun t s => ⌜s.cursor = c ∧ c.peekText count = .ok t⌝, fun e => ⌜e.ShownIn text⌝⟩⦄ := by
  mvcgen [peekText, except_spec, -peekText_tame]
  · next h t => exact fun ht => ⟨h, h ▸ ht⟩
  · next h e => exact fun he => hc.shownIn_peekText (h ▸ he)

theorem forward_at {c : Cursor} (hc : c.Inside text) (count : Nat) :
    ⦃fun s => ⌜s.cursor = c⌝⦄ forward count
    ⦃post⟨fun _ s => ⌜s.cursor = c.advance count⌝, fun e => ⌜e.ShownIn text⌝⟩⦄ := by
  mvcgen [forward, peek_at, -peek_tame, -forward_tame]
  all_goals grind

@[spec] theorem mark_tame : ⦃within text⦄ mark ⦃tame text⦄ := by mvcgen [mark]

@[spec] theorem column_tame : ⦃within text⦄ column ⦃tame text⦄ := by mvcgen [column]

@[spec] theorem fuel_tame : ⦃within text⦄ fuel ⦃tame text⦄ := by mvcgen [fuel]

@[spec] theorem inFlow_tame : ⦃within text⦄ inFlow ⦃tame text⦄ := by mvcgen [inFlow]

@[spec] theorem allowKey_tame (allowed : Bool) :
    ⦃within text⦄ allowKey allowed ⦃tame text⦄ := by mvcgen [allowKey]

theorem throw_shown (e : Failure) :
    ⦃fun _ => ⌜e.ShownIn text⌝⦄ (throw e : Scan α) ⦃tame text⦄ := fun _ h => h

@[spec] theorem failAt_tame (activity : Option Activity) (start : Option Mark)
    (cause : Flaw.Cause) (place : Mark) :
    ⦃within text⦄ (failAt activity start cause place : Scan α) ⦃tame text⦄ :=
  fun _ _ => Failure.shownIn_flaw text _

@[spec] theorem fail_tame (activity : Option Activity) (start : Option Mark) (cause : Flaw.Cause) :
    ⦃within text⦄ (fail activity start cause : Scan α) ⦃tame text⦄ := by mvcgen [fail]

theorem fail_at {c : Cursor} {Q : α → Lexer → Prop} (activity : Option Activity)
    (start : Option Mark)
    (cause : Flaw.Cause) : ⦃fun s => ⌜s.cursor = c⌝⦄ (fail activity start cause : Scan α)
    ⦃post⟨fun a s => ⌜Q a s⌝, fun e => ⌜e.ShownIn text⌝⟩⦄ :=
  fun _ _ => Failure.shownIn_flaw text _

@[spec] theorem spanAhead_tame (p : CodePoint → Bool) :
    ⦃within text⦄ spanAhead p ⦃tame text⦄ := by mvcgen [spanAhead]

@[spec] theorem takeWhile_tame (p : CodePoint → Bool) :
    ⦃within text⦄ takeWhile p ⦃tame text⦄ := by mvcgen [takeWhile]

@[spec] theorem skipSpaces_tame : ⦃within text⦄ skipSpaces ⦃tame text⦄ := by mvcgen [skipSpaces]

@[spec] theorem skipComment_tame : ⦃within text⦄ skipComment ⦃tame text⦄ := by mvcgen [skipComment]

@[spec] theorem takeBreak_tame : ⦃within text⦄ takeBreak ⦃tame text⦄ := by mvcgen [takeBreak]

@[spec] theorem isSeparatorAhead_tame : ⦃within text⦄ isSeparatorAhead ⦃tame text⦄ := by
  mvcgen [isSeparatorAhead]

end Scan

/-! ## Scalars -/

namespace Scalar

@[spec] theorem takePlainRun_tame (inFlow : Bool) :
    ⦃within text⦄ takePlainRun inFlow ⦃tame text⦄ := by
  mvcgen [takePlainRun]

@[spec] theorem plainBreaks_tame (fuel : Nat) (breaks : List Text) :
    ⦃within text⦄ plainBreaks fuel breaks ⦃tame text⦄ := by
  induction fuel generalizing breaks with
  | zero => mvcgen [plainBreaks]
  | succ fuel ih => mvcgen [plainBreaks, ih]

@[spec] theorem plainSpaces_tame : ⦃within text⦄ plainSpaces ⦃tame text⦄ := by mvcgen [plainSpaces]

@[spec] theorem plainPieces_tame (indent : Int) (fuel : Nat) (before : Text)
    (stop : Mark) (spaces : Text) :
    ⦃within text⦄ plainPieces indent fuel before stop spaces ⦃tame text⦄ := by
  induction fuel generalizing before stop spaces with
  | zero => mvcgen [plainPieces]
  | succ fuel ih => mvcgen [plainPieces, ih]

@[spec] theorem plain_tame : ⦃within text⦄ plain ⦃tame text⦄ := by mvcgen [plain]

@[spec] theorem quotedBreaks_tame (start : Mark) (fuel : Nat) (breaks : List Text) :
    ⦃within text⦄ quotedBreaks start fuel breaks ⦃tame text⦄ := by
  induction fuel generalizing breaks with
  | zero => mvcgen [quotedBreaks]
  | succ fuel ih => mvcgen [quotedBreaks, ih]

/-- Hexadecimal digits that are expected are ahead, and looking at them leaves
the cursor where it is. -/
theorem expectHexDigits_at {c : Cursor} (hc : c.Inside text) (start : Mark) (count left : Nat)
    (hleft : left ≤ count) :
    ⦃fun s => ⌜s.cursor = c⌝⦄ expectHexDigits start count left
    ⦃post⟨fun _ s => ⌜s.cursor = c ∧ ∀ k, count ≤ k + left → k < count → ∃ d, c.peek k = .ok d ∧
      CodePoint.isHexDigit d = true⌝, fun e => ⌜e.ShownIn text⌝⟩⦄ := by
  induction left with
  | zero =>
    mvcgen [expectHexDigits]
    next s h => exact ⟨h, fun k hlow hhigh => absurd hhigh (Nat.not_lt.2 hlow)⟩
  | succ left ih =>
    mvcgen [expectHexDigits, Scan.peek_at, Scan.fail_at, ih, -Scan.peek_tame, -Scan.fail_tame]
    all_goals grind

/-- Of what is ahead, what was looked at is what is taken. -/
theorem take_of_seen {p : CodePoint → Bool} {ahead : Text} {count : Nat}
    (h : ∀ k < count, ∃ d, ahead[k]? = some d ∧ p d = true) :
    (ahead.take count).length = count ∧ ∀ d ∈ ahead.take count, p d = true := by
  have hle : count ≤ ahead.length := by
    by_contra hshort
    obtain ⟨d, hd, -⟩ := h ahead.length (Nat.lt_of_not_le hshort)
    rw [List.getElem?_eq_none (Nat.le_refl _)] at hd
    cases hd
  refine ⟨List.length_take_of_le hle, fun d hd => ?_⟩
  obtain ⟨k, hk, rfl⟩ := List.mem_iff_getElem.1 hd
  rw [List.length_take_of_le hle] at hk
  obtain ⟨d, hd, hp⟩ := h k hk
  rw [List.getElem_take, (List.getElem?_eq_some_iff.1 hd).2]
  exact hp

/-- Two code points that are ahead one after the other. -/
theorem ahead_of_peeks {c : Cursor} {a b : CodePoint} (ha : c.peek 0 = .ok a)
    (hb : (c.advance 1).peek 0 = .ok b)
    (ha₀ : a ≠ 0) (hb₀ : b ≠ 0) : c.ahead = a :: b :: c.ahead.drop 2 := by
  have hfirst := Cursor.getElem?_of_peek ha ha₀
  have hsecond := Cursor.getElem?_of_peek hb hb₀
  rw [Cursor.advance, List.getElem?_drop] at hsecond
  rcases hc : c.ahead with _ | ⟨x, _ | ⟨y, rest⟩⟩ <;> simp_all

/-- Only eight digits are enough for a number that is no code point. -/
theorem letter_of_beyond {letter : CodePoint} {count : Nat}
    (hcount : digitCount? letter = some count) {digits : Text}
    (hlength : digits.length = count) (hhex : ∀ d ∈ digits, CodePoint.isHexDigit d = true)
    (hbeyond : 0x10FFFF < Text.toNatBase 16 digits) : letter = 85 ∧ count = 8 := by
  have hcounts : letter = 85 ∧ count = 8 ∨ count ≤ 4 := by
    rw [digitCount?] at hcount
    grind
  refine hcounts.resolve_right fun hfew => ?_
  have hsmall := Regex.toNatBase_lt hhex
  have := Nat.pow_le_pow_right (n := 16) (by decide) (hlength ▸ hfew)
  omega

/-- A number that is no code point shows in the text where it has the digits of an escape. -/
theorem shownIn_of_escapesBeyond {digits : Text} (h : EscapesBeyond text digits) {e : Failure}
    (he : codePointOf (Text.toNatBase 16 digits) = .error e) : e.ShownIn text := by
  rw [codePointOf, if_neg (Nat.not_le.2 h.beyond)] at he
  split at he
  · next hsmall =>
    cases he
    exact Failure.shownIn_fault (.codePoint h hsmall)
  · next hlarge =>
    cases he
    exact Failure.shownIn_fault (.largeCodePoint h (Nat.le_of_not_lt hlarge))

theorem beyond_of_codePointOf {n : Nat} {e : Failure} (h : codePointOf n = .error e) :
    0x10FFFF < n := by
  rw [codePointOf] at h
  split at h
  · cases h
  · next hle => exact Nat.lt_of_not_le hle

/-- A number in an escape that stands for no code point shows in the text. -/
theorem shownIn_codePointOf {c : Cursor} (hc : c.Inside text) (hslash : c.peek 0 = .ok 92)
    {letter : CodePoint} (hletter : (c.advance 1).peek 0 = .ok letter) {count : Nat}
    (hcount : digitCount? letter = some count)
    (hhex : ∀ k, count ≤ k + count → k < count →
      ∃ d, ((c.advance 1).advance 1).peek k = .ok d ∧ CodePoint.isHexDigit d = true)
    {digits : Text} (hdigits : ((c.advance 1).advance 1).peekText count = .ok digits) {e : Failure}
    (he : codePointOf (Text.toNatBase 16 digits) = .error e) : e.ShownIn text := by
  have hdrop : ((c.advance 1).advance 1).ahead = c.ahead.drop 2 := by
    rw [Cursor.advance_append]
    rfl
  have hseen : ∀ k < count, ∃ d, (c.ahead.drop 2)[k]? = some d ∧ CodePoint.isHexDigit d = true := by
    intro k hk
    obtain ⟨d, hd, hhexd⟩ := hhex k (Nat.le_add_left _ _) hk
    refine ⟨d, hdrop ▸ Cursor.getElem?_of_peek hd ?_, hhexd⟩
    rintro rfl
    cases hhexd
  have htake : digits = (c.ahead.drop 2).take count := by
    rw [Cursor.take_of_peekText hdigits, hdrop]
  obtain ⟨hlength, hall⟩ := take_of_seen hseen
  rw [← htake] at hlength hall
  have hbeyond := beyond_of_codePointOf he
  obtain ⟨rfl, rfl⟩ := letter_of_beyond hcount hlength hall hbeyond
  have hstart : 92 :: 85 :: digits <+: c.ahead := by
    rw [ahead_of_peeks hslash hletter (by decide) (by decide), htake]
    exact ⟨_, congrArg (92 :: 85 :: ·) (List.take_append_drop 8 _)⟩
  exact shownIn_of_escapesBeyond ⟨hstart.isInfix.trans hc.ahead.isInfix, hall, hlength, hbeyond⟩ he

theorem escape_tame (start : Mark) :
    ⦃fun s => ⌜s.cursor.Inside text ∧ s.cursor.peek 0 = .ok 92⌝⦄ escape start ⦃tame text⦄ := by
  mvcgen [escape, Scan.peek_at, Scan.peekText_at, Scan.forward_at, except_spec,
    expectHexDigits_at, -Scan.peek_tame, -Scan.forward_tame, -Scan.peekText_tame]
  all_goals grind [Cursor.Inside.advance, shownIn_codePointOf]

@[spec] theorem isTwice_tame (isDouble : Bool) (c : CodePoint) :
    ⦃within text⦄ isTwice isDouble c ⦃tame text⦄ := by
  mvcgen [isTwice]

theorem isTwice_at {c : Cursor} (hc : c.Inside text) (isDouble : Bool) (d : CodePoint) :
    ⦃fun s => ⌜s.cursor = c⌝⦄ isTwice isDouble d
    ⦃post⟨fun _ s => ⌜s.cursor = c⌝, fun e => ⌜e.ShownIn text⌝⟩⦄ := by
  mvcgen [isTwice, Scan.peek_at, -isTwice_tame, -Scan.peek_tame]
  all_goals grind

@[spec] theorem quotedText_tame (isDouble : Bool) (start : Mark) (fuel : Nat) (before : Text) :
    ⦃within text⦄ quotedText isDouble start fuel before ⦃tame text⦄ := by
  induction fuel generalizing before with
  | zero => mvcgen [quotedText]
  | succ fuel ih =>
    mvcgen [quotedText, Scan.peek_at, isTwice_at, escape_tame, ih, -isTwice_tame, -Scan.peek_tame]
    all_goals grind

@[spec] theorem quotedSpaces_tame (start : Mark) :
    ⦃within text⦄ quotedSpaces start ⦃tame text⦄ := by
  mvcgen [quotedSpaces]

@[spec] theorem quotedPieces_tame (quote : CodePoint) (start : Mark) (fuel : Nat) (before : Text) :
    ⦃within text⦄ quotedPieces quote start fuel before ⦃tame text⦄ := by
  induction fuel generalizing before with
  | zero => mvcgen [quotedPieces]
  | succ fuel ih => mvcgen [quotedPieces, ih]

@[spec] theorem quoted_tame : ⦃within text⦄ quoted ⦃tame text⦄ := by mvcgen [quoted]

@[spec] theorem takeChomping_tame : ⦃within text⦄ takeChomping ⦃tame text⦄ := by
  mvcgen [takeChomping]

@[spec] theorem takeIndentation_tame (start : Mark) :
    ⦃within text⦄ takeIndentation start ⦃tame text⦄ := by
  mvcgen [takeIndentation]

@[spec] theorem indicators_tame (start : Mark) : ⦃within text⦄ indicators start ⦃tame text⦄ := by
  mvcgen [indicators]

@[spec] theorem ignoredLine_tame (activity : Activity) (start : Mark) :
    ⦃within text⦄ ignoredLine activity start ⦃tame text⦄ := by
  mvcgen [ignoredLine]

@[spec] theorem leadingLines_tame (fuel : Nat) (breaks : List Text) (largest : Nat) (stop : Mark) :
    ⦃within text⦄ leadingLines fuel breaks largest stop ⦃tame text⦄ := by
  induction fuel generalizing breaks largest stop with
  | zero => mvcgen [leadingLines]
  | succ fuel ih => mvcgen [leadingLines, ih]

@[spec] theorem skipIndent_tame (indent fuel : Nat) :
    ⦃within text⦄ skipIndent indent fuel ⦃tame text⦄ := by
  induction fuel with
  | zero => mvcgen [skipIndent]
  | succ fuel ih => mvcgen [skipIndent, ih]

@[spec] theorem blockBreaks_tame (indent fuel : Nat) (breaks : List Text) (stop : Mark) :
    ⦃within text⦄ blockBreaks indent fuel breaks stop ⦃tame text⦄ := by
  induction fuel generalizing breaks stop with
  | zero => mvcgen [blockBreaks]
  | succ fuel ih => mvcgen [blockBreaks, ih]

@[spec] theorem isLineAhead_tame (indent : Nat) : ⦃within text⦄ isLineAhead indent ⦃tame text⦄ := by
  mvcgen [isLineAhead]

@[spec] theorem blockLines_tame (isFolded : Bool) (indent fuel : Nat) (before last : Text)
    (breaks : List Text) (stop : Mark) :
    ⦃within text⦄ blockLines isFolded indent fuel before last breaks stop ⦃tame text⦄ := by
  induction fuel generalizing before last breaks stop with
  | zero => mvcgen [blockLines]
  | succ fuel ih => mvcgen [blockLines, ih]

@[spec] theorem block_tame (isFolded : Bool) :
    ⦃within text⦄ block isFolded ⦃tame text⦄ := by mvcgen [block]

end Scalar

/-! ## Names, tags and directives -/

namespace Property

@[spec] theorem name_tame (activity : Option Activity) (start : Mark)
    (mayFollow : CodePoint → Bool) :
    ⦃within text⦄ name activity start mayFollow ⦃tame text⦄ := by
  mvcgen [name]

@[spec] theorem anchor_tame : ⦃within text⦄ anchor ⦃tame text⦄ := by mvcgen [anchor]

@[spec] theorem handle_tame (owner : Owner) (start : Mark) :
    ⦃within text⦄ handle owner start ⦃tame text⦄ := by
  mvcgen [handle]

@[spec] theorem escapedBytes_tame (owner : Owner) (start : Mark) (fuel : Nat) :
    ⦃within text⦄ escapedBytes owner start fuel ⦃tame text⦄ := by
  induction fuel with
  | zero => mvcgen [escapedBytes]
  | succ fuel ih => mvcgen [escapedBytes, ih]

@[spec] theorem escapedText_tame (owner : Owner) (start : Mark) :
    ⦃within text⦄ escapedText owner start ⦃tame text⦄ := by
  mvcgen [escapedText]

@[spec] theorem addressPieces_tame (owner : Owner) (start : Mark) (fuel : Nat) (before : Text) :
    ⦃within text⦄ addressPieces owner start fuel before ⦃tame text⦄ := by
  induction fuel generalizing before with
  | zero => mvcgen [addressPieces]
  | succ fuel ih => mvcgen [addressPieces, ih]

@[spec] theorem address_tame (owner : Owner) (start : Mark) :
    ⦃within text⦄ address owner start ⦃tame text⦄ := by
  mvcgen [address]

@[spec] theorem tagName_tame (start : Mark) :
    ⦃within text⦄ tagName start ⦃tame text⦄ := by mvcgen [tagName]

@[spec] theorem tag_tame : ⦃within text⦄ tag ⦃tame text⦄ := by mvcgen [tag]

/-- The digits ahead, with too many of them if they fail to be read. -/
theorem shownIn_readInteger {c : Cursor} (hc : c.Inside text) {d : CodePoint}
    (hd : c.peek 0 = .ok d) (hdigit : CodePoint.isAsciiDigit d = true) {f : Fault}
    (h : Text.readInteger 10 (c.ahead.takeWhile CodePoint.isAsciiDigit) = .error f) :
    (Failure.fault f).ShownIn text := by
  have hall : Json.AreDigits (c.ahead.takeWhile CodePoint.isAsciiDigit) :=
    fun a ha => List.mem_takeWhile_imp ha
  have hne : c.ahead.takeWhile CodePoint.isAsciiDigit ≠ [] := by
    have hfirst := Cursor.getElem?_of_peek hd (by rintro rfl; cases hdigit)
    cases hahead : c.ahead <;> simp_all
  rw [Json.readInteger_digits hall hne] at h
  split at h
  · next hmany =>
    cases h
    refine Failure.shownIn_fault (.version ⟨_, ?_, hall, rfl, hmany⟩)
    exact (List.takeWhile_prefix _).isInfix.trans hc.ahead.isInfix
  · cases h

@[spec] theorem versionNumber_tame (start : Mark) :
    ⦃within text⦄ versionNumber start ⦃tame text⦄ := by
  mvcgen [versionNumber, Scan.peek_at, Scan.fail_at, Scan.spanAhead, Scan.throw_shown,
    -Spec.throw_MonadExcept, -Scan.peek_tame, -Scan.fail_tame, -Scan.spanAhead_tame]
  all_goals grind [shownIn_readInteger]

@[spec] theorem version_tame (start : Mark) :
    ⦃within text⦄ version start ⦃tame text⦄ := by mvcgen [version]

@[spec] theorem tagDirective_tame (start : Mark) :
    ⦃within text⦄ tagDirective start ⦃tame text⦄ := by
  mvcgen [tagDirective]

@[spec] theorem directive_tame : ⦃within text⦄ directive ⦃tame text⦄ := by mvcgen [directive]

end Property

/-! ## Tokens -/

namespace Scan

@[spec] theorem emit_tame (t : Token) : ⦃within text⦄ emit t ⦃tame text⦄ := by mvcgen [emit]

@[spec] theorem emitHere_tame (kind : Token.Kind) :
    ⦃within text⦄ emitHere kind ⦃tame text⦄ := by mvcgen [emitHere]

@[spec] theorem emitAt_tame (number : Nat) (t : Token) :
    ⦃within text⦄ emitAt number t ⦃tame text⦄ := by
  mvcgen [emitAt]

@[spec] theorem emitIndicator_tame (kind : Token.Kind) (length : Nat) :
    ⦃within text⦄ emitIndicator kind length ⦃tame text⦄ := by
  mvcgen [emitIndicator]

@[spec] theorem failKey_tame (k : PossibleKey) :
    ⦃within text⦄ (failKey k : Scan α) ⦃tame text⦄ := by mvcgen [failKey]

@[spec] theorem dropStaleKeys_tame : ⦃within text⦄ dropStaleKeys ⦃tame text⦄ := by
  mvcgen [dropStaleKeys]

@[spec] theorem dropKey_tame : ⦃within text⦄ dropKey ⦃tame text⦄ := by mvcgen [dropKey]

@[spec] theorem saveKey_tame : ⦃within text⦄ saveKey ⦃tame text⦄ := by mvcgen [saveKey]

theorem cursor_endBlocks (column : Int) (m : Mark) (indents : List Int) (s : Lexer) :
    (endBlocks column m indents s).cursor = s.cursor := by
  fun_induction endBlocks column m indents s with
  | case1 outer rest s h ih => exact ih
  | case2 => rfl
  | case3 => rfl

@[spec] theorem indentAt_tame (column : Int) : ⦃within text⦄ indentAt column ⦃tame text⦄ := by
  mvcgen [indentAt]
  all_goals grind [cursor_endBlocks]

@[spec] theorem beginBlock_tame (column : Nat) :
    ⦃within text⦄ beginBlock column ⦃tame text⦄ := by mvcgen [beginBlock]

@[spec] theorem streamEnd_tame : ⦃within text⦄ streamEnd ⦃tame text⦄ := by mvcgen [streamEnd]

@[spec] theorem directive_tame : ⦃within text⦄ directive ⦃tame text⦄ := by mvcgen [directive]

@[spec] theorem separator_tame (kind : Token.Kind) :
    ⦃within text⦄ separator kind ⦃tame text⦄ := by mvcgen [separator]

@[spec] theorem openBracket_tame (kind : Token.Kind) :
    ⦃within text⦄ openBracket kind ⦃tame text⦄ := by
  mvcgen [openBracket]

@[spec] theorem closeBracket_tame (kind : Token.Kind) :
    ⦃within text⦄ closeBracket kind ⦃tame text⦄ := by
  mvcgen [closeBracket]

@[spec] theorem comma_tame : ⦃within text⦄ comma ⦃tame text⦄ := by mvcgen [comma]

@[spec] theorem openBlock_tame (kind : Token.Kind) (what : String) :
    ⦃within text⦄ openBlock kind what ⦃tame text⦄ := by
  mvcgen [openBlock]

@[spec] theorem hyphen_tame : ⦃within text⦄ hyphen ⦃tame text⦄ := by mvcgen [hyphen]

@[spec] theorem questionMark_tame : ⦃within text⦄ questionMark ⦃tame text⦄ := by
  mvcgen [questionMark]

@[spec] theorem colon_tame : ⦃within text⦄ colon ⦃tame text⦄ := by mvcgen [colon]

@[spec] theorem keyLike_tame {read : Scan Token} (h : ⦃within text⦄ read ⦃tame text⦄) :
    ⦃within text⦄ keyLike read ⦃tame text⦄ := by
  mvcgen [keyLike, h]

@[spec] theorem blockScalar_tame (isFolded : Bool) :
    ⦃within text⦄ blockScalar isFolded ⦃tame text⦄ := by
  mvcgen [blockScalar]

@[spec] theorem skipOrderMark_tame : ⦃within text⦄ skipOrderMark ⦃tame text⦄ := by
  mvcgen [skipOrderMark]

@[spec] theorem skipBlanks_tame (fuel : Nat) : ⦃within text⦄ skipBlanks fuel ⦃tame text⦄ := by
  induction fuel with
  | zero => mvcgen [skipBlanks]
  | succ fuel ih => mvcgen [skipBlanks, ih]

@[spec] theorem isIndicator_tame (c : CodePoint) : ⦃within text⦄ isIndicator c ⦃tame text⦄ := by
  mvcgen [isIndicator]

@[spec] theorem beginsPlain_tame (c : CodePoint) : ⦃within text⦄ beginsPlain c ⦃tame text⦄ := by
  mvcgen [beginsPlain]

@[spec] theorem ofCodePoint_tame (c : CodePoint) : ⦃within text⦄ ofCodePoint c ⦃tame text⦄ := by
  mvcgen [ofCodePoint]

@[spec] theorem separatorAhead?_tame (c : CodePoint) :
    ⦃within text⦄ separatorAhead? c ⦃tame text⦄ := by
  mvcgen [separatorAhead?]

theorem next_tame : ⦃within text⦄ next ⦃tame text⦄ := by mvcgen [next]

end Scan

end

theorem Lexer.shownIn_run {text : Text} {fuel : Nat} {s : Lexer}
    (h : s.cursor.Inside text) {e : Failure}
    (he : (Lexer.run fuel s).failure = some e) : e.ShownIn text := by
  induction fuel generalizing s with
  | zero => cases he
  | succ fuel ih =>
    rw [Lexer.run] at he
    split at he
    · cases he
    · rcases run_cases Scan.next_tame h with ⟨_, s', hnext, hs⟩ | ⟨e', hnext, hshown⟩
      · rw [hnext] at he
        exact ih hs he
      · rw [hnext] at he
        cases he
        exact hshown

/-! ## All tokens -/

/-- A file that is no document ends in no fault before its tokens are found. -/
theorem Source.failure_ofPortions (position : Nat)
    (portions : List (Except Utf8.Flaw Text)) (f : Fault) :
    (Source.ofPortions position portions).failure ≠ some (.fault f) := by
  fun_induction Source.ofPortions position portions with
  | case1 => exact fun h => by cases h
  | case2 => exact fun h => by cases h
  | case3 position t rest failure h =>
    obtain ⟨i, -, rfl⟩ := Option.map_eq_some_iff.1 h
    exact fun h => by cases h
  | case4 position t rest h source ih => exact ih

/-- A fault of the tokens of a document shows in its text. -/
theorem textSign_of_tokens {bytes : List UInt8} {f : Fault}
    (h : (Source.ofBytes bytes).tokens.failure = some (.fault f)) :
    TextSign (Source.ofBytes bytes).text f := by
  have hinside : (Lexer.start (Source.ofBytes bytes)).cursor.Inside (Source.ofBytes bytes).text :=
    ⟨List.suffix_rfl, fun f => Source.failure_ofPortions _ _ f⟩
  exact Lexer.shownIn_run hinside h f rfl

end ToolPolicy.Yaml
