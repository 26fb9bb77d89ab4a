import ToolPolicy.Proofs.ToolReading

/-!
# Signs of a fault in a pattern

Reading a pattern can end in a fault instead of a flaw, and then nothing that compiles the pattern
returns. But a fault is never a surprise: for each kind of fault there is something in the text of
the pattern that shows it, such as a count in braces that is too large. Here is what these signs
are, and how one follows a reader through the text to find them. What is known of the text is told
by its rest: that something stands right in front of it, and whatever else stays true while the rest
gets shorter.

Code points stand as numbers: 92 is the backslash, 123 and 125 are the braces, 40 and 41 the
parentheses, 44 is the comma.

* `Sign`: what in a text shows a fault.
* `Signed`: a reader of which each fault has its sign, with a rule for each way to combine readers.
* `Reader.Ahead`, `Known`, `Behind`: the states of reading, with what is known of the rest.
* `take_signed`, `takeSome_signed`, `takeName_signed`: the readers of tokens, which say exactly
  what they took.
-/

namespace ToolPolicy.Regex

open Reading

/-! ## Signs -/

/-- The digits of a count that stands in braces. -/
inductive Counts (source : Text) : Text → Prop where
  | only {digits : Text} (h : 123 :: (digits ++ [125]) <:+: source) : Counts source digits
  | least {low high : Text} (h : 123 :: (low ++ 44 :: (high ++ [125])) <:+: source) :
      Counts source low
  | most {low high : Text} (h : 123 :: (low ++ 44 :: (high ++ [125])) <:+: source) :
      Counts source high

/-- Whether an option is switched on for a whole pattern somewhere in it. -/
def Switches (source : Text) (option : CodePoint) : Prop :=
  ∃ letters, 40 :: 63 :: (letters ++ [41]) <:+: source ∧ option ∈ letters ∧
    ∀ c ∈ letters, isOptionLetter c = true

/-- Whether a lookbehind begins somewhere in a pattern. -/
def LooksBehind (source : Text) : Prop :=
  [40, 63, 60, 61] <:+: source ∨ [40, 63, 60, 33] <:+: source

/-- What in the text of a pattern shows a fault. -/
inductive Sign (source : Text) : Fault → Prop where
  | digits {digits : Text} (place : Counts source digits)
      (isDigit : ∀ c ∈ digits, CodePoint.isAsciiDigit c = true)
      (long : digitLimit < digits.length) :
      Sign source (.tooManyDigits digits.length)
  | count {digits : Text} (place : Counts source digits)
      (isDigit : ∀ c ∈ digits, CodePoint.isAsciiDigit c = true)
      (large : repetitionLimit ≤ Text.toNatBase 10 digits) : Sign source .repetitionTooLarge
  /-- An escape with eight hexadecimal digits. -/
  | codePoint {digits : Text} (place : 92 :: 85 :: digits <:+: source)
      (isHex : ∀ c ∈ digits, CodePoint.isHexDigit c = true) (length : digits.length = 8)
      (large : 0x80000000 ≤ Text.toNatBase 16 digits) : Sign source .codePointTooLarge
  | nesting (many : nestingLimit ≤ 2 * source.count 40) : Sign source .nestedTooDeeply
  | classes (ascii : Switches source 97) (unicode : Switches source 117) :
      Sign source .incompatibleClasses
  | lookbehind (behind : LooksBehind source) : Sign source .farLookbehind

theorem isInfix_of_suffix {a b source : Text} (h : a ++ b <:+ source) : a <:+: source :=
  (List.prefix_append a b).isInfix.trans h.isInfix

/-! ## Readers of which each fault has its sign -/

/-- A reader that leads from states of one kind to results and states of another, finds a flaw, or
ends in a fault that has its sign in the text. -/
structure Signed (source : Text) {α : Type} (P : Reader → Prop) (m : Reading α)
    (Q : α → Reader → Prop) : Prop where
  yields : Yields P m Q
  signs : ∀ s f, P s → m s = .error (.fault f) → Sign source f

namespace Signed

variable {source : Text} {α β : Type} {P : Reader → Prop} {m : Reading α} {Q : α → Reader → Prop}

theorem bind {f : α → Reading β} {R : β → Reader → Prop} (h : Signed source P m Q)
    (hf : ∀ a, Signed source (Q a) (f a) R) : Signed source P (m >>= f) R := by
  refine ⟨h.yields.bind fun a => (hf a).yields, fun s g hs he => ?_⟩
  change (m s >>= fun p => f p.1 p.2) = _ at he
  cases hm : m s with
  | error failure =>
      rw [hm] at he
      cases he
      exact h.signs s g hs hm
  | ok p =>
      rw [hm] at he
      exact (hf p.1).signs p.2 g (h.yields s p.1 p.2 hs hm) he

theorem pure {a : α} (h : ∀ s, P s → Q a s) : Signed source P (pure a) Q :=
  ⟨.pure h, fun s f _ he => by cases he⟩

theorem get {Q : Reader → Reader → Prop} (h : ∀ s, P s → Q s s) :
    Signed source P (MonadState.get : Reading Reader) Q :=
  ⟨.get h, fun s f _ he => by cases he⟩

theorem get_same : Signed source P (MonadState.get : Reading Reader) fun _ => P :=
  get fun _ hs => hs

/-- What holds of the state is known of the one that is looked at. -/
theorem get_known : Signed source P (MonadState.get : Reading Reader) fun s t => P s ∧ P t :=
  get fun _ hs => ⟨hs, hs⟩

theorem set {s : Reader} {Q : PUnit → Reader → Prop} (h : Q () s) :
    Signed source P (MonadStateOf.set s : Reading PUnit) Q := by
  refine ⟨fun _ a s' _ he => ?_, fun _ f _ he => by cases he⟩
  cases he
  exact h

theorem modify {g : Reader → Reader} {Q : PUnit → Reader → Prop} (h : ∀ s, P s → Q () (g s)) :
    Signed source P (modify g : Reading PUnit) Q := by
  refine ⟨fun s a s' hs he => ?_, fun _ f _ he => by cases he⟩
  cases he
  exact h s hs

theorem peek {Q : Option Token → Reader → Prop} (h : ∀ s, P s → Q s.next? s) :
    Signed source P peek Q :=
  ⟨.peek h, fun s f _ he => by cases he⟩

theorem peek_same : Signed source P Reading.peek fun t? s => s.next? = t? ∧ P s :=
  peek fun _ hs => ⟨rfl, hs⟩

theorem flaw {cause : Flaw.Cause} {back : Nat} :
    Signed source P (flaw cause back : Reading α) Q :=
  ⟨.flaw, fun s f _ he => by cases he⟩

theorem fault {f : Fault} (h : ∀ s, P s → Sign source f) :
    Signed source P (fault f : Reading α) Q := by
  refine ⟨.fault, fun s g hs he => ?_⟩
  cases he
  exact h s hs

theorem weaken {P' : Reader → Prop} (h : Signed source P m Q) (hP : ∀ s, P' s → P s) :
    Signed source P' m Q :=
  ⟨h.yields.weaken hP, fun s f hs he => h.signs s f (hP s hs) he⟩

theorem strengthen {Q' : α → Reader → Prop} (h : Signed source P m Q)
    (hQ : ∀ a s, Q a s → Q' a s) : Signed source P m Q' :=
  ⟨h.yields.strengthen hQ, h.signs⟩

theorem assuming {p : Prop} (h : p → Signed source P m Q) :
    Signed source (fun s => p ∧ P s) m Q :=
  ⟨.assuming fun hp => (h hp).yields, fun s f hs he => (h hs.1).signs s f hs.2 he⟩

theorem exists_left {ι : Type} {P : ι → Reader → Prop} (h : ∀ i, Signed source (P i) m Q) :
    Signed source (fun s => ∃ i, P i s) m Q := by
  refine ⟨.exists_left fun i => (h i).yields, ?_⟩
  rintro s f ⟨i, hs⟩ he
  exact (h i).signs s f hs he

theorem get_flaw {cause : Flaw.Cause} {back : Reader → Nat} :
    Signed source P (MonadState.get >>= fun s => Reading.flaw cause (back s) : Reading α) Q :=
  .bind get_same fun _ => .flaw

/-- After a reader that never succeeds, nothing is read. -/
theorem bind_never {f : α → Reading β} {R : β → Reader → Prop}
    (h : Signed source P m fun _ _ => False) : Signed source P (m >>= f) R :=
  .bind h fun _ => ⟨fun _ _ _ hs => hs.elim, fun _ _ hs => hs.elim⟩

end Signed

/-! ## States -/

/-- A state of reading: no backslash is left over at the end, and the kinds of classes that are
switched on are switched on in the text. -/
structure Reader.Proper (source : Text) (s : Reader) : Prop where
  whole : s.rest ≠ [92]
  ascii : s.flags.ascii = true → Switches source 97
  unicode : s.flags.unicode = true → Switches source 117

/-- A backslash is never a token of its own. -/
theorem Reader.Proper.ne_backslash {source : Text} {s : Reader} {c : CodePoint}
    (h : s.Proper source) (hn : s.next? = some (.plain c)) : c ≠ 92 := by
  rintro rfl
  unfold Reader.next? at hn
  split at hn
  · cases hn
  · next d hrest =>
      cases hn
      exact h.whole hrest
  · next d e after hrest =>
      split at hn
      · cases hn
      · next hd =>
          cases hn
          exact hd rfl

/-- A state with something known of the rest of the text. -/
structure Reader.Ahead (source : Text) (K : Text → Prop) (s : Reader) : Prop where
  proper : s.Proper source
  rest : K s.rest

/-- What is known of the rest of a text that is read: it stays so while the rest gets shorter. -/
structure Known (source : Text) (K : Text → Prop) : Prop where
  drop : ∀ {a r}, K (a ++ r) → K r
  suffix : ∀ {r}, K r → r <:+ source

namespace Known

variable {source : Text} {K : Text → Prop}

theorem tail (hK : Known source K) {c : CodePoint} {r : Text} (h : K (c :: r)) : K r :=
  hK.drop (a := [c]) h

end Known

/-- What is known of the rest of a text right behind something that has been read. -/
structure Behind (source before : Text) (K : Text → Prop) (r : Text) : Prop where
  place : before ++ r <:+ source
  rest : K r

namespace Behind

variable {source before a r : Text} {K : Text → Prop}

theorem first (hK : Known source K) (h : K (a ++ r)) : Behind source a K r :=
  ⟨hK.suffix h, hK.drop h⟩

theorem push (hK : Known source K) (h : Behind source before K (a ++ r)) :
    Behind source (before ++ a) K r :=
  ⟨by rw [List.append_assoc]; exact h.place, hK.drop h.rest⟩

theorem found (h : Behind source before K r) : before <:+: source := isInfix_of_suffix h.place

end Behind

namespace Reader.Ahead

variable {source before a : Text} {K : Text → Prop} {s t : Reader}

/-- What is known does not depend on what has been read of it. -/
theorem drop (hs : s.Ahead source fun r => K (a ++ r)) (hK : Known source K) : s.Ahead source K :=
  ⟨hs.proper, hK.drop hs.rest⟩

theorem behind (hs : s.Ahead source (Behind source before K)) : s.Ahead source K :=
  ⟨hs.proper, hs.rest.rest⟩

theorem push (hs : s.Ahead source fun r => Behind source before K (a ++ r))
    (hK : Known source K) : s.Ahead source (Behind source (before ++ a) K) :=
  ⟨hs.proper, hs.rest.push hK⟩

/-- Only the rest of the text and the options matter. -/
theorem congr (hs : s.Ahead source K) (hrest : t.rest = s.rest) (hflags : t.flags = s.flags) :
    t.Ahead source K := by
  obtain ⟨⟨hwhole, hascii, hunicode⟩, hknown⟩ := hs
  rw [← hrest] at hwhole hknown
  rw [← hflags] at hascii hunicode
  exact ⟨⟨hwhole, hascii, hunicode⟩, hknown⟩

end Reader.Ahead

/-- The text of a code point that may have been accepted. -/
def acceptedText (c : CodePoint) : Bool → Text
  | true => [c]
  | false => []

/-- The text of a token, if there is one. -/
def Token.textOf : Option Token → Text
  | none => []
  | some t => t.text

section
variable {source : Text} {K : Text → Prop}

/-! ## Tokens -/

/-- Taking the next token, which is known. -/
theorem take_signed (t? : Option Token) :
    Signed source (fun s => s.next? = t? ∧ s.Ahead source K) take fun taken s =>
      taken = t? ∧ s.Ahead source fun r => K (Token.textOf t? ++ r) := by
  constructor
  · rintro s taken s' ⟨hn, hs⟩ he
    unfold take at he
    split at he
    · next hnone =>
        cases he
        rw [hnone] at hn
        subst hn
        exact ⟨rfl, hs⟩
    · next t hsome =>
        rw [hsome] at hn
        subst hn
        obtain ⟨after, hrest⟩ := Reader.next?_eq_some hsome
        have hdrop : s.rest.drop t.length = after := by
          rw [hrest]
          cases t <;> rfl
        have hknown : K (t.text ++ after) := by
          rw [← hrest]
          exact hs.rest
        rw [hdrop] at he
        unfold checkNext at he
        split at he
        · cases he
        · next hwhole =>
            cases he
            exact ⟨rfl, ⟨hwhole, hs.proper.ascii, hs.proper.unicode⟩, hknown⟩
  · rintro s f - he
    unfold take at he
    split at he
    · cases he
    · unfold checkNext at he
      split at he <;> cases he

/-- Taking a token, whichever it is. -/
theorem takeAny_signed : Signed source (Reader.Ahead source K) take fun t? =>
    Reader.Ahead source fun r => K (Token.textOf t? ++ r) := by
  have hknown : Signed source (fun s => ∃ t?, s.next? = t? ∧ s.Ahead source K) take fun t? =>
      Reader.Ahead source fun r => K (Token.textOf t? ++ r) := by
    refine .exists_left fun t? => (take_signed t?).strengthen ?_
    rintro taken s ⟨rfl, hs⟩
    exact hs
  exact hknown.weaken fun s hs => ⟨s.next?, rfl, hs⟩

theorem accept_signed (c : CodePoint) :
    Signed source (Reader.Ahead source K) (accept c) fun accepted =>
      Reader.Ahead source fun r => K (acceptedText c accepted ++ r) := by
  refine .bind .peek_same fun t? => ?_
  split
  · next ht =>
      subst ht
      exact .bind (take_signed _) fun _ => .pure fun s hs => hs.2
  · exact .pure fun s hs => hs.2

theorem takeSome_signed (p : CodePoint → Bool) (n : Nat) :
    Signed source (Reader.Ahead source K) (takeSome p n) fun taken s =>
      (∀ c ∈ taken, p c = true) ∧ s.Ahead source fun r => K (taken ++ r) := by
  have hnone : ∀ c ∈ ([] : Text), p c = true := fun _ h => (by cases h)
  induction n generalizing K with
  | zero => exact .pure fun s hs => ⟨hnone, hs⟩
  | succ n ih =>
      rw [takeSome]
      refine .bind .peek_same fun t? => ?_
      split
      · next c =>
          split
          · next hc =>
              refine .bind (take_signed _) fun _ => .assuming fun _ => ?_
              refine .bind ih fun taken => ?_
              exact .pure fun s hs => ⟨List.forall_mem_cons.2 ⟨hc, hs.1⟩, hs.2⟩
          · exact .pure fun s hs => ⟨hnone, hs.2⟩
      · exact .pure fun s hs => ⟨hnone, hs.2⟩

theorem takeAll_signed (p : CodePoint → Bool) :
    Signed source (Reader.Ahead source K) (takeAll p) fun taken s =>
      (∀ c ∈ taken, p c = true) ∧ s.Ahead source fun r => K (taken ++ r) :=
  .bind .get_same fun _ => takeSome_signed p _

theorem takeName_signed (terminator : CodePoint) (what : Text) :
    Signed source (Reader.Ahead source K) (takeName terminator what) fun name =>
      Reader.Ahead source fun r => K (name ++ terminator :: r) := by
  have hgo : ∀ n name, Signed source (Reader.Ahead source fun r => K (name ++ r))
      (takeName.go terminator what n name) fun name =>
        Reader.Ahead source fun r => K (name ++ terminator :: r) := by
    intro n
    induction n with
    | zero => exact fun _ => .flaw
    | succ n ih =>
        intro name
        rw [takeName.go]
        refine .bind takeAny_signed fun t? => ?_
        split
        · split
          · exact .flaw
          · exact .flaw
        · next t =>
            split
            · next ht =>
                subst ht
                split
                · exact .flaw
                · exact .pure fun s hs => hs
            · refine (ih _).weaken fun s hs => ⟨hs.proper, ?_⟩
              rw [List.append_assoc]
              exact hs.rest
  exact .bind .get_same fun s => hgo _ []

theorem backTo_signed {K' : Text → Prop} {here : Reader} (h : K' here.rest) :
    Signed source (Reader.Ahead source K) (backTo here) fun _ => Reader.Ahead source K' := by
  constructor
  · intro s a s' hs he
    unfold backTo checkNext at he
    split at he
    · cases he
    · next hwhole =>
        cases he
        exact ⟨⟨hwhole, hs.proper.ascii, hs.proper.unicode⟩, h⟩
  · intro s f _ he
    unfold backTo checkNext at he
    split at he <;> cases he

end

end ToolPolicy.Regex
