import Mathlib.Algebra.Group.Nat.Defs
import Mathlib.Data.List.Induction
import Mathlib.Tactic.Tauto
import ToolPolicy.Proofs.FaultSigns

/-!
# Faults of single parts

The readers below groups and sequences: of escapes, classes, counts, options, comments and names.
Those of hexadecimal escapes and of counts can end in a fault, and those of options can switch on
both kinds of classes, which is a fault in the end. Each has its sign in the text. The others only
pass on what is known.

* `readHexEscape_signed`, `readNamedEscape_signed`, `readEscape_signed`: escapes.
* `readCount_signed`, `readCounts?_signed`: counts in braces.
* `switchOn_signed`, `readOptions_signed`: options.
-/

namespace ToolPolicy.Regex

open Reading

/-! ## Lookbehinds in a tree -/

/-- Whether a pattern looks behind somewhere. -/
def looksBehind : Regex → Bool
  | seq a b => looksBehind a || looksBehind b
  | alt a b => looksBehind a || looksBehind b
  | rep _ _ _ body => looksBehind body
  | capture _ body => looksBehind body
  | flagged _ _ body => looksBehind body
  | atomic body => looksBehind body
  | look behind _ body => behind || looksBehind body
  | cond _ present absent => looksBehind present || looksBehind absent
  | _ => false

section
variable {source : Text} {K : Text → Prop}

/-! ## Escapes -/

theorem digitValue?_lt {c : Nat} (h : CodePoint.isHexDigit c = true) :
    (CodePoint.digitValue? c).getD 0 < 16 := by
  have htable : ∀ d < 103, CodePoint.isHexDigit d = true →
      (CodePoint.digitValue? d).getD 0 < 16 := by
    decide
  refine htable c ?_ h
  simp only [CodePoint.isHexDigit, CodePoint.isAsciiDigit, Bool.or_eq_true, Bool.and_eq_true,
    decide_eq_true_eq] at h
  rcases h with (⟨-, h⟩ | ⟨-, h⟩) | ⟨-, h⟩
  · exact Nat.lt_of_le_of_lt h (by decide)
  · exact Nat.lt_of_le_of_lt h (by decide)
  · exact Nat.lt_of_le_of_lt h (by decide)

theorem toNatBase_lt {digits : Text} (h : ∀ c ∈ digits, CodePoint.isHexDigit c = true) :
    Text.toNatBase 16 digits < 16 ^ digits.length := by
  induction digits using List.reverseRecOn with
  | nil => exact Nat.one_pos
  | append_singleton digits c ih =>
      have hc := digitValue?_lt (h c (List.mem_append_right _ (List.mem_singleton_self c)))
      have hdigits := ih fun d hd => h d (List.mem_append_left _ hd)
      have hstep : Text.toNatBase 16 (digits ++ [c]) =
          Text.toNatBase 16 digits * 16 + (CodePoint.digitValue? c).getD 0 := by
        simp [Text.toNatBase]
      rw [hstep, List.length_append, List.length_singleton, Nat.pow_succ]
      omega

/-- An escape with hexadecimal digits: only eight of them make a number that is too large. -/
theorem readHexEscape_signed (hK : Known source K) {letter : CodePoint} {count : Nat}
    (h : letter = 85 ∧ count = 8 ∨ count ≤ 4) :
    Signed source (Reader.Ahead source (Behind source [92, letter] K)) (readHexEscape letter count)
      fun _ => Reader.Ahead source K := by
  refine .bind (takeSome_signed _ count) fun digits => .assuming fun hdigits => ?_
  simp only
  split
  · exact .flaw
  next hlength =>
  rw [bne_iff_ne, ne_eq, Decidable.not_not] at hlength
  split
  · exact .pure fun s hs => (hs.push hK).behind
  split
  · exact .flaw
  next hlarge =>
  refine .fault fun s hs => ?_
  rcases h with ⟨rfl, rfl⟩ | hcount
  · exact .codePoint (hs.rest.push hK).found hdigits hlength (Nat.le_of_not_lt hlarge)
  · have hlt := toNatBase_lt hdigits
    have hpow : 16 ^ digits.length ≤ 16 ^ 4 :=
      Nat.pow_le_pow_right (by decide) (hlength ▸ hcount)
    omega

/-- The name of a character ends in no fault, whatever it is. -/
theorem readNamedEscape_signed (hK : Known source K) :
    Signed source (Reader.Ahead source K) readNamedEscape fun _ => Reader.Ahead source K := by
  unfold readNamedEscape
  refine .bind (accept_signed 123) fun opened => .weaken ?_ fun s hs => hs.drop hK
  simp only
  split
  · exact .bind_never .flaw
  refine .bind (takeName_signed 125 _) fun name => .weaken ?_ fun s hs =>
    (⟨hs.proper, hK.tail (hK.drop hs.rest)⟩ : s.Ahead source K)
  split
  · exact .bind_never .flaw
  split
  · exact .pure fun _ hs => hs
  · exact .flaw

theorem readNumericEscape?_signed (hK : Known source K) {c : CodePoint} {m : Reading CodePoint}
    (h : readNumericEscape? c = some m) :
    Signed source (Reader.Ahead source (Behind source [92, c] K)) m fun _ =>
      Reader.Ahead source K := by
  unfold readNumericEscape? at h
  split at h
  · cases h
    exact readHexEscape_signed hK (Or.inr (by decide))
  split at h
  · cases h
    exact readHexEscape_signed hK (Or.inr (by decide))
  split at h
  · next hc =>
      cases h
      exact readHexEscape_signed hK (Or.inl ⟨hc, rfl⟩)
  split at h
  · cases h
    exact (readNamedEscape_signed hK).weaken fun s hs => hs.behind
  · cases h

theorem octalValue_signed (digits : Text) :
    Signed source (Reader.Ahead source K) (octalValue digits) fun _ => Reader.Ahead source K := by
  unfold octalValue
  simp only
  split
  · exact .flaw
  · exact .pure fun _ hs => hs

theorem checkLookbehind_signed (index : Nat) :
    Signed source (Reader.Ahead source K) (checkLookbehind index) fun _ =>
      Reader.Ahead source K := by
  unfold checkLookbehind
  refine .bind .get_same fun s => ?_
  split
  · exact .pure fun _ hs => hs
  split
  · exact .flaw
  split
  · exact .flaw
  · exact .pure fun _ hs => hs

theorem readBackref_signed (digits : Text) :
    Signed source (Reader.Ahead source K) (readBackref digits) fun r s =>
      r.looksBehind = false ∧ s.Ahead source K := by
  unfold readBackref
  refine .bind .get_same fun s => ?_
  split
  · split
    · exact .bind_never .flaw
    · exact .bind (checkLookbehind_signed _) fun _ => .pure fun _ hs => ⟨rfl, hs⟩
  · exact .flaw

/-- An escape, after the backslash and the code point behind it. -/
theorem readEscape_signed (hK : Known source K) (c : CodePoint) :
    Signed source (Reader.Ahead source (Behind source [92, c] K)) (readEscape c) fun r s =>
      r.looksBehind = false ∧ s.Ahead source K := by
  have hrest : ∀ s : Reader, s.Ahead source (Behind source [92, c] K) → s.Ahead source K :=
    fun s hs => hs.behind
  have hdrop : ∀ (digits : Text) (s : Reader), s.Ahead source (fun r => K (digits ++ r)) →
      s.Ahead source K := fun digits s hs => hs.drop hK
  unfold readEscape
  split
  · exact .pure fun s hs => ⟨rfl, hrest s hs⟩
  split
  · exact .pure fun s hs => ⟨rfl, hrest s hs⟩
  split
  · exact .pure fun s hs => ⟨rfl, hrest s hs⟩
  split
  · next hm =>
      exact .bind (readNumericEscape?_signed hK hm) fun _ => .pure fun s hs => ⟨rfl, hs⟩
  refine .weaken ?_ hrest
  split
  · exact .bind (takeSome_signed _ 2) fun digits => .pure fun s hs => ⟨rfl, hdrop _ s hs.2⟩
  split
  · refine .bind (takeSome_signed _ 1) fun second => .assuming fun _ => ?_
    refine .weaken ?_ (hdrop second)
    simp only
    split
    · refine .bind (takeSome_signed _ 1) fun third => .assuming fun _ => ?_
      refine .weaken ?_ (hdrop third)
      split
      · exact .bind (octalValue_signed _) fun _ => .pure fun s hs => ⟨rfl, hs⟩
      · exact readBackref_signed _
    · exact readBackref_signed _
  split
  · exact .flaw
  · exact .pure fun s hs => ⟨rfl, hs⟩

/-! ## Classes -/

theorem readClassEscape_signed (hK : Known source K) (c : CodePoint) :
    Signed source (Reader.Ahead source (Behind source [92, c] K)) (readClassEscape c) fun _ =>
      Reader.Ahead source K := by
  have hrest : ∀ s : Reader, s.Ahead source (Behind source [92, c] K) → s.Ahead source K :=
    fun s hs => hs.behind
  unfold readClassEscape
  split
  · exact .pure hrest
  split
  · exact .pure hrest
  split
  · next hm => exact .bind (readNumericEscape?_signed hK hm) fun _ => .pure fun s hs => hs
  refine .weaken ?_ hrest
  split
  · refine .bind (takeSome_signed _ 2) fun digits => .assuming fun _ => ?_
    refine .bind ((octalValue_signed _).weaken fun s hs => ?_) fun _ => .pure fun s hs => hs
    exact hs.drop hK
  split
  · exact .flaw
  · exact .pure fun s hs => hs

theorem readClassMember_signed (hK : Known source K) (t : Token) :
    Signed source (Reader.Ahead source fun r => K (t.text ++ r)) (readClassMember t) fun _ =>
      Reader.Ahead source K := by
  cases t with
  | plain c => exact .pure fun s hs => ⟨hs.proper, hK.tail hs.rest⟩
  | escape c =>
      exact (readClassEscape_signed hK c).weaken fun s hs => ⟨hs.proper, .first hK hs.rest⟩

theorem readMembers_signed (hK : Known source K) (start fuel : Nat) (members : List ClassItem) :
    Signed source (Reader.Ahead source K) (readMembers start fuel members) fun _ =>
      Reader.Ahead source K := by
  induction fuel generalizing members with
  | zero => exact .flaw
  | succ fuel ih =>
      rw [readMembers]
      refine .bind takeAny_signed fun first? => ?_
      split
      · exact .get_flaw
      next first =>
      split
      · exact .pure fun s hs => hs.drop hK
      refine .bind (readClassMember_signed hK first) fun low => ?_
      refine .bind (accept_signed 45) fun ranged => ?_
      have hranged : ∀ s : Reader, s.Ahead source (fun r => K (acceptedText 45 ranged ++ r)) →
          s.Ahead source K := fun s hs => hs.drop hK
      split
      · exact (ih _).weaken hranged
      refine .bind (takeAny_signed.weaken hranged) fun last? => ?_
      split
      · exact .get_flaw
      next last =>
      split
      · exact .pure fun s hs => hs.drop hK
      refine .bind (readClassMember_signed hK last) fun high => ?_
      simp only
      split
      · split
        · exact .flaw
        · exact ih _
      · exact .flaw

theorem readClass_signed (hK : Known source K) :
    Signed source (Reader.Ahead source K) readClass fun _ => Reader.Ahead source K := by
  unfold readClass
  refine .bind .get_same fun s => .bind (accept_signed 94) fun negated => ?_
  refine .bind .get_same fun s' => .bind ((readMembers_signed hK _ _ _).weaken fun s hs => ?_)
    fun members => .pure fun s hs => hs
  exact hs.drop hK

/-! ## Repetition -/

theorem readCount_signed {digits : Text} (hplace : Counts source digits)
    (hdigits : ∀ c ∈ digits, CodePoint.isAsciiDigit c = true) :
    Signed source (Reader.Ahead source K) (readCount digits) fun _ => Reader.Ahead source K := by
  unfold readCount
  split
  · next hlong => exact .bind_never (.fault fun s _ => .digits hplace hdigits hlong)
  simp only
  split
  · next hlarge => exact .bind_never (.fault fun s _ => .count hplace hdigits hlarge)
  · exact .pure fun s hs => hs

/-- The code points that repeat are those that stand for nothing else. -/
theorem repeats_of_isSpecial {c : CodePoint} (h : isSpecial c = true)
    (hother : c ∉ [46, 92, 91, 40, 41, 94, 36, 124]) : c = 63 ∨ c = 42 ∨ c = 43 ∨ c = 123 := by
  have hmem : c ∈ [46, 92, 91, 123, 40, 41, 42, 43, 63, 94, 36, 124] := List.contains_iff_mem.1 h
  simp only [List.mem_cons, List.not_mem_nil, or_false] at hmem hother
  tauto

theorem countsFrom_signed {high : Text} (hplace : Counts source high)
    (hhigh : ∀ c ∈ high, CodePoint.isAsciiDigit c = true) (here : Reader) (least : Nat) :
    Signed source (Reader.Ahead source K) (countsFrom here high least) fun _ =>
      Reader.Ahead source K := by
  unfold countsFrom
  split
  · exact .pure fun s hs => hs
  refine .bind (readCount_signed hplace hhigh) fun most => ?_
  simp only
  split
  · exact .bind .get_same fun s => .bind_never .flaw
  · exact .pure fun s hs => hs

/-- The counts in braces, once their digits are read, of which the text in the braces is made. -/
theorem closeCounts_signed (hK : Known source K) {body low high : Text} {here : Reader}
    (hhere : K here.rest)
    (hplaces : 123 :: (body ++ [125]) <:+: source → Counts source low ∧ Counts source high)
    (hlow : ∀ c ∈ low, CodePoint.isAsciiDigit c = true)
    (hhigh : ∀ c ∈ high, CodePoint.isAsciiDigit c = true) :
    Signed source (Reader.Ahead source (Behind source (123 :: body) K)) (closeCounts here low high)
      fun _ => Reader.Ahead source K := by
  unfold closeCounts
  refine .bind (accept_signed 125) fun closed => ?_
  cases closed with
  | false => exact .bind (backTo_signed hhere) fun _ => .pure fun s hs => hs
  | true =>
      have hclosed : ∀ s : Reader,
          s.Ahead source (fun r => Behind source (123 :: body) K ([125] ++ r)) →
            (Counts source low ∧ Counts source high) ∧ s.Ahead source K :=
        fun s hs => ⟨hplaces (hs.push hK).rest.found, (hs.push hK).behind⟩
      refine .weaken (.assuming fun hcounts => ?_) hclosed
      have hrest := countsFrom_signed (K := K) hcounts.2 hhigh here
      simp only [Bool.not_true, Bool.false_eq_true, if_false]
      split
      · exact .bind (.pure fun s hs => hs) hrest
      · exact .bind (readCount_signed hcounts.1 hlow) hrest

/-- Counts in braces; a brace may turn out to be a literal. -/
theorem bracedCounts_signed (hK : Known source K) :
    Signed source (Reader.Ahead source (Behind source [123] K)) bracedCounts fun _ =>
      Reader.Ahead source K := by
  unfold bracedCounts
  refine .bind .peek_same fun next? => ?_
  split
  · exact .pure fun s hs => hs.2.behind
  refine .bind (Q := fun here s => K here.rest ∧ s.Ahead source (Behind source [123] K))
    (.get fun s hs => ⟨hs.2.rest.rest, hs.2⟩) fun here => .assuming fun hhere => ?_
  refine .bind (takeAll_signed _) fun low => .assuming fun hlow => ?_
  refine .weaken ?_ fun s hs => (hs.push hK :
    s.Ahead source (Behind source (123 :: low) K))
  refine .bind (accept_signed 44) fun comma => ?_
  cases comma with
  | false => exact closeCounts_signed hK hhere (fun h => ⟨.only h, .only h⟩) hlow hlow
  | true =>
      refine .bind (takeAll_signed _) fun high => .assuming fun hhigh => ?_
      have hplaces (h : 123 :: ((low ++ 44 :: high) ++ [125]) <:+: source) :
          Counts source low ∧ Counts source high := by
        rw [List.append_assoc] at h
        exact ⟨.least h, .most h⟩
      refine (closeCounts_signed hK hhere hplaces hlow hhigh).weaken fun s hs => ?_
      have hbehind : Behind source ((123 :: low) ++ (44 :: high)) K s.rest := hs.rest.push hK
      exact ⟨hs.proper, hbehind⟩

/-- The counts of a repetition after its sign. -/
theorem readCounts?_signed (hK : Known source K) {sign : CodePoint}
    (hsign : sign = 63 ∨ sign = 42 ∨ sign = 43 ∨ sign = 123) :
    Signed source (Reader.Ahead source (Behind source [sign] K)) (readCounts? sign) fun _ =>
      Reader.Ahead source K := by
  have hrest : ∀ s : Reader, s.Ahead source (Behind source [sign] K) → s.Ahead source K :=
    fun s hs => hs.behind
  rw [readCounts?_eq]
  split
  · exact .pure hrest
  next hoption =>
  split
  · exact .pure hrest
  next hstar =>
  split
  · exact .pure hrest
  next hplus =>
  obtain rfl : sign = 123 := by
    rcases hsign with rfl | rfl | rfl | hsign
    · exact absurd rfl hoption
    · exact absurd rfl hstar
    · exact absurd rfl hplus
    · exact hsign
  exact bracedCounts_signed hK

theorem readGreed_signed (hK : Known source K) :
    Signed source (Reader.Ahead source K) readGreed fun _ => Reader.Ahead source K := by
  unfold readGreed
  refine .bind (accept_signed 63) fun reluctant => ?_
  have hreluctant : ∀ s : Reader, s.Ahead source (fun r => K (acceptedText 63 reluctant ++ r)) →
      s.Ahead source K := fun s hs => hs.drop hK
  split
  · exact .pure hreluctant
  refine .bind ((accept_signed 43).weaken hreluctant) fun possessive => ?_
  split
  · exact .pure fun s hs => hs.drop hK
  · exact .pure fun s hs => hs.drop hK

/-- Repeating the part read last looks behind only where it did. -/
theorem repeatLast_signed (hK : Known source K) (place : Nat) (counts : Nat × Option Nat)
    {p : Prop} {parts : List Regex} (hparts : ∀ r ∈ parts, looksBehind r = true → p) :
    Signed source (Reader.Ahead source K) (repeatLast place counts parts) fun parts' s =>
      (∀ r ∈ parts', looksBehind r = true → p) ∧ s.Ahead source K := by
  unfold repeatLast
  refine .bind .get_same fun s => ?_
  split
  · exact .flaw
  · exact .flaw
  · exact .flaw
  next last before _ _ =>
  rw [List.forall_mem_cons] at hparts
  refine .bind (readGreed_signed hK) fun greed => .pure fun s hs => ⟨?_, hs⟩
  rw [List.forall_mem_cons]
  refine ⟨fun h => hparts.1 ?_, hparts.2⟩
  rw [looksBehind] at h
  split at h
  · split at h
    · exact h
    · exact h
  · exact h

/-! ## Options -/

/-- Which letters choose a kind of classes. -/
theorem optionOf?_kind {c : CodePoint} {o : Flags} (h : optionOf? c = some o) :
    (o.ascii = true → c = 97) ∧ (o.unicode = true → c = 117) := by
  unfold optionOf? at h
  repeat' split at h
  all_goals cases h
  all_goals simp_all

theorem wrongOption_signed {α : Type} {P : Reader → Prop} {Q : α → Reader → Prop} (t : Token)
    (otherwise : Flaw.Cause) : Signed source P (wrongOption t otherwise) Q := by
  cases t with
  | plain c =>
      rw [wrongOption]
      split
      · exact .flaw
      · exact .flaw
  | escape c => exact .flaw

/-- Options that are the meaning of some letters, as far as the kinds of classes go. -/
structure Means (letters : Text) (on : Flags) : Prop where
  isOption : ∀ c ∈ letters, isOptionLetter c = true
  ascii : on.ascii = true → 97 ∈ letters
  unicode : on.unicode = true → 117 ∈ letters

theorem Means.nil : Means [] {} :=
  ⟨fun _ h => (by cases h), fun h => (by cases h), fun h => (by cases h)⟩

theorem Means.push {letters : Text} {on o : Flags} {c : CodePoint} (h : Means letters on)
    (hc : isOptionLetter c = true) (ho : optionOf? c = some o) :
    Means (letters ++ [c]) (on.union o) := by
  refine ⟨fun d hd => ?_, fun ha => ?_, fun hu => ?_⟩
  · rcases List.mem_append.1 hd with hd | hd
    · exact h.isOption d hd
    · rw [List.mem_singleton.1 hd]
      exact hc
  · rcases Bool.or_eq_true_iff.1 ha with ha | ha
    · exact List.mem_append_left _ (h.ascii ha)
    · rw [(optionOf?_kind ho).1 ha]
      exact List.mem_append_right _ (List.mem_singleton_self 97)
  · rcases Bool.or_eq_true_iff.1 hu with hu | hu
    · exact List.mem_append_left _ (h.unicode hu)
    · rw [(optionOf?_kind ho).2 hu]
      exact List.mem_append_right _ (List.mem_singleton_self 117)

/-- Letters that switch on, from one of them up to a closing sign. -/
theorem readOptionsOn_signed (fuel : Nat) {letter : CodePoint} {letters : Text} {on : Flags}
    (hletter : isOptionLetter letter = true) (hmeans : Means letters on) :
    Signed source (Reader.Ahead source fun r => K (letters ++ letter :: r))
      (readOptionsOn fuel letter on) fun result s => ∃ letters, Means letters result.1 ∧
        s.Ahead source fun r => K (letters ++ result.2 :: r) := by
  induction fuel generalizing letter letters on with
  | zero => exact .flaw
  | succ fuel ih =>
      rw [readOptionsOn]
      split
      · exact .flaw
      next o ho =>
      have hpush : Means (letters ++ [letter]) (on.union o) := hmeans.push hletter ho
      simp only
      split
      · exact .bind_never .flaw
      refine .bind takeAny_signed fun t? => ?_
      have hmore : ∀ (t : Token) (s : Reader),
          s.Ahead source (fun r => K (letters ++ letter :: (t.text ++ r))) →
            s.Ahead source fun r => K ((letters ++ [letter]) ++ (t.text ++ r)) :=
        fun t s hs => ⟨hs.proper, by simpa using hs.rest⟩
      split
      · exact .flaw
      · next c =>
          split
          · exact .pure fun s hs => ⟨letters ++ [letter], hpush, hmore (.plain c) s hs⟩
          split
          · next hc => exact (ih hc hpush).weaken (hmore (.plain c))
          · exact wrongOption_signed _ _
      · exact wrongOption_signed _ _

theorem readOptionsOff_signed (hK : Known source K) (fuel : Nat) (letter : CodePoint)
    (off : Flags) :
    Signed source (Reader.Ahead source K) (readOptionsOff fuel letter off) fun _ =>
      Reader.Ahead source K := by
  induction fuel generalizing letter off with
  | zero => exact .flaw
  | succ fuel ih =>
      rw [readOptionsOff]
      split
      · exact .flaw
      simp only
      split
      · exact .bind_never .flaw
      refine .bind takeAny_signed fun t? => ?_
      split
      · exact .flaw
      · next c =>
          have hrest : ∀ s : Reader, s.Ahead source (fun r => K ([c] ++ r)) → s.Ahead source K :=
            fun s hs => hs.drop hK
          split
          · exact .pure hrest
          split
          · exact (ih _ _).weaken hrest
          · exact wrongOption_signed _ _
      · exact wrongOption_signed _ _

/-- Switching on what letters in front of a closing parenthesis mean. -/
theorem switchOn_signed (hK : Known source K) {letters : Text} {on : Flags}
    (hmeans : Means letters on) :
    Signed source (Reader.Ahead source fun r => Behind source [40, 63] K (letters ++ 41 :: r))
      (modify fun s => { s with flags := s.flags.union on } : Reading PUnit) fun _ =>
        Reader.Ahead source K := by
  refine .modify fun s hs => ?_
  have hplace : 40 :: 63 :: (letters ++ [41]) <:+: source := by
    refine isInfix_of_suffix (b := s.rest) ?_
    simpa using hs.rest.place
  have hswitch : ∀ option ∈ letters, Switches source option := fun option hmem =>
    ⟨letters, hplace, hmem, hmeans.isOption⟩
  refine ⟨⟨hs.proper.whole, fun ha => ?_, fun hu => ?_⟩, hK.tail (hK.drop hs.rest.rest)⟩
  · rcases Bool.or_eq_true_iff.1 ha with ha | ha
    · exact hs.proper.ascii ha
    · exact hswitch 97 (hmeans.ascii ha)
  · rcases Bool.or_eq_true_iff.1 hu with hu | hu
    · exact hs.proper.unicode hu
    · exact hswitch 117 (hmeans.unicode hu)

/-- What is left of the options of a group once the letters that switch on are read. -/
theorem readOptionsEnd_signed (hK : Known source K) (fuel : Nat) {letters : Text} {on : Flags}
    (hmeans : Means letters on) (sign : CodePoint) :
    Signed source (Reader.Ahead source fun r => Behind source [40, 63] K (letters ++ sign :: r)) (do
      if sign = ')' then
        modify fun s => { s with flags := s.flags.union on }
        return none
      if on.template then flaw .globalOptionOn 1
      let off ←
        if sign = '-' then
          match ← take with
          | none => flaw .missingOption
          | some (.plain c) =>
            if isOptionLetter c then readOptionsOff fuel c {}
            else wrongOption (.plain c) .missingOption
          | some t => wrongOption t .missingOption
        else pure ({} : Flags)
      if off.template then flaw .globalOptionOff 1
      if on.meets off then flaw .optionOnAndOff 1
      return some (on, off)) fun _ => Reader.Ahead source K := by
  have hend : ∀ off : Flags, Signed source (Reader.Ahead source K) (do
      if off.template then flaw .globalOptionOff 1
      if on.meets off then flaw .optionOnAndOff 1
      return some (on, off)) fun _ => Reader.Ahead source K := by
    intro off
    simp only
    split
    · exact .bind_never .flaw
    split
    · exact .bind_never .flaw
    · exact .pure fun s hs => hs
  split
  · next hsign =>
      subst hsign
      exact .bind (switchOn_signed hK hmeans) fun _ => .pure fun s hs => hs
  refine .weaken ?_ fun s hs => (⟨hs.proper, hK.tail (hK.drop hs.rest.rest)⟩ : s.Ahead source K)
  simp only
  split
  · exact .bind_never .flaw
  split
  · refine .bind takeAny_signed fun t? => ?_
    split
    · exact .bind_never .flaw
    · next c =>
        split
        · refine .bind ((readOptionsOff_signed hK _ _ _).weaken fun s hs => ?_) hend
          exact hs.drop hK
        · exact .bind_never (wrongOption_signed _ _)
    · exact .bind_never (wrongOption_signed _ _)
  · exact .bind (.pure fun s hs => hs) hend

/-- The options of a group; those for the whole pattern are switched on where they stand. -/
theorem readOptions_signed (hK : Known source K) {c : CodePoint}
    (hc : isOptionLetter c = true ∨ c = 45) :
    Signed source (Reader.Ahead source fun r => Behind source [40, 63] K (c :: r))
      (readOptions c) fun _ => Reader.Ahead source K := by
  unfold readOptions
  refine .bind .get_same fun s => ?_
  simp only
  split
  · next hminus =>
      subst hminus
      exact readOptionsEnd_signed hK _ .nil 45
  · next hminus =>
      have hletter : isOptionLetter c = true := hc.resolve_right hminus
      refine .bind (readOptionsOn_signed (K := Behind source [40, 63] K) _ hletter .nil)
        fun result => .exists_left fun letters => .assuming fun hmeans => ?_
      exact readOptionsEnd_signed hK _ hmeans result.2

/-! ## Comments, names and conditions -/

theorem skipLine_signed (hK : Known source K) (fuel : Nat) :
    Signed source (Reader.Ahead source K) (skipLine fuel) fun _ => Reader.Ahead source K := by
  induction fuel with
  | zero => exact .pure fun s hs => hs
  | succ fuel ih =>
      rw [skipLine]
      refine .bind takeAny_signed fun t? => ?_
      split
      · exact .pure fun s hs => hs
      · next t =>
          have hrest : ∀ s : Reader, s.Ahead source (fun r => K (t.text ++ r)) →
              s.Ahead source K := fun s hs => hs.drop hK
          split
          · exact .pure hrest
          · exact ih.weaken hrest

theorem skipComment_signed (hK : Known source K) (start fuel : Nat) :
    Signed source (Reader.Ahead source K) (skipComment start fuel) fun _ =>
      Reader.Ahead source K := by
  induction fuel with
  | zero => exact .flaw
  | succ fuel ih =>
      rw [skipComment]
      refine .bind takeAny_signed fun t? => ?_
      split
      · exact .get_flaw
      · next t =>
          have hrest : ∀ s : Reader, s.Ahead source (fun r => K (t.text ++ r)) →
              s.Ahead source K := fun s hs => hs.drop hK
          split
          · exact .pure hrest
          · exact ih.weaken hrest

theorem readCondition_signed (hK : Known source K) :
    Signed source (Reader.Ahead source K) readCondition fun _ => Reader.Ahead source K := by
  unfold readCondition
  refine .bind (takeName_signed 41 _) fun name => ?_
  have hrest : ∀ s : Reader, s.Ahead source (fun r => K (name ++ 41 :: r)) → s.Ahead source K :=
    fun s hs => ⟨hs.proper, hK.tail (hK.drop hs.rest)⟩
  refine .bind (.weaken .get_known hrest) fun s => .assuming fun hs => ?_
  have hend : ∀ index : Nat, Signed source (Reader.Ahead source K) (do
      if !isGroupName name && !s.conditions.any (·.1 == index) then
        set { s with conditions := s.conditions ++ [(index, s.position - (name.length + 1))] }
      checkLookbehind index
      return index) fun _ => Reader.Ahead source K := by
    intro index
    have hcheck : Signed source (Reader.Ahead source K) (do
        checkLookbehind index
        return index) fun _ => Reader.Ahead source K :=
      .bind (checkLookbehind_signed index) fun _ => .pure fun s hs => hs
    simp only
    split
    · refine .bind (.set ?_) fun _ => hcheck
      exact hs.congr rfl rfl
    · exact hcheck
  simp only
  split
  · split
    · exact .bind (.pure fun s hs => hs) hend
    · exact .bind_never .flaw
  · split
    · split
      · exact .bind_never .flaw
      split
      · exact .bind_never .flaw
      · exact .bind (.pure fun s hs => hs) hend
    · exact .bind_never .flaw

theorem checkGroupName_signed (name : Text) (back : Nat) :
    Signed source (Reader.Ahead source K) (checkGroupName name back) fun _ =>
      Reader.Ahead source K := by
  unfold checkGroupName
  split
  · exact .flaw
  · exact .pure fun s hs => hs

theorem openGroup_signed (name : Option Text) :
    Signed source (Reader.Ahead source K) (openGroup name) fun _ => Reader.Ahead source K := by
  unfold openGroup
  refine .bind .get_known fun s => .assuming fun hs => ?_
  have hset : ∀ names widths, Reader.Ahead source K { s with names := names, widths := widths } :=
    fun _ _ => hs.congr rfl rfl
  simp only
  split
  · exact .bind (.set (hset _ _)) fun _ => .pure fun s hs => hs
  split
  · exact .flaw
  · exact .bind (.set (hset _ _)) fun _ => .pure fun s hs => hs

theorem closeGroup_signed (index : Nat) (w : Width) :
    Signed source (Reader.Ahead source K) (closeGroup index w) fun _ => Reader.Ahead source K :=
  .modify fun _ hs => hs.congr rfl rfl

theorem closeParenthesis_signed (hK : Known source K) (start : Nat) :
    Signed source (Reader.Ahead source K) (closeParenthesis start) fun _ =>
      Reader.Ahead source K := by
  unfold closeParenthesis
  refine .bind (accept_signed 41) fun closed => ?_
  split
  · exact .get_flaw
  · exact .pure fun s hs => hs.drop hK

theorem setLookbehind_signed (outer : Reader → Option Nat) :
    Signed source (Reader.Ahead source K)
      (modify fun s => { s with lookbehind := outer s } : Reading PUnit) fun _ =>
        Reader.Ahead source K :=
  .modify fun _ hs => hs.congr rfl rfl

end

end ToolPolicy.Regex
