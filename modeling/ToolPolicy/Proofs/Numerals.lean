import ToolPolicy.Proofs.JsonForm
import ToolPolicy.Text.LowerCase

/-!
# Numbers as JSON writes them

A numeral has a sign, digits in front of the point, and perhaps digits behind it and a power of
ten. JSON reads all of them as numbers. YAML takes them for integers, for numbers with a point, or,
when there is a power of ten but no point, for texts; but it always takes them for something. So
every numeral is a word.

Main statements: `readPlain_text` (a numeral in JSON), `ofPlain_text` (its tag in YAML) and
`exists_ofText` (it has a value with its tag).
-/

namespace ToolPolicy.Json

open Yaml

/-- Whether a text is made of digits. -/
def AreDigits (t : Text) : Prop := ∀ c ∈ t, CodePoint.isAsciiDigit c = true

/-- A number as JSON writes it. -/
structure Numeral where
  isNegative : Bool
  /-- The first digit. -/
  first : CodePoint
  /-- The other digits in front of the point. -/
  others : Text
  /-- The digits behind the point, if there is one. -/
  fraction : Text
  /-- The power of ten, if there is one: whether it is negative, and its digits. -/
  power : Option (Bool × Text)
  first_digit : CodePoint.isAsciiDigit first = true
  others_digits : AreDigits others
  fraction_digits : AreDigits fraction
  power_digits : ∀ e ∈ power, e.2 ≠ [] ∧ AreDigits e.2
  /-- A zero comes first only if it is alone in front of the point. -/
  leading : first = 48 → others = []
  /-- An integer has few enough digits to be read. -/
  few : fraction = [] → power = none → others.length < digitLimit

/-! ## Digits -/

section Digits

variable {c : Nat}

theorem isAsciiDigit_iff : CodePoint.isAsciiDigit c = true ↔ 48 ≤ c ∧ c ≤ 57 := by
  simp [CodePoint.isAsciiDigit]

/-- What readers of numbers take a digit for. -/
structure IsDigit (c : Nat) : Prop where
  wordPart : isWordPart c = true
  looseDigit : Tag.isLooseDigit c = true
  decimalValue : CodePoint.decimalValue? c = some (c - 48)
  belongsToNumber : Text.belongsToNumber 10 c = true
  notSpace : CodePoint.isSpaceAround c = false
  asciiLower : CodePoint.asciiLower c = c

theorem digit_table :
    ∀ c < 128, CodePoint.isAsciiDigit c = true → isWordPart c = true ∧ Tag.isLooseDigit c = true
    ∧ CodePoint.decimalValue? c = some (c - 48) ∧ Text.belongsToNumber 10 c = true
    ∧ CodePoint.isSpaceAround c = false ∧ CodePoint.asciiLower c = c := by
  decide

theorem isDigit (h : CodePoint.isAsciiDigit c = true) : IsDigit c := by
  have hlt : c < 128 := Nat.lt_of_le_of_lt (isAsciiDigit_iff.mp h).2 (by decide)
  obtain ⟨hpart, hloose, hvalue, hnumber, hspace, hlower⟩ := digit_table c hlt h
  exact ⟨hpart, hloose, hvalue, hnumber, hspace, hlower⟩

theorem isLeadingDigit_of_ne (h : CodePoint.isAsciiDigit c = true) (hne : c ≠ 48) :
    Tag.isLeadingDigit c = true := by
  have := isAsciiDigit_iff.mp h
  simp only [Tag.isLeadingDigit, Bool.and_eq_true, decide_eq_true_eq]
  exact ⟨Nat.lt_of_le_of_ne this.1 (Ne.symm hne), this.2⟩

theorem AreDigits.head {t : Text} (h : AreDigits (c :: t)) :
    CodePoint.isAsciiDigit c = true := h c (by simp)

theorem AreDigits.tail {t : Text} (h : AreDigits (c :: t)) : AreDigits t :=
  fun d hd => h d (by simp [hd])

end Digits

/-- Whether a text does not begin with a member of a class. -/
def Stops (p : CodePoint → Bool) (t : Text) : Prop := ∀ c ∈ t.head?, p c = false

theorem stops_nil (p : CodePoint → Bool) : Stops p [] := by
  simp [Stops]

theorem takeWhile_append_stop {p : CodePoint → Bool} {t rest : Text} (ht : ∀ c ∈ t, p c = true)
    (h : Stops p rest) :
    (t ++ rest).takeWhile p = t ∧ (t ++ rest).dropWhile p = rest := by
  induction t with
  | nil =>
    cases rest with
    | nil => exact ⟨rfl, rfl⟩
    | cons c rest => simp [h c rfl]
  | cons c t ih =>
    have hc := ht c (by simp)
    have ih := ih fun d hd => ht d (by simp [hd])
    simp [hc, ih]

/-- Nothing is trimmed from a text without white space. -/
theorem trimBoth_of_notSpace {t : Text} (ht : ∀ c ∈ t, CodePoint.isSpaceAround c = false) :
    Text.trimBoth CodePoint.isSpaceAround t = t := by
  have hdrop {t : Text} (ht : ∀ c ∈ t, CodePoint.isSpaceAround c = false) :
      t.dropWhile CodePoint.isSpaceAround = t := by
    cases t with
    | nil => rfl
    | cons c t => simp [ht c (by simp)]
  rw [Text.trimBoth, hdrop ht, hdrop fun c hc => ht c (List.mem_reverse.mp hc),
    List.reverse_reverse]

/-- Digits are read as an integer if there are not too many of them. -/
theorem readInteger_digits {t : Text} (ht : AreDigits t) (hne : t ≠ []) :
    Text.readInteger 10 t = if digitLimit < t.length then .error (.tooManyDigits t.length)
      else .ok (Text.ofDigits 10 (t.filterMap CodePoint.digitValue?) : Int) := by
  have htrim : Text.trimBoth CodePoint.isSpaceAround t = t :=
    trimBoth_of_notSpace fun c hc => (isDigit (ht c hc)).notSpace
  have hplain : Text.withPlainDigits t = t := by
    refine (List.map_congr_left fun c hc => ?_).trans (List.map_id _)
    have hc := ht c hc
    have := (isAsciiDigit_iff.mp hc).1
    rw [(isDigit hc).decimalValue]
    show 48 + (c - 48) = c
    exact Nat.add_sub_cancel' this
  have hsign : Text.splitSign t = (false, t) := by
    unfold Text.splitSign
    split
    · exact absurd (ht 45 (by simp)) (by decide)
    · exact absurd (ht 43 (by simp)) (by decide)
    · rfl
  have hbase : Text.dropBasePrefix 10 t = t := by
    unfold Text.dropBasePrefix
    split
    · rfl
    · rfl
  have hrun : Text.digitRun 10 t = (t, []) := by
    have h := takeWhile_append_stop (fun c hc => (isDigit (ht c hc)).belongsToNumber)
      (stops_nil (Text.belongsToNumber 10))
    rw [List.append_nil] at h
    rw [Text.digitRun, h.1, h.2]
  have hseparated : Text.isWellSeparated t = true := by
    have hnot : 95 ∉ t := fun h => absurd (ht 95 h) (by decide)
    rw [Text.isWellSeparated, Text.splitOn_of_notMem hnot]
    simpa using hne
  have hlength : (t.filterMap CodePoint.digitValue?).length = t.length := by
    rw [List.filterMap_length_eq_length]
    intro c hc
    rw [CodePoint.digitValue?, if_pos (ht c hc)]
    rfl
  simp only [Text.readInteger, htrim, hplain, hsign, hbase, hrun, hseparated, hlength]
  simp

theorem Ended.stops {t : Text} (h : Ended t) : Stops isWordPart t := by
  intro c hc
  cases t with
  | nil => cases hc
  | cons d rest =>
    cases hc
    rcases h with rfl | rfl | rfl <;> rfl

theorem Stops.mono {p q : CodePoint → Bool} {t : Text}
    (hq : ∀ c, q c = true → p c = true) (h : Stops p t) :
    Stops q t := by
  intro c hc
  have := h c hc
  rw [Bool.eq_false_iff] at this ⊢
  exact fun hqc => this (hq c hqc)

theorem Ended.stops_digits {t : Text} (h : Ended t) : Stops CodePoint.isAsciiDigit t :=
  h.stops.mono fun _ hc => (isDigit hc).wordPart

namespace Numeral

variable (n : Numeral) {rest : Text}

/-! ## The text of a numeral -/

/-- The sign of a numeral. -/
def sign : Text := if n.isNegative then [45] else []

/-- The point and the digits behind it. -/
def pointText : Text := if n.fraction = [] then [] else 46 :: n.fraction

/-- The power of ten. -/
def powerText : Text :=
  match n.power with
  | none => []
  | some (isNegative, digits) => 101 :: (if isNegative then 45 else 43) :: digits

/-- A numeral without its sign. -/
def body : Text := n.first :: (n.others ++ (n.pointText ++ n.powerText))

/-- The text of a numeral. -/
def text : Text := n.sign ++ n.body

theorem first_ne {c : Nat} (hc : CodePoint.isAsciiDigit c = false) : n.first ≠ c := by
  rintro rfl
  rw [n.first_digit] at hc
  cases hc

theorem whole_digits : AreDigits (n.first :: n.others) := by
  intro c hc
  rcases List.mem_cons.mp hc with rfl | hc
  · exact n.first_digit
  · exact n.others_digits c hc

/-- What a numeral is made of. -/
theorem mem_body {c : CodePoint} (h : c ∈ n.body) :
    CodePoint.isAsciiDigit c = true ∨ c = 46 ∨ c = 101 ∨ c = 43 ∨ c = 45 := by
  simp only [body, List.mem_cons, List.mem_append] at h
  rcases h with rfl | h | h | h
  · exact .inl n.first_digit
  · exact .inl (n.others_digits c h)
  · unfold pointText at h
    split at h
    · cases h
    · rcases List.mem_cons.mp h with rfl | h
      · exact .inr (.inl rfl)
      · exact .inl (n.fraction_digits c h)
  · unfold powerText at h
    split at h
    · cases h
    · rename_i isNegative digits hpower
      simp only [List.mem_cons] at h
      rcases h with rfl | rfl | h
      · exact .inr (.inr (.inl rfl))
      · cases isNegative <;> simp
      · exact .inl ((n.power_digits _ hpower).2 c h)

theorem mem_text {c : CodePoint} (h : c ∈ n.text) :
    CodePoint.isAsciiDigit c = true ∨ c = 46 ∨ c = 101 ∨ c = 43 ∨ c = 45 := by
  rcases List.mem_append.mp h with h | h
  · unfold sign at h
    split at h
    · exact .inr (.inr (.inr (.inr (List.mem_singleton.mp h))))
    · cases h
  · exact n.mem_body h

/-- What holds of digits and of the four signs holds of everything in a numeral. -/
theorem all_text {p : CodePoint → Prop} (hdigit : ∀ c, CodePoint.isAsciiDigit c = true → p c)
    (hsigns : p 46 ∧ p 101 ∧ p 43 ∧ p 45) : ∀ c ∈ n.text, p c := by
  intro c hc
  rcases n.mem_text hc with h | rfl | rfl | rfl | rfl
  · exact hdigit c h
  · exact hsigns.1
  · exact hsigns.2.1
  · exact hsigns.2.2.1
  · exact hsigns.2.2.2

theorem all_body {p : CodePoint → Prop} (hdigit : ∀ c, CodePoint.isAsciiDigit c = true → p c)
    (hsigns : p 46 ∧ p 101 ∧ p 43 ∧ p 45) : ∀ c ∈ n.body, p c :=
  fun c hc => n.all_text hdigit hsigns c (List.mem_append_right _ hc)

theorem parts_text : ∀ c ∈ n.text, isWordPart c = true :=
  n.all_text (fun _ h => (isDigit h).wordPart) (by decide)

/-! ## Reading a numeral as JSON -/

theorem afterWord?_eq_none {word : Text} {c d : CodePoint} {more t : Text}
    (hword : word = d :: more) (h : d ≠ c) :
    afterWord? word (c :: t) = none := by
  have : (d == c) = false := beq_eq_false_iff_ne.mpr h
  simp [hword, afterWord?, List.isPrefixOf, this]

theorem readWord?_eq_none : readWord? (n.text ++ rest) = none := by
  have hword {d : CodePoint} (hd : CodePoint.isAsciiDigit d = false) : d ≠ n.first :=
    (n.first_ne hd).symm
  rw [readWord?, List.findSome?_eq_none_iff]
  intro e he
  simp only [List.mem_cons, List.not_mem_nil, or_false] at he
  rw [Option.map_eq_none_iff]
  by_cases hneg : n.isNegative = true
  · simp only [text, sign, if_pos hneg, body, List.cons_append, List.nil_append]
    rcases he with rfl | rfl | rfl | rfl | rfl | rfl
    · exact afterWord?_eq_none (d := 110) rfl (by decide)
    · exact afterWord?_eq_none (d := 116) rfl (by decide)
    · exact afterWord?_eq_none (d := 102) rfl (by decide)
    · exact afterWord?_eq_none (d := 78) rfl (by decide)
    · exact afterWord?_eq_none (d := 73) rfl (by decide)
    · have hprefix : (Text.ofString "-Infinity").isPrefixOf
          (45 :: n.first :: (n.others ++ (n.pointText ++ n.powerText) ++ rest)) = false := by
        have : (73 == n.first) = false := beq_eq_false_iff_ne.mpr (hword rfl)
        rw [show Text.ofString "-Infinity" = [45, 73, 110, 102, 105, 110, 105, 116, 121] from rfl]
        simp [List.isPrefixOf, this]
      rw [afterWord?, hprefix]
      rfl
  · simp only [text, sign, if_neg hneg, body, List.cons_append, List.nil_append]
    rcases he with rfl | rfl | rfl | rfl | rfl | rfl
    · exact afterWord?_eq_none (d := 110) rfl (hword rfl)
    · exact afterWord?_eq_none (d := 116) rfl (hword rfl)
    · exact afterWord?_eq_none (d := 102) rfl (hword rfl)
    · exact afterWord?_eq_none (d := 78) rfl (hword rfl)
    · exact afterWord?_eq_none (d := 73) rfl (hword rfl)
    · exact afterWord?_eq_none (d := 45) rfl (hword rfl)

theorem takeDigits_append {t rest : Text} (ht : AreDigits t)
    (h : Stops CodePoint.isAsciiDigit rest) :
    takeDigits (t ++ rest) = (t, rest) := by
  have h := takeWhile_append_stop ht h
  rw [takeDigits, h.1, h.2]

/-- What follows the digits in front of the point. -/
theorem stops_tail {p : CodePoint → Bool} (hp : p 46 = false ∧ p 101 = false) (h : Stops p rest) :
    Stops p (n.pointText ++ (n.powerText ++ rest)) := by
  unfold pointText powerText
  intro c hc
  split at hc
  · split at hc
    · exact h c hc
    · cases hc
      exact hp.2
  · cases hc
    exact hp.1

theorem stops_power {p : CodePoint → Bool} (hp : p 101 = false) (h : Stops p rest) :
    Stops p (n.powerText ++ rest) := by
  unfold powerText
  intro c hc
  split at hc
  · exact h c hc
  · cases hc
    exact hp

theorem readFraction_text (h : Ended rest) :
    readFraction (n.pointText ++ (n.powerText ++ rest)) = (n.fraction, n.powerText ++ rest) := by
  have hstops := n.stops_power rfl h.stops_digits
  unfold pointText
  split
  · rename_i hfraction
    rw [List.nil_append, hfraction]
    -- neither a power nor an end begins with a point
    have hpoint : ∀ c ∈ (n.powerText ++ rest).head?, c ≠ 46 := by
      intro c hc he
      have hword := h.stops
      unfold powerText at hc
      split at hc
      · exact absurd (hword c hc) (by rw [he]; decide)
      · cases hc
        exact absurd he (by decide)
    unfold readFraction
    split
    · rename_i hcons
      exact absurd rfl (hpoint 46 (by rw [hcons]; rfl))
    · rfl
  · rename_i hfraction
    have hdigits := takeDigits_append n.fraction_digits hstops
    cases hcons : n.fraction with
    | nil => exact absurd hcons hfraction
    | cons c more =>
      rw [hcons] at hdigits
      have hc : CodePoint.isAsciiDigit c = true :=
        n.fraction_digits c (by rw [hcons]; exact List.mem_cons_self)
      simp only [List.cons_append, readFraction, hc, if_true] at hdigits ⊢
      exact hdigits

/-- The number of a power of ten. -/
def exponent? : Option Int :=
  n.power.map fun e => if e.1 then -(Text.toNatBase 10 e.2 : Int) else Text.toNatBase 10 e.2

theorem readExponent?_signed (isNegative : Bool) (t : Text) :
    readExponent? (101 :: (if isNegative then 45 else 43) :: t)
      = (if (takeDigits t).1.isEmpty then none
        else some
          (if isNegative then -(Text.toNatBase 10 (takeDigits t).1 : Int)
            else Text.toNatBase 10 (takeDigits t).1,
          (takeDigits t).2)) := by
  cases isNegative <;> rfl

theorem readExponent?_text (h : Ended rest) :
    readExponent? (n.powerText ++ rest) = n.exponent?.map fun e => (e, rest) := by
  unfold powerText exponent?
  split
  · rename_i hpower
    rw [hpower, List.nil_append]
    cases rest with
    | nil => rfl
    | cons c rest => rcases h with rfl | rfl | rfl <;> rfl
  · rename_i isNegative digits hpower
    obtain ⟨hne, hdigits⟩ := n.power_digits _ hpower
    have htake := takeDigits_append hdigits h.stops_digits
    rw [hpower, List.cons_append, List.cons_append, readExponent?_signed, htake,
      if_neg (by simpa using hne)]
    rfl

/-- What follows the sign of a numeral. -/
theorem body_append (rest : Text) :
    n.body ++ rest = n.first :: (n.others ++ (n.pointText ++ (n.powerText ++ rest))) := by
  simp only [body, List.cons_append, List.append_assoc]

theorem exponent?_eq_none_iff : n.exponent? = none ↔ n.power = none := Option.map_eq_none_iff

/-- The number that the parts of a numeral make up. -/
def assemble (isNegative : Bool) (whole fraction : Text) (exponent : Option Int) :
    Except Failure Value :=
  if fraction = [] ∧ exponent = none then
    if digitLimit < whole.length then .error (.fault (.tooManyDigits whole.length))
    else .ok (.int
      (if isNegative then -(Text.toNatBase 10 whole : Int) else Text.toNatBase 10 whole))
  else .ok (.float (Binary64.ofDecimal isNegative (Text.toNatBase 10 (whole ++ fraction))
    (exponent.getD 0 - fraction.length)))

/-- A numeral is read part by part. -/
theorem readNumber_text (h : Ended rest) : readNumber (n.text ++ rest)
    = (assemble n.isNegative (n.first :: n.others) n.fraction n.exponent?).map fun v =>
      (v, rest) := by
  have hminus := n.first_ne (c := 45) rfl
  have hwhole : takeDigits (n.first :: (n.others ++ (n.pointText ++ (n.powerText ++ rest))))
      = (n.first :: n.others, n.pointText ++ (n.powerText ++ rest)) :=
    takeDigits_append n.whole_digits (n.stops_tail ⟨rfl, rfl⟩ h.stops_digits)
  have hfraction := n.readFraction_text h
  have hexponent := n.readExponent?_text h
  rw [readNumber.eq_def, text, sign, List.append_assoc, body_append]
  cases hpower : n.exponent? with
  | none =>
    have hafter : n.powerText = [] := by rw [powerText, n.exponent?_eq_none_iff.mp hpower]
    rw [hafter, List.nil_append] at hfraction hwhole hexponent ⊢
    by_cases hzero : n.first = 48
    · rw [hzero, n.leading hzero]
      cases n.isNegative <;> simp [hfraction, hexponent, assemble, hpower] <;> split <;> rfl
    · cases n.isNegative <;>
        simp [hminus, n.first_digit, hwhole, hfraction, hexponent, assemble, hpower] <;>
        repeat (split <;> try rfl)
  | some e =>
    rw [hpower] at hexponent
    by_cases hzero : n.first = 48
    · rw [hzero, n.leading hzero]
      cases n.isNegative <;> simp [hfraction, hexponent, assemble, Except.map]
    · cases n.isNegative <;>
        simp [hminus, n.first_digit, hwhole, hfraction, hexponent, assemble, Except.map]

theorem exists_assemble :
    ∃ v, assemble n.isNegative (n.first :: n.others) n.fraction n.exponent? = .ok v := by
  unfold assemble
  split
  · rename_i hparts
    have hlength := n.few hparts.1 (n.exponent?_eq_none_iff.mp hparts.2)
    exact ⟨_, if_neg (Nat.not_lt.mpr hlength)⟩
  · exact ⟨_, rfl⟩

/-- **A numeral in JSON** is a number. -/
theorem readPlain_text : ∃ v, ∀ rest, Ended rest → readPlain (n.text ++ rest) = .ok (v, rest) := by
  obtain ⟨v, hv⟩ := n.exists_assemble
  refine ⟨v, fun rest h => ?_⟩
  rw [readPlain, n.readWord?_eq_none]
  exact (n.readNumber_text h).trans (by rw [hv]; rfl)

/-! ## A numeral as a plain scalar -/

theorem withoutFinalBreak_text : Tag.withoutFinalBreak n.text = n.text := by
  have hlast : n.text.getLast? ≠ some 10 := by
    intro h
    have := n.parts_text 10 (List.mem_of_getLast? h)
    exact absurd this (by decide)
  rw [Tag.withoutFinalBreak, if_neg (by simpa using hlast)]

theorem withoutSign_text : Tag.withoutSign n.text = n.body := by
  by_cases hneg : n.isNegative = true
  · simp only [text, sign, hneg]
    rfl
  · simp only [text, sign, if_neg hneg, List.nil_append, body, Tag.withoutSign]
    rw [if_neg (by simp [n.first_ne (c := 43) rfl, n.first_ne (c := 45) rfl])]

theorem splitSign_text : Text.splitSign n.text = (n.isNegative, n.body) := by
  by_cases hneg : n.isNegative = true
  · simp only [text, sign, hneg]
    rfl
  · rw [Bool.not_eq_true] at hneg
    simp only [text, sign, hneg, Bool.false_eq_true, if_false, List.nil_append]
    unfold Text.splitSign
    split
    · rename_i heq
      exact absurd (List.cons.inj heq).1 (n.first_ne rfl)
    · rename_i heq
      exact absurd (List.cons.inj heq).1 (n.first_ne rfl)
    · rfl

theorem splitSign_body : Text.splitSign n.body = (false, n.body) := by
  unfold Text.splitSign
  split
  · rename_i heq
    exact absurd (List.cons.inj heq).1 (n.first_ne rfl)
  · rename_i heq
    exact absurd (List.cons.inj heq).1 (n.first_ne rfl)
  · rfl

/-- What follows the first digits. -/
theorem afterDigits?_body {p : CodePoint → Bool} :
    Tag.afterDigits? p n.body = if p n.first then some (n.pointText ++ n.powerText) else none := by
  have hloose : ∀ c ∈ n.others, Tag.isLooseDigit c = true :=
    fun c hc => (isDigit (n.others_digits c hc)).looseDigit
  have hstops : Stops Tag.isLooseDigit (n.pointText ++ n.powerText) := by
    have := n.stops_tail ⟨rfl, rfl⟩ (stops_nil Tag.isLooseDigit)
    rwa [List.append_nil] at this
  rw [body, Tag.afterDigits?, (takeWhile_append_stop hloose hstops).2]

theorem text_eq_cons : ∃ c t, n.text = c :: t ∧ c ≠ 46 := by
  by_cases hneg : n.isNegative = true
  · exact ⟨45, n.body, by simp [text, sign, hneg], by decide⟩
  · exact ⟨n.first, _, by simp only [text, sign, hneg]; rfl, n.first_ne rfl⟩

/-- A numeral is no text that begins otherwise. -/
theorem text_ne {w : Text} (h : ∀ c ∈ w.head?, CodePoint.isAsciiDigit c = false ∧ c ≠ 45) :
    n.text ≠ w := by
  rintro rfl
  by_cases hneg : n.isNegative = true
  · exact (h 45 (by simp [text, sign, hneg])).2 rfl
  · have := (h n.first (by simp [text, sign, hneg, body])).1
    rw [n.first_digit] at this
    cases this

theorem body_ne {w : Text} (h : ∀ c ∈ w.head?, CodePoint.isAsciiDigit c = false) : n.body ≠ w := by
  rintro rfl
  have := h n.first rfl
  rw [n.first_digit] at this
  cases this

theorem contains_text {words : List Text}
    (h : ∀ w ∈ words, ∀ c ∈ w.head?, CodePoint.isAsciiDigit c = false ∧ c ≠ 45) :
    words.contains n.text = false :=
  Bool.eq_false_iff.mpr fun hmem => n.text_ne (h _ (List.contains_iff_mem.mp hmem)) rfl

theorem contains_body {words : List Text}
    (h : ∀ w ∈ words, ∀ c ∈ w.head?, CodePoint.isAsciiDigit c = false) :
    words.contains n.body = false :=
  Bool.eq_false_iff.mpr fun hmem => n.body_ne (h _ (List.contains_iff_mem.mp hmem)) rfl

/-- What comes after the digits in front of the point: nothing, a fraction, or a power alone. -/
theorem tail_cases : (n.fraction = [] ∧ n.power = none ∧ n.pointText ++ n.powerText = [])
    ∨ (n.fraction ≠ [] ∧ n.pointText ++ n.powerText = 46 :: (n.fraction ++ n.powerText))
    ∨ (n.fraction = [] ∧ n.power ≠ none ∧ ∃ more, n.pointText ++ n.powerText = 101 :: more) := by
  by_cases hf : n.fraction = []
  · cases hp : n.power with
    | none => exact .inl ⟨hf, rfl, by simp [pointText, powerText, hf, hp]⟩
    | some e => exact .inr (.inr ⟨hf, by simp, _, by simp only [pointText, powerText, hf, hp]; rfl⟩)
  · exact .inr (.inl ⟨hf, by simp [pointText, hf]⟩)

theorem afterPlaces?_tail (fuel : Nat) :
    Tag.afterPlaces? fuel (n.pointText ++ n.powerText) = none := by
  have hplace : Tag.afterPlace? (n.pointText ++ n.powerText) = none := by
    rcases n.tail_cases with ⟨_, _, h⟩ | ⟨_, h⟩ | ⟨_, _, more, h⟩ <;> rw [h] <;> rfl
  cases fuel with
  | zero => rfl
  | succ fuel => rw [Tag.afterPlaces?, hplace]

theorem isExponent_powerText : Tag.isExponent n.powerText = true := by
  unfold powerText
  split
  · rfl
  · rename_i isNegative digits hpower
    obtain ⟨hne, hdigits⟩ := n.power_digits _ hpower
    have hrun : Tag.isRun CodePoint.isAsciiDigit digits = true := by
      simp only [Tag.isRun, Bool.and_eq_true, Bool.not_eq_true', List.all_eq_true]
      exact ⟨by simpa using hne, hdigits⟩
    cases isNegative <;> simp [Tag.isExponent, hrun]

/-- A numeral looks like a number with a point if it has one. -/
theorem looksFloat_text : Tag.looksFloat n.text = !n.fraction.isEmpty := by
  have hinfinity : Tag.looksFloat.infinityWords.contains n.body = false :=
    n.contains_body (by decide)
  have hnan : Tag.looksFloat.nanWords.contains n.text = false := n.contains_text (by decide)
  obtain ⟨c, t, htext, hc⟩ := n.text_eq_cons
  simp only [Tag.looksFloat, n.withoutSign_text, n.afterDigits?_body, n.first_digit,
    if_true, hinfinity, hnan, Option.bind_some, n.afterPlaces?_tail]
  rw [htext]
  rcases n.tail_cases with ⟨hf, _, htail⟩ | ⟨hf, htail⟩ | ⟨hf, _, more, htail⟩
  · simp [htail, hf, hc]
  · have hloose : ∀ c ∈ n.fraction, Tag.isLooseDigit c = true :=
      fun c hc => (isDigit (n.fraction_digits c hc)).looseDigit
    have hstops : Stops Tag.isLooseDigit n.powerText := by
      have := n.stops_power rfl (stops_nil Tag.isLooseDigit)
      rwa [List.append_nil] at this
    simp [htail, hf, (takeWhile_append_stop hloose hstops).2, n.isExponent_powerText]
  · simp [htail, hf, hc]

/-- A numeral without a point looks like an integer unless it has a power. -/
theorem looksInt_text (hf : n.fraction = []) : Tag.looksInt n.text = n.power.isNone := by
  have hleading (h : n.first ≠ 48) := isLeadingDigit_of_ne n.first_digit h
  have hafter := n.afterDigits?_body (p := Tag.isLeadingDigit)
  simp only [Tag.looksInt, n.withoutSign_text]
  rcases n.tail_cases with ⟨_, hp, htail⟩ | ⟨hf', _⟩ | ⟨_, hp, more, htail⟩
  · rw [body, htail, List.append_nil] at hafter ⊢
    by_cases hzero : n.first = 48
    · simp [hp, hzero, n.leading hzero]
    · simp [hp, hzero, hafter, hleading hzero]
  · exact absurd hf hf'
  · have hplaces := n.afterPlaces?_tail
    have hsome : n.power.isNone = false := by simpa [Option.isSome_iff_ne_none] using hp
    rw [body, htail] at hafter ⊢
    rw [htail] at hplaces
    by_cases hzero : n.first = 48
    · rw [hzero, n.leading hzero, hsome]
      rfl
    · simp [hsome, hzero, hafter, hleading hzero, hplaces]

theorem takeDigits_moment {t rest : Text} (ht : AreDigits t)
    (h : Stops CodePoint.isAsciiDigit rest) (most : Nat) :
    Moment.takeDigits most (t ++ rest) = (t.take most, t.drop most ++ rest) := by
  induction t generalizing most with
  | nil =>
    cases most with
    | zero => rfl
    | succ most =>
      cases rest with
      | nil => rfl
      | cons c rest => simp [Moment.takeDigits, h c rfl]
  | cons c t ih =>
    cases most with
    | zero => rfl
    | succ most => simp [Moment.takeDigits, ht.head, ih ht.tail most]

/-- A numeral with a power but no point is no date: no hyphen comes after digits. -/
theorem read?_text (hf : n.fraction = []) (hp : n.power ≠ none) : Moment.read? n.text = none := by
  have hyear : ∀ year t, Moment.digits? 4 4 n.text = some (year, t) →
    Moment.after? 45 t = none := by
    intro year t h
    rcases n.tail_cases with ⟨_, hp', _⟩ | ⟨hf', _⟩ | ⟨_, _, more, htail⟩
    · exact absurd hp' hp
    · exact absurd hf hf'
    by_cases hneg : n.isNegative = true
    · simp [Moment.digits?, text, sign, hneg, Moment.takeDigits, CodePoint.isAsciiDigit] at h
    · have htext : n.text = (n.first :: n.others) ++ 101 :: more := by
        simp only [text, sign, hneg, body, htail]
        rfl
      have hstops : Stops CodePoint.isAsciiDigit (101 :: more) := fun c hc => by cases hc; rfl
      have htake := takeDigits_moment n.whole_digits hstops 4
      rw [Moment.digits?, htext, htake] at h
      simp only [Option.ite_none_right_eq_some, Option.some.injEq, Prod.mk.injEq] at h
      rw [← h.2.2]
      cases hdrop : (n.first :: n.others).drop 4 with
      | nil => rfl
      | cons c rest =>
        have hc := n.whole_digits c (List.mem_of_mem_drop (hdrop ▸ List.mem_cons_self))
        have hne : c ≠ 45 := by
          rintro rfl
          cases hc
        simp [Moment.after?, hne]
  rw [Moment.read?]
  cases h : Moment.digits? 4 4 n.text with
  | none => rfl
  | some found =>
    obtain ⟨year, t⟩ := found
    simp [hyear year t h]

/-- **The tag of a numeral** as a plain scalar. -/
theorem ofPlain_text :
    Tag.ofPlain n.text = if n.fraction ≠ [] then .float
      else if n.power = none then .int else .str := by
  have hbool : Tag.boolWords.contains n.text = false := n.contains_text (by decide)
  have hnull : Tag.nullWords.contains n.text = false := n.contains_text (by decide)
  have hmerge : (n.text == Text.ofString "<<") = false :=
    beq_eq_false_iff_ne.mpr (n.text_ne (by decide))
  have hvalue : (n.text == Text.ofString "=") = false :=
    beq_eq_false_iff_ne.mpr (n.text_ne (by decide))
  have hyaml : n.text ≠ [33] ∧ n.text ≠ [38] ∧ n.text ≠ [42] :=
    ⟨n.text_ne (by decide), n.text_ne (by decide), n.text_ne (by decide)⟩
  have hword : Tag.ofPlain n.text = Tag.ofWord n.text := by
    obtain ⟨c, t, htext, _⟩ := n.text_eq_cons
    have hbreak := n.withoutFinalBreak_text
    rw [htext] at hbreak ⊢
    simp only [Tag.ofPlain, hbreak]
    rfl
  rw [hword, Tag.ofWord, hbool, hnull, n.looksFloat_text]
  by_cases hf : n.fraction = []
  · rw [n.looksInt_text hf]
    by_cases hp : n.power = none
    · simp [hf, hp]
    · have hnone : n.power.isNone = false := by simpa [Option.isSome_iff_ne_none] using hp
      have htime : Tag.looksTimestamp n.text = false := by
        rw [Tag.looksTimestamp, n.read?_text hf hp]
      simp [hf, hp, hnone, hmerge, hvalue, htime, hyaml]
  · simp [hf]

/-! ## The value of a plain scalar -/

theorem withoutUnderscores_text : ScalarValue.withoutUnderscores n.text = n.text :=
  List.filter_eq_self.mpr <|
    n.all_text (fun _ h => bne_iff_ne.mpr (by rintro rfl; exact absurd h (by decide))) (by decide)

theorem map_asciiLower_text : n.text.map CodePoint.asciiLower = n.text :=
  (List.map_congr_left (n.all_text (fun _ h => (isDigit h).asciiLower) (by decide))).trans
    (List.map_id _)

theorem map_asciiLower_body : n.body.map CodePoint.asciiLower = n.body :=
  (List.map_congr_left (n.all_body (fun _ h => (isDigit h).asciiLower) (by decide))).trans
    (List.map_id _)

theorem lower_text : Text.lower n.text = n.text :=
  (Text.lower_of_ascii fun c hc => isWordPart_lt (n.parts_text c hc)).trans n.map_asciiLower_text

theorem splitSign_value : ScalarValue.splitSign n.text = .ok (n.isNegative, n.body) := by
  obtain ⟨c, t, htext, _⟩ := n.text_eq_cons
  have hempty : n.text.isEmpty = false := by rw [htext]; rfl
  rw [ScalarValue.splitSign, hempty, n.splitSign_text]
  rfl

theorem trimBoth_body : Text.trimBoth CodePoint.isSpaceAround n.body = n.body :=
  trimBoth_of_notSpace (n.all_body (fun _ h => (isDigit h).notSpace) (by decide))

theorem contains_colon_body : n.body.contains 58 = false := by
  have hne :=
    n.all_body (p := fun c => c ≠ 58) (by rintro c h rfl; exact absurd h (by decide)) (by decide)
  exact Bool.eq_false_iff.mpr fun h => hne 58 (List.contains_iff_mem.mp h) rfl

/-- An integer is read. -/
theorem exists_readInteger_body (hf : n.fraction = []) (hp : n.power = none) :
    ∃ i, Text.readInteger 10 n.body = .ok i := by
  have hbody : n.body = n.first :: n.others := by simp [body, pointText, powerText, hf, hp]
  have hdigits : AreDigits n.body := hbody ▸ n.whole_digits
  have hfew : ¬digitLimit < n.body.length := by
    rw [hbody, List.length_cons]
    exact Nat.not_lt.mpr (n.few hf hp)
  exact ⟨_, (readInteger_digits hdigits (by simp [hbody])).trans (if_neg hfew)⟩

theorem exists_ofInt (hf : n.fraction = []) (hp : n.power = none) :
    ∃ v, ScalarValue.ofInt n.text = .ok v := by
  have hmagnitude : ∃ i, ScalarValue.magnitude n.body = .ok i := by
    by_cases hzero : n.first = 48
    · refine ⟨0, ?_⟩
      simp only [body, hzero, n.leading hzero, pointText, powerText, hf, hp]
      rfl
    · obtain ⟨i, hi⟩ := n.exists_readInteger_body hf hp
      refine ⟨i, ?_⟩
      have hcolon := n.contains_colon_body
      unfold ScalarValue.magnitude
      split
      · rename_i h
        exact absurd h (List.cons_ne_nil _ _)
      all_goals first
        | exact absurd (List.cons.inj (show n.first :: _ = _ from ‹n.body = _›)).1 hzero
        | skip
      rw [hcolon, hi]
      rfl
  obtain ⟨i, hi⟩ := hmagnitude
  refine ⟨.int (if n.isNegative then -i else i), ?_⟩
  rw [ScalarValue.ofInt, n.withoutUnderscores_text, n.splitSign_value]
  show (do let i ← ScalarValue.magnitude n.body; return _ : Except Yaml.Failure Value) = _
  rw [hi]
  rfl

/-- Digits are taken, and what is neither a digit nor an underscore is left. -/
theorem takeDigits_number {t rest : Text} (ht : AreDigits t)
    (h : Stops (fun c => CodePoint.isDecimal c || c == 95) rest) (afterDigit : Bool) :
    ∃ digits, Binary64.takeDigits afterDigit (t ++ rest) = (digits, rest) ∧
      digits.length = t.length := by
  induction t generalizing afterDigit with
  | nil =>
    refine ⟨[], ?_, rfl⟩
    cases rest with
    | nil => rfl
    | cons c rest =>
      have hc := h c rfl
      simp only [Bool.or_eq_false_iff, CodePoint.isDecimal, Option.isSome_eq_false_iff,
        Option.isNone_iff_eq_none, beq_eq_false_iff_ne] at hc
      simp [Binary64.takeDigits, hc]
  | cons c t ih =>
    obtain ⟨digits, htake, hlength⟩ := ih ht.tail true
    refine ⟨(c - 48) :: digits, ?_, by simp [hlength]⟩
    simp only [List.cons_append, Binary64.takeDigits, (isDigit ht.head).decimalValue, htake]

theorem exists_readExponent : ∃ e, Binary64.readExponent n.powerText = some e := by
  unfold powerText
  split
  · exact ⟨0, rfl⟩
  · rename_i isNegative digits hpower
    obtain ⟨hne, hdigits⟩ := n.power_digits _ hpower
    obtain ⟨values, htake, hlength⟩ := takeDigits_number hdigits (stops_nil _) false
    rw [List.append_nil] at htake
    cases values with
    | nil => exact absurd (List.length_eq_zero_iff.mp hlength.symm) hne
    | cons v values => cases isNegative <;> simp [Binary64.readExponent, htake]

/-- A number with a point is read. -/
theorem exists_read_body (hf : n.fraction ≠ []) : ∃ x, Binary64.read n.body = .ok x := by
  have hinf : n.body ≠ Text.ofString "inf" := n.body_ne (by decide)
  have hinfinity : n.body ≠ Text.ofString "infinity" := n.body_ne (by decide)
  have hnan : n.body ≠ Text.ofString "nan" := n.body_ne (by decide)
  have hstops : Stops (fun c => CodePoint.isDecimal c || c == 95) (n.pointText ++ n.powerText) := by
    have := n.stops_tail ⟨rfl, rfl⟩ (stops_nil fun c => CodePoint.isDecimal c || c == 95)
    rwa [List.append_nil] at this
  have hstops' : Stops (fun c => CodePoint.isDecimal c || c == 95) n.powerText := by
    have := n.stops_power rfl (stops_nil fun c => CodePoint.isDecimal c || c == 95)
    rwa [List.append_nil] at this
  have hpoint : n.pointText ++ n.powerText = 46 :: (n.fraction ++ n.powerText) := by
    simp [pointText, hf]
  obtain ⟨whole, hwhole, hlength⟩ := takeDigits_number n.whole_digits hstops false
  obtain ⟨fraction, hfraction, _⟩ := takeDigits_number n.fraction_digits hstops' false
  obtain ⟨e, he⟩ := n.exists_readExponent
  have hne : whole ≠ [] := by
    rintro rfl
    cases hlength
  have hunsigned : ∃ x, Binary64.readUnsigned false n.body = some x := by
    refine ⟨Binary64.ofDecimal false ((whole ++ fraction).foldl (fun n d => n * 10 + d) 0)
      (e - fraction.length), ?_⟩
    have hbody : Binary64.takeDigits false n.body = (whole, 46 :: (n.fraction ++ n.powerText)) := by
      rw [← hpoint]
      exact hwhole
    simp [Binary64.readUnsigned, n.map_asciiLower_body, hinf, hinfinity, hnan,
      hbody, hfraction, hne, he]
  obtain ⟨x, hx⟩ := hunsigned
  refine ⟨x, ?_⟩
  simp [Binary64.read, n.trimBoth_body, n.splitSign_body, hx]

theorem exists_ofFloat (hf : n.fraction ≠ []) : ∃ v, ScalarValue.ofFloat n.text = .ok v := by
  obtain ⟨x, hx⟩ := n.exists_read_body hf
  have hinf : (n.body == Text.ofString ".inf") = false :=
    beq_eq_false_iff_ne.mpr (n.body_ne (by decide))
  have hnan : (n.body == ScalarValue.nanWord) = false :=
    beq_eq_false_iff_ne.mpr (n.body_ne (by decide))
  refine ⟨.float (if n.isNegative then x.neg else x), ?_⟩
  rw [ScalarValue.ofFloat, n.withoutUnderscores_text, n.lower_text, n.splitSign_value]
  show (if n.body == Text.ofString ".inf" then _ else if n.body == ScalarValue.nanWord then _ else
    if n.body.contains 58 then _ else _ : Except Yaml.Failure Value) = _
  rw [hinf, hnan, n.contains_colon_body, hx]
  rfl

/-- **A numeral as a plain scalar** has a value. -/
theorem exists_ofText :
    ∃ v, ∀ place, ScalarValue.ofText place (Tag.ofPlain n.text) n.text = .ok v := by
  rw [n.ofPlain_text]
  by_cases hf : n.fraction = []
  · by_cases hp : n.power = none
    · obtain ⟨v, hv⟩ := n.exists_ofInt hf hp
      exact ⟨v, fun place => by simp [hf, hp, ScalarValue.ofText, hv]⟩
    · exact ⟨.str n.text, fun place => by simp [hf, hp]⟩
  · obtain ⟨v, hv⟩ := n.exists_ofFloat hf
    exact ⟨v, fun place => by simp [hf, ScalarValue.ofText, hv]⟩

/-- A numeral is a word. -/
def word : Word where
  text := n.text
  ne_nil := n.text_ne (by simp)
  ne_hyphen := by
    intro h
    have hmem : n.first ∈ n.text := List.mem_append_right _ List.mem_cons_self
    rw [h] at hmem
    exact n.first_ne rfl (List.mem_singleton.mp hmem)
  parts := n.parts_text
  reads := n.readPlain_text
  resolves := n.exists_ofText

end Numeral

end ToolPolicy.Json
