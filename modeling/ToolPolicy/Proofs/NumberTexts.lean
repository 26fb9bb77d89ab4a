import ToolPolicy.Json.Writer
import ToolPolicy.Proofs.Numerals

/-!
# The words that JSON writes

Null, the truth values, integers that are not too long, and all floating-point numbers are written
as words. The digits of a floating-point number that is not zero begin with a zero only if they are
nothing else, and then the number is written without a power of ten.

Main statements: `exists_numeral_ofInt` (integers), `exists_numeral_text` (floating-point numbers)
and `exists_word_float` (all that JSON writes for these).
-/

namespace ToolPolicy.Json

open Yaml

/-! ## Digits of a natural number -/

theorem ofNat_eq (k : Nat) : Text.ofNat k = (Nat.toDigits 10 k).map Char.toNat := by
  rw [Text.ofNat, Text.ofString, Nat.toString_eq_ofList_toDigits, String.toList_ofList]

theorem digitChar_table : ∀ d < 10, CodePoint.isAsciiDigit (Nat.digitChar d).toNat = true
    ∧ ((Nat.digitChar d).toNat = 48 → d = 0) := by
  decide

/-- The digits of a number begin with a zero only if it is zero. -/
theorem ofNat_eq_cons (k : Nat) :
    ∃ c t, Text.ofNat k = c :: t ∧ AreDigits (c :: t) ∧ (c = 48 → k = 0 ∧ t = []) := by
  induction k using Nat.strongRecOn with
  | ind k ih =>
    by_cases hk : k < 10
    · obtain ⟨hdigit, hzero⟩ := digitChar_table k hk
      refine ⟨(Nat.digitChar k).toNat, [], ?_, ?_, fun h => ⟨hzero h, rfl⟩⟩
      · rw [ofNat_eq, Nat.toDigits_of_lt_base hk]
        rfl
      · simpa [AreDigits] using hdigit
    · obtain ⟨c, t, hmore, hdigits, hleading⟩ := ih (k / 10) (by omega)
      have hlast := (digitChar_table (k % 10) (by omega)).1
      refine ⟨c, t ++ [(Nat.digitChar (k % 10)).toNat], ?_, ?_, fun h => ?_⟩
      · rw [ofNat_eq] at hmore ⊢
        rw [Nat.toDigits_of_base_le (by decide) (Nat.not_lt.mp hk), List.map_append, hmore]
        rfl
      · intro d hd
        rw [← List.cons_append] at hd
        rcases List.mem_append.mp hd with hd | hd
        · exact hdigits d hd
        · rw [List.mem_singleton.mp hd]
          exact hlast
      · have := (hleading h).1
        omega

theorem areDigits_replicate (k : Nat) : AreDigits (List.replicate k 48) := by
  intro c hc
  rw [(List.mem_replicate.mp hc).2]
  rfl

theorem AreDigits.append {s t : Text} (hs : AreDigits s) (ht : AreDigits t) : AreDigits (s ++ t) :=
  fun c hc => (List.mem_append.mp hc).elim (hs c) (ht c)

/-! ## Integers -/

/-- Whether an integer has few enough digits to be written and read. -/
def IsShort (i : Int) : Prop := (Text.ofNat i.natAbs).length ≤ digitLimit

/-- The text of an integer. -/
theorem ofInt_eq (i : Int) :
    Text.ofInt i = (if i < 0 then [45] else []) ++ Text.ofNat i.natAbs := by
  cases i with
  | ofNat k =>
    rw [if_neg (by simp)]
    rfl
  | negSucc k =>
    rw [if_pos (Int.negSucc_lt_zero k)]
    exact Text.ofString_append "-" (toString (k + 1))

/-- An integer is written as a numeral. -/
theorem exists_numeral_ofInt {i : Int} (h : IsShort i) : ∃ n : Numeral, n.text = Text.ofInt i := by
  obtain ⟨c, t, htext, hdigits, hleading⟩ := ofNat_eq_cons i.natAbs
  have hlength : t.length < digitLimit := by
    rw [IsShort, htext] at h
    exact h
  refine ⟨⟨decide (i < 0), c, t, [], none, hdigits.head, hdigits.tail, by simp [AreDigits], by simp,
    fun hc => (hleading hc).2, fun _ _ => hlength⟩, ?_⟩
  rw [ofInt_eq, htext]
  simp [Numeral.text, Numeral.sign, Numeral.body, Numeral.pointText, Numeral.powerText]

/-! ## Floating-point numbers -/

theorem dropZeros_ne_zero (fuel n : Nat) (e : Int) (h : n ≠ 0) :
    (Binary64.dropZeros fuel n e).1 ≠ 0 := by
  induction fuel generalizing n e with
  | zero => exact h
  | succ fuel ih =>
    rw [Binary64.dropZeros]
    split
    · rename_i hdrop
      simp only [Bool.and_eq_true, decide_eq_true_eq] at hdrop
      exact ih (n / 10) (e + 1) (by omega)
    · exact h

/-- Digits that are found are zero only where the search has come to its end. -/
theorem go_eq_zero {value den : Nat} {top : Int} {inside : Nat → Int → Bool}
    (h : ∀ k, inside 0 k = false) (fuel : Nat) :
    ∀ count, (Binary64.fewestDigits.go value den top inside fuel count).1 = 0 →
      (Binary64.fewestDigits.go value den top inside fuel count).2 = 0 := by
  have hfound {c : Nat} {k : Int} (hc : inside c k = true) : (Binary64.dropZeros 20 c k).1 ≠ 0 := by
    refine dropZeros_ne_zero 20 c k ?_
    rintro rfl
    rw [h k] at hc
    cases hc
  have htried (a b : Nat) (k : Int) (more : Nat × Int) (hmore : more.1 = 0 → more.2 = 0) :
      (if inside a k then Binary64.dropZeros 20 a k
        else if inside b k then Binary64.dropZeros 20 b k else more).1 = 0 →
      (if inside a k then Binary64.dropZeros 20 a k
        else if inside b k then Binary64.dropZeros 20 b k else more).2 = 0 := by
    split
    · exact fun hzero => absurd hzero (hfound ‹_›)
    · split
      · exact fun hzero => absurd hzero (hfound ‹_›)
      · exact hmore
  induction fuel with
  | zero => exact fun _ _ => rfl
  | succ fuel ih => exact fun count => htried _ _ _ _ (ih (count + 1))

theorem fewestDigits_eq_zero {low value high den : Nat} {closed : Bool} (hlow : 0 < low)
    (h : (Binary64.fewestDigits low value high den closed).1 = 0) :
    (Binary64.fewestDigits low value high den closed).2 = 0 := by
  refine go_eq_zero (fun k => ?_) 20 0 h
  have hscale : ∃ d, 0 < d ∧ Binary64.scaleDown 10 0 1 (-k) = (0, d) := by
    unfold Binary64.scaleDown
    split
    · exact ⟨_, Nat.mul_pos Nat.one_pos (Nat.pow_pos (by decide)), rfl⟩
    · exact ⟨1, Nat.one_pos, by rw [Nat.zero_mul]⟩
  obtain ⟨d, hd, hscale⟩ := hscale
  have hpos : 0 < low * d := Nat.mul_pos hlow hd
  simp only [hscale, Nat.zero_mul]
  cases closed
  · simp
  · simp only [if_true, Bool.and_eq_false_iff, decide_eq_false_iff_not]
    exact .inl (Nat.not_le.mpr hpos)

/-- The digits of a number that is not zero are zero only without a power of ten. -/
theorem shortest_eq_zero {s : Nat} {e : Int} (hs : s ≠ 0) (h : (Binary64.shortest s e).1 = 0) :
    (Binary64.shortest s e).2 = 0 := by
  refine fewestDigits_eq_zero ?_ h
  have hpos (k : Nat) (hk : k ≤ 2) : 0 < 4 * s - k := by omega
  have hscale (n : Nat) (hn : 0 < n) : 0 < (if 0 ≤ e then n * Nat.pow 2 e.toNat else n) := by
    split
    · exact Nat.mul_pos hn (Nat.pow_pos (by decide))
    · exact hn
  exact hscale _ (hpos _ (by split <;> decide))

/-- Whether a text is a numeral, whatever sign is put before it. -/
def IsBody (t : Text) : Prop := ∀ isNegative, ∃ n : Numeral, n.isNegative = isNegative ∧ n.body = t

section Body

variable {c : CodePoint} {t : Text}

/-- Digits that are all behind the point. -/
theorem isBody_behind (hdigits : AreDigits t) (hne : t ≠ []) (zeros : Nat) :
    IsBody (("0." : Text) ++ List.replicate zeros 48 ++ t) := by
  intro isNegative
  refine ⟨⟨isNegative, 48, [], List.replicate zeros 48 ++ t, none, rfl, by simp [AreDigits],
    (areDigits_replicate _).append hdigits, by simp, fun _ => rfl, by simp [hne]⟩, rfl, ?_⟩
  simp [Numeral.body, Numeral.pointText, Numeral.powerText, hne]
  rfl

/-- Digits that are all in front of the point. -/
theorem isBody_front (hdigits : AreDigits (c :: t)) {zeros : Nat}
    (hzero : c = 48 → t = [] ∧ zeros = 0) :
    IsBody (c :: t ++ List.replicate zeros 48 ++ (".0" : Text)) := by
  intro isNegative
  refine ⟨⟨isNegative, c, t ++ List.replicate zeros 48, [48], none, hdigits.head,
    hdigits.tail.append (areDigits_replicate _),
      areDigits_replicate 1, by simp, fun hc => ?_, by simp⟩, rfl, ?_⟩
  · obtain ⟨rfl, rfl⟩ := hzero hc
    rfl
  · simp [Numeral.body, Numeral.pointText, Numeral.powerText]
    rfl

/-- Digits on both sides of the point. -/
theorem isBody_cut (hdigits : AreDigits (c :: t)) {whole : Nat} (hwhole : whole < t.length)
    (hzero : c = 48 → t = []) :
    IsBody (c :: t.take whole ++ ("." : Text) ++ t.drop whole) := by
  intro isNegative
  have hne : t.drop whole ≠ [] := by
    rw [Ne, List.drop_eq_nil_iff]
    omega
  refine ⟨⟨isNegative, c, t.take whole, t.drop whole, none, hdigits.head,
    fun d hd => hdigits.tail d (List.mem_of_mem_take hd), fun d hd =>
      hdigits.tail d (List.mem_of_mem_drop hd),
    by simp, fun hc => ?_, fun hf => absurd hf hne⟩, rfl, ?_⟩
  · rw [hzero hc, List.take_nil]
  · simp [Numeral.body, Numeral.pointText, Numeral.powerText, hne]
    rfl

/-- One digit in front of the point, and a power of ten. -/
theorem isBody_power (hdigits : AreDigits (c :: t)) (power : Int) :
    IsBody ([c] ++ (if (c :: t).length ≤ 1 then [] else 46 :: t) ++
      Text.ofString (if power < 0 then "e-" else "e+")
      ++ List.replicate (2 - (Text.ofNat power.natAbs).length) 48 ++ Text.ofNat power.natAbs) := by
  intro isNegative
  obtain ⟨d, u, hpower, hdigits', -⟩ := ofNat_eq_cons power.natAbs
  refine ⟨⟨isNegative, c, [], t,
    some (decide (power < 0), List.replicate (2 - (d :: u).length) 48 ++ d :: u),
    hdigits.head, by simp [AreDigits], hdigits.tail, ?_, fun _ => rfl, by simp⟩, rfl, ?_⟩
  · intro e he
    cases he
    exact ⟨by simp, (areDigits_replicate _).append hdigits'⟩
  · have hsign : Text.ofString (if power < 0 then "e-" else "e+")
        = [101, if decide (power < 0) = true then 45 else 43] := by
      by_cases hneg : power < 0
      · rw [if_pos hneg, decide_eq_true hneg]
        rfl
      · rw [if_neg hneg, decide_eq_false hneg]
        rfl
    simp only [hpower, hsign]
    cases t with
    | nil => simp [Numeral.body, Numeral.pointText, Numeral.powerText]
    | cons c' t => simp [Numeral.body, Numeral.pointText, Numeral.powerText]

/-- Digits with a point or a power of ten. -/
theorem isBody_decimalText (hdigits : AreDigits (c :: t)) {point : Int}
    (hzero : c = 48 → t = [] ∧ point = 1) :
    IsBody (Binary64.decimalText (c :: t) point) := by
  unfold Binary64.decimalText
  split
  · split
    · exact isBody_behind hdigits (by simp) _
    · rename_i hpositive
      split
      · refine isBody_front hdigits fun hc => ?_
        obtain ⟨rfl, rfl⟩ := hzero hc
        exact ⟨rfl, by simp⟩
      · rename_i hlength
        obtain ⟨whole, hwhole⟩ : ∃ m, point.toNat = m + 1 := ⟨point.toNat - 1, by omega⟩
        rw [hwhole, List.length_cons] at hlength
        rw [hwhole]
        exact isBody_cut hdigits (by omega) fun hc => (hzero hc).1
  · exact isBody_power hdigits (point - 1)

end Body

/-- The digits of a number that is not zero are written with a point or a power of ten. -/
theorem isBody_ofNat {k : Nat} {power : Int} (h : k = 0 → power = 0) :
    IsBody (Binary64.decimalText (Text.ofNat k) ((Text.ofNat k).length + power)) := by
  obtain ⟨c, t, htext, hdigits, hleading⟩ := ofNat_eq_cons k
  rw [htext]
  refine isBody_decimalText hdigits fun hc => ?_
  obtain ⟨hk, rfl⟩ := hleading hc
  exact ⟨rfl, by rw [h hk]; rfl⟩

/-- The numeral for zero with a point. -/
def zeroPointZero (isNegative : Bool) : Numeral where
  isNegative := isNegative
  first := 48
  others := []
  fraction := [48]
  power := none
  first_digit := rfl
  others_digits := by simp [AreDigits]
  fraction_digits := areDigits_replicate 1
  power_digits := by simp
  leading := fun _ => rfl
  few := by simp

/-- **The text of a finite number** is a numeral. -/
theorem exists_numeral_text (isNegative : Bool) (s : Nat) (e : Int) :
    ∃ n : Numeral, n.text = (Binary64.finite isNegative s e).text := by
  rw [Binary64.text]
  by_cases hs : s = 0
  · refine ⟨zeroPointZero isNegative, ?_⟩
    rw [if_pos hs]
    cases isNegative <;> rfl
  · obtain ⟨n, hsign, hbody⟩ := isBody_ofNat (shortest_eq_zero (e := e) hs) isNegative
    refine ⟨n, ?_⟩
    rw [if_neg hs, Numeral.text, Numeral.sign, hsign, hbody]
    cases isNegative <;> rfl

/-! ## Words -/

/-- The word for null. -/
def nullWord : Word where
  text := "null"
  ne_nil := by decide
  ne_hyphen := by decide
  parts := by decide
  reads := ⟨.null, fun _ _ => rfl⟩
  resolves := ⟨.null, fun _ => rfl⟩

/-- The words for truth values. -/
def boolWord (b : Bool) : Word where
  text := if b then "true" else "false"
  ne_nil := by cases b <;> decide
  ne_hyphen := by cases b <;> decide
  parts := by cases b <;> decide
  reads := ⟨.bool b, fun _ _ => by cases b <;> rfl⟩
  resolves := ⟨.bool b, fun _ => by cases b <;> rfl⟩

/-- The word for what is no number; YAML takes it for a text. -/
def nanWord : Word where
  text := "NaN"
  ne_nil := by decide
  ne_hyphen := by decide
  parts := by decide
  reads := ⟨.float .nan, fun _ _ => rfl⟩
  resolves := ⟨.str "NaN", fun _ => rfl⟩

/-- The words for infinity; YAML takes them for texts. -/
def infinityWord (isNegative : Bool) : Word where
  text := if isNegative then "-Infinity" else "Infinity"
  ne_nil := by cases isNegative <;> decide
  ne_hyphen := by cases isNegative <;> decide
  parts := by cases isNegative <;> decide
  reads := ⟨.float (.infinite isNegative), fun _ _ => by cases isNegative <;> rfl⟩
  resolves :=
    ⟨.str (if isNegative then "-Infinity" else "Infinity"), fun _ => by cases isNegative <;> rfl⟩

/-- An integer with few enough digits is written as a word. -/
theorem exists_word_int {i : Int} (h : IsShort i) : ∃ w : Word, w.text = Text.ofInt i := by
  obtain ⟨n, hn⟩ := exists_numeral_ofInt h
  exact ⟨n.word, hn⟩

/-- A floating-point number is written as a word. -/
theorem exists_word_float (x : Binary64) : ∃ w : Word, w.text = writeFloat x := by
  cases x with
  | nan => exact ⟨nanWord, rfl⟩
  | infinite isNegative => exact ⟨infinityWord isNegative, by cases isNegative <;> rfl⟩
  | finite isNegative s e =>
    obtain ⟨n, hn⟩ := exists_numeral_text isNegative s e
    exact ⟨n.word, hn⟩

end ToolPolicy.Json
