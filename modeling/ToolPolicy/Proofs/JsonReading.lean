import ToolPolicy.Proofs.JsonForm

/-!
# Reading a written JSON document

Reading the text of a `Form` as JSON gives the value in which every string has its surrogate pairs
put together, whatever follows the text, as long as it is not nested too deeply.

Main statements: `escapeOne_cases` (the three ways in which a unit is
written), `readString_flatMap_escapeOne` (a string is read back), and
`Form.read_text` (a document is read back).
-/

namespace ToolPolicy.Json

/-! ## Escapes -/

/-- A hexadecimal digit. -/
def hexDigit (d : Nat) : Nat := if d < 10 then 48 + d else 87 + d

/-- The four hexadecimal digits of a unit. -/
def hexDigits (n : Nat) : Text :=
  [hexDigit (n / 4096), hexDigit (n / 256 % 16), hexDigit (n / 16 % 16), hexDigit (n % 16)]

/-- The letters of short escapes and what they stand for. -/
def shortEscapes : List (Nat × Nat) :=
  [(34, 34), (92, 92), (110, 10), (114, 13), (116, 9), (102, 12), (98, 8)]

theorem digitChar_toNat : ∀ d < 16, (Nat.digitChar d).toNat = hexDigit d := by decide

theorem hex_four {n : Nat} (h : n < 0x10000) : Text.hex 4 n = hexDigits n := by
  have hone (m : Nat) (hm : m < 16) : (Nat.toDigits 16 m).map Char.toNat = [hexDigit m] := by
    rw [Nat.toDigits_of_lt_base hm, List.map_singleton, digitChar_toNat m hm]
  have hmore (m : Nat) (hm : 16 ≤ m) : (Nat.toDigits 16 m).map Char.toNat
      = (Nat.toDigits 16 (m / 16)).map Char.toNat ++ [hexDigit (m % 16)] := by
    rw [Nat.toDigits_of_base_le (by omega) hm, List.map_append, List.map_singleton,
      digitChar_toNat _ (Nat.mod_lt _ (by omega))]
  have hzero : hexDigit 0 = '0'.toNat := rfl
  have h256 : n / 256 = n / 16 / 16 := by omega
  have h4096 : n / 4096 = n / 16 / 16 / 16 := by omega
  rw [hexDigits, h256, h4096]
  unfold Text.hex
  -- By the number of digits, from one to four.
  by_cases h1 : n < 16
  · rw [hone n h1, show n / 16 = 0 by omega]
    simp [hzero, Nat.mod_eq_of_lt h1]
  · rw [hmore n (by omega)]
    by_cases h2 : n / 16 < 16
    · rw [hone _ h2, show n / 16 / 16 = 0 by omega]
      simp [hzero, Nat.mod_eq_of_lt h2]
    · rw [hmore _ (by omega)]
      by_cases h3 : n / 16 / 16 < 16
      · rw [hone _ h3, show n / 16 / 16 / 16 = 0 by omega]
        simp [hzero, Nat.mod_eq_of_lt h3]
      · rw [hmore _ (by omega), hone _ (by omega)]
        simp

/-- A unit is written as itself, as a short escape, or by its number. -/
theorem escapeOne_cases {c : Nat} (h : c < 0x10000) :
    (escapeOne c = [c] ∧ 32 ≤ c ∧ c < 127 ∧ c ≠ 34 ∧ c ≠ 92)
      ∨ (∃ d, (d, c) ∈ shortEscapes ∧ escapeOne c = [92, d])
      ∨ escapeOne c = 92 :: 117 :: hexDigits c := by
  by_cases hshort : c ∈ [34, 92, 10, 13, 9, 12, 8]
  · simp only [List.mem_cons, List.not_mem_nil, or_false] at hshort
    right; left
    rcases hshort with rfl | rfl | rfl | rfl | rfl | rfl | rfl
    · exact ⟨34, by decide, rfl⟩
    · exact ⟨92, by decide, rfl⟩
    · exact ⟨110, by decide, rfl⟩
    · exact ⟨114, by decide, rfl⟩
    · exact ⟨116, by decide, rfl⟩
    · exact ⟨102, by decide, rfl⟩
    · exact ⟨98, by decide, rfl⟩
  · simp only [List.mem_cons, List.not_mem_nil, or_false, not_or] at hshort
    obtain ⟨h34, h92, h10, h13, h9, h12, h8⟩ := hshort
    simp only [escapeOne, h34, h92, h10, h13, h9, h12, h8, if_false]
    by_cases hp : 32 ≤ c ∧ c < 127
    · left
      simp [hp, h34, h92]
    · right; right
      rw [if_neg (by simpa using hp), if_pos h, unicodeEscape, hex_four h]
      rfl

theorem le_of_mem_shortEscapes {d c : Nat} (h : (d, c) ∈ shortEscapes) : c ≤ 92 :=
  (by decide : ∀ e ∈ shortEscapes, e.2 ≤ 92) _ h

theorem escapeOne_of_large {c : Nat} (h : c < 0x10000) (hc : 127 ≤ c) :
    escapeOne c = 92 :: 117 :: hexDigits c := by
  rcases escapeOne_cases h with ⟨-, -, hlt, -⟩ | ⟨d, hd, -⟩ | he
  · omega
  · have := le_of_mem_shortEscapes hd
    omega
  · exact he

theorem flatMap_escapeOne_halves {c : Nat} (h : c ≤ lastCodePoint) :
    (halves c).flatMap escapeOne = escapeOne c := by
  simp only [lastCodePoint] at h
  by_cases hc : c < 0x10000
  · simp [halves_of_lt hc]
  · have hhigh : highHalf c < 0x10000 := by
      simp only [highHalf]
      omega
    have hlow : lowHalf c < 0x10000 := by
      simp only [lowHalf]
      omega
    have hne : c ≠ 34 ∧ c ≠ 92 ∧ c ≠ 10 ∧ c ≠ 13 ∧ c ≠ 9 ∧ c ≠ 12 ∧ c ≠ 8 ∧ ¬ c < 127 := by omega
    obtain ⟨h34, h92, h10, h13, h9, h12, h8, h127⟩ := hne
    have hwritten : escapeOne c = unicodeEscape (highHalf c) ++ unicodeEscape (lowHalf c) := by
      simp [escapeOne, h34, h92, h10, h13, h9, h12, h8, h127, hc, highHalf, lowHalf]
    rw [hwritten, halves, if_neg hc]
    simp only [List.flatMap_cons, List.flatMap_nil, List.append_nil]
    rw [escapeOne_of_large hhigh (by simp only [highHalf]; omega),
      escapeOne_of_large hlow (by simp only [lowHalf]; omega), unicodeEscape,
        unicodeEscape, hex_four hhigh,
      hex_four hlow]
    rfl

/-- A string and its units are written alike. -/
theorem writeString_halves {t : Text} (h : ∀ c ∈ t, c ≤ lastCodePoint) :
    writeString (t.flatMap halves) = writeString t := by
  have hunits : (t.flatMap halves).flatMap escapeOne = t.flatMap escapeOne := by
    induction t with
    | nil => rfl
    | cons c rest ih =>
      have ih := ih fun x hx => h x (by simp [hx])
      simp only [List.flatMap_cons, List.flatMap_append, ih,
        flatMap_escapeOne_halves (h c (by simp))]
  simp only [writeString, hunits]

theorem hexValue?_hexDigit : ∀ d < 16, hexValue? (hexDigit d) = some d := by decide

theorem hexFour?_hexDigits {n : Nat} (h : n < 0x10000) :
    hexFour? (hexDigit (n / 4096)) (hexDigit (n / 256 % 16))
      (hexDigit (n / 16 % 16)) (hexDigit (n % 16))
      = some n := by
  have hvalue : ((n / 4096 * 16 + n / 256 % 16) * 16 + n / 16 % 16) * 16 + n % 16 = n := by omega
  simp [hexFour?, hexValue?_hexDigit _ (show n / 4096 < 16 by omega),
    hexValue?_hexDigit _ (Nat.mod_lt _ (show 16 > 0 by omega)), hvalue]

/-! ## Strings -/

theorem readString_short {d c : Nat} (h : (d, c) ∈ shortEscapes) (start : Nat) (rest : Text) :
    readString start 0 (92 :: d :: rest) = consTo c (readString start 0 rest) := by
  have hd : d ≠ 117 ∧ simpleEscape? d = some c :=
    (by decide : ∀ e ∈ shortEscapes, e.1 ≠ 117 ∧ simpleEscape? e.1 = some e.2) _ h
  have hescape : readEscape start (d :: rest) = .ok (c, 1) := by
    rw [readEscape.eq_def]
    split
    · simp_all
    · simp_all
    · simp_all
  rw [readString]
  simp only [hescape]
  simp [readString]

/-- A unit that is written by its number, unless it is the high one of two surrogates. -/
theorem readString_unicode {c : Nat} (hc : c < 0x10000) {u : Text} (hu : ∀ d ∈ u, d < 0x10000)
    (hpair : CodePoint.isHighSurrogate c = true → ∀ d ∈ u.head?, CodePoint.isLowSurrogate d = false)
    (start : Nat) (more : Text) :
    readString start 0 (92 :: 117 :: hexDigits c ++ (u.flatMap escapeOne ++ 34 :: more))
      = consTo c (readString start 0 (u.flatMap escapeOne ++ 34 :: more)) := by
  have hescape : readEscape start (117 :: hexDigits c ++ (u.flatMap escapeOne ++ 34 :: more)) =
    .ok (c, 5) := by
    simp only [hexDigits, List.cons_append, List.nil_append, readEscape]
    rw [if_neg (by cases u.flatMap escapeOne <;> simp), hexFour?_hexDigits hc]
    by_cases hh : CodePoint.isHighSurrogate c = true
    · cases u with
      | nil => simp
      | cons d u =>
        have hd : d < 0x10000 := hu d (by simp)
        have hlow : CodePoint.isLowSurrogate d = false := hpair hh d rfl
        -- What follows is looked at only if it is the number of a unit.
        rcases escapeOne_cases hd with ⟨he, -, -, -, hne⟩ | ⟨e, hde, he⟩ | he
        · simp only [List.flatMap_cons, he, List.cons_append, List.nil_append]
          split <;> simp_all
        · have h117 : e ≠ 117 := (by decide : ∀ e ∈ shortEscapes, e.1 ≠ 117) _ hde
          simp only [List.flatMap_cons, he, List.cons_append, List.nil_append]
          split <;> simp_all
        · simp only [List.flatMap_cons, he, hexDigits, List.cons_append, List.nil_append,
            hexFour?_hexDigits hd, hlow]
          split <;> simp
    · simp [hh]
  rw [List.cons_append, readString]
  simp only [hescape]
  simp [hexDigits, readString]

theorem readString_surrogates {high low : Nat} (hh : CodePoint.isHighSurrogate high = true)
    (hl : CodePoint.isLowSurrogate low = true) (start : Nat) {rest : Text} (hne : rest ≠ []) :
    readString start 0 (92 :: 117 :: hexDigits high ++ (92 :: 117 :: hexDigits low ++ rest))
      = consTo (joinSurrogates high low) (readString start 0 rest) := by
  have hhigh := isHighSurrogate_iff.mp hh
  have hlow := isLowSurrogate_iff.mp hl
  have hescape : readEscape start (117 :: hexDigits high ++ (92 :: 117 :: hexDigits low ++ rest))
      = .ok (joinSurrogates high low, 11) := by
    have hlen : 0 < rest.length := List.length_pos_iff.mpr hne
    simp only [hexDigits, List.cons_append, List.nil_append, readEscape, List.isEmpty_cons]
    rw [hexFour?_hexDigits (show high < 0x10000 by omega),
      hexFour?_hexDigits (show low < 0x10000 by omega)]
    simp [hh, hl]
    omega
  rw [List.cons_append, readString]
  simp only [hescape]
  simp [hexDigits, readString]

/-- A unit that is not put together with the next one. -/
theorem readString_unit {c : Nat} {u : Text} (hu : ∀ d ∈ c :: u, d < 0x10000)
    (hpair : CodePoint.isHighSurrogate c = true → ∀ d ∈ u.head?, CodePoint.isLowSurrogate d = false)
    (start : Nat) (more : Text) :
    readString start 0 ((c :: u).flatMap escapeOne ++ 34 :: more)
      = consTo c (readString start 0 (u.flatMap escapeOne ++ 34 :: more)) := by
  have hc : c < 0x10000 := hu c (by simp)
  rw [List.flatMap_cons, List.append_assoc]
  rcases escapeOne_cases hc with ⟨he, hlow, -, h34, h92⟩ | ⟨d, hd, he⟩ | he
  · rw [he]
    exact readString_plain hlow h34 h92 start _
  · rw [he]
    exact readString_short hd start _
  · rw [he]
    exact readString_unicode hc (fun d hd => hu d (by simp [hd])) hpair start more

/-- **A string is read back**, with its surrogate pairs put together. -/
theorem readString_flatMap_escapeOne {u : Text} (hu : ∀ c ∈ u, c < 0x10000)
    (start : Nat) (more : Text) :
    readString start 0 (u.flatMap escapeOne ++ 34 :: more) = .ok (rejoin u, more) := by
  induction u using pair_induction with
  | nil => exact readString_quote start more
  | single c =>
    rw [readString_unit hu (by simp)]
    simp [consTo, rejoin, Except.map]
  | paired high low rest hh hl ih =>
    have ih := ih fun c hc => hu c (by simp [hc])
    have hhigh := isHighSurrogate_iff.mp hh
    have hlow := isLowSurrogate_iff.mp hl
    simp only [List.flatMap_cons, List.append_assoc]
    rw [escapeOne_of_large (hu high (by simp)) (by omega),
      escapeOne_of_large (hu low (by simp)) (by omega),
      readString_surrogates hh hl start (by simp), ih, rejoin_pair hh hl]
    rfl
  | unpaired c d rest hpair ih =>
    have ih := ih fun x hx => hu x (List.mem_cons_of_mem c hx)
    have hlow (hh : CodePoint.isHighSurrogate c = true) :
        ∀ x ∈ (d :: rest).head?, CodePoint.isLowSurrogate x = false := by
      intro x hx
      cases hx
      exact Bool.eq_false_iff.mpr fun hl => hpair ⟨hh, hl⟩
    rw [readString_unit hu hlow, ih, rejoin_unpaired hpair]
    rfl

/-! ## Documents -/

namespace Form

/-- How a reader of JSON takes words and strings. -/
noncomputable def asJson : Taking where
  word := Word.json
  string := rejoin

theorem readString_text (u : Units) (start : Nat) (rest : Text) :
    ∃ body, u.text ++ rest = 34 :: body ∧ readString start 0 body = .ok (rejoin u.val, rest) := by
  refine ⟨u.val.flatMap escapeOne ++ 34 :: rest, ?_,
    readString_flatMap_escapeOne u.property start rest⟩
  simp [Units.text, writeString]

theorem readValue_word (w : Word) (fuel depth : Nat) {rest : Text} (h : Ended rest) :
    readValue (fuel + 1) depth (w.text ++ rest) = .ok (w.json, rest) := by
  have hread := w.readPlain_append h
  cases hw : w.text with
  | nil => exact absurd hw w.ne_nil
  | cons c t =>
    have hc : isWordPart c = true := w.parts c (by simp [hw])
    have hne : c ≠ 34 ∧ c ≠ 91 ∧ c ≠ 123 := by
      refine ⟨?_, ?_, ?_⟩ <;> rintro rfl <;> simp [isWordPart] at hc <;> revert hc <;> decide
    obtain ⟨h34, h91, h123⟩ := hne
    rw [hw] at hread
    simp only [readPlain, List.cons_append] at hread
    simp only [List.cons_append, readValue, h34, h91, h123, if_false]
    exact hread

theorem skipBlanks_cons {c : CodePoint} (h : beginsForm c = true) (rest : Text) :
    skipBlanks (c :: rest) = c :: rest := by
  refine skipBlanks_eq_self (Bool.eq_false_iff.mpr fun hblank => ?_) rest
  simp only [isBlank, Bool.or_eq_true, beq_iff_eq] at hblank
  rcases hblank with ((rfl | rfl) | rfl) | rfl <;> exact absurd h (by decide)

mutual

/-- A document at the beginning of a text. -/
theorem readValue_text : ∀ (f : Form) (fuel depth : Nat) (rest : Text), Ended rest →
    f.text.length ≤ fuel → depth + f.height ≤ depthLimit →
    readValue fuel depth (f.text ++ rest) = .ok (f.value asJson, rest)
  | .word w, fuel, depth, rest, hrest, hfuel, hdepth => by
    have hpos : 0 < w.text.length := List.length_pos_iff.mpr w.ne_nil
    obtain ⟨fuel, rfl⟩ : ∃ k, fuel = k + 1 := ⟨fuel - 1, by simp only [text] at hfuel; omega⟩
    exact readValue_word w fuel depth hrest
  | .string u, fuel, depth, rest, hrest, hfuel, hdepth => by
    obtain ⟨fuel, rfl⟩ : ∃ k, fuel = k + 1 :=
      ⟨fuel - 1, by simp [text, Units.text, writeString] at hfuel; omega⟩
    obtain ⟨body, hbody, hread⟩ := readString_text u ((u.text ++ rest).length) rest
    simp only [text]
    rw [hbody] at hread ⊢
    simp only [readValue, if_true, hread, Except.map, value, asJson]
  | .list items, fuel, depth, rest, hrest, hfuel, hdepth => by
    obtain ⟨fuel, rfl⟩ : ∃ k, fuel = k + 1 := ⟨fuel - 1, by simp [text] at hfuel; omega⟩
    have hitems := readItems_text items fuel (depth + 1) [] rest
    simp only [height] at hdepth
    simp only [text, List.length_cons] at hfuel
    have hd : ¬ depthLimit ≤ depth := by omega
    simp only [text, List.cons_append, readValue, Nat.reduceEqDiff, if_false, if_true, if_neg hd]
    cases items with
    | nil => rfl
    | cons f items =>
      have hread := hitems (by simp) (by omega) (by omega)
      obtain ⟨c, t, ht, hc⟩ := inside_texts_eq_cons f items [44, 32] 93
      rw [ht, List.cons_append] at hread ⊢
      have h93 : c ≠ 93 := by
        rintro rfl
        exact absurd hc (by decide)
      rw [skipBlanks_cons hc]
      split
      · rename_i heq
        exact absurd (List.cons.inj heq).1 h93
      · exact hread
  | .object fields, fuel, depth, rest, hrest, hfuel, hdepth => by
    obtain ⟨fuel, rfl⟩ : ∃ k, fuel = k + 1 := ⟨fuel - 1, by simp [text] at hfuel; omega⟩
    have hfields := readFields_text fields fuel (depth + 1) [] rest
    simp only [height] at hdepth
    simp only [text, List.length_cons] at hfuel
    have hd : ¬ depthLimit ≤ depth := by omega
    simp only [text, List.cons_append, readValue, Nat.reduceEqDiff, if_false, if_true, if_neg hd]
    cases fields with
    | nil => rfl
    | cons field fields =>
      exact hfields (by simp) (by omega) (by omega)

/-- The items of a list up to its end. -/
theorem readItems_text :
    ∀ (items : List Form) (fuel depth : Nat) (before : List Value) (rest : Text),
    items ≠ [] → (inside [44, 32] 93 (texts items)).length ≤ fuel →
      depth + heights items ≤ depthLimit →
    readItems fuel depth before (inside [44, 32] 93 (texts items) ++ rest)
      = .ok (.list (before.reverse ++ values asJson items), rest)
  | [], _, _, _, _, h, _, _ => absurd rfl h
  | f :: items, fuel, depth, before, rest, _, hfuel, hdepth => by
    simp only [texts, inside, List.length_append] at hfuel
    simp only [heights] at hdepth
    obtain ⟨fuel, rfl⟩ : ∃ k, fuel = k + 1 :=
      ⟨fuel - 1, by have := following_length_pos [44, 32] 93 (texts items); omega⟩
    have hmore := readItems_text items fuel depth (f.value asJson :: before) rest
    have hfirst := readValue_text f fuel depth (following [44, 32] 93 (texts items) ++ rest)
      (by cases items <;> simp [texts, following, Ended])
      (by have := following_length_pos [44, 32] 93 (texts items); omega) (by omega)
    simp only [texts, inside, List.append_assoc, readItems, hfirst]
    cases items with
    | nil => simp [texts, following, skipBlanks, isBlank, values]
    | cons g items =>
      simp only [texts, following_cons, List.length_append, List.length_cons] at hfuel hmore
      have hmore := hmore (by simp) (by omega) (by omega)
      obtain ⟨c, t, ht, hc⟩ := inside_texts_eq_cons g items [44, 32] 93
      simp only [texts] at ht
      rw [ht] at hmore
      have hblank : skipBlanks (32 :: c :: (t ++ rest)) = c :: (t ++ rest) := skipBlanks_cons hc _
      simp only [texts, following_cons, ht, List.cons_append, List.nil_append]
      rw [skipBlanks_eq_self (by decide)]
      simp only [hblank]
      rw [← List.cons_append, hmore]
      simp [values]

/-- The fields of an object up to its end. -/
theorem readFields_text : ∀ (fields : List (Units × Form)) (fuel depth : Nat)
    (before : List (Value × Value)) (rest : Text),
    fields ≠ [] → (inside [44, 32] 125 (fieldTexts fields)).length ≤ fuel →
    depth + fieldHeights fields ≤ depthLimit →
    readFields fuel depth before (inside [44, 32] 125 (fieldTexts fields) ++ rest)
      = .ok (.mapping (putAll before (fieldValues asJson fields)), rest)
  | [], _, _, _, _, h, _, _ => absurd rfl h
  | (u, f) :: fields, fuel, depth, before, rest, _, hfuel, hdepth => by
    simp only [fieldTexts, inside, List.length_append, List.length_cons] at hfuel
    simp only [fieldHeights] at hdepth
    have hpos := following_length_pos [44, 32] 125 (fieldTexts fields)
    obtain ⟨fuel, rfl⟩ : ∃ k, fuel = k + 1 := ⟨fuel - 1, by omega⟩
    have hmore :=
      readFields_text fields fuel depth (Value.putField (rejoin u.val) (f.value asJson) before) rest
    have hvalue := readValue_text f fuel depth (following [44, 32] 125 (fieldTexts fields) ++ rest)
      (by cases fields <;> simp [fieldTexts, following, Ended]) (by omega) (by omega)
    obtain ⟨c, t, ht, hc⟩ := f.text_eq_cons
    have hblank (more : Text) : skipBlanks (32 :: (f.text ++ more)) = f.text ++ more := by
      rw [ht]
      exact skipBlanks_cons hc _
    simp only [fieldTexts, inside, List.append_assoc, List.cons_append]
    generalize hafter :
      58 :: 32 :: (f.text ++ (following [44, 32] 125 (fieldTexts fields) ++ rest)) = after
    obtain ⟨body, hbody, hread⟩ := readString_text u ((u.text ++ after).length) after
    rw [hbody] at hread ⊢
    simp only [readFields, hread]
    rw [← hafter, skipBlanks_eq_self (by decide)]
    simp only [hblank, hvalue]
    cases fields with
    | nil => simp [fieldTexts, following, skipBlanks, isBlank, fieldValues, putAll, asJson]
    | cons field fields =>
      simp only [fieldTexts, following_cons, List.length_append, List.length_cons] at hfuel hmore
      have hmore := hmore (by simp) (by omega) (by omega)
      simp only [fieldTexts, following_cons, List.cons_append, List.nil_append]
      rw [skipBlanks_eq_self (by decide)]
      exact hmore

end

/-- **A document is read back**, unless it is nested too deeply. -/
theorem read_text {f : Form} (h : f.height ≤ depthLimit) : read f.text = .ok (f.value asJson) := by
  have hread := readValue_text f (2 * f.text.length + 2) 0 [] trivial (by omega) (by omega)
  obtain ⟨c, t, ht, hc⟩ := f.text_eq_cons
  have hmark : f.text.head? ≠ some 0xFEFF := by
    rw [ht]
    rintro heq
    rw [List.head?_cons, Option.some.injEq] at heq
    subst heq
    exact absurd hc (by decide)
  rw [List.append_nil] at hread
  rw [read, if_neg hmark, ht, skipBlanks_cons hc, ← ht, hread]
  rfl

end Form

end ToolPolicy.Json
