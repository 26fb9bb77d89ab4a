import ToolPolicy.Json.Reader
import ToolPolicy.Json.Writer
import ToolPolicy.Yaml.ScalarValue

/-!
# The form of a written JSON document

A JSON document on one line is made of words, which are null, the truth values and the numbers, of
strings, and of lists and objects of such. A string is written in units of 16 bits: a code point
beyond them becomes two surrogates. `Form` keeps what is written without the punctuation, so that a
reader can be followed along it, whatever it takes the words and the strings for.

Main statements: `rejoin_halves` (units are put together again), `flatMap_halves_of_lt` (most texts
are their own units), `rejoin_eq_of_ascii` (names in ASCII are what their units say), and
`Form.text_eq_cons` (how the text of a document begins).
-/

namespace ToolPolicy.Json

open Yaml

/-! ## Units -/

/-- The high surrogate of a code point beyond 16 bits. -/
def highHalf (c : Nat) : Nat := 0xD800 + (c - 0x10000) / 0x400

/-- The low surrogate of a code point beyond 16 bits. -/
def lowHalf (c : Nat) : Nat := 0xDC00 + (c - 0x10000) % 0x400

/-- The units of a code point: itself, or two surrogates. -/
def halves (c : Nat) : Text := if c < 0x10000 then [c] else [highHalf c, lowHalf c]

/-- The largest code point. -/
def lastCodePoint : Nat := 0x10FFFF

/-- Puts every high surrogate together with the low one after it. -/
def rejoin : Text → Text
  | high :: low :: rest =>
    if CodePoint.isHighSurrogate high && CodePoint.isLowSurrogate low then
      joinSurrogates high low :: rejoin rest
    else high :: rejoin (low :: rest)
  | t => t

/-- A text in units. -/
abbrev Units := { u : Text // ∀ c ∈ u, c < 0x10000 }

theorem isHighSurrogate_iff {c : Nat} :
    CodePoint.isHighSurrogate c = true ↔ 0xD800 ≤ c ∧ c ≤ 0xDBFF := by
  simp [CodePoint.isHighSurrogate]

theorem isLowSurrogate_iff {c : Nat} :
    CodePoint.isLowSurrogate c = true ↔ 0xDC00 ≤ c ∧ c ≤ 0xDFFF := by
  simp [CodePoint.isLowSurrogate]

theorem joinSurrogates_eq (high low : Nat) :
    @Eq Nat (joinSurrogates high low) (0x10000 + (high - 0xD800) * 0x400 + (low - 0xDC00)) := rfl

theorem isHighSurrogate_highHalf {c : Nat} (hc : c ≤ lastCodePoint) :
    CodePoint.isHighSurrogate (highHalf c) = true := by
  simp only [lastCodePoint] at hc
  rw [isHighSurrogate_iff, highHalf]
  omega

theorem isLowSurrogate_lowHalf (c : Nat) : CodePoint.isLowSurrogate (lowHalf c) = true := by
  rw [isLowSurrogate_iff, lowHalf]
  omega

theorem joinSurrogates_halves {c : Nat} (h : 0x10000 ≤ c) :
    joinSurrogates (highHalf c) (lowHalf c) = c := by
  refine (joinSurrogates_eq (highHalf c) (lowHalf c)).trans ?_
  simp only [highHalf, lowHalf]
  omega

theorem halves_of_lt {c : Nat} (h : c < 0x10000) : halves c = [c] := by
  simp [halves, h]

theorem flatMap_halves_of_lt {t : Text} (h : ∀ c ∈ t, c < 0x10000) : t.flatMap halves = t := by
  induction t with
  | nil => rfl
  | cons c rest ih =>
    have hc := h c (by simp)
    have ih := ih fun x hx => h x (by simp [hx])
    simp [halves_of_lt hc, ih]

theorem lt_of_mem_halves {c x : Nat} (hc : c ≤ lastCodePoint) (hx : x ∈ halves c) :
    x < 0x10000 := by
  simp only [lastCodePoint] at hc
  unfold halves at hx
  split at hx
  · simp only [List.mem_singleton] at hx
    omega
  · simp only [List.mem_cons, List.not_mem_nil, or_false, highHalf, lowHalf] at hx
    omega

/-- The units of a text. -/
def unitsOf (t : Text) (h : ∀ c ∈ t, c ≤ lastCodePoint) : Units :=
  ⟨t.flatMap halves, fun x hx => by
    obtain ⟨c, hc, hx⟩ := List.mem_flatMap.mp hx
    exact lt_of_mem_halves (h c hc) hx⟩

theorem rejoin_pair {high low : CodePoint} (hh : CodePoint.isHighSurrogate high = true)
    (hl : CodePoint.isLowSurrogate low = true) (rest : Text) :
    rejoin (high :: low :: rest) = joinSurrogates high low :: rejoin rest := by
  rw [rejoin, if_pos (by rw [hh, hl]; rfl)]

theorem rejoin_unpaired {c d : CodePoint}
    (h : ¬ (CodePoint.isHighSurrogate c = true ∧ CodePoint.isLowSurrogate d = true)) (rest : Text) :
    rejoin (c :: d :: rest) = c :: rejoin (d :: rest) := by
  rw [← Bool.and_eq_true] at h
  rw [rejoin, if_neg h]

theorem rejoin_cons {c : CodePoint} (h : CodePoint.isHighSurrogate c = false) (rest : Text) :
    rejoin (c :: rest) = c :: rejoin rest := by
  cases rest with
  | nil => rfl
  | cons d more => exact rejoin_unpaired (fun hpair => by simp [h] at hpair) more

/-- Induction on a text along the surrogate pairs in it. -/
theorem pair_induction {motive : Text → Prop} (nil : motive []) (single : ∀ c, motive [c])
    (paired : ∀ high low rest, CodePoint.isHighSurrogate high = true →
      CodePoint.isLowSurrogate low = true →
      motive rest → motive (high :: low :: rest))
    (unpaired : ∀ c d rest,
      ¬ (CodePoint.isHighSurrogate c = true ∧ CodePoint.isLowSurrogate d = true) →
      motive (d :: rest) → motive (c :: d :: rest)) : ∀ t, motive t
  | [] => nil
  | [c] => single c
  | c :: d :: rest => by
    by_cases h : CodePoint.isHighSurrogate c = true ∧ CodePoint.isLowSurrogate d = true
    · exact paired c d rest h.1 h.2 (pair_induction nil single paired unpaired rest)
    · exact unpaired c d rest h (pair_induction nil single paired unpaired (d :: rest))

/-- The units of a text are put together to it again, unless it has surrogates of its own. -/
theorem rejoin_halves {t : Text} (h : ∀ c ∈ t, c ≤ lastCodePoint) (hs : t.isScalar = true) :
    rejoin (t.flatMap halves) = t := by
  induction t with
  | nil => rfl
  | cons c rest ih =>
    simp only [Text.isScalar, List.all_cons, Bool.and_eq_true, Bool.not_eq_true'] at hs
    have ih := ih (fun x hx => h x (by simp [hx])) hs.2
    by_cases hc : c < 0x10000
    · have hhigh : CodePoint.isHighSurrogate c = false := by
        have hc' := hs.1
        simp only [CodePoint.isSurrogate, CodePoint.isHighSurrogate, Bool.and_eq_false_iff,
          decide_eq_false_iff_not, CodePoint] at hc' ⊢
        omega
      simp only [List.flatMap_cons, halves_of_lt hc, List.cons_append, List.nil_append]
      rw [rejoin_cons hhigh, ih]
    · simp only [List.flatMap_cons]
      rw [halves, if_neg hc]
      have hcc := h c (by simp)
      rw [List.cons_append, List.cons_append, List.nil_append,
        rejoin_pair (isHighSurrogate_highHalf hcc) (isLowSurrogate_lowHalf c),
        joinSurrogates_halves (Nat.not_lt.mp hc), ih]

/-- No code point of ASCII comes from surrogates. -/
theorem rejoin_eq_of_ascii {u t : Text} (h : rejoin u = t) (ht : ∀ c ∈ t, c < 0x80) : u = t := by
  induction u using pair_induction generalizing t with
  | nil => exact h
  | single c => exact h
  | paired high low rest hh hl ih =>
    rw [rejoin_pair hh hl] at h
    subst h
    have hjoined : joinSurrogates high low < 0x80 := ht _ List.mem_cons_self
    have := joinSurrogates_eq high low
    simp only [CodePoint] at hjoined
    omega
  | unpaired c d rest hpair ih =>
    rw [rejoin_unpaired hpair] at h
    subst h
    exact congrArg (c :: ·) (ih rfl fun x hx => ht x (List.mem_cons_of_mem c hx))

/-! ## Words -/

/-- What null, truth values and numbers are written with. -/
def isWordPart (c : CodePoint) : Bool :=
  CodePoint.isAsciiDigit c || CodePoint.isAsciiLetter c || c == 43 || c == 45 || c == 46

theorem isWordPart_lt {c : Nat} (h : isWordPart c = true) : c < 128 := by
  simp only [isWordPart, CodePoint.isAsciiDigit, CodePoint.isAsciiLetter, CodePoint.isAsciiUpper,
    CodePoint.isAsciiLower, Bool.or_eq_true, Bool.and_eq_true, decide_eq_true_iff, beq_iff_eq] at h
  unfold CodePoint at h
  omega

/-- Whether a text is at an end: of everything, of an item, or of a container. -/
def Ended : Text → Prop
  | [] => True
  | c :: _ => c = 44 ∨ c = 93 ∨ c = 125

/-- What a word or a number at the beginning of a text is read as, and what follows it. -/
def readPlain (t : Text) : Except Failure (Value × Text) :=
  match readWord? t with
  | some found => .ok found
  | none => readNumber t

/-- A word, which both readers take for something. -/
structure Word where
  text : Text
  ne_nil : text ≠ []
  ne_hyphen : text ≠ [45]
  parts : ∀ c ∈ text, isWordPart c = true
  reads : ∃ v, ∀ rest, Ended rest → readPlain (text ++ rest) = .ok (v, rest)
  resolves : ∃ v, ∀ place, ScalarValue.ofText place (Tag.ofPlain text) text = .ok v

namespace Word

/-- The value of a word in JSON. -/
noncomputable def json (w : Word) : Value := w.reads.choose

/-- The value of a word as a plain scalar. -/
noncomputable def yaml (w : Word) : Value := w.resolves.choose

theorem readPlain_append (w : Word) {rest : Text} (h : Ended rest) :
    readPlain (w.text ++ rest) = .ok (w.json, rest) :=
  w.reads.choose_spec rest h

theorem ofText_plain (w : Word) (place : Mark) :
    ScalarValue.ofText place (Tag.ofPlain w.text) w.text = .ok w.yaml :=
  w.resolves.choose_spec place

end Word

/-! ## Forms -/

/-- A document without its punctuation. -/
inductive Form where
  | word (w : Word)
  | string (u : Units)
  | list (items : List Form)
  | object (fields : List (Units × Form))

/-- What follows the first entry of a container. -/
def following {α : Type} (comma : List α) (closing : α) : List (List α) → List α
  | [] => [closing]
  | t :: rest => comma ++ (t ++ following comma closing rest)

/-- What follows the opening bracket of a container. -/
def inside {α : Type} (comma : List α) (closing : α) : List (List α) → List α
  | [] => [closing]
  | t :: rest => t ++ following comma closing rest

theorem following_length_pos {α : Type} (comma : List α) (closing : α) (ts : List (List α)) :
    0 < (following comma closing ts).length := by
  cases ts with
  | nil => simp [following]
  | cons t rest =>
    have := following_length_pos comma closing rest
    simp only [following, List.length_append]
    omega

theorem following_cons {α : Type} (comma : List α) (closing : α) (t : List α) (ts : List (List α)) :
    following comma closing (t :: ts) = comma ++ inside comma closing (t :: ts) := rfl

/-- A string as it is written. -/
def Units.text (u : Units) : Text := writeString u.val

namespace Form

mutual

/-- The text of a document. -/
def text : Form → Text
  | .word w => w.text
  | .string u => u.text
  | .list items => 91 :: inside [44, 32] 93 (texts items)
  | .object fields => 123 :: inside [44, 32] 125 (fieldTexts fields)

/-- The texts of some items. -/
def texts : List Form → List Text
  | [] => []
  | f :: rest => f.text :: texts rest

/-- The texts of some fields. -/
def fieldTexts : List (Units × Form) → List Text
  | [] => []
  | (u, f) :: rest => (u.text ++ 58 :: 32 :: f.text) :: fieldTexts rest

end

/-- How words and strings are taken. -/
structure Taking where
  word : Word → Value
  string : Text → Text

/-- The entries with some more fields, a later one in the place of an earlier one with its name. -/
def putAll (entries : List (Value × Value)) (fields : List (Text × Value)) : List (Value × Value) :=
  fields.foldl (fun entries f => Value.putField f.1 f.2 entries) entries

mutual

/-- The value of a document. -/
def value (r : Taking) : Form → Value
  | .word w => r.word w
  | .string u => .str (r.string u.val)
  | .list items => .list (values r items)
  | .object fields => .mapping (putAll [] (fieldValues r fields))

/-- The values of some items. -/
def values (r : Taking) : List Form → List Value
  | [] => []
  | f :: rest => f.value r :: values r rest

/-- The names and the values of some fields. -/
def fieldValues (r : Taking) : List (Units × Form) → List (Text × Value)
  | [] => []
  | (u, f) :: rest => (r.string u.val, f.value r) :: fieldValues r rest

end

mutual

/-- How many levels a document has. -/
def height : Form → Nat
  | .word _ => 1
  | .string _ => 1
  | .list items => 1 + heights items
  | .object fields => 1 + fieldHeights fields

/-- How many levels some items have at most. -/
def heights : List Form → Nat
  | [] => 0
  | f :: rest => max f.height (heights rest)

/-- How many levels some fields have at most. -/
def fieldHeights : List (Units × Form) → Nat
  | [] => 0
  | (_, f) :: rest => max f.height (fieldHeights rest)

end

theorem height_pos (f : Form) : 0 < f.height := by
  cases f <;> simp only [height] <;> omega

/-- What a document begins with. -/
def beginsForm (c : CodePoint) : Bool := isWordPart c || c == 34 || c == 91 || c == 123

theorem text_eq_cons (f : Form) : ∃ c t, f.text = c :: t ∧ beginsForm c = true := by
  cases f with
  | word w =>
    cases h : w.text with
    | nil => exact absurd h w.ne_nil
    | cons c t => exact ⟨c, t, by simp [text, h], by simp [beginsForm, w.parts c (by simp [h])]⟩
  | string u => exact ⟨34, _, rfl, rfl⟩
  | list items => exact ⟨91, _, rfl, rfl⟩
  | object fields => exact ⟨123, _, rfl, rfl⟩

theorem inside_texts_eq_cons (f : Form) (items : List Form) (comma : Text) (closing : CodePoint) :
    ∃ c t, inside comma closing (texts (f :: items)) = c :: t ∧ beginsForm c = true := by
  obtain ⟨c, t, ht, hc⟩ := f.text_eq_cons
  exact ⟨c, _, by rw [texts, inside, ht, List.cons_append], hc⟩

end Form

end ToolPolicy.Json
