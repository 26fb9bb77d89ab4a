import ToolPolicy.Proofs.JsonReading
import ToolPolicy.Proofs.NumberTexts
import ToolPolicy.Proofs.YamlValues

/-!
# Values that are JSON documents

A value that JSON has is written as a document: its scalars as words and strings, its texts in
units of 16 bits. `Renders` says which document that is, so that what readers make of the document
can be told from the value.

Main statements: `exists_renders` (every such value has a document), `Renders.text_eq` (which is
what is written), `Renders.height_eq` and `Renders.shortNames_iff` (how deep it is, and whether its
names are short), and `RendersFields.lastNamed?_eq` (where to find a field).
-/

namespace ToolPolicy.Json

open Yaml

/-! ## Values that JSON has -/

/-- Whether a text is made of code points. -/
def IsText (t : Text) : Prop := ∀ c ∈ t, c ≤ lastCodePoint

instance (t : Text) : Decidable (IsText t) :=
  inferInstanceAs (Decidable (∀ c ∈ t, c ≤ lastCodePoint))

/-- Whether a key is a text that is not among some further keys. -/
def IsName (k : Value) (rest : List (Value × Value)) : Prop :=
  match k with
  | .str t => IsText t ∧ Value.field? t rest = none
  | _ => False

mutual

/-- Whether a value is one that JSON has: null, truth values, numbers, texts, and lists
and objects of such. Integers have to be short enough to be written, and the names of an
object have to differ. -/
def IsDocument : Value → Prop
  | .null => True
  | .bool _ => True
  | .int i => IsShort i
  | .float _ => True
  | .str t => IsText t
  | .list items => AreDocuments items
  | .mapping fields => AreFields fields
  | _ => False

/-- Whether JSON has all the items of a list. -/
def AreDocuments : List Value → Prop
  | [] => True
  | v :: rest => IsDocument v ∧ AreDocuments rest

/-- Whether JSON has all the fields of an object. -/
def AreFields : List (Value × Value) → Prop
  | [] => True
  | (k, v) :: rest => IsName k rest ∧ IsDocument v ∧ AreFields rest

end

mutual

/-- How many levels a value has. -/
def levels : Value → Nat
  | .list items => 1 + levelsOfItems items
  | .mapping fields => 1 + levelsOfFields fields
  | _ => 1

/-- How many levels some items have at most. -/
def levelsOfItems : List Value → Nat
  | [] => 0
  | v :: rest => max (levels v) (levelsOfItems rest)

/-- How many levels the values of some fields have at most. -/
def levelsOfFields : List (Value × Value) → Nat
  | [] => 0
  | (_, v) :: rest => max (levels v) (levelsOfFields rest)

end

mutual

/-- Whether every name in a value is written with few enough code points to be a key in YAML. -/
def HasShortNames : Value → Prop
  | .list items => ItemsHaveShortNames items
  | .mapping fields => FieldsHaveShortNames fields
  | _ => True

/-- Whether every name in some items is short. -/
def ItemsHaveShortNames : List Value → Prop
  | [] => True
  | v :: rest => HasShortNames v ∧ ItemsHaveShortNames rest

/-- Whether every name in some fields is short. -/
def FieldsHaveShortNames : List (Value × Value) → Prop
  | [] => True
  | (k, v) :: rest => (write k).length ≤ Scan.keyLength ∧ HasShortNames v ∧
      FieldsHaveShortNames rest

end

/-! ## The document of a value -/

/-- Whether a value is written as a word. -/
def isPlain : Value → Bool
  | .null => true
  | .bool _ => true
  | .int _ => true
  | .float _ => true
  | _ => false

mutual

/-- Which document a value is written as. -/
inductive Renders : Value → Form → Prop
  | word {v : Value} {w : Word} (plain : isPlain v = true) (h : w.text = write v) :
      Renders v (.word w)
  | string {t : Text} {u : Units} (valid : IsText t) (h : u.val = t.flatMap halves) :
      Renders (.str t) (.string u)
  | list {items : List Value} {forms : List Form} (h : RendersItems items forms) :
      Renders (.list items) (.list forms)
  | object {fields : List (Value × Value)} {forms : List (Units × Form)}
      (h : RendersFields fields forms) :
      Renders (.mapping fields) (.object forms)

/-- Which documents some items are written as. -/
inductive RendersItems : List Value → List Form → Prop
  | nil : RendersItems [] []
  | cons {v : Value} {f : Form} {items : List Value} {forms : List Form} (first : Renders v f)
      (rest : RendersItems items forms) : RendersItems (v :: items) (f :: forms)

/-- Which names and documents some fields are written as. -/
inductive RendersFields : List (Value × Value) → List (Units × Form) → Prop
  | nil : RendersFields [] []
  | cons {t : Text} {u : Units} {v : Value} {f : Form} {fields : List (Value × Value)}
      {forms : List (Units × Form)}
      (valid : IsText t) (name : u.val = t.flatMap halves) (new : Value.field? t fields = none)
      (first : Renders v f)
      (rest : RendersFields fields forms) : RendersFields ((.str t, v) :: fields) ((u, f) :: forms)

end

/-- A value that is written as a word. -/
theorem exists_word {v : Value} (hv : IsDocument v) (hplain : isPlain v = true) :
    ∃ w : Word, w.text = write v := by
  cases v with
  | null => exact ⟨nullWord, rfl⟩
  | bool b => exact ⟨boolWord b, by cases b <;> rfl⟩
  | int i => exact exists_word_int hv
  | float x => exact exists_word_float x
  | _ => cases hplain

mutual

/-- **Every value that JSON has** is written as a document. -/
theorem exists_renders : ∀ v : Value, IsDocument v → ∃ f, Renders v f
  | .null, h | .bool _, h | .int _, h | .float _, h => by
    obtain ⟨w, hw⟩ := exists_word h rfl
    exact ⟨.word w, .word rfl hw⟩
  | .str t, h => ⟨.string (unitsOf t h), .string h rfl⟩
  | .list items, h => by
    obtain ⟨forms, hforms⟩ := exists_rendersItems items h
    exact ⟨.list forms, .list hforms⟩
  | .mapping fields, h => by
    obtain ⟨forms, hforms⟩ := exists_rendersFields fields h
    exact ⟨.object forms, .object hforms⟩

/-- All the items of a list are written as documents. -/
theorem exists_rendersItems :
    ∀ items : List Value, AreDocuments items → ∃ forms, RendersItems items forms
  | [], _ => ⟨[], .nil⟩
  | v :: rest, h => by
    obtain ⟨f, hf⟩ := exists_renders v h.1
    obtain ⟨forms, hforms⟩ := exists_rendersItems rest h.2
    exact ⟨f :: forms, .cons hf hforms⟩

/-- All the fields of an object are written as names and documents. -/
theorem exists_rendersFields :
    ∀ fields : List (Value × Value), AreFields fields → ∃ forms, RendersFields fields forms
  | [], _ => ⟨[], .nil⟩
  | (k, v) :: rest, h => by
    obtain ⟨f, hf⟩ := exists_renders v h.2.1
    obtain ⟨forms, hforms⟩ := exists_rendersFields rest h.2.2
    have hname := h.1
    cases k with
    | str t => exact ⟨(unitsOf t hname.1, f) :: forms, .cons hname.1 rfl hname.2 hf hforms⟩
    | _ => exact hname.elim

end

/-! ## What is written -/

theorem following_eq (ts : List Text) (closing : CodePoint) :
    following [44, 32] closing ts = (ts.flatMap fun t => [44, 32] ++ t) ++ [closing] := by
  induction ts with
  | nil => rfl
  | cons t rest ih => simp [following, ih]

theorem join_cons (t : Text) (rest : List Text) :
    Text.join [44, 32] (t :: rest) = t ++ rest.flatMap fun t => [44, 32] ++ t := by
  induction rest generalizing t with
  | nil => simp [Text.join]
  | cons u rest ih => simp [Text.join, ih]

/-- A container on one line is what is inside its brackets. -/
theorem wrap_oneLine (level : Nat) (opening closing : CodePoint) (ts : List Text) :
    Layout.wrap .oneLine level opening closing ts = opening :: inside [44, 32] closing ts := by
  cases ts with
  | nil => rfl
  | cons t rest => simp [Layout.wrap, inside, following_eq, join_cons]

theorem writeAt_plain {v : Value} (h : isPlain v = true) (level : Nat) :
    writeAt .oneLine level v = write v := by
  cases v <;> first | rfl | cases h

mutual

/-- A document is what is written for its value, at any level. -/
theorem Renders.textAt_eq :
    ∀ {v : Value} {f : Form}, Renders v f → ∀ level, f.text = writeAt .oneLine level v
  | _, _, .word plain h, level => by rw [Form.text, h, writeAt_plain plain]
  | _, _, .string valid h, level => by
      rw [Form.text, Units.text, h, writeString_halves valid, writeAt]
  | _, _, .list h, level => by rw [Form.text, h.texts_eq (level + 1), writeAt, wrap_oneLine]
  | _, _, .object h, level => by rw [Form.text, h.texts_eq (level + 1), writeAt, wrap_oneLine]

/-- The texts of some items. -/
theorem RendersItems.texts_eq :
    ∀ {items : List Value} {forms : List Form}, RendersItems items forms →
    ∀ level, Form.texts forms = writeItems .oneLine level items
  | _, _, .nil, _ => by rw [Form.texts, writeItems]
  | _, _, .cons first rest, level => by
    rw [Form.texts, writeItems, first.textAt_eq level, rest.texts_eq level]

/-- The texts of some fields. -/
theorem RendersFields.texts_eq : ∀ {fields : List (Value × Value)} {forms : List (Units × Form)},
    RendersFields fields forms → ∀ level, Form.fieldTexts forms = writeFields .oneLine level fields
  | _, _, .nil, _ => by rw [Form.fieldTexts, writeFields]
  | _, _, .cons valid name _ first rest, level => by
    rw [Form.fieldTexts, writeFields, first.textAt_eq level, rest.texts_eq level, Units.text, name,
      writeString_halves valid]
    simp

end

theorem Renders.text_eq {v : Value} {f : Form} (h : Renders v f) : f.text = write v := h.textAt_eq 0

mutual

/-- A document is as deep as its value. -/
theorem Renders.height_eq : ∀ {v : Value} {f : Form}, Renders v f → f.height = levels v
  | v, _, .word plain _ => by cases v <;> first | rfl | cases plain
  | _, _, .string _ _ => rfl
  | _, _, .list h => by rw [Form.height, levels, h.heights_eq]
  | _, _, .object h => by rw [Form.height, levels, h.heights_eq]

theorem RendersItems.heights_eq :
    ∀ {items : List Value} {forms : List Form}, RendersItems items forms →
    Form.heights forms = levelsOfItems items
  | _, _, .nil => rfl
  | _, _, .cons first rest => by rw [Form.heights, levelsOfItems, first.height_eq, rest.heights_eq]

theorem RendersFields.heights_eq : ∀ {fields : List (Value × Value)} {forms : List (Units × Form)},
    RendersFields fields forms → Form.fieldHeights forms = levelsOfFields fields
  | _, _, .nil => rfl
  | _, _, .cons _ _ _ first rest => by
      rw [Form.fieldHeights, levelsOfFields, first.height_eq, rest.heights_eq]

end

mutual

/-- A document has short names if its value has. -/
theorem Renders.shortNames_iff :
    ∀ {v : Value} {f : Form}, Renders v f → (ShortNames f ↔ HasShortNames v)
  | v, _, .word plain _ => by cases v <;> first | exact Iff.rfl | cases plain
  | _, _, .string _ _ => Iff.rfl
  | _, _, .list h => by rw [ShortNames, HasShortNames, h.shortNames_iff]
  | _, _, .object h => by rw [ShortNames, HasShortNames, h.shortNames_iff]

theorem RendersItems.shortNames_iff :
    ∀ {items : List Value} {forms : List Form}, RendersItems items forms →
    (ShortNamesOfItems forms ↔ ItemsHaveShortNames items)
  | _, _, .nil => Iff.rfl
  | _, _, .cons first rest => by
    rw [ShortNamesOfItems, ItemsHaveShortNames, first.shortNames_iff, rest.shortNames_iff]

theorem RendersFields.shortNames_iff :
    ∀ {fields : List (Value × Value)} {forms : List (Units × Form)},
    RendersFields fields forms → (ShortNamesOfFields forms ↔ FieldsHaveShortNames fields)
  | _, _, .nil => Iff.rfl
  | _, _, .cons (t := t) valid name _ first rest => by
    rw [ShortNamesOfFields, FieldsHaveShortNames, first.shortNames_iff,
      rest.shortNames_iff, Units.text, name, writeString_halves valid, write, writeAt]

end

/-! ## Finding a field -/

/-- Whether a text is ASCII. -/
def IsAscii (t : Text) : Prop := ∀ c ∈ t, c < 0x80

instance (t : Text) : Decidable (IsAscii t) := inferInstanceAs (Decidable (∀ c ∈ t, c < 0x80))

theorem IsAscii.flatMap_halves {t : Text} (h : IsAscii t) : t.flatMap halves = t :=
  flatMap_halves_of_lt fun c hc => Nat.lt_trans (h c hc) (by decide)

/-- Surrogates are no ASCII. -/
theorem eq_of_flatMap_halves {t name : Text} (ht : t.flatMap halves = name) (h : IsAscii name) :
    t = name := by
  have hsmall : ∀ c ∈ t, c < 0x10000 := by
    intro c hc
    by_contra hlarge
    have hmem : highHalf c ∈ name := by
      rw [← ht, List.mem_flatMap]
      exact ⟨c, hc, by simp [halves, hlarge]⟩
    exact absurd (h _ hmem) (Nat.not_lt.mpr (Nat.le_trans (by decide) (Nat.le_add_right 0xD800 _)))
  rwa [flatMap_halves_of_lt hsmall] at ht

theorem rejoin_eq_iff {u name : Text} (h : IsAscii name) : rejoin u = name ↔ u = name := by
  refine ⟨fun hu => rejoin_eq_of_ascii hu h, ?_⟩
  rintro rfl
  have hscalar : u.isScalar = true := by
    rw [Text.isScalar, List.all_eq_true]
    intro c hc
    simp only [CodePoint.isSurrogate, Bool.not_eq_true', Bool.and_eq_false_iff,
      decide_eq_false_iff_not]
    exact .inl (Nat.not_le.mpr (Nat.lt_trans (h c hc) (by decide)))
  have hjoined :=
    rejoin_halves (t := u) (fun c hc => Nat.le_trans (Nat.le_of_lt (h c hc)) (by decide)) hscalar
  rwa [h.flatMap_halves] at hjoined

/-- What stands under a name, the last time that it occurs. -/
def lastNamed? {α : Type} (name : Text) : List (Text × α) → Option α
  | [] => none
  | (t, a) :: rest => (lastNamed? name rest).or (if t = name then some a else none)

theorem lastNamed?_map {α β : Type} {name : Text} {string : Text → Text} (value : α → β)
    (h : ∀ t, string t = name ↔ t = name) (fields : List (Text × α)) :
    lastNamed? name (fields.map fun e => (string e.1, value e.2)) =
      (lastNamed? name fields).map value := by
  induction fields with
  | nil => rfl
  | cons e rest ih =>
    simp only [List.map_cons, lastNamed?, ih, h, Option.map_or]
    split <;> rfl

theorem field?_putAll (name : Text) (fields : List (Text × Value))
    (entries : List (Value × Value)) :
    Value.field? name (Form.putAll entries fields) =
      (lastNamed? name fields).or (Value.field? name entries) := by
  induction fields generalizing entries with
  | nil => rfl
  | cons e rest ih =>
    obtain ⟨t, v⟩ := e
    have hrest := ih (Value.putField t v entries)
    rw [Form.putAll, List.foldl_cons, ← Form.putAll, hrest, lastNamed?, Option.or_assoc]
    by_cases ht : t = name
    · rw [ht, Value.field?_put_self, if_pos rfl]
      rfl
    · rw [Value.field?_put_of_ne (Ne.symm ht), if_neg ht]
      rfl

/-- The names and the documents of an object. -/
def named (forms : List (Units × Form)) : List (Text × Form) := forms.map fun e => (e.1.val, e.2)

theorem fieldValues_eq (r : Form.Taking) (forms : List (Units × Form)) :
    Form.fieldValues r forms = (named forms).map fun e => (r.string e.1, e.2.value r) := by
  induction forms with
  | nil => rfl
  | cons e rest ih => rw [Form.fieldValues, ih, named, named, List.map_cons, List.map_cons]

/-- What stands under a name of ASCII, whatever words and strings are taken for. -/
theorem field?_fieldValues {r : Form.Taking} {name : Text} (h : ∀ u, r.string u = name ↔ u = name)
    (forms : List (Units × Form)) :
    Value.field? name (Form.putAll [] (Form.fieldValues r forms)) =
      (lastNamed? name (named forms)).map (·.value r) := by
  rw [field?_putAll, fieldValues_eq, lastNamed?_map (fun f => Form.value r f) h]
  cases lastNamed? name (named forms) <;> rfl

theorem RendersFields.lastNamed?_eq_none {name : Text} (hname : IsAscii name)
    {fields : List (Value × Value)}
    {forms : List (Units × Form)} (hrenders : RendersFields fields forms)
    (h : Value.field? name fields = none) :
    lastNamed? name (named forms) = none := by
  cases hrenders with
  | nil => rfl
  | @cons t u v f fields forms _ hu _ _ rest =>
    have ht : t ≠ name := by
      rintro rfl
      simp [Value.field?] at h
    have hne : u.val ≠ name := fun he => ht (eq_of_flatMap_halves (hu.symm.trans he) hname)
    simp only [Value.field?, ht, if_false] at h
    have hrest := rest.lastNamed?_eq_none hname h
    simp only [named, List.map_cons, lastNamed?, hne, if_false] at hrest ⊢
    rw [hrest]
    rfl

/-- A field of a value is a field of its document. -/
theorem RendersFields.lastNamed?_eq {name : Text} {v : Value} (hname : IsAscii name)
    {fields : List (Value × Value)}
    {forms : List (Units × Form)} (hrenders : RendersFields fields forms)
    (h : Value.field? name fields = some v) :
    ∃ f, lastNamed? name (named forms) = some f ∧ Renders v f := by
  cases hrenders with
  | nil => cases h
  | @cons t u w f fields forms _ hu new first rest =>
    by_cases ht : t = name
    · subst ht
      simp only [Value.field?, if_true, Option.some.injEq] at h
      subst h
      have hrest := rest.lastNamed?_eq_none hname new
      refine ⟨f, ?_, first⟩
      simp only [named, List.map_cons, lastNamed?] at hrest ⊢
      rw [hrest, if_pos (hu.trans hname.flatMap_halves)]
      rfl
    · simp only [Value.field?, ht, if_false] at h
      obtain ⟨f', hf', hrenders⟩ := rest.lastNamed?_eq hname h
      refine ⟨f', ?_, hrenders⟩
      simp only [named, List.map_cons, lastNamed?] at hf' ⊢
      rw [hf']
      rfl

/-- JSON has what stands under a name of an object that it has. -/
theorem isDocument_of_field? {name : Text} {v : Value} :
    ∀ {fields : List (Value × Value)}, AreFields fields →
    Value.field? name fields = some v → IsDocument v
  | [], _, h => by cases h
  | (.str t, w) :: rest, hfields, h => by
    by_cases ht : t = name
    · simp only [Value.field?, ht, if_true, Option.some.injEq] at h
      exact h ▸ hfields.2.1
    · simp only [Value.field?, ht, if_false] at h
      exact isDocument_of_field? hfields.2.2 h

theorem isText_of_areDocuments {texts : List Text} (h : AreDocuments (texts.map .str)) :
    ∀ t ∈ texts, IsText t := by
  induction texts with
  | nil => simp
  | cons t rest ih =>
    intro u hu
    rcases List.mem_cons.mp hu with rfl | hu
    · exact h.1
    · exact ih h.2 u hu

/-- The values of texts are texts. -/
theorem RendersItems.values_eq (r : Form.Taking) : ∀ {texts : List Text} {forms : List Form},
    RendersItems (texts.map .str) forms →
      Form.values r forms = texts.map fun t => .str (r.string (t.flatMap halves))
  | [], _, .nil => rfl
  | t :: texts, _, .cons first rest => by
    cases first with
    | word plain _ => cases plain
    | string valid h => rw [Form.values, Form.value, h, rest.values_eq r, List.map_cons]

end ToolPolicy.Json
