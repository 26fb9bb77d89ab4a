import ToolPolicy.Proofs.YamlScalars

/-!
# From a written JSON document to tokens

A JSON document on one line is made of the tokens of a flow collection: brackets, commas, colons and
scalars. What stands in front of a colon is a key only if it takes no more than 1024 code points,
quotes included; a longer name is a scalar like any other, and its colon follows without a key.

Main statements: `goes_form` (what reading a part of a document adds to the tokens) and
`tokens_text` (the tokens of a document).
-/

namespace ToolPolicy.Yaml

open Json

/-! ## Steps on a line -/

namespace Line

/-- A line without the keys that are too far away at a column. -/
def alive (l : Line) (i : Nat) : Line := { l with keys := l.keys.filter (Scan.isAlive ⟨i, 0, i⟩) }

/-- A line without the possible key of its level. -/
def droppingKey (l : Line) : Line := { l with keys := l.keys.filter fun k => k.level != l.level }

/-- A line with a possible key at a column, if it allows one. -/
def savingKey (l : Line) (i : Nat) : Line :=
  if l.allowsKey then
    { l with keys := l.droppingKey.keys ++ [⟨l.level, l.tokens.length, false, ⟨i, 0, i⟩⟩] }
  else l

/-- A line with another number of open brackets. -/
def atLevel (l : Line) (level : Nat) : Line := { l with level := level }

/-- A line with a scalar more, which may begin a key; it goes from one column to another. -/
def afterScalar (l : Line) (i : Nat) (token : Token) (j : Nat) : Line :=
  ((((l.alive i).savingKey i).allowing false).emitting token).alive j

/-- Whether no key is required and all are below a level. -/
def Calm (l : Line) (bound : Nat) : Prop := ∀ k ∈ l.keys, k.isRequired = false ∧ k.level < bound

theorem Calm.mono {l : Line} {a b : Nat} (h : l.Calm a) (hab : a ≤ b) : l.Calm b :=
  fun k hk => ⟨(h k hk).1, Nat.lt_of_lt_of_le (h k hk).2 hab⟩

theorem Calm.alive {l : Line} {n : Nat} (h : l.Calm n) (i : Nat) : (l.alive i).Calm n :=
  fun k hk => h k (List.mem_filter.mp hk).1

theorem Calm.droppingKey {l : Line} (h : l.Calm (l.level + 1)) : l.droppingKey.Calm l.level := by
  intro k hk
  obtain ⟨hmem, hne⟩ := List.mem_filter.mp hk
  obtain ⟨hrequired, hlt⟩ := h k hmem
  have hne : k.level ≠ l.level := by simpa using hne
  exact ⟨hrequired, by omega⟩

theorem Calm.savingKey {l : Line} (h : l.Calm (l.level + 1)) (i : Nat) :
    (l.savingKey i).Calm (l.level + 1) := by
  unfold Line.savingKey
  split
  · intro k hk
    rcases List.mem_append.mp hk with hk | hk
    · exact (h.droppingKey.mono (Nat.le_succ _)) k hk
    · simp only [List.mem_singleton] at hk
      subst hk
      exact ⟨rfl, Nat.lt_succ_self _⟩
  · exact h

end Line

namespace Scan

variable {l l' : Line} {t t' : Text} {i j n : Nat} {c : CodePoint}

theorem inFlow_before (l : Line) (t : Text) (i : Nat) :
    inFlow.run (l.before t i) = .ok (l.level != 0, l.before t i) := rfl

theorem skipOrderMark_before (h : Visible t) (l : Line) (i : Nat) :
    skipOrderMark.run (l.before t i) = .ok ((), l.before t i) := by
  have hmark : (t.getD 0 0 == 0xFEFF) = false := by
    cases t with
    | nil => rfl
    | cons c rest =>
      have hc := isVisible_iff.mp h.head
      have hne : c ≠ 0xFEFF := by rintro rfl; omega
      simpa using hne
  rw [skipOrderMark, run_bind (mark_before l t i)]
  split
  · rw [run_bind (peek_before l t i 0), hmark]
    rfl
  · rfl

theorem dropStaleKeys_before (h : l.Calm n) (t : Text) (i : Nat) :
    dropStaleKeys.run (l.before t i) = .ok ((), (l.alive i).before t i) := by
  have hnone : (l.before t i).keys.find? (fun k => !isAlive ⟨i, 0, i⟩ k && k.isRequired) =
    none := by
    rw [List.find?_eq_none]
    intro k hk
    simp [(h k hk).1]
  rw [dropStaleKeys, run_bind (mark_before l t i), run_bind (run_get _), hnone]
  rfl

theorem dropKey_before (h : l.Calm n) (t : Text) (i : Nat) :
    dropKey.run (l.before t i) = .ok ((), l.droppingKey.before t i) := by
  rw [dropKey, run_bind (run_get _), run_bind (run_get _)]
  cases hfind : (l.before t i).keys.find? fun k => k.level == (l.before t i).level with
  | some k =>
    have hk : k.isRequired = false := (h k (List.mem_of_find?_eq_some hfind)).1
    simp only [hk]
    rfl
  | none =>
    have hkeys : l.droppingKey = l := by
      have hall : l.keys.filter (fun k => k.level != l.level) = l.keys := by
        rw [List.filter_eq_self]
        intro k hk
        have hk : ¬(k.level == l.level) = true := List.find?_eq_none.mp hfind k hk
        simpa using hk
      rw [Line.droppingKey, hall]
    rw [hkeys]
    rfl

theorem saveKey_before (h : l.Calm n) (t : Text) (i : Nat) :
    saveKey.run (l.before t i) = .ok ((), (l.savingKey i).before t i) := by
  rw [saveKey, run_bind (run_get _), Line.savingKey]
  have hrequired : ((l.before t i).level == 0 && (l.before t i).indent ==
    (l.before t i).cursor.mark.column) = false := by
    have hindent : ((-1 : Int) == (i : Int)) = false := by
      rw [beq_eq_false_iff_ne]
      omega
    show (l.level == 0 && (-1 : Int) == (i : Int)) = false
    rw [hindent, Bool.and_false]
  have hallows : (l.before t i).allowsKey = l.allowsKey := rfl
  rw [hrequired, hallows]
  by_cases ha : l.allowsKey = true
  · rw [if_pos ha, if_pos ha, run_bind (dropKey_before h t i)]
    rfl
  · rw [if_neg ha, if_neg ha]
    rfl

theorem indentAt_before (column : Int) (l : Line) (t : Text) (i : Nat) :
    (indentAt column).run (l.before t i) = .ok ((), l.before t i) := by
  have hsame : (if (l.before t i).level = 0 then
      endBlocks column (l.before t i).cursor.mark (l.before t i).indents (l.before t i)
      else l.before t i) = l.before t i := by
    split <;> rfl
  exact congrArg (fun s => Except.ok ((), s)) hsame

theorem emitIndicator_before {c : CodePoint} (h : Visible (c :: t)) (kind : Token.Kind)
    (l : Line) (i : Nat) :
    (emitIndicator kind).run (l.before (c :: t) i)
      = .ok ((), (l.emitting ⟨kind, ⟨i, 0, i⟩, ⟨i + 1, 0, i + 1⟩⟩).before t (i + 1)) := by
  rw [emitIndicator, run_bind (mark_before l _ i), run_bind (forward_cons h l i),
    run_bind (mark_before l t _)]
  rfl

/-! ## The token that comes next -/

theorem separatorAhead?_before {c : CodePoint} {i : Nat} (h : i ≠ 0 ∨ c = 123)
    (l : Line) (t : Text) :
    (separatorAhead? c).run (l.before t i) = .ok (none, l.before t i) := by
  have hno : ((c == 45 || c == 46) && decide (i = 0)) = false := by
    rcases h with h | rfl
    · rw [decide_eq_false h, Bool.and_false]
    · rfl
  rw [separatorAhead?, run_bind (column_before l t i), hno]
  rfl

/-- What stands in front of a token makes no difference, but that keys which are too
far away are forgotten. -/
theorem next_before {n b b' : Nat} (hv : Visible (List.replicate n 32 ++ c :: t))
    (hcalm : l.Calm b) (h32 : c ≠ 32) (h35 : c ≠ 35) (hfirst : i + n ≠ 0 ∨ c = 123)
    (htoken : (ofCodePoint c).run ((l.alive (i + n)).before (c :: t) (i + n)) =
      .ok ((), l'.before t' j))
    (hcalm' : l'.Calm b') :
    next.run (l.before (List.replicate n 32 ++ c :: t) i) = .ok ((), (l'.alive j).before t' j) := by
  have hc32 : (c == 32) = false := by simpa using h32
  have htake : (List.replicate n 32 ++ c :: t).takeWhile (· == 32) = List.replicate n 32 := by
    rw [List.takeWhile_append_of_pos (by simp), List.takeWhile_cons, hc32]
    simp
  have hdrop : (List.replicate n 32 ++ c :: t).dropWhile (· == 32) = c :: t := by
    rw [List.dropWhile_append_of_pos (by simp), List.dropWhile_cons, hc32]
    simp
  have hblanks :=
    skipBlanks_before hv l i (List.replicate n 32 ++ c :: t).length (by rw [hdrop]; exact h35)
  rw [htake, hdrop, List.length_replicate] at hblanks
  have hv' : Visible (c :: t) := hv.of_append_right
  have h0 : (c == 0) = false := by
    have hc := isVisible_iff.mp hv'.head
    have : c ≠ 0 := by rintro rfl; omega
    simpa using this
  rw [next, run_bind (skipOrderMark_before hv l i), run_bind (fuel_before l _ i), run_bind hblanks,
    run_bind (dropStaleKeys_before hcalm _ _), run_bind (column_before _ _ _),
      run_bind (indentAt_before _ _ _ _),
    run_bind (peek_before _ _ _ 0)]
  simp only [List.getD_cons_zero, h0, Bool.false_eq_true, if_false]
  have hpercent : (c == 37 && decide (i + n = 0)) = false := by
    rcases hfirst with h | rfl
    · rw [decide_eq_false h, Bool.and_false]
    · rfl
  rw [run_bind (column_before _ _ _), hpercent]
  simp only [Bool.false_eq_true, if_false]
  rw [run_bind (separatorAhead?_before hfirst _ _)]
  simp only
  rw [run_bind htoken, run_bind (run_get _)]
  exact dropStaleKeys_before hcalm' t' j

/-- The kind of token of an opening bracket. -/
def openingKind (c : CodePoint) : Token.Kind := if c = 91 then .flowSequenceStart
    else .flowMappingStart

/-- The kind of token of a closing bracket. -/
def closingKind (c : CodePoint) : Token.Kind := if c = 93 then .flowSequenceEnd else .flowMappingEnd

theorem ofCodePoint_open {c : CodePoint} (hc : c = 91 ∨ c = 123) (hv : Visible (c :: t))
    (h : l.Calm n) (i : Nat) :
    (ofCodePoint c).run (l.before (c :: t) i)
      = .ok ((), ((((l.savingKey i).atLevel (l.level + 1)).allowing true).emitting
          ⟨openingKind c, ⟨i, 0, i⟩, ⟨i + 1, 0, i + 1⟩⟩).before t (i + 1)) := by
  have hopen : (openBracket (openingKind c)).run (l.before (c :: t) i)
      = .ok ((), ((((l.savingKey i).atLevel (l.level + 1)).allowing true).emitting
          ⟨openingKind c, ⟨i, 0, i⟩, ⟨i + 1, 0, i + 1⟩⟩).before t (i + 1)) := by
    have hlevel : (modify fun s => { s with level := s.level + 1 } : Scan Unit).run
      ((l.savingKey i).before (c :: t) i)
        = .ok ((), ((l.savingKey i).atLevel (l.level + 1)).before (c :: t) i) := by
      have hsame : (l.savingKey i).level = l.level := by
        unfold Line.savingKey
        split <;> rfl
      rw [← hsame]
      rfl
    have hallow : (allowKey true).run (((l.savingKey i).atLevel (l.level + 1)).before (c :: t) i)
        = .ok ((), (((l.savingKey i).atLevel (l.level + 1)).allowing true).before (c :: t) i) := rfl
    rw [openBracket, run_bind (saveKey_before h _ i), run_bind hlevel, run_bind hallow]
    exact emitIndicator_before hv _ _ i
  rw [← hopen, ofCodePoint, run_bind (inFlow_before l _ i)]
  rcases hc with rfl | rfl <;> rfl

theorem ofCodePoint_close {c : CodePoint} (hc : c = 93 ∨ c = 125) (hv : Visible (c :: t))
    (h : l.Calm n) (i : Nat) :
    (ofCodePoint c).run (l.before (c :: t) i)
      = .ok ((), (((l.droppingKey.atLevel (l.level - 1)).allowing false).emitting
          ⟨closingKind c, ⟨i, 0, i⟩, ⟨i + 1, 0, i + 1⟩⟩).before t (i + 1)) := by
  have hclose : (closeBracket (closingKind c)).run (l.before (c :: t) i)
      = .ok ((), (((l.droppingKey.atLevel (l.level - 1)).allowing false).emitting
          ⟨closingKind c, ⟨i, 0, i⟩, ⟨i + 1, 0, i + 1⟩⟩).before t (i + 1)) := by
    have hlevel : (modify fun s => { s with level := s.level - 1 } : Scan Unit).run
      (l.droppingKey.before (c :: t) i)
        = .ok ((), (l.droppingKey.atLevel (l.level - 1)).before (c :: t) i) := rfl
    have hallow : (allowKey false).run ((l.droppingKey.atLevel (l.level - 1)).before (c :: t) i)
        = .ok ((), ((l.droppingKey.atLevel (l.level - 1)).allowing false).before (c :: t) i) := rfl
    rw [closeBracket, run_bind (dropKey_before h _ i), run_bind hlevel, run_bind hallow]
    exact emitIndicator_before hv _ _ i
  rw [← hclose, ofCodePoint, run_bind (inFlow_before l _ i)]
  rcases hc with rfl | rfl <;> rfl

theorem ofCodePoint_comma (hv : Visible (44 :: t)) (h : l.Calm n) (i : Nat) :
    (ofCodePoint 44).run (l.before (44 :: t) i)
      = .ok ((), (((l.allowing true).droppingKey).emitting
          ⟨.flowEntry, ⟨i, 0, i⟩, ⟨i + 1, 0, i + 1⟩⟩).before t (i + 1)) := by
  have hallow : (allowKey true).run (l.before (44 :: t) i) =
    .ok ((), (l.allowing true).before (44 :: t) i) := rfl
  have hcalm : (l.allowing true).Calm n := h
  have hdrop : dropKey.run ((l.allowing true).before (44 :: t) i)
      = .ok ((), (l.allowing true).droppingKey.before (44 :: t) i) := dropKey_before hcalm _ i
  have hcomma : comma.run (l.before (44 :: t) i)
      = .ok ((), (((l.allowing true).droppingKey).emitting
          ⟨.flowEntry, ⟨i, 0, i⟩, ⟨i + 1, 0, i + 1⟩⟩).before t (i + 1)) := by
    rw [comma, run_bind hallow, run_bind hdrop]
    exact emitIndicator_before hv _ _ i
  rw [← hcomma, ofCodePoint, run_bind (inFlow_before l _ i)]
  rfl

/-- A scalar that is read on a line and may begin a key. -/
theorem keyLike_before {read : Scan Token} {token : Token} (h : l.Calm n)
    (hread : read.run (((l.savingKey i).allowing false).before t i)
      = .ok (token, ((l.savingKey i).allowing false).before t' j)) :
    (keyLike read).run (l.before t i)
      = .ok ((), (((l.savingKey i).allowing false).emitting token).before t' j) := by
  have hallow : (allowKey false).run ((l.savingKey i).before t i)
      = .ok ((), ((l.savingKey i).allowing false).before t i) := rfl
  rw [keyLike, run_bind (saveKey_before h t i), run_bind hallow, run_bind hread]
  rfl

theorem isIndicator_before (hc : c ≠ 63 ∧ c ≠ 58)
    (hnext : c = 45 → isBlankOrEnd (t.getD 1 0) = false) (l : Line)
    (i : Nat) : (isIndicator c).run (l.before t i) = .ok (false, l.before t i) := by
  have h63 : (c == 63) = false := by simpa using hc.1
  have h58 : (c == 58) = false := by simpa using hc.2
  rw [isIndicator, run_bind (inFlow_before l t i)]
  simp only [h63, h58, Bool.or_false, Bool.false_and, Bool.false_eq_true, if_false]
  by_cases h45 : c = 45
  · subst h45
    simp only [beq_self_eq_true, if_true]
    rw [run_bind (peek_before l t i 1), hnext rfl]
    rfl
  · have : (c == 45) = false := by simpa using h45
    rw [this]
    rfl

theorem ofCodePoint_quote (l : Line) (t : Text) (i : Nat) :
    (ofCodePoint 34).run (l.before t i) = (keyLike Scalar.quoted).run (l.before t i) := by
  rw [ofCodePoint, run_bind (inFlow_before l t i)]
  have hindicator :=
    isIndicator_before (c := 34) (t := t) (by decide) (fun h => absurd h (by decide)) l i
  simp only [Nat.reduceBEq, Bool.false_eq_true, if_false]
  rw [run_bind hindicator]
  rfl

/-- A word begins with no indicator but perhaps a hyphen. -/
theorem isWordPart_indicators : ∀ c < 128, isWordPart c = true →
    c ∉ ([33, 34, 38, 39, 42, 44, 58, 62, 63, 91, 93, 123, 124, 125] : List Nat)
      ∧ (isBlankOrEnd c || isOneOf "-?:,[]\x7b\x7d#&*!|>'\"%@\x60" c) = (c == 45) := by
  decide

theorem beginsPlain_before (hc : isWordPart c = true)
    (hnext : c = 45 → isBlankOrEnd (t.getD 1 0) = false) (l : Line)
    (i : Nat) : (beginsPlain c).run (l.before t i) = .ok (true, l.before t i) := by
  rw [beginsPlain, (isWordPart_indicators c (isWordPart_lt hc) hc).2]
  by_cases h45 : c = 45
  · subst h45
    simp only [beq_self_eq_true, if_true]
    rw [run_bind (peek_before l t i 1), run_bind (inFlow_before l t i), hnext rfl]
    rfl
  · have : (c == 45) = false := by simpa using h45
    rw [this]
    rfl

theorem ofCodePoint_plain (hc : isWordPart c = true)
    (hnext : c = 45 → isBlankOrEnd (t.getD 1 0) = false) (l : Line)
    (i : Nat) : (ofCodePoint c).run (l.before t i) = (keyLike Scalar.plain).run (l.before t i) := by
  have hne := (isWordPart_indicators c (isWordPart_lt hc) hc).1
  simp only [List.mem_cons, List.not_mem_nil, or_false, not_or] at hne
  obtain ⟨h33, h34, h38, h39, h42, h44, h58, h62, h63, h91, h93, h123, h124, h125⟩ := hne
  rw [ofCodePoint, run_bind (inFlow_before l t i)]
  simp only [beq_false_of_ne h91, beq_false_of_ne h123, beq_false_of_ne h93, beq_false_of_ne h125,
    beq_false_of_ne h44, Bool.false_eq_true, if_false]
  rw [run_bind (isIndicator_before ⟨h63, h58⟩ hnext l i)]
  simp only [beq_false_of_ne h33, beq_false_of_ne h34, beq_false_of_ne h38, beq_false_of_ne h39,
    beq_false_of_ne h42, beq_false_of_ne h62, beq_false_of_ne h124, Bool.or_self, Bool.false_and,
    Bool.false_eq_true, if_false]
  rw [run_bind (beginsPlain_before hc hnext l i)]
  rfl

/-- What follows a hyphen at the beginning of a word is part of the word. -/
theorem getD_one_word {w : Word} {rest : Text} (hw : w.text = c :: rest) (t : Text) (h45 : c = 45) :
    isBlankOrEnd ((w.text ++ t).getD 1 0) = false := by
  cases rest with
  | nil =>
    subst h45
    exact absurd hw w.ne_hyphen
  | cons d rest =>
    have hd := w.parts d (by simp [hw])
    rw [hw]
    exact (Scalar.isWordPart_table d (isWordPart_lt hd) hd).1

/-! ## Colons -/

theorem emitAt_before {token : Token} {more : List Token} (hl : l.tokens = token :: more)
    (t : Token) (u : Text) (i : Nat) : (emitAt more.length t).run (l.before u i)
      = .ok ((), ({ l with tokens := token :: t :: more } : Line).before u i) := by
  obtain ⟨tokens, level, allowsKey, keys⟩ := l
  simp only at hl
  subst hl
  have hplace : (token :: more).length - more.length = 1 := by simp
  have hinsert : (token :: more).insertIdx ((token :: more).length - more.length) t =
    token :: t :: more := by
    rw [hplace]
    rfl
  have hrun :
      (emitAt more.length t).run ((⟨token :: more, level, allowsKey, keys⟩ : Line).before u i)
        = .ok ((), { (⟨token :: more, level, allowsKey, keys⟩ : Line).before u i with
          tokens := (token :: more).insertIdx ((token :: more).length - more.length) t
          count := more.length + 2 }) := rfl
  rw [hrun, hinsert]
  rfl

/-- A key is put in front of the token before a colon if that may be one. -/
theorem colon_key {k : PossibleKey} {token : Token} {more : List Token} (hv : Visible (58 :: t))
    (hl : l.level ≠ 0) (hfind : l.keys.find? (fun k => k.level == l.level) = some k)
    (htokens : l.tokens = token :: more) (hnumber : k.number = more.length) (i : Nat) :
    colon.run (l.before (58 :: t) i)
      = .ok ((),
        ((({ l.droppingKey with tokens := token :: ⟨.key, k.mark, k.mark⟩ :: more } : Line).allowing
          false).emitting ⟨.value, ⟨i, 0, i⟩, ⟨i + 1, 0, i + 1⟩⟩).before t (i + 1)) := by
  have hfind' : (l.before (58 :: t) i).keys.find? (fun k => k.level ==
    (l.before (58 :: t) i).level) = some k := hfind
  have hset : (set { l.before (58 :: t) i with
      keys := (l.before (58 :: t) i).keys.filter fun k =>
        k.level != (l.before (58 :: t) i).level } : Scan Unit).run
      (l.before (58 :: t) i) = .ok ((), l.droppingKey.before (58 :: t) i) := rfl
  have hemit := emitAt_before (l := l.droppingKey) htokens ⟨.key, k.mark, k.mark⟩ (58 :: t) i
  have hflow : (l.droppingKey.level != 0) = true := by
    have : l.droppingKey.level = l.level := rfl
    simpa [this] using hl
  have hallow : (allowKey false).run
      (({ l.droppingKey with tokens := token :: ⟨.key, k.mark, k.mark⟩ :: more } : Line).before
        (58 :: t) i)
      = .ok ((),
        (({ l.droppingKey with tokens := token :: ⟨.key, k.mark, k.mark⟩ :: more } : Line).allowing
        false).before (58 :: t) i) := rfl
  rw [colon, run_bind (run_get _), hfind']
  simp only [hnumber]
  rw [run_bind hset, run_bind hemit, run_bind (inFlow_before _ _ i), hflow]
  simp only [Bool.not_true, Bool.false_eq_true, if_false]
  rw [run_bind hallow]
  exact emitIndicator_before hv _ _ i

/-- Without a key there is only a value. -/
theorem colon_plain (hv : Visible (58 :: t)) (hl : l.level ≠ 0) (hcalm : l.Calm n)
    (hfind : l.keys.find? (fun k => k.level == l.level) = none) (i : Nat) :
    colon.run (l.before (58 :: t) i)
      = .ok ((), (((l.allowing false).droppingKey).emitting
          ⟨.value, ⟨i, 0, i⟩, ⟨i + 1, 0, i + 1⟩⟩).before t (i + 1)) := by
  have hfind' : (l.before (58 :: t) i).keys.find? (fun k => k.level ==
    (l.before (58 :: t) i).level) = none := hfind
  have hflow : (l.level != 0) = true := by simpa using hl
  have hopen : (openBlock .blockMappingStart "mapping values").run (l.before (58 :: t) i)
      = .ok ((), l.before (58 :: t) i) := by
    rw [openBlock, run_bind (inFlow_before _ _ i), hflow]
    rfl
  have hallow : (allowKey (!(true))).run (l.before (58 :: t) i) =
    .ok ((), (l.allowing false).before (58 :: t) i) := rfl
  have hdrop : dropKey.run ((l.allowing false).before (58 :: t) i)
      = .ok ((), (l.allowing false).droppingKey.before (58 :: t) i) :=
    dropKey_before (l := l.allowing false) (n := n) hcalm _ i
  rw [colon, run_bind (run_get _), hfind']
  simp only
  rw [run_bind hopen, run_bind (inFlow_before _ _ i), hflow, run_bind hallow, run_bind hdrop]
  exact emitIndicator_before hv _ _ i

theorem ofCodePoint_colon (hl : l.level ≠ 0) (t : Text) (i : Nat) :
    (ofCodePoint 58).run (l.before t i) = colon.run (l.before t i) := by
  have hflow : (l.level != 0) = true := by simpa using hl
  have hindicator : (isIndicator 58).run (l.before t i) = .ok (true, l.before t i) := by
    rw [isIndicator, run_bind (inFlow_before l t i), hflow]
    rfl
  rw [ofCodePoint, run_bind (inFlow_before l t i)]
  simp only [Nat.reduceBEq, Bool.false_eq_true, if_false]
  rw [run_bind hindicator]
  rfl

end Scan

/-! ## Going on -/

/-- Whether reading comes from one state to another, with steps that take at
least a code point each. -/
def Lexer.Goes (s s' : Lexer) : Prop :=
  ∃ n, n + s'.cursor.ahead.length ≤ s.cursor.ahead.length
    ∧ ∀ fuel, Lexer.run (fuel + n) s = Lexer.run fuel s'

namespace Lexer

theorem Goes.trans {s s' s'' : Lexer} (h : s.Goes s') (h' : s'.Goes s'') : s.Goes s'' := by
  obtain ⟨n, hn, hrun⟩ := h
  obtain ⟨m, hm, hrun'⟩ := h'
  exact ⟨m + n, by omega, fun fuel => by rw [← Nat.add_assoc, hrun, hrun']⟩

theorem goes_next {s s' : Lexer} (hdone : s.isDone = false) (h : Scan.next.run s = .ok ((), s'))
    (hlen : s'.cursor.ahead.length < s.cursor.ahead.length) : s.Goes s' := by
  refine ⟨1, by omega, fun fuel => ?_⟩
  rw [Lexer.run, hdone, h]
  rfl

end Lexer

/-- What is known of a line: the kinds of its tokens, the last one first, its level, and that no key
is at a bound or above. -/
structure Line.Has (l : Line) (kinds : List Token.Kind) (level bound : Nat) : Prop where
  kinds_eq : l.tokens.map Token.kind = kinds
  level_eq : l.level = level
  calm : l.Calm bound

theorem Line.Has.mono {l : Line} {kinds : List Token.Kind} {level a b : Nat}
    (h : l.Has kinds level a) (hab : a ≤ b) : l.Has kinds level b :=
  ⟨h.kinds_eq, h.level_eq, h.calm.mono hab⟩

theorem Line.Has.afterScalar {l : Line} {kinds : List Token.Kind} {level : Nat}
    (h : l.Has kinds level level) (i : Nat) (token : Token) (j : Nat) :
    (l.afterScalar i token j).Has (token.kind :: kinds) level (level + 1) := by
  obtain ⟨rfl, rfl, hcalm⟩ := h
  have hsaved : ((l.alive i).savingKey i).Calm (l.level + 1) :=
    ((hcalm.alive i).mono (Nat.le_succ _)).savingKey _
  have hsame : ((l.alive i).savingKey i).tokens = l.tokens ∧
    ((l.alive i).savingKey i).level = l.level := by
    unfold Line.savingKey
    split <;> exact ⟨rfl, rfl⟩
  refine ⟨?_, hsame.2, Line.Calm.alive hsaved j⟩
  show token.kind :: ((l.alive i).savingKey i).tokens.map Token.kind = _
  rw [hsame.1]

namespace Lexer

variable {l : Line} {t : Text} {i n level : Nat} {c : CodePoint} {kinds : List Token.Kind}

/-- Reading a token after some spaces. -/
theorem goes_token {l' : Line} {t' : Text} {j b m : Nat}
    (hv : Visible (List.replicate n 32 ++ c :: t))
    (hcalm : l.Calm b) (h32 : c ≠ 32) (h35 : c ≠ 35) (hfirst : i + n ≠ 0 ∨ c = 123)
    (htoken : (Scan.ofCodePoint c).run ((l.alive (i + n)).before (c :: t) (i + n)) =
      .ok ((), l'.before t' j))
    (hcalm' : l'.Calm m) (hlen : t'.length ≤ t.length) :
    (l.before (List.replicate n 32 ++ c :: t) i).Goes ((l'.alive j).before t' j) := by
  refine goes_next rfl (Scan.next_before hv hcalm h32 h35 hfirst htoken hcalm') ?_
  show t'.length < (List.replicate n 32 ++ c :: t).length
  simp only [List.length_append, List.length_cons]
  omega

theorem goes_open (hc : c = 91 ∨ c = 123) (h : l.Has kinds level (level + 1))
    (hv : Visible (List.replicate n 32 ++ c :: t)) (hfirst : i + n ≠ 0 ∨ c = 123) :
    ∃ l' : Line, (l.before (List.replicate n 32 ++ c :: t) i).Goes (l'.before t (i + n + 1))
      ∧ l'.Has (Scan.openingKind c :: kinds) (level + 1) (level + 1) ∧ l'.allowsKey = true := by
  obtain ⟨rfl, rfl, hcalm⟩ := h
  have halive := hcalm.alive (i + n)
  have hsaved : ((l.alive (i + n)).savingKey (i + n)).Calm (l.level + 1) := halive.savingKey _
  have htokens : ((l.alive (i + n)).savingKey (i + n)).tokens = l.tokens := by
    unfold Line.savingKey
    split <;> rfl
  have hopen := Scan.ofCodePoint_open hc hv.of_append_right halive (i + n)
  refine ⟨_, goes_token hv hcalm ?_ ?_ hfirst hopen (m := l.level + 1) hsaved (Nat.le_refl _),
    ⟨?_, rfl, Line.Calm.alive hsaved _⟩, rfl⟩
  · rcases hc with rfl | rfl <;> decide
  · rcases hc with rfl | rfl <;> decide
  · show Scan.openingKind c :: ((l.alive (i + n)).savingKey (i + n)).tokens.map Token.kind = _
    rw [htokens]

theorem goes_close (hc : c = 93 ∨ c = 125) (h : l.Has kinds (level + 1) (level + 2))
    (hv : Visible (c :: t)) (hfirst : i ≠ 0) :
    ∃ l' : Line, (l.before (c :: t) i).Goes (l'.before t (i + 1))
      ∧ l'.Has (Scan.closingKind c :: kinds) level (level + 1) := by
  obtain ⟨rfl, hlevel, hcalm⟩ := h
  have halive := hcalm.alive (i + 0)
  have hdropped : (l.alive (i + 0)).droppingKey.Calm (level + 1) := by
    have := Line.Calm.droppingKey (l := l.alive (i + 0)) (hlevel ▸ halive)
    exact hlevel ▸ this
  refine ⟨_,
    goes_token (n := 0) hv hcalm ?_ ?_ (.inl hfirst) (Scan.ofCodePoint_close hc hv halive (i + 0))
    (m := level + 1) hdropped (Nat.le_refl _), ⟨rfl, ?_, Line.Calm.alive hdropped _⟩⟩
  · rcases hc with rfl | rfl <;> decide
  · rcases hc with rfl | rfl <;> decide
  · show l.level - 1 = level
    omega

theorem goes_comma (h : l.Has kinds level (level + 1)) (hv : Visible (44 :: t)) (hfirst : i ≠ 0) :
    ∃ l' : Line, (l.before (44 :: t) i).Goes (l'.before t (i + 1))
      ∧ l'.Has (.flowEntry :: kinds) level level ∧ l'.allowsKey = true := by
  obtain ⟨rfl, rfl, hcalm⟩ := h
  have halive := hcalm.alive (i + 0)
  have hdropped : ((l.alive (i + 0)).allowing true).droppingKey.Calm l.level :=
    Line.Calm.droppingKey (l := (l.alive (i + 0)).allowing true) halive
  have hcomma := Scan.ofCodePoint_comma hv halive (i + 0)
  exact ⟨_, goes_token (n := 0) hv hcalm (by decide) (by decide) (.inl hfirst) hcomma
    (m := l.level) hdropped (Nat.le_refl _), ⟨rfl, rfl, Line.Calm.alive hdropped _⟩, rfl⟩

/-- A scalar that is read after some spaces and may begin a key. -/
theorem goes_keyLike {read : Scan Token} {token : Token} {t' : Text} {j : Nat}
    (h : l.Has kinds level level)
    (hv : Visible (List.replicate n 32 ++ c :: t)) (h32 : c ≠ 32) (h35 : c ≠ 35)
    (hfirst : i + n ≠ 0)
    (hkey : ∀ l : Line, (Scan.ofCodePoint c).run (l.before (c :: t) (i + n))
      = (Scan.keyLike read).run (l.before (c :: t) (i + n)))
    (hread : ∀ l : Line, l.level = level → l.allowsKey = false →
      read.run (l.before (c :: t) (i + n)) = .ok (token, l.before t' j))
    (hlen : t'.length ≤ t.length) :
    (l.before (List.replicate n 32 ++ c :: t) i).Goes
      ((((((l.alive (i + n)).savingKey (i + n)).allowing false).emitting token).alive j).before t'
        j) := by
  obtain ⟨rfl, rfl, hcalm⟩ := h
  have halive := hcalm.alive (i + n)
  have hsaved : ((l.alive (i + n)).savingKey (i + n)).Calm (l.level + 1) :=
    (halive.mono (Nat.le_succ _)).savingKey _
  have hlevel : ((l.alive (i + n)).savingKey (i + n)).level = l.level := by
    unfold Line.savingKey
    split <;> rfl
  refine goes_token hv hcalm h32 h35 (.inl hfirst) ?_ (m := l.level + 1) hsaved hlen
  rw [hkey]
  exact Scan.keyLike_before halive (hread _ hlevel rfl)

theorem goes_string (u : Units) (h : l.Has kinds level level)
    (hv : Visible (List.replicate n 32 ++ (u.text ++ t))) (hfirst : i + n ≠ 0) :
    (l.before (List.replicate n 32 ++ (u.text ++ t)) i).Goes
      ((l.afterScalar (i + n) ⟨.scalar u.val false, ⟨i + n, 0, i + n⟩,
        ⟨i + n + u.text.length, 0, i + n + u.text.length⟩⟩ (i + n + u.text.length)).before t
        (i + n + u.text.length)) := by
  obtain ⟨body, hbody⟩ : ∃ body, u.text = 34 :: body := ⟨_, rfl⟩
  have hv' : Visible (u.text ++ t) := hv.of_append_right
  have hread (l : Line) := Scalar.quoted_before u hv' l (i + n)
  rw [hbody, List.cons_append] at hv hread ⊢
  exact goes_keyLike h hv (by decide) (by decide) hfirst (fun l => Scan.ofCodePoint_quote l _ _)
    (fun l _ _ => hread l) (by simp)

theorem goes_word (w : Word) (h : l.Has kinds level level) (hlevel : level ≠ 0) (hended : Ended t)
    (hv : Visible (List.replicate n 32 ++ (w.text ++ t))) (hfirst : i + n ≠ 0) :
    (l.before (List.replicate n 32 ++ (w.text ++ t)) i).Goes
      ((l.afterScalar (i + n) ⟨.scalar w.text true, ⟨i + n, 0, i + n⟩,
        ⟨i + n + w.text.length, 0, i + n + w.text.length⟩⟩ (i + n + w.text.length)).before t
        (i + n + w.text.length)) := by
  cases hw : w.text with
  | nil => exact absurd hw w.ne_nil
  | cons c rest =>
    have hv' : Visible (w.text ++ t) := hv.of_append_right
    have hc : isWordPart c = true := w.parts c (by simp [hw])
    have hnext := Scan.getD_one_word hw t
    have hread (l : Line) (hl : l.level = level) (ha : l.allowsKey = false) :=
      Scalar.plain_before w hended hv' l (hl ▸ hlevel) (i + n)
    rw [hw, List.cons_append] at hv hnext hread
    have hne : c ≠ 32 ∧ c ≠ 35 := by
      constructor <;> rintro rfl <;> exact absurd hc (by decide)
    refine goes_keyLike h hv hne.1 hne.2 hfirst (fun l => Scan.ofCodePoint_plain hc hnext l _)
      (fun l hl ha => ?_) (by simp)
    have hsame : l.allowing false = l := by
      rw [← ha]
      rfl
    have := hread l hl ha
    rwa [hsame] at this

/-- The tokens of a name and its colon, which make a key if the name is not too long. -/
def nameKinds (u : Units) : List Token.Kind :=
  if u.text.length ≤ Scan.keyLength then [.key, .scalar u.val false, .value]
  else [.scalar u.val false, .value]

/-- The possible key of the last scalar is found as long as it is not too far away. -/
theorem find?_afterScalar (h : l.Has kinds level level) (hallows : l.allowsKey = true)
    (i : Nat) (token : Token) (length : Nat) :
    ((l.afterScalar i token (i + length)).alive (i + length)).keys.find? (fun k => k.level == level)
      = if length ≤ Scan.keyLength then
        some ⟨level, l.tokens.length, false, ⟨i, 0, i⟩⟩ else none := by
  obtain ⟨rfl, rfl, hcalm⟩ := h
  have hold : ∀ k ∈ (l.alive i).droppingKey.keys, (k.level == l.level) = false := by
    intro k hk
    have hlt := (hcalm.alive i k (List.mem_filter.mp hk).1).2
    exact beq_false_of_ne (Nat.ne_of_lt hlt)
  generalize hnew : (⟨l.level, l.tokens.length, false, ⟨i, 0, i⟩⟩ : PossibleKey) = new
  have hlevel : (new.level == l.level) = true := by
    rw [← hnew]
    exact beq_self_eq_true _
  have halive : Scan.isAlive ⟨i + length, 0, i + length⟩ new =
    decide (length ≤ Scan.keyLength) := by
    rw [← hnew]
    simp [Scan.isAlive]
  have hkeys : ((l.afterScalar i token (i + length)).alive (i + length)).keys
      = (((l.alive i).droppingKey.keys ++ [new]).filter
          (Scan.isAlive ⟨i + length, 0, i + length⟩)).filter
          (Scan.isAlive ⟨i + length, 0, i + length⟩) := by
    have hsaving : ((l.alive i).savingKey i).keys = (l.alive i).droppingKey.keys ++ [new] := by
      rw [Line.savingKey, if_pos (by exact hallows), ← hnew]
      rfl
    rw [← hsaving]
    rfl
  have hnone :
      (((l.alive i).droppingKey.keys.filter (Scan.isAlive ⟨i + length, 0, i + length⟩)).find?
        fun k => k.level == l.level) = none := by
    rw [List.find?_eq_none]
    intro k hk
    simp [hold k (List.mem_filter.mp hk).1]
  rw [hkeys, List.filter_filter]
  simp only [Bool.and_self, List.filter_append, List.find?_append, hnone, Option.none_or]
  by_cases hlength : length ≤ Scan.keyLength
  · simp [halive, hlength, hlevel]
  · simp [halive, hlength]

/-- **A name and its colon**, which may follow some spaces. -/
theorem goes_name (u : Units) (h : l.Has kinds level level) (hlevel : level ≠ 0)
    (hallows : l.allowsKey = true)
    (hv : Visible (List.replicate n 32 ++ (u.text ++ 58 :: t))) (hfirst : i + n ≠ 0) :
    ∃ (l' : Line) (j : Nat),
      (l.before (List.replicate n 32 ++ (u.text ++ 58 :: t)) i).Goes (l'.before t j) ∧ j ≠ 0
      ∧ l'.Has ((nameKinds u).reverse ++ kinds) level level := by
  have hname := goes_string (t := 58 :: t) u h hv hfirst
  have hfind := find?_afterScalar h hallows (i + n) ⟨.scalar u.val false, ⟨i + n, 0, i + n⟩,
    ⟨i + n + u.text.length, 0, i + n + u.text.length⟩⟩ u.text.length
  generalize htoken : (⟨.scalar u.val false, ⟨i + n, 0, i + n⟩,
    ⟨i + n + u.text.length, 0, i + n + u.text.length⟩⟩ : Token) = token at hname hfind
  obtain ⟨hkinds, hlevel', hcalm⟩ := h.afterScalar (i + n) token (i + n + u.text.length)
  have htokens :
      ((l.afterScalar (i + n) token (i + n + u.text.length)).alive (i + n + u.text.length)).tokens
        = token :: l.tokens := by
    have hsame : ((l.alive (i + n)).savingKey (i + n)).tokens = l.tokens := by
      unfold Line.savingKey
      split <;> rfl
    rw [← hsame]
    rfl
  have hkind : token.kind = .scalar u.val false := by rw [← htoken]
  have hpos : i + n + u.text.length ≠ 0 := by omega
  generalize i + n + u.text.length = j at *
  generalize hl1 : l.afterScalar (i + n) token j = l1 at *
  have hcalm1 : (l1.alive j).Calm (level + 1) := hcalm.alive j
  have hl : (l1.alive j).level = level := hlevel'
  have hdropped : (l1.alive j).droppingKey.Calm level := by
    have := Line.Calm.droppingKey (l := l1.alive j) (hl ▸ hcalm1)
    exact hl ▸ this
  have hvc : Visible (58 :: t) := hv.of_append_right.of_append_right
  have hcolon := Scan.ofCodePoint_colon (l := l1.alive j) (hl ▸ hlevel) (58 :: t) j
  by_cases hlength : u.text.length ≤ Scan.keyLength
  · rw [if_pos hlength] at hfind
    have hrun := Scan.colon_key hvc (hl ▸ hlevel) (hl ▸ hfind) htokens rfl j
    refine ⟨_, j + 1, hname.trans (goes_token (n := 0) hvc hcalm (by decide) (by decide) (.inl hpos)
      (hcolon.trans hrun) (m := level) hdropped (Nat.le_refl _)), Nat.succ_ne_zero j, ?_, hl,
      Line.Calm.alive hdropped _⟩
    rw [nameKinds, if_pos hlength]
    show Token.Kind.value :: token.kind :: Token.Kind.key :: l.tokens.map Token.kind = _
    rw [hkind, h.kinds_eq]
    rfl
  · rw [if_neg hlength] at hfind
    have hrun := Scan.colon_plain hvc (hl ▸ hlevel) hcalm1 (hl ▸ hfind) j
    refine ⟨_, j + 1, hname.trans (goes_token (n := 0) hvc hcalm (by decide) (by decide) (.inl hpos)
      (hcolon.trans hrun) (m := level) hdropped (Nat.le_refl _)), Nat.succ_ne_zero j, ?_, hl,
      Line.Calm.alive hdropped _⟩
    rw [nameKinds, if_neg hlength]
    show Token.Kind.value :: (l1.alive j).tokens.map Token.kind = _
    rw [htokens, List.map_cons, hkind, h.kinds_eq]
    rfl

end Lexer

/-! ## Documents -/

mutual

/-- The kinds of the tokens of a document. -/
def kindsOf : Form → List Token.Kind
  | .word w => [.scalar w.text true]
  | .string u => [.scalar u.val false]
  | .list items => .flowSequenceStart :: inside [.flowEntry] .flowSequenceEnd (itemKinds items)
  | .object fields => .flowMappingStart :: inside [.flowEntry] .flowMappingEnd (fieldKinds fields)

/-- The kinds of the tokens of some items. -/
def itemKinds : List Form → List (List Token.Kind)
  | [] => []
  | f :: rest => kindsOf f :: itemKinds rest

/-- The kinds of the tokens of some fields. -/
def fieldKinds : List (Units × Form) → List (List Token.Kind)
  | [] => []
  | (u, f) :: rest => (Lexer.nameKinds u ++ kindsOf f) :: fieldKinds rest

end

namespace Lexer

open Form

mutual

/-- **Reading a part of a document** after some spaces adds its tokens. -/
theorem goes_form : ∀ (f : Form) {l : Line} {kinds : List Token.Kind} {level n i : Nat} {t : Text},
    l.Has kinds level level → (level ≠ 0 ∧ i + n ≠ 0 ∨ ∃ fields, f = .object fields) → Ended t →
    Visible (List.replicate n 32 ++ (f.text ++ t)) →
    ∃ (l' : Line) (j : Nat),
      (l.before (List.replicate n 32 ++ (f.text ++ t)) i).Goes (l'.before t j) ∧ j ≠ 0
      ∧ l'.Has ((kindsOf f).reverse ++ kinds) level (level + 1)
  | .word w, l, kinds, level, n, i, t, h, hplace, hended, hv => by
    rcases hplace with ⟨hlevel, hfirst⟩ | ⟨fields, hf⟩
    · exact ⟨_, _, goes_word w h hlevel hended hv hfirst, by omega, h.afterScalar _ _ _⟩
    · cases hf
  | .string u, l, kinds, level, n, i, t, h, hplace, hended, hv => by
    rcases hplace with ⟨hlevel, hfirst⟩ | ⟨fields, hf⟩
    · exact ⟨_, _, goes_string u h hv hfirst, by omega, h.afterScalar _ _ _⟩
    · cases hf
  | .list items, l, kinds, level, n, i, t, h, hplace, hended, hv => by
    rcases hplace with ⟨hlevel, hfirst⟩ | ⟨fields, hf⟩
    · have hmore := @goes_items items
      simp only [text, List.cons_append] at hv ⊢
      obtain ⟨l1, hgo1, h1, -⟩ := goes_open (.inl rfl) (h.mono (Nat.le_succ _)) hv (.inl hfirst)
      have hv1 := hv.of_append_right.tail
      cases items with
      | nil =>
        obtain ⟨l2, hgo2, h2⟩ :=
          goes_close (.inl rfl) (h1.mono (Nat.le_succ _)) hv1 (Nat.succ_ne_zero _)
        exact ⟨l2, _, hgo1.trans hgo2, Nat.succ_ne_zero _, h2⟩
      | cons f items =>
        obtain ⟨l2, j, hgo2, hj, h2⟩ := hmore (n := 0) h1 (Nat.succ_ne_zero _) (by simp) hv1
        refine ⟨l2, j, hgo1.trans hgo2, hj, ?_⟩
        simpa [kindsOf, Scan.openingKind] using h2
    · cases hf
  | .object fields, l, kinds, level, n, i, t, h, hplace, hended, hv => by
    have hmore := @goes_fields fields
    have hfirst : i + n ≠ 0 ∨ (123 : CodePoint) = 123 := .inr rfl
    simp only [text, List.cons_append] at hv ⊢
    obtain ⟨l1, hgo1, h1, hallows⟩ := goes_open (.inr rfl) (h.mono (Nat.le_succ _)) hv hfirst
    have hv1 := hv.of_append_right.tail
    cases fields with
    | nil =>
      obtain ⟨l2, hgo2, h2⟩ :=
        goes_close (.inr rfl) (h1.mono (Nat.le_succ _)) hv1 (Nat.succ_ne_zero _)
      exact ⟨l2, _, hgo1.trans hgo2, Nat.succ_ne_zero _, h2⟩
    | cons field fields =>
      obtain ⟨l2, j, hgo2, hj, h2⟩ := hmore (n := 0) h1 hallows (Nat.succ_ne_zero _) (by simp) hv1
      refine ⟨l2, j, hgo1.trans hgo2, hj, ?_⟩
      simpa [kindsOf, Scan.openingKind] using h2

/-- Reading the items of a list up to its end. -/
theorem goes_items :
    ∀ (items : List Form) {l : Line} {kinds : List Token.Kind} {level n i : Nat} {t : Text},
    l.Has kinds (level + 1) (level + 1) → i + n ≠ 0 → items ≠ [] →
    Visible (List.replicate n 32 ++ (inside [44, 32] 93 (texts items) ++ t)) →
    ∃ (l' : Line) (j : Nat),
      (l.before (List.replicate n 32 ++ (inside [44, 32] 93 (texts items) ++ t)) i).Goes
      (l'.before t j) ∧ j ≠ 0
      ∧ l'.Has ((inside [.flowEntry] .flowSequenceEnd (itemKinds items)).reverse ++
        kinds) level (level + 1)
  | [], _, _, _, _, _, _, _, _, hne, _ => absurd rfl hne
  | f :: rest, l, kinds, level, n, i, t, h, hfirst, _, hv => by
    have hmore := @goes_items rest
    simp only [texts, inside, List.append_assoc] at hv ⊢
    have hended : Ended (following [44, 32] 93 (texts rest) ++ t) := by
      cases rest <;> simp [texts, following, Ended]
    obtain ⟨l1, j1, hgo1, hj1, h1⟩ :=
      goes_form f h (.inl ⟨Nat.succ_ne_zero level, hfirst⟩) hended hv
    have hv1 : Visible (following [44, 32] 93 (texts rest) ++ t) :=
      hv.of_append_right.of_append_right
    cases rest with
    | nil =>
      obtain ⟨l2, hgo2, h2⟩ := goes_close (c := 93) (.inl rfl) h1 hv1 hj1
      refine ⟨l2, _, hgo1.trans hgo2, Nat.succ_ne_zero j1, ?_⟩
      simpa [itemKinds, inside, following, Scan.closingKind] using h2
    | cons g rest =>
      obtain ⟨l2, hgo2, h2, -⟩ :=
        goes_comma (t := 32 :: (inside [44, 32] 93 (texts (g :: rest)) ++ t)) h1 hv1 hj1
      obtain ⟨l3, j3, hgo3, hj3, h3⟩ := hmore (n := 1) h2 (by omega) (by simp) hv1.tail
      refine ⟨l3, j3, hgo1.trans (hgo2.trans hgo3), hj3, ?_⟩
      simpa [itemKinds, inside, following] using h3

/-- Reading the fields of an object up to its end. -/
theorem goes_fields :
    ∀ (fields : List (Units × Form)) {l : Line} {kinds : List Token.Kind} {level n i : Nat}
    {t : Text},
    l.Has kinds (level + 1) (level + 1) → l.allowsKey = true → i + n ≠ 0 → fields ≠ [] →
    Visible (List.replicate n 32 ++ (inside [44, 32] 125 (fieldTexts fields) ++ t)) →
    ∃ (l' : Line) (j : Nat),
      (l.before (List.replicate n 32 ++ (inside [44, 32] 125 (fieldTexts fields) ++ t)) i).Goes
        (l'.before t j)
      ∧ j ≠ 0
      ∧ l'.Has ((inside [.flowEntry] .flowMappingEnd (fieldKinds fields)).reverse ++
        kinds) level (level + 1)
  | [], _, _, _, _, _, _, _, _, _, hne, _ => absurd rfl hne
  | (u, f) :: rest, l, kinds, level, n, i, t, h, hallows, hfirst, _, hv => by
    have hmore := @goes_fields rest
    simp only [fieldTexts, inside, List.append_assoc, List.cons_append] at hv ⊢
    have hended : Ended (following [44, 32] 125 (fieldTexts rest) ++ t) := by
      cases rest <;> simp [fieldTexts, following, Ended]
    obtain ⟨l1, j1, hgo1, hj1, h1⟩ := goes_name u h (Nat.succ_ne_zero level) hallows hv hfirst
    have hv1 := hv.of_append_right.of_append_right.tail
    obtain ⟨l2, j2, hgo2, hj2, h2⟩ :=
      goes_form f (n := 1) h1 (.inl ⟨Nat.succ_ne_zero level, by omega⟩) hended hv1
    have hv2 : Visible (following [44, 32] 125 (fieldTexts rest) ++ t) := hv1.tail.of_append_right
    cases rest with
    | nil =>
      obtain ⟨l3, hgo3, h3⟩ := goes_close (c := 125) (.inr rfl) h2 hv2 hj2
      refine ⟨l3, _, hgo1.trans (hgo2.trans hgo3), Nat.succ_ne_zero j2, ?_⟩
      simpa [fieldKinds, inside, following, Scan.closingKind] using h3
    | cons field rest =>
      obtain ⟨l3, hgo3, h3, hallows3⟩ :=
        goes_comma (t := 32 :: (inside [44, 32] 125 (fieldTexts (field :: rest)) ++ t)) h2 hv2 hj2
      obtain ⟨l4, j4, hgo4, hj4, h4⟩ := hmore (n := 1) h3 hallows3 (by omega) (by simp) hv2.tail
      refine ⟨l4, j4, hgo1.trans (hgo2.trans (hgo3.trans hgo4)), hj4, ?_⟩
      simpa [fieldKinds, inside, following] using h4

end

/-- The end of a document. -/
theorem next_end {l : Line} (h : l.Calm n) (i : Nat) :
    ∃ s : Lexer, Scan.next.run (l.before [] i) = .ok ((), s) ∧ s.isDone = true
      ∧ s.tokens = ⟨.streamEnd, ⟨i, 0, i⟩, ⟨i, 0, i⟩⟩ :: l.tokens := by
  have hv : Visible [] := by decide
  have halive := h.alive i
  have hblanks : (Scan.skipBlanks (([] : Text).length + 1)).run (l.before [] i) =
    .ok ((), l.before [] i) :=
    Scan.skipBlanks_before hv l i 0 (by decide)
  have hallow : (Scan.allowKey false).run ((l.alive i).droppingKey.before [] i)
      = .ok ((), ((l.alive i).droppingKey.allowing false).before [] i) := rfl
  let last : Line := { (l.alive i).droppingKey.allowing false with keys := [] }
  have hkeys : (modify fun s => { s with keys := [] } : Scan Unit).run
      (((l.alive i).droppingKey.allowing false).before [] i) = .ok ((), last.before [] i) := rfl
  have hemit : (Scan.emitHere .streamEnd).run (last.before [] i)
      = .ok ((), (last.emitting ⟨.streamEnd, ⟨i, 0, i⟩, ⟨i, 0, i⟩⟩).before [] i) := rfl
  have hdone : (modify fun s => { s with isDone := true } : Scan Unit).run
      ((last.emitting ⟨.streamEnd, ⟨i, 0, i⟩, ⟨i, 0, i⟩⟩).before [] i)
      = .ok ((),
        { (last.emitting ⟨.streamEnd, ⟨i, 0, i⟩, ⟨i, 0, i⟩⟩).before [] i with isDone := true }) :=
        rfl
  have hend : Scan.streamEnd.run ((l.alive i).before [] i)
      = .ok ((),
        { (last.emitting ⟨.streamEnd, ⟨i, 0, i⟩, ⟨i, 0, i⟩⟩).before
        [] i with isDone := true }) := by
    rw [Scan.streamEnd, run_bind (Scan.indentAt_before _ _ _ _),
      run_bind (Scan.dropKey_before halive _ i), run_bind hallow, run_bind hkeys, run_bind hemit]
    exact hdone
  refine ⟨{ (last.emitting ⟨.streamEnd, ⟨i, 0, i⟩, ⟨i, 0, i⟩⟩).before [] i with isDone := true },
    ?_, rfl, rfl⟩
  rw [Scan.next, run_bind (Scan.skipOrderMark_before hv l i), run_bind (Scan.fuel_before l _ i),
    run_bind hblanks, run_bind (Scan.dropStaleKeys_before h _ _),
      run_bind (Scan.column_before _ _ _),
    run_bind (Scan.indentAt_before _ _ _ _), run_bind (Scan.peek_before _ _ _ 0)]
  simp only [List.getD_nil, beq_self_eq_true, if_true]
  rw [run_bind hend, run_bind (run_get _)]
  rfl

end Lexer

/-! ## Printable text -/

theorem visible_append {s t : Text} (hs : Visible s) (ht : Visible t) : Visible (s ++ t) := by
  intro c hc
  rcases List.mem_append.mp hc with h | h
  · exact hs c h
  · exact ht c h

theorem visible_escapeOne {c : Nat} (hc : c < 0x10000) : Visible (escapeOne c) := by
  rcases escapeOne_cases hc with ⟨h, hle, hlt, -⟩ | ⟨d, hd, h⟩ | h
  · rw [h]
    simpa [Visible] using isVisible_iff.mpr ⟨hle, hlt⟩
  · have hd : isVisible d = true := (by decide : ∀ e ∈ shortEscapes, isVisible e.1 = true) _ hd
    have h92 : isVisible 92 = true := by decide
    rw [h]
    simp [Visible, hd, h92]
  · have hdigit : ∀ d < 16, isVisible (hexDigit d) = true := by decide
    have h4096 := hdigit (c / 4096) (by omega)
    have hmod (m : Nat) := hdigit (m % 16) (Nat.mod_lt m (by omega))
    have h92 : isVisible 92 = true ∧ isVisible 117 = true := by decide
    rw [h]
    simp [Visible, hexDigits, h4096, hmod, h92]

theorem visible_units (u : Units) : Visible u.text := by
  obtain ⟨u, hu⟩ := u
  have hquote : Visible [34] := by decide
  refine visible_append (s := 34 :: u.flatMap escapeOne) ?_ hquote
  refine visible_append hquote (t := u.flatMap escapeOne) ?_
  intro c hc
  obtain ⟨d, hd, hc⟩ := List.mem_flatMap.mp hc
  exact visible_escapeOne (hu d hd) c hc

theorem visible_inside {closing : CodePoint} (hclosing : isVisible closing = true) {ts : List Text}
    (h : ∀ t ∈ ts, Visible t) : Visible (inside [44, 32] closing ts) := by
  have hclosing : Visible [closing] := by simpa [Visible] using hclosing
  have hcomma : Visible [44, 32] := by decide
  have hfollowing : Visible (following [44, 32] closing ts.tail) := by
    have htail : ∀ t ∈ ts.tail, Visible t := fun t ht => h t (List.mem_of_mem_tail ht)
    generalize ts.tail = rest at htail ⊢
    induction rest with
    | nil => exact hclosing
    | cons t rest ih =>
      have hrest := ih fun u hu => htail u (by simp [hu])
      exact visible_append hcomma (visible_append (htail t (by simp)) hrest)
  cases ts with
  | nil => exact hclosing
  | cons t rest => exact visible_append (h t (by simp)) hfollowing

namespace Lexer

open Form

mutual

theorem visible_text : ∀ f : Form, Visible f.text
  | .word w => fun c hc => Scalar.isVisible_of_isWordPart (w.parts c hc)
  | .string u => visible_units u
  | .list items => by
    have hitems := visible_texts items
    exact visible_append (s := [91]) (by decide) (visible_inside (by decide) hitems)
  | .object fields => by
    have hfields := visible_fieldTexts fields
    exact visible_append (s := [123]) (by decide) (visible_inside (by decide) hfields)

theorem visible_texts : ∀ (items : List Form), ∀ t ∈ texts items, Visible t
  | [] => by simp [texts]
  | f :: rest => by
    have hf := visible_text f
    have hrest := visible_texts rest
    intro t ht
    rcases List.mem_cons.mp ht with rfl | ht
    · exact hf
    · exact hrest t ht

theorem visible_fieldTexts : ∀ (fields : List (Units × Form)), ∀ t ∈ fieldTexts fields, Visible t
  | [] => by simp [fieldTexts]
  | (u, f) :: rest => by
    have hf := visible_text f
    have hrest := visible_fieldTexts rest
    intro t ht
    rcases List.mem_cons.mp ht with rfl | ht
    · exact visible_append (visible_units u) (visible_append (s := [58, 32]) (by decide) hf)
    · exact hrest t ht

end

/-- **The tokens of a document** are read without a flaw. -/
theorem tokens_text (fields : List (Units × Form)) :
    ∃ ts, Source.tokens ⟨(Form.object fields).text, none⟩ = ⟨ts, none⟩
      ∧ ts.map Token.kind = kindsOf (.object fields) ++ [.streamEnd] := by
  let l : Line := ⟨[], 0, true, []⟩
  have hl : l.Has [] 0 0 := ⟨rfl, rfl, fun k hk => absurd hk (by simp [l])⟩
  have hv : Visible (List.replicate 0 32 ++ ((Form.object fields).text ++ [])) := by
    simpa using visible_text (.object fields)
  obtain ⟨l', j, ⟨n, hn, hrun⟩, -, h⟩ :=
    goes_form (.object fields) (i := 0) (t := []) hl (.inr ⟨fields, rfl⟩) trivial hv
  obtain ⟨s, hnext, hdone, htokens⟩ := next_end h.calm j
  simp only [List.replicate_zero, List.nil_append, List.append_nil] at hn hrun
  have hn : n ≤ (Form.object fields).text.length := by simpa [Line.before] using hn
  refine ⟨s.tokens.reverse, ?_, ?_⟩
  · have hfuel : (Form.object fields).text.length + 2 =
      (Form.object fields).text.length - n + 2 + n := by omega
    have hstart : Lexer.start ⟨(Form.object fields).text, none⟩ =
      l.before (Form.object fields).text 0 := rfl
    rw [Source.tokens, hstart]
    simp only
    rw [hfuel, hrun, Lexer.run, hnext]
    simp only [Line.before, Bool.false_eq_true, if_false]
    rw [Lexer.run, if_pos hdone]
  · rw [htokens, List.map_reverse, List.map_cons, h.kinds_eq]
    simp

end Lexer

end ToolPolicy.Yaml
