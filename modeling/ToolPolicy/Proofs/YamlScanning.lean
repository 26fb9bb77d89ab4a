import ToolPolicy.Yaml.Indicator

/-!
# Scanning a line of printable ASCII

Reading that goes on within one line of printable ASCII: where the cursor comes to, and what is
taken on the way. `Line` has the rest of the state of reading, which most steps leave alone, and
`Line.before` puts a text and a column to it.

Main statements: `forward_before` and `takeWhile_before` (where the cursor comes to), and
`skipBlanks_before` (what happens in front of a token).
-/

namespace ToolPolicy.Yaml

/-- Whether a code point is printable ASCII. -/
def isVisible (c : CodePoint) : Bool := 32 ≤ c && c < 127

/-- Whether a text is printable ASCII. -/
def Visible (t : Text) : Prop := ∀ c ∈ t, isVisible c = true

instance (t : Text) : Decidable (Visible t) :=
  inferInstanceAs (Decidable (∀ c ∈ t, isVisible c = true))

theorem Visible.drop {t : Text} (h : Visible t) (k : Nat) : Visible (t.drop k) :=
  fun c hc => h c (List.mem_of_mem_drop hc)

theorem Visible.of_append_right {s t : Text} (h : Visible (s ++ t)) : Visible t :=
  fun c hc => h c (List.mem_append_right s hc)

theorem Visible.head {c : CodePoint} {t : Text} (h : Visible (c :: t)) :
    isVisible c = true := h c (by simp)

theorem Visible.tail {c : CodePoint} {t : Text} (h : Visible (c :: t)) : Visible t :=
  fun d hd => h d (by simp [hd])

theorem isVisible_iff {c : Nat} : isVisible c = true ↔ 32 ≤ c ∧ c < 127 := by
  simp [isVisible]

/-- The state of reading on a line without blocks, but for the cursor. -/
structure Line where
  tokens : List Token
  level : Nat
  allowsKey : Bool
  keys : List PossibleKey

namespace Line

/-- The state of reading before a text, at a column. -/
def before (l : Line) (t : Text) (i : Nat) : Lexer where
  cursor := ⟨t, none, ⟨i, 0, i⟩⟩
  tokens := l.tokens
  count := l.tokens.length
  level := l.level
  allowsKey := l.allowsKey
  keys := l.keys

/-- A line that allows a key or does not. -/
def allowing (l : Line) (allowed : Bool) : Line := { l with allowsKey := allowed }

/-- A line with one more token. -/
def emitting (l : Line) (t : Token) : Line := { l with tokens := t :: l.tokens }

end Line

/-- A step that succeeds hands on its result and its state. -/
theorem run_bind {σ α β : Type} {m : StateT σ (Except Failure) α}
    {f : α → StateT σ (Except Failure) β} {s s' : σ}
    {a : α} (h : m.run s = .ok (a, s')) : (m >>= f).run s = (f a).run s' := by
  rw [StateT.run_bind, h]
  rfl

/-- A step that fails is the end. -/
theorem run_bind_error {σ α β : Type} {m : StateT σ (Except Failure) α}
    {f : α → StateT σ (Except Failure) β}
    {s : σ} {e : Failure} (h : m.run s = .error e) : (m >>= f).run s = .error e := by
  rw [StateT.run_bind, h]
  rfl

theorem run_bind_congr {σ α β : Type} {m m' : StateT σ (Except Failure) α}
    {f : α → StateT σ (Except Failure) β}
    {s s' : σ} (h : m.run s = m'.run s') : (m >>= f).run s = (m' >>= f).run s' := by
  rw [StateT.run_bind, StateT.run_bind, h]

theorem run_get {σ : Type} (s : σ) : (get : StateT σ (Except Failure) σ).run s = .ok (s, s) := rfl

namespace Scan

variable {l : Line} {t : Text} {i : Nat}

theorem peek_before (l : Line) (t : Text) (i k : Nat) :
    (peek k).run (l.before t i) = .ok (t.getD k 0, l.before t i) := by
  have hpeek : (l.before t i).cursor.peek k = .ok (t.getD k 0) := by
    simp only [Line.before, Cursor.peek, List.getD_eq_getElem?_getD]
    cases t[k]? <;> rfl
  show (peek k) (l.before t i) = _
  simp only [peek]
  show (do let a ← (l.before t i).cursor.peek k; pure (a, l.before t i) : Except Failure _) = _
  rw [hpeek]
  rfl

theorem foldl_after {t : Text} (h : Visible t) (i : Nat) :
    t.foldl Mark.after ⟨i, 0, i⟩ = ⟨i + t.length, 0, i + t.length⟩ := by
  induction t generalizing i with
  | nil => rfl
  | cons c rest ih =>
    have hc := isVisible_iff.mp h.head
    have hafter : Mark.after ⟨i, 0, i⟩ c = ⟨i + 1, 0, i + 1⟩ := by
      have hne : c ≠ 10 ∧ c ≠ 0x85 ∧ c ≠ 0x2028 ∧ c ≠ 0x2029 ∧ c ≠ 0xFEFF := by
        refine ⟨?_, ?_, ?_, ?_, ?_⟩ <;> rintro rfl <;> omega
      simp [Mark.after, hne]
    rw [List.foldl_cons, hafter, ih h.tail, List.length_cons, show i + 1 + rest.length =
      i + (rest.length + 1) by omega]

theorem forward_before (h : Visible t) (l : Line) (i : Nat) {k : Nat} (hk : k ≤ t.length) :
    (forward k).run (l.before t i) = .ok ((), l.before (t.drop k) (i + k)) := by
  have hmark := foldl_after (t := t.take k) (fun c hc => h c (List.mem_of_mem_take hc)) i
  rw [List.length_take, Nat.min_eq_left hk] at hmark
  rw [forward, run_bind (peek_before l t i k)]
  show Except.ok ((), _) = _
  simp only [Line.before, Cursor.advance, hmark]

theorem forward_cons {c : CodePoint} (h : Visible (c :: t)) (l : Line) (i : Nat) :
    (forward 1).run (l.before (c :: t) i) = .ok ((), l.before t (i + 1)) :=
  forward_before h l i (by simp)

theorem takeWhile_before (h : Visible t) (l : Line) (i : Nat) (p : CodePoint → Bool) :
    (takeWhile p).run (l.before t i)
      = .ok (t.takeWhile p, l.before (t.dropWhile p) (i + (t.takeWhile p).length)) := by
  have hspan : (spanAhead p).run (l.before t i) = .ok (t.takeWhile p, l.before t i) := by
    show (do let _ ← peek (t.takeWhile p).length; pure (t.takeWhile p) : Scan Text).run
      (l.before t i) = _
    rw [run_bind (peek_before l t i _)]
    rfl
  have hdrop : t.drop (t.takeWhile p).length = t.dropWhile p := by
    have hleft : (t.takeWhile p ++ t.dropWhile p).drop (t.takeWhile p).length = t.dropWhile p :=
      List.drop_left
    rwa [List.takeWhile_append_dropWhile] at hleft
  rw [takeWhile, run_bind hspan,
    run_bind (forward_before h l i (List.takeWhile_prefix p).length_le), hdrop]
  rfl

theorem isBreak_of_isVisible {c : Nat} (h : isVisible c = true) : isBreak c = false := by
  have hc := isVisible_iff.mp h
  have hne : c ≠ 10 ∧ c ≠ 13 ∧ c ≠ 0x85 ∧ c ≠ 0x2028 ∧ c ≠ 0x2029 := by
    refine ⟨?_, ?_, ?_, ?_, ?_⟩ <;> rintro rfl <;> omega
  simp [isBreak, hne]

theorem isBreak_getD (h : Visible t) : isBreak (t.getD 0 0) = false := by
  cases t with
  | nil => rfl
  | cons c rest => exact isBreak_of_isVisible h.head

theorem takeBreak_before (h : Visible t) (l : Line) (i : Nat) :
    takeBreak.run (l.before t i) = .ok ([], l.before t i) := by
  have hbreak := isBreak_getD h
  simp only [isBreak, Bool.or_eq_false_iff] at hbreak
  obtain ⟨⟨⟨⟨h10, h13⟩, h85⟩, h28⟩, h29⟩ := hbreak
  rw [takeBreak, run_bind (peek_before l t i 0)]
  simp only [h10, h13, h85, h28, h29]
  rfl

/-- Within a line there is nothing but spaces in front of a token. -/
theorem skipBlanks_before (h : Visible t) (l : Line) (i fuel : Nat)
    (hcomment : (t.dropWhile (· == 32)).getD 0 0 ≠ 35) :
    (skipBlanks (fuel + 1)).run (l.before t i)
      = .ok ((), l.before (t.dropWhile (· == 32)) (i + (t.takeWhile (· == 32)).length)) := by
  have hrest : Visible (t.dropWhile (· == 32)) :=
    fun c hc => h c (List.dropWhile_sublist _ |>.mem hc)
  have hspaces : skipSpaces.run (l.before t i)
      = .ok ((), l.before (t.dropWhile (· == 32)) (i + (t.takeWhile (· == 32)).length)) := by
    rw [skipSpaces, run_bind (takeWhile_before h l i _)]
    rfl
  generalize t.dropWhile (· == 32) = u, i + (t.takeWhile (· == 32)).length = j at *
  have hskip : skipComment.run (l.before u j) = .ok ((), l.before u j) := by
    rw [skipComment, run_bind (peek_before l u j 0)]
    have : (u.getD 0 0 == 35) = false := by simpa using hcomment
    simp only [this]
    rfl
  rw [skipBlanks, run_bind hspaces, run_bind hskip, run_bind (takeBreak_before hrest l j)]
  rfl

end Scan

end ToolPolicy.Yaml
