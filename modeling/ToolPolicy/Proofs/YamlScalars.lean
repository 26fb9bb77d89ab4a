import ToolPolicy.Proofs.JsonReading
import ToolPolicy.Proofs.YamlScanning

/-!
# Scanning written strings and words

A JSON string is a double-quoted scalar, and a word or number of JSON within brackets is
a plain scalar. The escapes of both mean the same, unit by unit; only that two
surrogates stay two code points.

Main statements: `quoted_before` (a string becomes the scalar of its units) and `plain_before` (a
word becomes a plain scalar).
-/

namespace ToolPolicy.Yaml

open Json

namespace Scan

theorem fuel_before (l : Line) (t : Text) (i : Nat) :
    fuel.run (l.before t i) = .ok (t.length + 1, l.before t i) := rfl

theorem mark_before (l : Line) (t : Text) (i : Nat) :
    mark.run (l.before t i) = .ok (⟨i, 0, i⟩, l.before t i) := rfl

theorem column_before (l : Line) (t : Text) (i : Nat) :
    column.run (l.before t i) = .ok (i, l.before t i) := rfl

end Scan

namespace Scalar

open Scan

variable {l : Line} {t : Text} {i : Nat}

/-! ## Escapes -/

theorem isHexDigit_hexDigit : ∀ d < 16, CodePoint.isHexDigit (hexDigit d) = true := by decide

theorem digitValue?_hexDigit : ∀ d < 16, CodePoint.digitValue? (hexDigit d) = some d := by decide

theorem toNatBase_hexDigits {n : Nat} (h : n < 0x10000) : Text.toNatBase 16 (hexDigits n) = n := by
  have hvalue : ((n / 4096 * 16 + n / 256 % 16) * 16 + n / 16 % 16) * 16 + n % 16 = n := by omega
  simp [Text.toNatBase, hexDigits, digitValue?_hexDigit _ (show n / 4096 < 16 by omega),
    digitValue?_hexDigit _ (Nat.mod_lt _ (show 16 > 0 by omega)), hvalue]

theorem expectHexDigits_before {count : Nat}
    (h : ∀ k < count, CodePoint.isHexDigit (t.getD k 0) = true)
    (start : Mark) (l : Line) (i : Nat) {left : Nat} (hleft : left ≤ count) :
    (expectHexDigits start count left).run (l.before t i) = .ok ((), l.before t i) := by
  induction left with
  | zero => rfl
  | succ left ih =>
    have hdigit := h (count - (left + 1)) (by omega)
    rw [expectHexDigits, run_bind (peek_before l t i _)]
    simp only [hdigit, if_true]
    exact ih (by omega)

theorem isHexDigit_hexDigits {n : Nat} (h : n < 0x10000) (t : Text) :
    ∀ k < 4, CodePoint.isHexDigit ((hexDigits n ++ t).getD k 0) = true := by
  have hfirst := isHexDigit_hexDigit (n / 4096) (by omega)
  have hmod (m : Nat) := isHexDigit_hexDigit (m % 16) (Nat.mod_lt m (by omega))
  intro k hk
  rcases k with _ | _ | _ | _ | k
  · exact hfirst
  · exact hmod _
  · exact hmod _
  · exact hmod _
  · omega

theorem peekText_before (l : Line) (t : Text) (i count : Nat) :
    (peekText count).run (l.before t i) = .ok (t.take count, l.before t i) := rfl

theorem escape_short {d c : Nat} (h : (d, c) ∈ shortEscapes)
    (hv : Visible (92 :: d :: t)) (start : Mark) (l : Line) (i : Nat) :
    (escape start).run (l.before (92 :: d :: t) i) = .ok ([c], l.before t (i + 2)) := by
  have hd : escapeFor? d = some c := (by decide : ∀ e ∈ shortEscapes, escapeFor? e.1 = some e.2) _ h
  rw [escape, run_bind (forward_cons hv l i), run_bind (peek_before l _ _ 0)]
  simp only [List.getD_cons_zero, hd]
  rw [run_bind (forward_cons hv.tail l _)]
  rfl

theorem escape_unicode {n : Nat} (h : n < 0x10000)
    (hv : Visible (92 :: 117 :: hexDigits n ++ t)) (start : Mark) (l : Line) (i : Nat) :
    (escape start).run (l.before (92 :: 117 :: hexDigits n ++ t) i) =
    .ok ([n], l.before t (i + 6)) := by
  have h117 : escapeFor? 117 = none ∧ digitCount? 117 = some 4 := by decide
  have hv' : Visible (117 :: (hexDigits n ++ t)) := hv.tail
  have hdigits : (peekText 4).run (l.before (hexDigits n ++ t) (i + 1 + 1))
      = .ok (hexDigits n, l.before (hexDigits n ++ t) (i + 1 + 1)) := peekText_before l _ _ 4
  have hpoint : codePointOf n = .ok n := by
    rw [codePointOf, if_pos (Nat.le_trans (Nat.le_of_lt h) (by decide))]
  have hforward : (forward 4).run (l.before (hexDigits n ++ t) (i + 1 + 1)) =
    .ok ((), l.before t (i + 6)) :=
    forward_before hv'.tail l _ (by simp [hexDigits])
  rw [List.cons_append, List.cons_append] at hv ⊢
  rw [escape, run_bind (forward_cons hv l i), run_bind (peek_before l _ _ 0)]
  simp only [List.getD_cons_zero, h117]
  rw [run_bind (forward_cons hv' l _),
    run_bind (expectHexDigits_before (isHexDigit_hexDigits h t) start l _ (Nat.le_refl 4)),
      run_bind hdigits,
    toNatBase_hexDigits h, hpoint]
  show (do forward 4; pure [n] : Scan Text).run _ = _
  rw [run_bind hforward]
  rfl

/-- A unit that is written with a backslash. -/
theorem escape_before {c : Nat} (hc : c < 0x10000) (he : escapeOne c ≠ [c])
    (hv : Visible (escapeOne c ++ t)) (start : Mark) (l : Line) (i : Nat) :
    (∃ rest, escapeOne c = 92 :: rest) ∧ (escape start).run (l.before (escapeOne c ++ t) i)
      = .ok ([c], l.before t (i + (escapeOne c).length)) := by
  rcases escapeOne_cases hc with ⟨h, -⟩ | ⟨d, hd, h⟩ | h
  · exact absurd h he
  · rw [h] at hv ⊢
    exact ⟨⟨_, rfl⟩, escape_short hd hv start l i⟩
  · rw [h] at hv ⊢
    exact ⟨⟨_, rfl⟩, escape_unicode hc hv start l i⟩

/-! ## Strings -/

theorem quotedText_run {c : CodePoint} (hc : isQuotedRun c = true)
    (hv : Visible (c :: t)) (start : Mark) (fuel : Nat) (text : Text) (l : Line) (i : Nat) :
    (quotedText true start (fuel + 1) text).run (l.before (c :: t) i)
      = (quotedText true start (fuel + 1) (text ++ [c])).run (l.before t (i + 1)) := by
  rw [quotedText, quotedText, run_bind (takeWhile_before hv l i _),
    run_bind (takeWhile_before hv.tail l _ _)]
  simp only [List.takeWhile_cons, List.dropWhile_cons, hc, if_true,
    List.length_cons, List.append_assoc, List.cons_append, List.nil_append]
  rw [show i + 1 + (t.takeWhile isQuotedRun).length =
    i + ((t.takeWhile isQuotedRun).length + 1) by omega]

theorem quotedText_stop {c : CodePoint} (hc : c = 32 ∨ c = 34)
    (hv : Visible (c :: t)) (start : Mark) (fuel : Nat) (text : Text) (l : Line) (i : Nat) :
    (quotedText true start (fuel + 1) text).run (l.before (c :: t) i) =
    .ok (text, l.before (c :: t) i) := by
  have hrun : isQuotedRun c = false := by rcases hc with rfl | rfl <;> decide
  have hne : (c == 39) = false ∧ (c == 92) = false := by rcases hc with rfl | rfl <;> decide
  rw [quotedText, run_bind (takeWhile_before hv l i _)]
  simp only [List.takeWhile_cons, List.dropWhile_cons, hrun]
  rw [run_bind (peek_before l _ _ 0)]
  simp [isTwice, hne]
  rfl

theorem quotedText_apostrophe (hv : Visible (39 :: t)) (start : Mark) (fuel : Nat)
    (text : Text) (l : Line) (i : Nat) :
    (quotedText true start (fuel + 1) text).run (l.before (39 :: t) i)
      = (quotedText true start fuel (text ++ [39])).run (l.before t (i + 1)) := by
  have hrun : isQuotedRun 39 = false := by decide
  rw [quotedText, run_bind (takeWhile_before hv l i _)]
  simp only [List.takeWhile_cons, List.dropWhile_cons, hrun]
  rw [run_bind (peek_before l _ _ 0)]
  show (do forward 1; quotedText true start fuel (text ++ [] ++ [39]) : Scan Text).run
    (l.before (39 :: t) i) = _
  rw [run_bind (forward_cons hv l i), List.append_nil]

theorem quotedText_escape {c : Nat} (hc : c < 0x10000) (he : escapeOne c ≠ [c])
    (hv : Visible (escapeOne c ++ t)) (start : Mark) (fuel : Nat) (text : Text)
    (l : Line) (i : Nat) :
    (quotedText true start (fuel + 1) text).run (l.before (escapeOne c ++ t) i)
      = (quotedText true start fuel (text ++ [c])).run (l.before t (i + (escapeOne c).length)) := by
  obtain ⟨⟨rest, hrest⟩, hescape⟩ := escape_before hc he hv start l i
  have hrun : isQuotedRun 92 = false := by decide
  rw [hrest, List.cons_append] at hv hescape ⊢
  rw [quotedText, run_bind (takeWhile_before hv l i _)]
  simp only [List.takeWhile_cons, List.dropWhile_cons, hrun]
  rw [run_bind (peek_before l _ _ 0)]
  show (do quotedText true start fuel (text ++ [] ++ (← escape start)) : Scan Text).run
    (l.before (92 :: (rest ++ t)) i) = _
  rw [run_bind hescape, List.append_nil]

theorem isQuotedRun_of_escapeOne {c : Nat} (hc : c < 0x10000)
    (he : escapeOne c = [c]) (h32 : c ≠ 32) (h39 : c ≠ 39) : isQuotedRun c = true := by
  rcases escapeOne_cases hc with ⟨-, hle, hlt, h34, h92⟩ | ⟨d, -, h⟩ | h
  · have hne : c ≠ 9 ∧ c ≠ 0 := by omega
    have hbreak := isBreak_of_isVisible (isVisible_iff.mpr ⟨hle, hlt⟩)
    have hquote : isOneOf "'\"\\" c = false := by
      have : isOneOf "'\"\\" c = ([39, 34, 92] : Text).contains c := rfl
      rw [this]
      simp [h39, h34, h92]
    simp [isQuotedRun, hquote, isBlankOrEnd, isEnd, h32, hne, hbreak]
  · rw [he] at h
    exact absurd (congrArg List.length h) (by simp)
  · rw [he] at h
    exact absurd (congrArg List.length h) (by simp [hexDigits])

/-- A piece of a string without spaces, up to a space or the end. -/
theorem quotedText_flatMap {u : Text} (hu : ∀ c ∈ u, c < 0x10000 ∧ c ≠ 32) {d : CodePoint}
    (hd : d = 32 ∨ d = 34) (hv : Visible (u.flatMap escapeOne ++ d :: t))
    (start : Mark) {fuel : Nat} (hfuel : u.length < fuel) (text : Text) (l : Line) (i : Nat) :
    (quotedText true start fuel text).run (l.before (u.flatMap escapeOne ++ d :: t) i)
      = .ok (text ++ u, l.before (d :: t) (i + (u.flatMap escapeOne).length)) := by
  induction u generalizing text i fuel with
  | nil =>
    obtain ⟨fuel, rfl⟩ : ∃ k, fuel = k + 1 := ⟨fuel - 1, by omega⟩
    simpa using quotedText_stop hd hv start fuel text l i
  | cons c u ih =>
    obtain ⟨fuel, rfl⟩ : ∃ k, fuel = k + 1 := ⟨fuel - 1, by omega⟩
    simp only [List.length_cons, Nat.add_lt_add_iff_right] at hfuel
    obtain ⟨hc, hc32⟩ := hu c (by simp)
    have hrest := fun d hd => hu d (List.mem_cons_of_mem c hd)
    simp only [List.flatMap_cons, List.append_assoc, List.length_append] at hv ⊢
    by_cases he : escapeOne c = [c]
    · simp only [he, List.cons_append, List.nil_append, List.length_singleton] at hv ⊢
      by_cases h39 : c = 39
      · subst h39
        rw [quotedText_apostrophe hv, ih hrest hv.tail hfuel]
        simp [Nat.add_assoc]
      · rw [quotedText_run (isQuotedRun_of_escapeOne hc he hc32 h39) hv,
          ih hrest hv.tail (by omega)]
        simp [Nat.add_assoc]
    · rw [quotedText_escape hc he hv, ih hrest hv.of_append_right hfuel]
      simp [Nat.add_assoc]

/-- What is written for a unit begins with white space only if the unit is a space. -/
theorem escapeOne_eq_cons {c : Nat} (hc : c < 0x10000) (h32 : c ≠ 32) :
    ∃ d rest, escapeOne c = d :: rest ∧ (d == 32 || d == 9) = false := by
  rcases escapeOne_cases hc with ⟨h, hle, -⟩ | ⟨d, -, h⟩ | h
  · have h9 : c ≠ 9 := by omega
    exact ⟨c, [], h, by simp [h32, h9]⟩
  · exact ⟨92, _, h, rfl⟩
  · exact ⟨92, _, h, rfl⟩

/-- The spaces at the beginning of a string are the white space that is ahead. -/
theorem span_spaces {u : Text} (hu : ∀ c ∈ u, c < 0x10000) (t : Text) :
    (u.flatMap escapeOne ++ 34 :: t).takeWhile (fun c => c == 32 || c == 9) = u.takeWhile (· == 32)
      ∧ (u.flatMap escapeOne ++ 34 :: t).dropWhile (fun c => c == 32 || c == 9)
        = (u.dropWhile (· == 32)).flatMap escapeOne ++ 34 :: t := by
  induction u with
  | nil => exact ⟨rfl, rfl⟩
  | cons c u ih =>
    obtain ⟨htake, hdrop⟩ := ih fun d hd => hu d (List.mem_cons_of_mem c hd)
    by_cases h32 : c = 32
    · subst h32
      have he : escapeOne 32 = [32] := rfl
      simp only [List.flatMap_cons, he, List.cons_append, List.nil_append, List.takeWhile_cons,
        List.dropWhile_cons]
      exact ⟨congrArg (32 :: ·) htake, hdrop⟩
    · obtain ⟨d, rest, he, hd⟩ := escapeOne_eq_cons (hu c (by simp)) h32
      have hc : (c == 32) = false := by simpa using h32
      simp [he, hd, hc]

theorem quotedSpaces_before (hv : Visible t) (start : Mark) (l : Line) (i : Nat)
    (hrest : t.dropWhile (fun c => c == 32 || c == 9) ≠ []) :
    (quotedSpaces start).run (l.before t i)
      = .ok (t.takeWhile (fun c => c == 32 || c == 9),
        l.before (t.dropWhile (fun c => c == 32 || c == 9))
          (i + (t.takeWhile fun c => c == 32 || c == 9).length)) := by
  have hvisible : Visible (t.dropWhile (fun c => c == 32 || c == 9)) :=
    fun c hc => hv c (List.dropWhile_sublist _ |>.mem hc)
  rw [quotedSpaces, run_bind (takeWhile_before hv l i _)]
  generalize t.dropWhile (fun c => c == 32 || c == 9) = u,
    i + (t.takeWhile fun c => c == 32 || c == 9).length = j at *
  cases u with
  | nil => exact absurd rfl hrest
  | cons c u =>
    have hc := isVisible_iff.mp hvisible.head
    have h0 : (c == 0) = false := by
      have : c ≠ 0 := by rintro rfl; omega
      simpa using this
    rw [run_bind (peek_before l _ _ 0)]
    simp only [List.getD_cons_zero, h0, isBreak_of_isVisible hvisible.head]
    rfl

theorem length_le_flatMap_escapeOne {u : Text} (hu : ∀ c ∈ u, c < 0x10000) :
    u.length ≤ (u.flatMap escapeOne).length := by
  induction u with
  | nil => simp
  | cons c u ih =>
    have ih := ih fun d hd => hu d (List.mem_cons_of_mem c hd)
    have hpos : 0 < (escapeOne c).length := by
      rcases escapeOne_cases (hu c (by simp)) with ⟨h, -⟩ | ⟨d, -, h⟩ | h <;> simp [h]
    rw [List.flatMap_cons, List.length_append, List.length_cons]
    omega

/-- The rest of a string is not longer than what is written of it. -/
theorem length_lt_ahead {u : Text} (hu : ∀ c ∈ u, c < 0x10000) :
    u.length < (u.flatMap escapeOne ++ 34 :: t).length + 1 := by
  have hlength := length_le_flatMap_escapeOne hu
  rw [List.length_append]
  omega

/-- A string is written up to a place and from there on. -/
theorem flatMap_escapeOne_split (p : CodePoint → Bool) (u : Text) :
    u.flatMap escapeOne =
      (u.takeWhile p).flatMap escapeOne ++ (u.dropWhile p).flatMap escapeOne := by
  rw [← List.flatMap_append, List.takeWhile_append_dropWhile]

theorem head?_dropWhile_spaces (u : Text) : ∀ c ∈ (u.dropWhile (· != 32)).head?, c = 32 := by
  intro c hc
  cases h : u.dropWhile (· != 32) with
  | nil => simp [h] at hc
  | cons d rest =>
    have hhead := List.head_dropWhile_not (· != 32) (l := u) (by simp [h])
    simp_all

theorem flatMap_escapeOne_spaces {s : Text} (h : ∀ c ∈ s, c = 32) : s.flatMap escapeOne = s := by
  induction s with
  | nil => rfl
  | cons c rest ih =>
    have hc : c = 32 := h c (by simp)
    subst hc
    have he : escapeOne 32 = [32] := rfl
    rw [List.flatMap_cons, he, ih fun d hd => h d (by simp [hd])]
    rfl

/-- The beginning of a string, up to its first space. -/
theorem quotedText_before {u : Text} (hu : ∀ c ∈ u, c < 0x10000)
    (hv : Visible (u.flatMap escapeOne ++ 34 :: t))
    (start : Mark) {fuel : Nat} (hfuel : u.length < fuel) (text : Text) (l : Line) (i : Nat) :
    (quotedText true start fuel text).run (l.before (u.flatMap escapeOne ++ 34 :: t) i)
      = .ok (text ++ u.takeWhile (· != 32),
        l.before ((u.dropWhile (· != 32)).flatMap escapeOne ++ 34 :: t)
          (i + ((u.takeWhile (· != 32)).flatMap escapeOne).length)) := by
  have hword : ∀ c ∈ u.takeWhile (· != 32), c < 0x10000 ∧ c ≠ 32 := fun c hc =>
    ⟨hu c (List.takeWhile_sublist _ |>.mem
     hc), by simpa using List.all_eq_true.mp List.all_takeWhile c hc⟩
  have hlength : (u.takeWhile (· != 32)).length < fuel :=
    Nat.lt_of_le_of_lt (List.takeWhile_prefix _).length_le hfuel
  obtain ⟨d, more, hmore, hd⟩ : ∃ d more,
      (u.dropWhile (· != 32)).flatMap escapeOne ++ 34 :: t = d :: more ∧ (d = 32 ∨ d = 34) := by
    have hhead := head?_dropWhile_spaces u
    cases h : u.dropWhile (· != 32) with
    | nil => exact ⟨34, t, rfl, .inr rfl⟩
    | cons c rest =>
      have hc : c = 32 := hhead c (by simp [h])
      subst hc
      exact ⟨32, _, rfl, .inl rfl⟩
  rw [flatMap_escapeOne_split (· != 32) u, List.append_assoc, hmore] at hv ⊢
  exact quotedText_flatMap hword hd hv start hlength text l i

/-- The rest of a string from a space on. -/
theorem quotedPieces_flatMap {u : Text} (hu : ∀ c ∈ u, c < 0x10000) (hspace : ∀ c ∈ u.head?, c = 32)
    (hv : Visible (u.flatMap escapeOne ++ 34 :: t)) (start : Mark) {fuel : Nat}
    (hfuel : u.length < fuel) (text : Text) (l : Line) (i : Nat) :
    (quotedPieces 34 start fuel text).run (l.before (u.flatMap escapeOne ++ 34 :: t) i)
      = .ok (text ++ u, l.before (34 :: t) (i + (u.flatMap escapeOne).length)) := by
  induction fuel generalizing u text i with
  | zero => omega
  | succ fuel ih =>
    cases u with
    | nil =>
      rw [quotedPieces, run_bind (peek_before l _ i 0)]
      simp
      rfl
    | cons c rest =>
      have hc : c = 32 := hspace c rfl
      subst hc
      -- The string is cut after its spaces and after the piece that follows them.
      obtain ⟨htake, hdrop⟩ := span_spaces hu t
      have hspaces := quotedSpaces_before hv start l i (by rw [hdrop]; simp)
      rw [htake, hdrop] at hspaces
      have hcut : 32 :: rest =
        (32 :: rest).takeWhile (· == 32) ++ (32 :: rest).dropWhile (· == 32) :=
        List.takeWhile_append_dropWhile.symm
      have hspaced : ∀ c ∈ (32 :: rest).takeWhile (· == 32), c = 32 := fun c hc => by
        simpa using List.all_eq_true.mp List.all_takeWhile c hc
      have hshorter : ((32 :: rest).dropWhile (· == 32)).length ≤ rest.length :=
        (List.dropWhile_sublist (l := rest) _).length_le
      rw [quotedPieces, run_bind (peek_before l _ i 0)]
      show (do
        let spaces ← quotedSpaces start
        let more ← quotedText true start (← Scan.fuel) []
        quotedPieces 34 start fuel (text ++ spaces ++ more) : Scan Text).run _ = _
      rw [run_bind hspaces, run_bind (fuel_before l _ _)]
      generalize (32 :: rest).takeWhile (· == 32) =
        spaces, (32 :: rest).dropWhile (· == 32) = u at *
      rw [hcut] at hu hv ⊢
      have hu : ∀ c ∈ u, c < 0x10000 := fun c hc => hu c (List.mem_append_right _ hc)
      rw [List.flatMap_append, List.append_assoc] at hv
      have hwritten := flatMap_escapeOne_split (· != 32) u
      have hpiece :=
        quotedText_before hu hv.of_append_right start (length_lt_ahead (t := t) hu)
        [] l (i + spaces.length)
      have hv' := hv.of_append_right
      rw [hwritten, List.append_assoc] at hv'
      have hlength : (u.dropWhile (· != 32)).length < fuel := by
        have := (List.dropWhile_sublist (l := u) (· != 32)).length_le
        simp only [List.length_cons] at hfuel
        omega
      rw [run_bind hpiece,
        ih (fun c hc => hu c (List.dropWhile_sublist _ |>.mem hc)) (head?_dropWhile_spaces u)
        hv'.of_append_right hlength]
      rw [List.flatMap_append, flatMap_escapeOne_spaces hspaced, hwritten]
      simp only [List.nil_append, List.append_assoc, List.takeWhile_append_dropWhile,
        List.length_append, Nat.add_assoc]

/-- **A string becomes the scalar of its units.** -/
theorem quoted_before (u : Units) (hv : Visible (u.text ++ t)) (l : Line) (i : Nat) :
    quoted.run (l.before (u.text ++ t) i)
      = .ok (⟨.scalar u.val false, ⟨i, 0, i⟩, ⟨i + u.text.length, 0, i + u.text.length⟩⟩,
        l.before t (i + u.text.length)) := by
  obtain ⟨u, hu⟩ := u
  have htext : Units.text ⟨u, hu⟩ ++ t = 34 :: (u.flatMap escapeOne ++ 34 :: t) := by
    simp [Units.text, writeString]
  have hlen : (Units.text ⟨u, hu⟩).length = (u.flatMap escapeOne).length + 2 := by
    simp [Units.text, writeString]
  rw [htext] at hv ⊢
  have hwritten := flatMap_escapeOne_split (· != 32) u
  have hdrop : ∀ c ∈ u.dropWhile (· != 32), c < 0x10000 :=
    fun c hc => hu c (List.dropWhile_sublist _ |>.mem hc)
  have hv' := hv.tail
  rw [hwritten, List.append_assoc] at hv'
  rw [hlen, quoted, run_bind (mark_before l _ i), run_bind (peek_before l _ i 0),
    run_bind (forward_cons hv l i), run_bind (fuel_before l _ _)]
  simp only [List.getD_cons_zero, beq_self_eq_true]
  rw [run_bind (quotedText_before hu hv.tail ⟨i, 0, i⟩ (length_lt_ahead hu) [] l (i + 1)),
    run_bind (fuel_before l _ _)]
  rw [run_bind (quotedPieces_flatMap hdrop (head?_dropWhile_spaces u) hv'.of_append_right ⟨i, 0, i⟩
    (length_lt_ahead hdrop) _ l _)]
  rw [run_bind (forward_cons hv.tail.of_append_right l _), run_bind (mark_before l t _)]
  rw [List.nil_append, List.takeWhile_append_dropWhile, hwritten, List.length_append]
  have hindex (a b : Nat) : i + 1 + a + b + 1 = i + (a + b + 2) := by omega
  rw [hindex]
  rfl

/-! ## Words -/

/-- What no part of a word is. -/
theorem isWordPart_table : ∀ c < 128, isWordPart c = true →
    isBlankOrEnd c = false ∧ isOneOf ",?[]\x7b\x7d" c = false ∧ (c == 58) = false ∧
      (c == 35) = false := by
  decide

theorem isVisible_of_isWordPart {c : CodePoint} (h : isWordPart c = true) : isVisible c = true :=
  (by decide : ∀ c < 128, isWordPart c = true → isVisible c = true) c (isWordPart_lt h) h

theorem not_stopsPlain {c : CodePoint} (h : isWordPart c = true) (rest : Text) :
    stopsPlain true c rest = false := by
  obtain ⟨hblank, hindicator, hcolon, -⟩ := isWordPart_table c (isWordPart_lt h) h
  simp [stopsPlain, hblank, hindicator, hcolon]

theorem plainRun_ended (h : Ended t) : plainRun true t = [] := by
  cases t with
  | nil => rfl
  | cons c rest =>
    have hstops : stopsPlain true c rest = true := by
      have hindicator : isOneOf ",?[]\x7b\x7d" c = true := by rcases h with rfl | rfl | rfl <;> rfl
      simp [stopsPlain, hindicator]
    rw [plainRun, if_pos hstops]

theorem plainRun_append_ended {w : Text} (hw : ∀ c ∈ w, isWordPart c = true) (h : Ended t) :
    plainRun true (w ++ t) = w := by
  induction w with
  | nil => exact plainRun_ended h
  | cons c w ih =>
    have hc := not_stopsPlain (hw c (by simp)) (w ++ t)
    rw [List.cons_append, plainRun, hc, ih fun d hd => hw d (by simp [hd])]
    rfl

/-- What may follow a word is no space, no line break, and begins no comment. -/
theorem getD_of_ended (h : Ended t) : t.getD 0 0 ∈ ([0, 44, 93, 125] : List Nat) := by
  cases t with
  | nil => simp
  | cons c rest => rcases h with rfl | rfl | rfl <;> simp

theorem plainSpaces_ended (h : Ended t) (hv : Visible t) (l : Line) (i : Nat) :
    plainSpaces.run (l.before t i) = .ok ([], l.before t i) := by
  have htake : t.takeWhile (· == 32) = [] ∧ t.dropWhile (· == 32) = t := by
    cases t with
    | nil => exact ⟨rfl, rfl⟩
    | cons c rest => rcases h with rfl | rfl | rfl <;> exact ⟨rfl, rfl⟩
  rw [plainSpaces, run_bind (takeWhile_before hv l i _), htake.1, htake.2]
  rw [run_bind (peek_before l t _ 0), isBreak_getD hv]
  rfl

theorem takePlainRun_before {w : Text} (hw : ∀ c ∈ w, isWordPart c = true) (h : Ended t)
    (l : Line) (i : Nat) :
    (takePlainRun true).run (l.before (w ++ t) i) = .ok (w, l.before (w ++ t) i) := by
  have hrun := plainRun_append_ended hw h
  have hcolon : ((w ++ t).getD w.length 0 == 58) = false := by
    have hnext : (w ++ t).getD w.length 0 = t.getD 0 0 := by
      simp only [List.getD_eq_getElem?_getD,
        List.getElem?_append_right (Nat.le_refl w.length), Nat.sub_self]
    have hmem := getD_of_ended h
    rw [hnext]
    revert hmem
    generalize t.getD 0 0 = c
    intro hmem
    simp only [List.mem_cons, List.not_mem_nil, or_false] at hmem
    rcases hmem with rfl | rfl | rfl | rfl <;> rfl
  show (do
    if (← Scan.peek (plainRun true (w ++ t)).length) == 58 then
      let _ ← Scan.peek ((plainRun true (w ++ t)).length + 1)
    return plainRun true (w ++ t) : Scan Text).run (l.before (w ++ t) i) = _
  rw [hrun, run_bind (peek_before l _ i _), hcolon]
  rfl

/-- **A word becomes a plain scalar**, where one of the marks comes next that end a word. -/
theorem plain_before (w : Word) (h : Ended t) (hv : Visible (w.text ++ t)) (l : Line)
    (hl : l.level ≠ 0) (i : Nat) :
    plain.run (l.before (w.text ++ t) i)
      = .ok (⟨.scalar w.text true, ⟨i, 0, i⟩, ⟨i + w.text.length, 0, i + w.text.length⟩⟩,
        (l.allowing false).before t (i + w.text.length)) := by
  have hflow : Scan.inFlow.run (l.before (w.text ++ t) i) =
    .ok (true, l.before (w.text ++ t) i) := by
    show Except.ok (l.level != 0, _) = _
    rw [bne_iff_ne.mpr hl]
  have hcomment : ((w.text ++ t).getD 0 0 == 35) = false := by
    cases hw : w.text with
    | nil => exact absurd hw w.ne_nil
    | cons c rest =>
      have hc := w.parts c (by simp [hw])
      exact (isWordPart_table c (isWordPart_lt hc) hc).2.2.2
  have hempty : w.text.isEmpty = false := by simpa using w.ne_nil
  have hallow : (Scan.allowKey false).run (l.before (w.text ++ t) i)
      = .ok ((), (l.allowing false).before (w.text ++ t) i) := rfl
  have hforward := forward_before hv (l.allowing false) i (k := w.text.length) (by simp)
  rw [List.drop_left] at hforward
  have hpieces (fuel : Nat) (indent : Int) :
      (plainPieces indent (fuel + 1) [] ⟨i, 0, i⟩ []).run (l.before (w.text ++ t) i)
        = .ok ((w.text, ⟨i + w.text.length, 0, i + w.text.length⟩),
          (l.allowing false).before t (i + w.text.length)) := by
    rw [plainPieces, run_bind (peek_before l _ i 0), hcomment]
    simp only [Bool.false_eq_true, if_false]
    rw [run_bind hflow, run_bind (takePlainRun_before w.parts h l i), hempty]
    simp only [Bool.false_eq_true, if_false]
    rw [run_bind hallow, run_bind hforward, run_bind (mark_before _ t _),
      run_bind (plainSpaces_ended h hv.of_append_right _ _), run_bind (peek_before _ t _ 0),
      run_bind (column_before _ t _)]
    simp only [List.isEmpty_nil, Bool.true_or, if_true]
    rfl
  rw [plain, run_bind (mark_before l _ i), run_bind (run_get _), run_bind (fuel_before l _ i),
    run_bind (hpieces _ _)]
  rfl

end Scalar

end ToolPolicy.Yaml
