import ToolPolicy.Text.Basic

/-!
# Paths

A path is read once and then kept by its parts: how many slashes it begins with, and the names
between the slashes. Empty names and names that are a single dot say nothing and are dropped; two
dots are kept, because what they mean depends on the directories that are there. A path may begin
with two slashes, but three and more count as one.

Main statement: `ofText_text_ofText` (a path that has been read is read back from its text).
-/

namespace ToolPolicy

/-- A path, absolute if it begins with a slash. -/
structure Path where
  slashes : Nat
  parts : List Text
  deriving DecidableEq, Repr

namespace Path

/-- The separator of names. -/
def slash : CodePoint := 47

/-- The name that stands for the directory itself. -/
def dot : Text := [46]

/-- The name that stands for the directory around a directory. -/
def dots : Text := [46, 46]

/-- Whether a name between slashes says where to go. -/
def isPart (name : Text) : Bool := !name.isEmpty && name != dot

/-- The number of slashes that counts for a path with this many at its beginning. -/
def slashesOf (n : Nat) : Nat := if n ≤ 2 then n else 1

/-- The path that a text names. -/
def ofText (t : Text) : Path where
  slashes := slashesOf (t.takeWhile (· == slash)).length
  parts := (Text.splitOn slash t).filter isPart

/-- The text of a path; one that goes nowhere is a dot. -/
def text (p : Path) : Text :=
  if p.slashes = 0 ∧ p.parts = [] then dot
  else List.replicate p.slashes slash ++ Text.join [slash] p.parts

/-- Whether a path does not depend on the working directory. -/
def isAbsolute (p : Path) : Bool := p.slashes != 0

/-- The path of a name within the directory at a path. -/
def child (p : Path) (name : Text) : Path := { p with parts := p.parts ++ [name] }

/-- The names that are left when every pair of dots takes away the name in front of it. -/
def collapse (parts : List Text) : List Text :=
  parts.foldl (fun kept name => if name = dots then kept.dropLast else kept ++ [name]) []

/-! ## Normal paths -/

/-- A path as it is read: its names say where to go and hold no slash. -/
structure Normal (p : Path) : Prop where
  slashes_le : p.slashes ≤ 2
  isPart_of_mem : ∀ name ∈ p.parts, isPart name = true
  slash_notMem : ∀ name ∈ p.parts, slash ∉ name

theorem notMem_of_mem_splitOn {sep : CodePoint} {t piece : Text} (h : piece ∈ Text.splitOn sep t) :
    sep ∉ piece := by
  induction t generalizing piece with
  | nil => simp [Text.splitOn] at h; simp [h]
  | cons c rest ih =>
    unfold Text.splitOn at h
    split at h
    · rcases List.mem_cons.1 h with rfl | h
      · simp
      · exact ih h
    · next hc =>
      split at h
      · next hs => exact absurd hs (Text.splitOn_ne_nil sep rest)
      · next first more hs =>
        rcases List.mem_cons.1 h with rfl | h
        · intro hm
          rcases List.mem_cons.1 hm with rfl | hm
          · exact hc rfl
          · exact ih (by rw [hs]; simp) hm
        · exact ih (by rw [hs]; simp [h])

theorem slashesOf_le (n : Nat) : slashesOf n ≤ 2 := by
  unfold slashesOf
  split <;> omega

theorem normal_ofText (t : Text) : Normal (ofText t) where
  slashes_le := slashesOf_le _
  isPart_of_mem _ h := (List.mem_filter.1 h).2
  slash_notMem _ h := notMem_of_mem_splitOn (List.mem_filter.1 h).1

theorem ne_nil_of_isPart {name : Text} (h : isPart name = true) : name ≠ [] := by
  rintro rfl
  simp [isPart] at h

theorem splitOn_join {parts : List Text} (hne : parts ≠ []) (h : ∀ name ∈ parts, slash ∉ name) :
    Text.splitOn slash (Text.join [slash] parts) = parts := by
  induction parts with
  | nil => exact absurd rfl hne
  | cons name rest ih =>
    cases rest with
    | nil => exact Text.splitOn_of_notMem (h name (by simp))
    | cons second more =>
      have ih := ih (by simp) fun n hn => h n (by simp [hn])
      simp only [Text.join, List.append_assoc, List.singleton_append]
      rw [Text.splitOn_append_cons, ih, Text.splitOn_of_notMem (h name (by simp))]
      rfl

theorem filter_splitOn_replicate (n : Nat) (t : Text) :
    (Text.splitOn slash (List.replicate n slash ++ t)).filter isPart
      = (Text.splitOn slash t).filter isPart := by
  induction n with
  | zero => simp
  | succ n ih =>
    have h : isPart [] = false := rfl
    simp [List.replicate_succ, Text.splitOn, h, ih]

theorem takeWhile_join {parts : List Text} (h : ∀ name ∈ parts, slash ∉ name)
    (hp : ∀ name ∈ parts, isPart name = true) :
    (Text.join [slash] parts).takeWhile (· == slash) = [] := by
  cases parts with
  | nil => rfl
  | cons name rest =>
    have hn := h name (by simp)
    cases name with
    | nil => exact absurd rfl (ne_nil_of_isPart (hp [] (by simp)))
    | cons c more =>
      have hc : (c == slash) = false := by
        simp only [beq_eq_false_iff_ne]
        rintro rfl
        exact hn (by simp)
      cases rest with
      | nil => simp [Text.join, hc]
      | cons => simp [Text.join, hc]

theorem length_takeWhile_replicate (n : Nat) {t : Text} (h : t.takeWhile (· == slash) = []) :
    ((List.replicate n slash ++ t).takeWhile (· == slash)).length = n := by
  induction n with
  | zero => simp [h]
  | succ n => simp [List.replicate_succ, h]

/-- A normal path is read back from its text. -/
theorem ofText_text {p : Path} (h : p.Normal) : ofText p.text = p := by
  obtain ⟨slashes, parts⟩ := p
  obtain ⟨hle, hpart, hslash⟩ := h
  simp only at hle hpart hslash
  by_cases hempty : slashes = 0 ∧ parts = []
  · obtain ⟨rfl, rfl⟩ := hempty
    decide
  · have hn : slashesOf slashes = slashes := by simp [slashesOf, hle]
    simp only [text, hempty, if_false, ofText, filter_splitOn_replicate]
    congr 1
    · rw [length_takeWhile_replicate _ (takeWhile_join hslash hpart), hn]
    · cases parts with
      | nil => decide
      | cons name rest =>
        rw [splitOn_join (by simp) hslash]
        exact List.filter_eq_self.2 hpart

/-- A path that has been read is read back from its text. -/
theorem ofText_text_ofText (t : Text) : ofText (ofText t).text = ofText t :=
  ofText_text (normal_ofText t)

end Path

end ToolPolicy
