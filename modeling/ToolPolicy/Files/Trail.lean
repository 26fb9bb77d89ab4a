import ToolPolicy.Files.FileSystem

/-!
# Trails

The trail of a path is every place that following it can look at. Nothing outside a trail matters
for what is read at its end, so a file system that is known only along the trails of some paths
answers for these paths as the whole one does.

Main statement: `read_congr` (file systems that agree along the trail of a path give
the same bytes at its end).
-/

namespace ToolPolicy.FileSystem

/-- The place that a name leads to from another place. -/
def step (place : List Text) (name : Text) : List Text :=
  if name = Path.dots then place.dropLast else place ++ [name]

/-- The places on the way that some names lead from a place, that place included. -/
def trail (place : List Text) : List Text → List (List Text)
  | [] => [place]
  | name :: rest => place :: trail (step place name) rest

/-- The place where following a path begins. -/
def startOf (fs : FileSystem) (p : Path) : List Text :=
  if p.isAbsolute then [] else fs.workingDirectory

/-- The places that following a path can look at. -/
def trailOf (fs : FileSystem) (p : Path) : List (List Text) := trail (fs.startOf p) p.parts

/-- The file system with something at some places and nothing elsewhere. -/
def ofNodes (workingDirectory : List Text) (nodes : List (List Text × Node)) : FileSystem where
  workingDirectory
  node? place := nodes.lookup place

theorem mem_trail_self (place names : List Text) : place ∈ trail place names := by
  cases names <;> simp [trail]

theorem locate_mem_trail (fs : FileSystem) {place names final : List Text}
    (h : fs.locate place names = .ok final) : final ∈ trail place names := by
  induction names generalizing place with
  | nil =>
    cases h
    simp [trail]
  | cons name rest ih =>
    have hd : name = Path.dots → step place name = place.dropLast := fun hn => by simp [step, hn]
    have ha : name ≠ Path.dots → step place name = place ++ [name] := fun hn => by simp [step, hn]
    rw [locate] at h
    split at h
    · cases h
    · cases h
    · split at h
      · next hn => exact List.mem_cons_of_mem _ (by rw [hd hn]; exact ih h)
      · next hn =>
        split at h
        · cases h
        · split at h
          · cases h
          · exact List.mem_cons_of_mem _ (by rw [ha hn]; exact ih h)

/-- Following names depends on their trail alone. -/
theorem locate_congr {fs other : FileSystem} {place names : List Text}
    (h : ∀ q ∈ trail place names, fs.node? q = other.node? q) :
    fs.locate place names = other.locate place names := by
  induction names generalizing place with
  | nil => rfl
  | cons name rest ih =>
    have hplace := h place (mem_trail_self place _)
    have hrest : ∀ q ∈ trail (step place name) rest, fs.node? q = other.node? q :=
      fun q hq => h q (List.mem_cons_of_mem _ hq)
    have hnext := hrest _ (mem_trail_self _ _)
    have ih := ih hrest
    rw [locate, locate, hplace]
    split
    · rfl
    · rfl
    · by_cases hn : name = Path.dots
      · simpa [step, hn] using ih
      · simp only [step, hn, if_false] at ih hnext ⊢
        rw [hnext, ih]

/-- What is read at the end of a path depends on the trail of the path alone. -/
theorem read_congr {fs other : FileSystem} {p : Path}
    (hw : fs.workingDirectory = other.workingDirectory)
    (h : ∀ q ∈ fs.trailOf p, fs.node? q = other.node? q) : fs.read p = other.read p := by
  have hl : fs.follow p = other.follow p := by
    unfold follow
    split
    · rfl
    · rw [← hw]
      exact locate_congr h
  unfold read
  split
  · rfl
  · rw [← hl]
    cases hf : fs.follow p with
    | error e => rfl
    | ok final =>
      have hm : final ∈ fs.trailOf p := by
        unfold follow at hf
        split at hf
        · cases hf
        · exact locate_mem_trail fs hf
      simp [Except.bind, bytesAt, h final hm]

end ToolPolicy.FileSystem
