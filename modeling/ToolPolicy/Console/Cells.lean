import ToolPolicy.Text.Class

/-!
# Cells

How many cells of the console a text takes, and the clusters of code points in it that are shown as
one picture. A joiner and the code point behind it belong to the picture before them; a selector may
make a narrow sign wide; a mark takes no cell of its own.
-/

namespace ToolPolicy.Layout

open CodePoint (cellWidth joiner colouredForm isWidened)

/-! ## Measuring -/

/-- What has been measured of a text: its cells, the last code point with a cell of its own that no
selector has followed, and whether the next code point is joined to it. -/
structure Measure where
  cells : Nat := 0
  last : Option CodePoint := none
  isJoined : Bool := false
  deriving DecidableEq, Repr

/-- Whether a selector behind what has been measured makes it wider. -/
def Measure.widens (m : Measure) : Bool := m.last.any isWidened

/-- Measures one code point more. -/
def Measure.step (m : Measure) (c : CodePoint) : Measure :=
  if m.isJoined then { m with isJoined := false }
  else if c = joiner then { m with isJoined := true }
  else if c = colouredForm then ⟨if m.widens then m.cells + 1 else m.cells, none, false⟩
  else if cellWidth c = 0 then m
  else ⟨m.cells + cellWidth c, some c, false⟩

/-- The number of cells that a text takes. -/
def cells (t : Text) : Nat := (t.foldl Measure.step {}).cells

/-- A text with blanks behind it up to a number of cells. -/
def pad (width : Nat) (t : Text) : Text := t ++ List.replicate (width - cells t) 32

/-! ## Clusters -/

/-- Code points that are shown as one picture, and the cells that it takes. -/
structure Cluster where
  text : Text
  cells : Nat
  deriving DecidableEq, Repr

/-- The clusters of the beginning of a text, the last one apart, with what
has been measured of it. -/
structure Clusters where
  done : List Cluster := []
  current : Option Cluster := none
  last : Option CodePoint := none
  isJoined : Bool := false
  deriving DecidableEq, Repr

namespace Clusters

/-- All clusters. -/
def all (s : Clusters) : List Cluster := s.done ++ s.current.toList

/-- Begins a cluster with a code point. -/
def start (s : Clusters) (c : CodePoint) (width : Nat) : Clusters :=
  { s with done := s.all, current := some ⟨[c], width⟩ }

/-- Adds a code point to the current cluster, which may become wider; without
one it begins the first. -/
def extend (s : Clusters) (c : CodePoint) (more : Nat) : Clusters :=
  match s.current with
  | some k => { s with current := some ⟨k.text ++ [c], k.cells + more⟩ }
  | none => s.start c 0

/-- Takes one code point more. -/
def step (s : Clusters) (c : CodePoint) : Clusters :=
  if s.isJoined then { s.extend c 0 with isJoined := false }
  else if c = joiner then { s.extend c 0 with isJoined := s.current.isSome }
  else if c = colouredForm && s.last.any isWidened then { s.extend c 1 with last := none }
  else if cellWidth c = 0 then s.extend c 0
  else { s.start c (cellWidth c) with last := some c }

end Clusters

/-- The clusters of a text. -/
def clusters (t : Text) : List Cluster := (t.foldl Clusters.step {}).all

end ToolPolicy.Layout
