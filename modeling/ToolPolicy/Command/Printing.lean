import ToolPolicy.Console.Markup
import ToolPolicy.Console.Table
import ToolPolicy.Log

/-!
# Work that prints

A command prints text and keeps a log. It goes on to its end, or ends early with an exit code or a
fault; what was printed and logged before that stays. Text for the console is written in markup and
broken into lines; text for other programs is printed as it is.

Main statements: `output_bind_of_ok` (the output of two steps is that of the first, then that of the
second) and `bind_of_error` (after an early end nothing more happens).
-/

namespace ToolPolicy

/-- How work ends that does not go on to its end. -/
inductive Ending where
  | exit (code : Nat)
  | fault (f : Fault)
  deriving DecidableEq, Repr

/-- Work that prints and keeps a log. -/
@[ext] structure Printing (α : Type) where
  output : Text
  log : List LogRecord
  result : Except Ending α

namespace Printing

/-- One step after another; an early end of the first one ends the work. -/
def andThen {α β : Type} (first : Printing α) (second : α → Printing β) : Printing β :=
  match first.result with
  | .ok a =>
    ⟨first.output ++ (second a).output, first.log ++ (second a).log, (second a).result⟩
  | .error e => ⟨first.output, first.log, .error e⟩

instance : Monad Printing where
  pure a := ⟨[], [], .ok a⟩
  bind := andThen

/-- Ends the work with an exit code. -/
def exit {α : Type} (code : Nat) : Printing α := ⟨[], [], .error (.exit code)⟩

/-- Ends the work with a fault. -/
def fail {α : Type} (f : Fault) : Printing α := ⟨[], [], .error (.fault f)⟩

/-- Work that prints nothing. -/
def ofLogged {α : Type} (l : Logged α) : Printing α :=
  ⟨[], l.log, match l.result with
    | .ok a => .ok a
    | .error f => .error (.fault f)⟩

/-- A value or a fault, with nothing printed. -/
def lift {α : Type} (r : Except Fault α) : Printing α := ofLogged (.lift r)

/-- Prints a line as it is. -/
def write (line : Text) : Printing Unit := ⟨line ++ [10], [], .ok ()⟩

/-- The number of cells of a line of the console. -/
def consoleWidth : Nat := 120

/-- Prints lines on the console; a text that no bytes stand for cannot be printed. -/
def writeLines (lines : List Text) : Printing Unit :=
  let t := lines.flatMap (· ++ [10])
  match t.findIdx? CodePoint.isSurrogate with
  | some position => fail (.unprintable t position)
  | none => ⟨t, [], .ok ()⟩

/-- Prints text with markup on the console. -/
def say (markup : Text) : Printing Unit := do
  let t ← lift (Markup.plain? markup)
  writeLines (Layout.wrap .fold consoleWidth t)

/-- Prints a table whose cells are written in markup. -/
def showTable (columns : List Table.Column) (rows : List (List Table.Cell)) : Printing Unit := do
  let shown (cell : Table.Cell) : Except Fault Table.Cell :=
    return { cell with text := ← Markup.plain? cell.text }
  let rows ← lift (rows.mapM fun row => row.mapM shown)
  writeLines (Table.lines ⟨columns, rows⟩ consoleWidth)

section
variable {α β : Type}

@[simp] theorem output_pure (a : α) : (pure a : Printing α).output = [] := rfl

@[simp] theorem log_pure (a : α) : (pure a : Printing α).log = [] := rfl

@[simp] theorem result_pure (a : α) : (pure a : Printing α).result = .ok a := rfl

@[simp] theorem output_write (line : Text) : (write line).output = line ++ [10] := rfl

@[simp] theorem result_write (line : Text) : (write line).result = .ok () := rfl

@[simp] theorem output_ofLogged (l : Logged α) : (ofLogged l).output = [] := rfl

@[simp] theorem log_ofLogged (l : Logged α) : (ofLogged l).log = l.log := rfl

theorem result_ofLogged_of_ok {l : Logged α} {a : α} (h : l.result = .ok a) :
    (ofLogged l).result = .ok a := by
  simp [ofLogged, h]

theorem output_bind_of_ok {m : Printing α} {a : α} (f : α → Printing β) (h : m.result = .ok a) :
    (m >>= f).output = m.output ++ (f a).output := by
  simp only [bind, andThen, h]

theorem result_bind_of_ok {m : Printing α} {a : α} (f : α → Printing β) (h : m.result = .ok a) :
    (m >>= f).result = (f a).result := by
  simp only [bind, andThen, h]

theorem bind_of_error {m : Printing α} {e : Ending} (f : α → Printing β) (h : m.result = .error e) :
    m >>= f = ⟨m.output, m.log, .error e⟩ := by
  simp only [bind, andThen, h]

end

end Printing

end ToolPolicy
