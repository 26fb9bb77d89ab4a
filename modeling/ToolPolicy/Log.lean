import ToolPolicy.Fault

/-!
# Work that keeps a log

Reading settings and preparing rules never stops at bad input: what was left out is written to a
log. `Logged α` is the log of a piece of work together with its result, which is a value or a fault.
A fault does not lose what was logged before it.

Main statements: `log_bind_of_ok` (the log of two steps is the log of the first, then that of the
second), `bind_of_error` (after a fault nothing more happens), and `Logged` is a lawful monad.
-/

namespace ToolPolicy

/-- How important a record is. -/
inductive Level where
  | debug
  | warning
  deriving DecidableEq, Repr

/-- One line of the log. -/
structure LogRecord where
  level : Level
  text : Text
  deriving DecidableEq, Repr

/-- Work that writes a log and ends with a value or a fault. -/
@[ext] structure Logged (α : Type) where
  log : List LogRecord
  result : Except Fault α

namespace Logged

/-- One step after another; a fault in the first one ends the work. -/
def andThen {α β : Type} (first : Logged α) (second : α → Logged β) : Logged β :=
  match first.result with
  | .ok a => ⟨first.log ++ (second a).log, (second a).result⟩
  | .error f => ⟨first.log, .error f⟩

instance : Monad Logged where
  pure a := ⟨[], .ok a⟩
  bind := andThen

/-- Ends the work with a fault. -/
def fail {α : Type} (f : Fault) : Logged α := ⟨[], .error f⟩

/-- A value or a fault, with nothing logged. -/
def lift {α : Type} (result : Except Fault α) : Logged α := ⟨[], result⟩

/-- Writes a record for those who look into details. -/
def debug (text : Text) : Logged Unit := ⟨[⟨.debug, text⟩], .ok ()⟩

/-- Writes a warning. -/
def warn (text : Text) : Logged Unit := ⟨[⟨.warning, text⟩], .ok ()⟩

section
variable {α β γ : Type}

@[simp] theorem log_pure (a : α) : (pure a : Logged α).log = [] := rfl

@[simp] theorem result_pure (a : α) : (pure a : Logged α).result = .ok a := rfl

@[simp] theorem log_warn (text : Text) : (warn text).log = [⟨.warning, text⟩] := rfl

@[simp] theorem result_warn (text : Text) : (warn text).result = .ok () := rfl

@[simp] theorem log_debug (text : Text) : (debug text).log = [⟨.debug, text⟩] := rfl

@[simp] theorem result_debug (text : Text) : (debug text).result = .ok () := rfl

theorem log_bind_of_ok {m : Logged α} {a : α} (f : α → Logged β) (h : m.result = .ok a) :
    (m >>= f).log = m.log ++ (f a).log := by
  simp only [bind, andThen, h]

theorem result_bind_of_ok {m : Logged α} {a : α} (f : α → Logged β) (h : m.result = .ok a) :
    (m >>= f).result = (f a).result := by
  simp only [bind, andThen, h]

theorem bind_of_error {m : Logged α} {e : Fault} (f : α → Logged β) (h : m.result = .error e) :
    m >>= f = ⟨m.log, .error e⟩ := by
  simp only [bind, andThen, h]

end

theorem id_map_eq {α : Type} (m : Logged α) : id <$> m = m := by
  obtain ⟨log, result⟩ := m
  cases result <;> simp [Functor.map, andThen]

theorem andThen_assoc {α β γ : Type} (m : Logged α) (f : α → Logged β) (g : β → Logged γ) :
    m >>= f >>= g = m >>= fun a => f a >>= g := by
  obtain ⟨log, result⟩ := m
  cases result with
  | error e => rfl
  | ok a =>
    simp only [bind, andThen]
    cases (f a).result <;> simp

instance : LawfulMonad Logged :=
  LawfulMonad.mk' Logged id_map_eq (fun _ _ => by simp [bind, andThen, pure]) andThen_assoc

end Logged

end ToolPolicy
