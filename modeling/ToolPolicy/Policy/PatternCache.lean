import ToolPolicy.Policy.Error
import ToolPolicy.Policy.Flags
import ToolPolicy.Policy.Safety
import ToolPolicy.Regex.Pattern

/-!
# Compiling rule patterns

The patterns of rules are screened, compiled under their flags, and kept in a cache under
flags and text, so that a pattern that many rules share is compiled once. A failure
leaves the cache as it was.

Main statements: `compile_of_find?` (a pattern in the cache is the answer), `find?_insert_self` and
`find?_insert_of_ne` (what an insertion changes), and `cache_of_error` (a failure changes nothing).
-/

namespace ToolPolicy

open Regex (Pattern)

/-- Why a rule pattern is not compiled. -/
inductive CompileFailure where
  | error (e : PolicyError)
  | fault (f : Fault)
  deriving Repr

/-- Compiles a rule pattern under flag letters, without a cache. -/
def compilePattern (pattern flags : Text) : Except CompileFailure Pattern :=
  if !Safety.isSafe pattern then .error (.error (.make (.nested pattern flags)))
  else match Flags.options flags with
    | .error letter => .error (.error (.make (.flag pattern flags [letter])))
    | .ok options =>
      match Pattern.compile pattern options with
      | .ok compiled => .ok compiled
      | .error (.flaw flaw) =>
        .error (.error (.make (.malformed pattern flags (flaw.message pattern))))
      | .error (.fault f) => .error (.fault f)

/-- Compiled patterns under their flags and their text, the oldest first. -/
structure PatternCache where
  entries : List ((Text × Text) × Pattern) := []
  deriving Repr

namespace PatternCache

/-- The pattern that is kept under flags and text. -/
def find? (cache : PatternCache) (pattern flags : Text) : Option Pattern :=
  (cache.entries.find? fun e => e.1 == (flags, pattern)).map (·.2)

/-- The number of patterns in the cache. -/
def size (cache : PatternCache) : Nat := cache.entries.length

/-- Keeps a pattern under flags and text. -/
def insert (cache : PatternCache) (pattern flags : Text) (compiled : Pattern) : PatternCache :=
  ⟨cache.entries ++ [((flags, pattern), compiled)]⟩

/-- Compiles a rule pattern, or takes it from the cache. -/
def compile (cache : PatternCache) (pattern flags : Text) :
    PatternCache × Except CompileFailure Pattern :=
  match cache.find? pattern flags with
  | some compiled => (cache, .ok compiled)
  | none =>
    match compilePattern pattern flags with
    | .ok compiled => (cache.insert pattern flags compiled, .ok compiled)
    | .error e => (cache, .error e)

/-- The warning for a pattern with a nested repetition. -/
def nestedWarning (pattern : Text) : LogRecord :=
  ⟨.warning, "Skipping unsafe regex (possible ReDoS): " ++ pattern⟩

/-- Compiles a rule pattern, or says in the log why there is none. -/
def compile? (cache : PatternCache) (pattern flags : Text) :
    PatternCache × Logged (Option Pattern) :=
  match cache.compile pattern flags with
  | (cache, .ok compiled) => (cache, pure (some compiled))
  | (cache, .error (.fault f)) => (cache, .fail f)
  | (cache, .error (.error e)) =>
    match e.topic with
    | .nested .. => (cache, ⟨[nestedWarning pattern], .ok none⟩)
    | _ => (cache, ⟨[⟨.debug, e.message⟩], .ok none⟩)

theorem compile_of_find? {cache : PatternCache} {pattern flags : Text} {compiled : Pattern}
    (h : cache.find? pattern flags = some compiled) :
    cache.compile pattern flags = (cache, .ok compiled) := by
  simp [compile, h]

theorem find?_insert_self {cache : PatternCache} {pattern flags : Text}
    (h : cache.find? pattern flags = none) (compiled : Pattern) :
    (cache.insert pattern flags compiled).find? pattern flags = some compiled := by
  simp only [find?, Option.map_eq_none_iff] at h
  simp [find?, insert, List.find?_append, h]

theorem find?_insert_of_ne {cache : PatternCache} {pattern flags p f : Text}
    (h : (flags, pattern) ≠ (f, p)) (compiled : Pattern) :
    (cache.insert pattern flags compiled).find? p f = cache.find? p f := by
  have hb : ((flags, pattern) == (f, p)) = false := by simpa using h
  simp only [find?, insert, List.find?_append, List.find?_cons, hb, List.find?_nil, Option.or_none]

/-- A failure leaves the cache unchanged. -/
theorem cache_of_error {cache : PatternCache} {pattern flags : Text} {e : CompileFailure}
    (h : (cache.compile pattern flags).2 = .error e) : (cache.compile pattern flags).1 = cache := by
  unfold compile at h ⊢
  split at h
  · simp at h
  · split at h
    · simp at h
    · rfl

end PatternCache

end ToolPolicy
