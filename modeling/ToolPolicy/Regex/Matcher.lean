import ToolPolicy.Regex.CharTest
import ToolPolicy.Regex.Width

/-!
# Matching

A pattern runs from a state and hands every way in which it matches, best first, to a continuation:
the first way that the continuation accepts is the outcome. What groups have recorded is part of the
state. A way that fails may leave records behind, and only the places that choose between several
ways put them back, so a failed outcome carries the records as it leaves them.

A possessive repetition ends with the first round that fails, and what comes after it goes on
from the place that was put down last, which the failed round may have moved. So a state carries
that place as well, and every part says whether it puts down where it stands. This is the engine
as released in 3.11.0 to 3.11.4. The documentation, and the releases since 3.11.5, have `x*+`
mean `(?>x*)`, which leaves nothing of a failed round behind: there `repeatPossessive` would go
on from where that round began.

`run` is by recursion on the pattern. The loops for repetitions take their body as a function and
count down a bound on the number of rounds. A round that consumes nothing is the last one, so no
round has the place and the place before of an earlier one: `roundsFor` counts the pairs of places.

Main statements: the equations of `run` at the end.
-/

namespace ToolPolicy.Regex

/-- What groups have recorded: for group `n`, the start at place `2n - 2`
and the end at `2n - 1`. -/
abbrev Marks := List (Option Nat)

namespace Marks

/-- Records a position at a place; places skipped on the way hold nothing. -/
def record (marks : Marks) (place position : Nat) : Marks :=
  if place < marks.length then marks.set place (some position)
  else marks ++ List.replicate (place - marks.length) none ++ [some position]

/-- The records to go on with after a way has failed: a place that chooses within a repetition takes
back everything, any other place only what has been added. -/
def restore (repeated : Bool) (saved left : Marks) : Marks :=
  if repeated then saved else left.take saved.length

/-- The start and the end that are recorded for a numbered group. -/
def span? (marks : Marks) (index : Nat) : Option (Nat × Nat) :=
  if marks.length < 2 * index then none
  else match marks[2 * index - 2]?, marks[2 * index - 1]? with
    | some (some first), some (some last) => some (first, last)
    | _, _ => none

/-- The start and the end of a numbered group, if it has matched. -/
def group? (marks : Marks) (index : Nat) : Option (Nat × Nat) :=
  (marks.span? index).filter fun s => s.1 ≤ s.2

/-- Whether some group is recorded with an end in front of its start. -/
def hasReversedGroup (marks : Marks) : Bool :=
  (List.range (marks.length / 2)).any fun n =>
    (marks.span? (n + 1)).any fun s => s.2 < s.1

@[simp] theorem restore_repeated (saved left : Marks) : restore true saved left = saved := rfl

@[simp] theorem restore_self (repeated : Bool) (saved : Marks) :
    restore repeated saved saved = saved := by
  cases repeated <;> simp [restore]

theorem hasReversedGroup_nil : hasReversedGroup [] = false := rfl

end Marks

/-- Where a match stands. -/
structure State where
  position : Nat
  /-- The place that was put down last. -/
  resume : Nat
  marks : Marks := []
  deriving DecidableEq, Repr

/-- How matching ends. -/
inductive Outcome where
  | found (final : State)
  | failed (resume : Nat) (marks : Marks)
  deriving DecidableEq, Repr

/-- What is left to match after a part. -/
abbrev Continuation := State → Outcome

/-- A part of a pattern, ready to run. -/
abbrev Matcher := State → Continuation → Outcome

/-- What stays the same while one text is searched. -/
structure Subject where
  text : Array CodePoint
  /-- Widths of the groups of the pattern. -/
  groupWidth : Nat → Width := fun _ => ⟨0, 0⟩

namespace State

/-- Stands at a place and puts it down. -/
def stand (s : State) (place : Nat) : State := { s with position := place, resume := place }

/-- Puts down where it stands. -/
def settle (s : State) : State := { s with resume := s.position }

/-- One code point further. -/
def next (s : State) : State := { s with position := s.position + 1 }

/-- Fails here. -/
def fail (s : State) : Outcome := .failed s.resume s.marks

end State

namespace Outcome

/-- Tries another way if this one fails. -/
def orElse (first : Outcome) (second : Nat → Marks → Outcome) : Outcome :=
  match first with
  | found final => found final
  | failed resume marks => second resume marks

/-- A failure leaves the records of a place that has tried every way restored. -/
def restoring (o : Outcome) (repeated : Bool) (saved : Marks) : Outcome :=
  match o with
  | found final => found final
  | failed resume left => failed resume (saved.restore repeated left)

/-- A failure leaves a place put down. -/
def settling (o : Outcome) (place : Nat) : Outcome :=
  match o with
  | found final => found final
  | failed _ left => failed place left

@[simp] theorem restoring_found (final : State) (repeated : Bool) (saved : Marks) :
    (found final).restoring repeated saved = found final := rfl

@[simp] theorem settling_found (final : State) (place : Nat) :
    (found final).settling place = found final := rfl

@[simp] theorem orElse_found (final : State) (second : Nat → Marks → Outcome) :
    (found final).orElse second = found final := rfl

@[simp] theorem orElse_failed (resume : Nat) (marks : Marks) (second : Nat → Marks → Outcome) :
    (failed resume marks).orElse second = second resume marks := rfl

end Outcome

/-- The end of a pattern, or of a part that is kept to its first way. -/
def accepted : Continuation := fun s => .found s.settle

namespace Anchor

/-- Whether a word character stands at a place. -/
def isWordAt (subject : Subject) (ascii : Bool) (i : Nat) : Bool :=
  match subject.text[i]? with
  | some c => Category.word.holds ascii c
  | none => false

/-- Whether word and other characters meet at a position. -/
def isBoundary (subject : Subject) (ascii : Bool) (position : Nat) : Bool :=
  let before := 0 < position && isWordAt subject ascii (position - 1)
  before != isWordAt subject ascii position

/-- Whether a condition on the position is met. -/
def holds (subject : Subject) (flags : Flags) (a : Anchor) (position : Nat) : Bool :=
  let size := subject.text.size
  match a with
  | lineStart =>
    position == 0 || (flags.multiLine && subject.text[position - 1]? == some 10)
  | lineEnd =>
    position == size || (subject.text[position]? == some 10
      && (flags.multiLine || position + 1 == size))
  | textStart => position == 0
  | textEnd => position == size
  | boundary => size != 0 && isBoundary subject flags.ascii position
  | noBoundary => size != 0 && !isBoundary subject flags.ascii position

end Anchor

/-! ## What a part begins with -/

/-- The first thing that a part does. -/
inductive Leading where
  /-- The part does nothing at all. -/
  | nothing
  /-- It tests a code point, under some options. -/
  | test (flags : Flags) (t : CharTest)
  | other
  deriving DecidableEq, Repr

/-- The first thing that a part does. -/
def leading (flags : Flags) : Regex → Leading
  | .empty => .nothing
  | .one t => .test flags t
  | .seq a b => match leading flags a with
    | .nothing => leading flags b
    | l => l
  | .flagged on off body => leading (flags.within on off) body
  | _ => .other

/-- The one code point with which a part can go on, given that of what follows it. -/
def literalAhead (flags : Flags) (r : Regex) (next : Option CodePoint) : Option CodePoint :=
  match leading flags r with
  | .nothing => next
  | .test inner t => t.onlyLiteral? inner
  | .other => none

/-- Whether a choice tries a part at a position: one that begins with a literal or a class on which
case makes no difference is tried only if that accepts what stands there. -/
def mayBegin (subject : Subject) (flags : Flags) (r : Regex) (position : Nat) : Bool :=
  match leading flags r with
  | .test inner t =>
    if (t.onlyLiteral? inner).isSome || t.isPlainClass inner then
      subject.text[position]?.any (t.holds inner)
    else true
  | _ => true

/-! ## Repetition of one code point -/

/-- Whether another round is allowed. -/
def allowsMore (most : Option Nat) (count : Nat) : Bool :=
  match most with
  | some n => count < n
  | none => true

/-- How many code points from a position on pass a test, up to a bound. -/
def countWhile (subject : Subject) (p : CodePoint → Bool) (position : Nat) : Nat → Nat
  | 0 => 0
  | n + 1 =>
    match subject.text[position]? with
    | some c => if p c then countWhile subject p (position + 1) n + 1 else 0
    | none => 0

/-- How many code points pass a test, up to the greatest count of a repetition. -/
def countUpTo (subject : Subject) (p : CodePoint → Bool) (most : Option Nat) (position : Nat) :
    Nat :=
  let left := subject.text.size - position
  countWhile subject p position (match most with
    | some n => min n left
    | none => left)

/-- A test that is repeated. -/
structure RepeatedTest where
  holds : CodePoint → Bool
  /-- Whether the place is put down after every code point that passes. -/
  settles : Bool

/-- The test of a part that stands for one code point. -/
def repeatedTest? (flags : Flags) : Regex → Option RepeatedTest
  | .one test => some ⟨test.holds flags, test.comparesForms flags⟩
  | .flagged on off body => repeatedTest? (flags.within on off) body
  | _ => none

/-- Continues after the given number of code points beyond the least count, then after one fewer,
and so on; if one code point has to follow, only where it stands. -/
def giveBack (subject : Subject) (next : Option CodePoint) (repeated : Bool) (start : State)
    (least : Nat) (k : Continuation) : Nat → Nat → Marks → Outcome
  | extra, resume, marks =>
    let place := start.position + least + extra
    let tried : Outcome :=
      if next.all fun c => subject.text[place]? == some c then k ⟨place, place, marks⟩
      else .failed resume marks
    match extra with
    | 0 => tried.restoring repeated start.marks
    | extra + 1 =>
      tried.orElse fun resume left =>
        giveBack subject next repeated start least k extra resume
          (start.marks.restore repeated left)

/-- Continues after the least count, then after one more code point as long as the test passes. -/
def takeMore (subject : Subject) (test : RepeatedTest) (repeated : Bool) (start : State)
    (least : Nat) (k : Continuation) : Nat → Nat → Marks → Outcome
  | taken, 0, marks =>
    let place := start.position + least + taken
    let beyond := test.settles && subject.text[place]?.any test.holds
    ((k ⟨place, place, marks⟩).restoring repeated start.marks).settling
      (if beyond then place + 1 else place)
  | taken, more + 1, marks =>
    let place := start.position + least + taken
    (k ⟨place, place, marks⟩).orElse fun _ left =>
      takeMore subject test repeated start least k (taken + 1) more
        (start.marks.restore repeated left)

/-- A repetition of a test of one code point. -/
def repeatTest (subject : Subject) (next : Option CodePoint) (repeated : Bool) (test : RepeatedTest)
    (greed : Greed) (least : Nat) (most : Option Nat) : Matcher := fun s k =>
  if subject.text.size - s.position < least then s.fail
  else
    let count := countUpTo subject test.holds most s.position
    let counted := match greed with
      | .reluctant => min count least
      | _ => count
    let resume := if test.settles then s.position + counted else s.position
    if count < least then .failed resume s.marks
    else match greed with
      | .greedy => giveBack subject next repeated s least k (count - least) resume s.marks
      | .reluctant => takeMore subject test repeated s least k 0 (count - least) s.marks
      | .possessive => k { s with position := s.position + count, resume }

/-! ## Repetition of a part -/

/-- How many rounds a repetition can take. -/
def roundsFor (subject : Subject) (least : Nat) : Nat :=
  least + (subject.text.size + 2) * (subject.text.size + 2)

/-- As many rounds as possible; `last` is where the round before began, once the least count is
reached. -/
def repeatGreedy (body : Matcher) (least : Nat) (most : Option Nat) (k : Continuation) :
    Nat → Nat → Option Nat → State → Outcome
  | 0, _, _, s => s.fail
  | rounds + 1, count, last, s =>
    if count < least then
      (body s.settle (repeatGreedy body least most k rounds (count + 1) last)).settling s.position
    else if allowsMore most count && last != some s.position then
      (body s.settle
          (repeatGreedy body least most k rounds (count + 1) (some s.position))).orElse
        fun _ _ => (k s.settle).settling s.position
    else (k s.settle).settling s.position

/-- As few rounds as possible. -/
def repeatReluctant (repeated : Bool) (body : Matcher) (least : Nat) (most : Option Nat)
    (k : Continuation) : Nat → Nat → Option Nat → State → Outcome
  | 0, _, _, s => s.fail
  | rounds + 1, count, last, s =>
    if count < least then
      (body s.settle (repeatReluctant repeated body least most k rounds (count + 1) last)).settling
        s.position
    else
      (k s.settle).orElse fun _ left =>
        let s := { s.settle with marks := s.marks.restore repeated left }
        if allowsMore most count && last != some s.position then
          (body s (repeatReluctant repeated body least most k rounds (count + 1)
            (some s.position))).settling s.position
        else s.fail

/-- As many rounds as possible, each kept to the first way in which it matches. A round that fails
beyond the least count is the last one, and leaves the place that it put down, as in the releases
3.11.0 to 3.11.4. -/
def repeatPossessive (body : Matcher) (least : Nat) (most : Option Nat) (start : Nat) :
    Nat → Nat → Option Nat → State → Outcome
  | 0, _, _, s => .found s
  | rounds + 1, count, last, s =>
    if count < least then
      match body s accepted with
      | .found next => repeatPossessive body least most start rounds (count + 1) last next
      | .failed _ left => .failed start left
    else if allowsMore most count && last != some s.position then
      match body s accepted with
      | .found next =>
        repeatPossessive body least most start rounds (count + 1) (some s.position) next
      | .failed resume _ => .found (s.stand resume)
    else .found s

/-- A repetition of a part that may match in several ways. -/
def repeatPart (subject : Subject) (repeated : Bool) (body : Bool → Matcher) (greed : Greed)
    (least : Nat) (most : Option Nat) : Matcher := fun s k =>
  let rounds := roundsFor subject least
  match greed with
  | .greedy => repeatGreedy (body true) least most k rounds 0 none s
  | .reluctant => repeatReluctant repeated (body true) least most k rounds 0 none s
  | .possessive =>
    match repeatPossessive (body repeated) least most s.position rounds 0 none s.settle with
    | .found final => k final
    | .failed resume left => .failed resume left

/-! ## Patterns -/

/-- Matches a given stretch of the text once more. -/
def repeatStretch (subject : Subject) (flags : Flags) (first last position : Nat) : Option Nat :=
  let same (a b : CodePoint) : Bool :=
    if flags.ignoreCase then foldCase flags.ascii a == foldCase flags.ascii b else a == b
  let size := last - first
  let earlier := (subject.text.extract first last).toList
  let here := (subject.text.extract position (position + size)).toList
  if here.length = size && (earlier.zip here).all (fun (a, b) => same a b) then
    some (position + size)
  else none

/-- Runs a pattern. `repeated` says whether it stands within a repetition that keeps count of a
part, `next` is the code point that has to follow it, if there is only one. -/
def run (subject : Subject) : Flags → Bool → Option CodePoint → Regex → Matcher
  | _, _, _, .empty, s, k => k s
  | flags, _, _, .one test, s, k =>
    if subject.text[s.position]?.any (test.holds flags) then k s.next else s.fail
  | flags, _, _, .anchor a, s, k =>
    if a.holds subject flags s.position then k s else s.fail
  | flags, repeated, next, .seq a b, s, k =>
    run subject flags repeated (literalAhead flags b next) a s fun s =>
      run subject flags repeated next b s k
  | flags, repeated, _, .alt a b, s, k =>
    let first := if mayBegin subject flags a s.position
      then run subject flags repeated none a s.settle k else s.fail
    (first.orElse fun resume left =>
      let s := { s with resume, marks := s.marks.restore repeated left }
      if b.isChoice then run subject flags repeated none b s k
      else if mayBegin subject flags b s.position
      then run subject flags repeated none b s.settle k else s.fail).restoring repeated s.marks
  | flags, repeated, next, .rep greed least most body, s, k =>
    match repeatedTest? flags body with
    | some test => repeatTest subject next repeated test greed least most s k
    | none =>
      repeatPart subject repeated (fun within => run subject flags within none body) greed least
        most s k
  | flags, repeated, _, .capture index body, s, k =>
    run subject flags repeated none body
      { s with marks := s.marks.record (2 * index - 2) s.position } fun s =>
        k { s with marks := s.marks.record (2 * index - 1) s.position }
  | flags, repeated, next, .flagged on off body, s, k =>
    run subject (flags.within on off) repeated next body s k
  | flags, repeated, _, .atomic body, s, k =>
    match run subject flags repeated none body s.settle accepted with
    | .found final => k final
    | .failed _ left => .failed s.position left
  | flags, repeated, _, .look behind negated body, s, k =>
    let back := if behind then (width subject.groupWidth body).least else 0
    if s.position < back then
      if negated then k s else s.fail
    else
      match negated,
        run subject flags repeated none body (s.stand (s.position - back)) accepted with
      | false, .found final => k { final with position := s.position }
      | false, .failed resume left => .failed resume left
      | true, .found final => .failed final.resume final.marks
      | true, .failed resume left => k { s with resume, marks := s.marks.restore repeated left }
  | flags, _, _, .backref index, s, k =>
    match s.marks.group? index with
    | none => s.fail
    | some (first, last) =>
      match repeatStretch subject flags first last s.position with
      | some position => k { s with position }
      | none => s.fail
  | flags, repeated, next, .cond index present absent, s, k =>
    match s.marks.group? index with
    | some _ =>
      run subject flags repeated (if absent = .empty then next else none) present s k
    | none => run subject flags repeated next absent s k

/-! ## Equations -/

section
variable (subject : Subject) (flags : Flags) (repeated : Bool) (next : Option CodePoint) (s : State)
  (k : Continuation)

@[simp] theorem run_empty : run subject flags repeated next .empty s k = k s := rfl

@[simp] theorem run_seq (a b : Regex) : run subject flags repeated next (.seq a b) s k =
    run subject flags repeated (literalAhead flags b next) a s fun s =>
      run subject flags repeated next b s k := rfl

@[simp] theorem run_flagged (on off : Flags) (body : Regex) :
    run subject flags repeated next (.flagged on off body) s k =
      run subject (flags.within on off) repeated next body s k := rfl

end

end ToolPolicy.Regex
