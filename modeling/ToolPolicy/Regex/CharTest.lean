import ToolPolicy.Regex.Syntax
import ToolPolicy.Text.Class

/-!
# Testing one code point

What a literal, a dot and a bracketed class accept, under the options in force. Ignoring case, a
code point is compared by its lower-case form and by the other lower-case letters that share its
upper-case form. `holds_literal` and `holds_any` are the equations for plain patterns, and
`holds_iff_of_onlyLiteral?` says what a test accepts that asks for one code point.
-/

namespace ToolPolicy.Regex

open CodePoint

/-- The lower-case form that is compared when case is ignored. -/
def foldCase (ascii : Bool) (c : CodePoint) : CodePoint :=
  if ascii then asciiLower c else lower c

/-- Whether a code point has case, as far as it is ignored. -/
def hasCase (ascii : Bool) (c : CodePoint) : Bool :=
  if ascii then isAsciiLetter c else isCased c

/-- Whether an inclusive range holds a code point with case. -/
def rangeCased (ascii : Bool) (first last : CodePoint) : Bool :=
  if ascii then (first ≤ 90 && 65 ≤ last) || (first ≤ 122 && 97 ≤ last)
  else rangeHasCase first last

/-- The forms that count as the given lower-case form. -/
def sameCase (ascii : Bool) (folded : CodePoint) : List CodePoint :=
  if ascii then [folded] else folded :: siblings folded

/-- The code points whose lower-case form is the given one. -/
def foldSources (ascii : Bool) (folded : CodePoint) : List CodePoint :=
  if ascii then
    (if isAsciiUpper folded then [] else [folded])
      ++ (if isAsciiLower folded then [folded - 32] else [])
  else lowerSources folded

/-- The first code point outside the basic plane. -/
def basicPlaneEnd : CodePoint := 0x10000

namespace Category

/-- Whether a code point is in a named class. -/
def holds (ascii : Bool) (k : Category) (c : CodePoint) : Bool :=
  match k with
  | digit => if ascii then isAsciiDigit c else isDecimal c
  | notDigit => !(if ascii then isAsciiDigit c else isDecimal c)
  | space => if ascii then isAsciiSpace c else isSpace c
  | notSpace => !(if ascii then isAsciiSpace c else isSpace c)
  | word => if ascii then isAsciiWord c else isWord c
  | notWord => !(if ascii then isAsciiWord c else isWord c)

end Category

namespace ClassItem

/-- Whether a member of a class covers a code point. -/
def holds (ascii : Bool) (item : ClassItem) (c : CodePoint) : Bool :=
  match item with
  | literal a => a == c
  | range a b => a ≤ c && c ≤ b
  | category k => k.holds ascii c

/-- Whether ignoring case can make a difference to a member. -/
def isCaseSensitive (ascii : Bool) : ClassItem → Bool
  | literal a => basicPlaneEnd ≤ a || hasCase ascii a
  | range a b => basicPlaneEnd ≤ b || rangeCased ascii a b
  | category _ => false

/-- Whether a member covers a code point whose lower-case form is given. Outside the basic plane a
literal is compared as it is written, and a range by the lower-case form and its upper-case form. -/
def holdsFolded (ascii : Bool) (item : ClassItem) (folded : CodePoint) : Bool :=
  match item with
  | literal a =>
    if basicPlaneEnd ≤ a then a == folded
    else (sameCase ascii (foldCase ascii a)).contains folded
  | range a b =>
    ((sameCase ascii folded).flatMap (foldSources ascii)).any
        (fun x => a ≤ x && x ≤ b && x < basicPlaneEnd)
      || (basicPlaneEnd ≤ b && ((a ≤ folded && folded ≤ b)
        || (a ≤ upper folded && upper folded ≤ b)))
  | category k => k.holds ascii folded

end ClassItem

namespace CharTest

/-- Whether a code point is the literal, under the options. -/
def isLiteral (flags : Flags) (a c : CodePoint) : Bool :=
  if flags.ignoreCase && hasCase flags.ascii a then
    (sameCase flags.ascii (foldCase flags.ascii a)).contains (foldCase flags.ascii c)
  else a == c

/-- Whether some member of a class covers a code point, under the options. -/
def isMember (flags : Flags) (members : List ClassItem) (c : CodePoint) : Bool :=
  if flags.ignoreCase && members.any (ClassItem.isCaseSensitive flags.ascii) then
    members.any fun m => m.holdsFolded flags.ascii (foldCase flags.ascii c)
  else members.any fun m => m.holds flags.ascii c

/-- Whether a code point passes the test, under the options. -/
def holds (flags : Flags) (test : CharTest) (c : CodePoint) : Bool :=
  match test with
  | literal a => isLiteral flags a c
  | notLiteral a => !isLiteral flags a c
  | any => flags.dotAll || c != 10
  | oneOf negated members => isMember flags members c != negated

/-- The code point that a test asks for, if it accepts no other one. -/
def onlyLiteral? (flags : Flags) : CharTest → Option CodePoint
  | literal a => if flags.ignoreCase && hasCase flags.ascii a then none else some a
  | _ => none

/-- Whether a test is a class on which ignoring case makes no difference. -/
def isPlainClass (flags : Flags) : CharTest → Bool
  | oneOf _ members => !(flags.ignoreCase && members.any (ClassItem.isCaseSensitive flags.ascii))
  | _ => false

/-- Whether a test compares several forms of a code point, because case is ignored. -/
def comparesForms (flags : Flags) : CharTest → Bool
  | literal a | notLiteral a =>
    flags.ignoreCase && hasCase flags.ascii a
      && 1 < (sameCase flags.ascii (foldCase flags.ascii a)).length
  | any => false
  | oneOf _ members => flags.ignoreCase && members.any (ClassItem.isCaseSensitive flags.ascii)

theorem holds_literal {flags : Flags} (h : flags.ignoreCase = false) (a c : CodePoint) :
    (literal a).holds flags c = true ↔ a = c := by
  simp [holds, isLiteral, h]

theorem holds_iff_of_onlyLiteral? {flags : Flags} {test : CharTest} {a : CodePoint}
    (h : test.onlyLiteral? flags = some a) (c : CodePoint) :
    test.holds flags c = true ↔ a = c := by
  cases test with
  | literal b =>
    simp only [onlyLiteral?] at h
    split at h
    · simp at h
    · next hb =>
      simp only [Option.some.injEq] at h
      subst h
      rw [Bool.not_eq_true] at hb
      simp [holds, isLiteral, hb]
  | _ => simp [onlyLiteral?] at h

theorem holds_any {flags : Flags} (h : flags.dotAll = false) (c : CodePoint) :
    any.holds flags c = true ↔ c ≠ 10 := by
  simp [holds, h]

end CharTest

end ToolPolicy.Regex
