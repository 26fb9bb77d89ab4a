import ToolPolicy.Regex.Token

/-!
# Widths

How many code points a pattern can match, at least and at most. A lookbehind needs one number for
both, which `checkShape` verifies before a pattern is matched, and `hasFarLookbehind` says whether
one reaches back further than the matcher can count.

The limits are those of the engine as released in 3.11.0 to 3.11.4. The least width is cut off just
below `unboundedWidth` and the greatest at it, so a part that is wider has no single width any more,
and a lookbehind of width `lookbehindReach` or more makes no valid code.
-/

namespace ToolPolicy.Regex

/-- The width that stands for "without bound". -/
def unboundedWidth : Nat := 0xFFFFFFFF

/-- The width from which on a lookbehind reaches too far. -/
def lookbehindReach : Nat := 0x80000000

namespace Width

/-- One part after another. -/
def add (a b : Width) : Width :=
  ⟨min (a.least + b.least) (unboundedWidth - 1), min (a.most + b.most) unboundedWidth⟩

/-- One part or another. -/
def join (a b : Width) : Width := ⟨min a.least b.least, max a.most b.most⟩

/-- A part several times. -/
def times (w : Width) (least : Nat) (most : Option Nat) : Width where
  least := min (w.least * least) (unboundedWidth - 1)
  most := match most with
    | some n => min (w.most * n) unboundedWidth
    | none => if w.most = 0 then 0 else unboundedWidth

end Width

/-- The width of a pattern, given the widths of the groups it refers to. -/
def width (groups : Nat → Width) : Regex → Width
  | empty => ⟨0, 0⟩
  | one _ => ⟨1, 1⟩
  | anchor _ => ⟨0, 0⟩
  | seq a b => (width groups a).add (width groups b)
  | alt a b => (width groups a).join (width groups b)
  | rep _ least most body => (width groups body).times least most
  | capture _ body => width groups body
  | flagged _ _ body => width groups body
  | atomic body => width groups body
  | look .. => ⟨0, 0⟩
  | backref index => groups index
  | cond _ present absent => (width groups present).join (width groups absent)

/-- The name under which a kind of repetition is reported. -/
def Greed.label : Greed → Text
  | .greedy => "MAX_REPEAT"
  | .reluctant => "MIN_REPEAT"
  | .possessive => "POSSESSIVE_REPEAT"

/-- Checks what can only be checked on the whole pattern: the first lookbehind without a fixed
width, or the first repetition of a template, is a flaw. -/
def checkShape (groups : Nat → Width) (template : Bool) : Regex → Except Flaw Unit
  | seq a b => do
    checkShape groups template a
    checkShape groups template b
  | alt a b => do
    checkShape groups template a
    checkShape groups template b
  | rep greed _ _ body =>
    if template then .error ⟨.templateRepeat greed.label, none⟩
    else checkShape groups template body
  | capture _ body => checkShape groups template body
  | flagged _ _ body => checkShape groups template body
  | atomic body => checkShape groups template body
  | look behind _ body =>
    let w := width groups body
    if behind && w.least != w.most then .error ⟨.variableLookbehind, none⟩
    else checkShape groups template body
  | cond _ present absent => do
    checkShape groups template present
    checkShape groups template absent
  | _ => .ok ()

/-- Whether some lookbehind reaches further back than the matcher can count. -/
def hasFarLookbehind (groups : Nat → Width) : Regex → Bool
  | seq a b => hasFarLookbehind groups a || hasFarLookbehind groups b
  | alt a b => hasFarLookbehind groups a || hasFarLookbehind groups b
  | rep _ _ _ body => hasFarLookbehind groups body
  | capture _ body => hasFarLookbehind groups body
  | flagged _ _ body => hasFarLookbehind groups body
  | atomic body => hasFarLookbehind groups body
  | look behind _ body =>
    (behind && lookbehindReach ≤ (width groups body).least) || hasFarLookbehind groups body
  | cond _ present absent => hasFarLookbehind groups present || hasFarLookbehind groups absent
  | _ => false

end ToolPolicy.Regex
