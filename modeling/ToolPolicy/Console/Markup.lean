import ToolPolicy.Console.Action
import ToolPolicy.Console.Emoji
import ToolPolicy.Console.Style
import ToolPolicy.Fault

/-!
# Console markup

Text for the console is written with tags in brackets: `[red]` opens a style, `[/red]` closes it,
and `[/]` closes the last one that is open. A tag with an odd number of backslashes in front is
text, and of the other backslashes in front of a tag one of two is shown. What is left when the tags
are taken out is the plain text, in which names of emoji are replaced.
-/

namespace ToolPolicy.Markup

/-! ## Tags -/

/-- The code points with which a tag can begin: small letters, and the signs for colours, closing
and actions. -/
def isTagStart (c : CodePoint) : Bool :=
  CodePoint.isAsciiLower c || c == 35 || c == 47 || c == 64

/-- What stands before the closing bracket, and what follows it; no opening
bracket may come first. -/
def closing? : Text → Option (Text × Text)
  | [] => none
  | c :: rest =>
    if c = 93 then some ([], rest)
    else if c = 91 then none
    else (closing? rest).map fun (body, after) => (c :: body, after)

/-- The body of a tag after its opening bracket, and what follows the tag. -/
def tagBody? : Text → Option (Text × Text)
  | [] => none
  | c :: rest =>
    if isTagStart c then (closing? rest).map fun (body, after) => (c :: body, after) else none

theorem eq_of_closing? {t body after : Text} (h : closing? t = some (body, after)) :
    t = body ++ 93 :: after := by
  induction t generalizing body with
  | nil => simp [closing?] at h
  | cons c rest ih =>
    unfold closing? at h
    split at h
    · next hc => simp only [Option.some.injEq, Prod.mk.injEq] at h; simp [← h.1, ← h.2, hc]
    · split at h
      · simp at h
      · obtain ⟨⟨b, a⟩, hb, he⟩ := Option.map_eq_some_iff.1 h
        simp only [Prod.mk.injEq] at he
        obtain ⟨rfl, rfl⟩ := he
        rw [ih hb]
        rfl

theorem eq_of_tagBody? {t body after : Text} (h : tagBody? t = some (body, after)) :
    t = body ++ 93 :: after := by
  cases t with
  | nil => simp [tagBody?] at h
  | cons c rest =>
    rw [tagBody?] at h
    by_cases hc : isTagStart c
    · rw [if_pos hc] at h
      obtain ⟨⟨b, a⟩, hb, he⟩ := Option.map_eq_some_iff.1 h
      simp only [Prod.mk.injEq] at he
      obtain ⟨rfl, rfl⟩ := he
      rw [eq_of_closing? hb]
      rfl
    · simp [hc] at h

/-! ## Segments -/

/-- A stretch of text, or a tag with the number of backslashes in front of it. -/
inductive Segment where
  | text (t : Text)
  | tag (slashes : Nat) (body : Text)
  deriving DecidableEq, Repr

/-- The backslash. -/
def backslash : CodePoint := 92

/-- A tag as it is written. -/
def bracketed (body : Text) : Text := 91 :: body ++ [93]

/-- Puts a code point in front of segments; a backslash in front of a tag belongs to the tag. -/
def push (c : CodePoint) : List Segment → List Segment
  | .tag slashes body :: rest =>
    if c = backslash then .tag (slashes + 1) body :: rest
    else .text [c] :: .tag slashes body :: rest
  | .text t :: rest => .text (c :: t) :: rest
  | [] => [.text [c]]

/-- The segments of a text. -/
def segments : Text → List Segment
  | [] => []
  | c :: rest =>
    if c = 91 then
      match h : tagBody? rest with
      | some (body, after) =>
        have : after.length < rest.length + 1 := by
          rw [eq_of_tagBody? h]
          simp only [List.length_cons, List.length_append]
          omega
        .tag 0 body :: segments after
      | none => push c (segments rest)
    else push c (segments rest)
termination_by t => t.length

/-- A text that begins with a tag has that tag as its first segment. -/
theorem segments_tag {rest body after : Text} (h : tagBody? rest = some (body, after)) :
    segments (91 :: rest) = .tag 0 body :: segments after := by
  rw [segments, if_pos rfl]
  split
  · next b a hb =>
      rw [h] at hb
      cases hb
      rfl
  · next hn => rw [h] at hn; cases hn

/-- What stands in front of the first tag is a segment of its own. -/
theorem segments_text_tag {t rest body after : Text} (hb : 91 ∉ t) (hs : backslash ∉ t)
    (hne : t ≠ []) (h : tagBody? rest = some (body, after)) :
    segments (t ++ 91 :: rest) = .text t :: .tag 0 body :: segments after := by
  induction t with
  | nil => exact absurd rfl hne
  | cons c t ih =>
    simp only [List.mem_cons, not_or] at hb hs
    rw [List.cons_append, segments, if_neg (Ne.symm hb.1)]
    cases t with
    | nil => rw [List.nil_append, segments_tag h, push, if_neg (Ne.symm hs.1)]
    | cons d t =>
      rw [ih hb.2 hs.2 (List.cons_ne_nil d t)]
      rfl

/-! ## Escaping -/

/-- A segment written so that a tag in it is shown as text. -/
def Segment.escaped : Segment → Text
  | .text t => t
  | .tag slashes body => List.replicate (2 * slashes + 1) backslash ++ bracketed body

/-- A text with a backslash more at its end, if it ends with just one. -/
def closeBackslash (t : Text) : Text :=
  if Text.endsWith t [backslash] && !Text.endsWith t [backslash, backslash] then t ++ [backslash]
  else t

/-- A text written so that its tags are shown. -/
def escape (t : Text) : Text := closeBackslash ((segments t).flatMap Segment.escaped)

/-- A text in a style. -/
def styled (style : String) (t : Text) : Text :=
  bracketed (Text.ofString style) ++ t ++ bracketed (47 :: Text.ofString style)

/-! ## Plain text -/

/-- The control codes that are never shown: bell, backspace, vertical tab, form
feed, carriage return. -/
def isHidden (c : CodePoint) : Bool := [7, 8, 11, 12, 13].contains c

/-- A text in which no backslash stands in front of an opening bracket. -/
def openBrackets : Text → Text
  | 92 :: 91 :: rest => 91 :: openBrackets rest
  | c :: rest => c :: openBrackets rest
  | [] => []

/-- What is shown for a stretch of text. -/
def shown (t : Text) : Text := (Emoji.replace (openBrackets t)).filter fun c => !isHidden c

/-- A tag: its name, and what follows an equals sign in it. -/
structure Tag where
  name : Text
  parameters : Option Text
  deriving DecidableEq, Repr

/-- The tag with a body. -/
def Tag.ofBody (body : Text) : Tag :=
  let (name, parameters) := Text.cutAt 61 body
  ⟨name, parameters⟩

/-- The text of a tag. -/
def Tag.text (tag : Tag) : Text :=
  bracketed (tag.name ++ (tag.parameters.map fun p => 61 :: p).getD [])

/-- The fault of a tag that closes a style that is not open. -/
def unopened (tag : Tag) (position : Nat) : Fault :=
  .markup ("closing tag '" ++ tag.text ++ "' at position " ++ Text.ofNat position
    ++ " doesn't match any open tag")

/-- The fault of a tag that closes the last style when none is open. -/
def nothingOpen (position : Nat) : Fault :=
  .markup ("closing tag '[/]' at position " ++ Text.ofNat position ++ " has nothing to close")

/-- The last open tag of a name, and the open tags without it. -/
def closeNamed (name : Text) : List Tag → Option (Tag × List Tag)
  | [] => none
  | tag :: rest =>
    if tag.name = name then some (tag, rest)
    else (closeNamed name rest).map fun (closed, others) => (closed, tag :: others)

/-- The open tags that are left when one is closed; the parameters of an action are read then. -/
def close (closed : Tag) (others : List Tag) : Except Fault (List Tag) :=
  if closed.name.head? = some 64 then
    match closed.parameters.bind Action.refusal? with
    | some f => .error f
    | none => .ok others
  else .ok others

/-- The tags that are open after a tag, the last one first, each with the
normal form of its name. -/
def follow (opened : List Tag) (position : Nat) (tag : Tag) : Except Fault (List Tag) :=
  match tag.name with
  | 47 :: name => do
    let name := Text.trimBoth CodePoint.isSpace name
    if name.isEmpty then
      match opened with
      | closed :: rest => close closed rest
      | [] => throw (nothingOpen position)
    else
      match closeNamed (← Style.normal name) opened with
      | some (closed, rest) => close closed rest
      | none => throw (unopened tag position)
  | name => return { tag with name := (← Style.normal name) } :: opened

/-- A tag that closes a style which is not open is a fault. -/
theorem follow_of_unopened {opened : List Tag} {name style : Text} {parameters : Option Text}
    (hfull : (Text.trimBoth CodePoint.isSpace name).isEmpty = false)
    (hstyle : Style.normal (Text.trimBoth CodePoint.isSpace name) = .ok style)
    (hopened : closeNamed style opened = none) (position : Nat) :
    follow opened position ⟨47 :: name, parameters⟩ =
      .error (unopened ⟨47 :: name, parameters⟩ position) := by
  simp only [follow, hfull, hstyle, Bool.false_eq_true, if_false, bind, Except.bind, hopened]
  rfl

/-- What is shown for some segments, the first of which is at a position,
while some tags are open. -/
def plainFrom (opened : List Tag) (position : Nat) : List Segment → Except Fault Text
  | [] => .ok []
  | .text t :: rest => (plainFrom opened (position + t.length) rest).map (shown t ++ ·)
  | .tag slashes body :: rest =>
    let after := position + slashes + body.length + 2
    let visible := List.replicate (slashes / 2) backslash
    if slashes % 2 = 1 then
      (plainFrom opened after rest).map fun t => visible ++ shown (bracketed body) ++ t
    else
      match follow opened (position + slashes) (Tag.ofBody body) with
      | .ok opened => (plainFrom opened after rest).map (visible ++ ·)
      | .error f => .error f

/-- Reads the styles of the tags among some segments as they are needed for showing them: the words
of a tag's name, then those of its parameters. -/
def readStyles : List Segment → Except Fault Unit
  | [] => .ok ()
  | .text _ :: rest => readStyles rest
  | .tag slashes body :: rest => do
    let tag := Tag.ofBody body
    if slashes % 2 = 0 && tag.name.head? != some 47 then
      let name ← Style.normal tag.name
      let _ ← Style.ofWords? (Style.wordsOf (name ++ (tag.parameters.map fun p => 32 :: p).getD []))
    readStyles rest

/-- What is shown for a text with markup. -/
def plain? (markup : Text) : Except Fault Text := do
  let t ← plainFrom [] 0 (segments markup)
  readStyles (segments markup)
  return t

end ToolPolicy.Markup
