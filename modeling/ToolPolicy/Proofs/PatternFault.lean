import ToolPolicy.Proofs.Alternatives
import ToolPolicy.Proofs.PartFault

/-!
# Faults of whole patterns

Groups and sequences are read by functions that call one another on fuel. Two things could go wrong
in them that go wrong nowhere else: that the fuel does not last, which would count as a fault, and
that groups are nested too deeply. Neither happens without a sign. Each token that is taken makes up
for six calls, so that the fuel lasts for any text; and the depth grows by two only where an opening
parenthesis is taken. So a pattern ends in a fault only if its text shows it.

* `Room`: how the rest of the text bounds the calls that are left and the depth.
* `Calls`, `GoesOn`: what a group and a sequence rely on in the readers that they call, with a lemma
  for each kind of group and each kind of token.
* `FaultsSigned`: what the readers of groups and sequences keep to, and `faultsSigned` by induction
  on the fuel.
* `sign_of_parse`: the faults of whole patterns.
-/

namespace ToolPolicy.Regex

open Reading

/-! ## Lookbehinds of a tree -/

/-- A part that looks behind only if the text does. -/
def Shown (source : Text) (r : Regex) : Prop := looksBehind r = true → LooksBehind source

section
variable {source : Text}

theorem shown_of_not {r : Regex} (h : looksBehind r = false) : Shown source r := by
  intro hr
  rw [h] at hr
  cases hr

theorem composes_shown (source : Text) : Composes (Shown source) where
  empty := shown_of_not rfl
  one _ := shown_of_not rfl
  seq ha hb h := (Bool.or_eq_true_iff.1 h).elim ha hb
  alt ha hb h := (Bool.or_eq_true_iff.1 h).elim ha hb

theorem shown_cond {index : Nat} {present absent : Regex} (hp : Shown source present)
    (ha : Shown source absent) : Shown source (.cond index present absent) := fun h =>
  (Bool.or_eq_true_iff.1 h).elim hp ha

theorem shown_items {r : Regex} (h : Shown source r) : ∀ q ∈ r.items, Shown source q := by
  induction r with
  | empty => exact fun q hq => (by cases hq)
  | seq a b iha ihb =>
      intro q hq
      rcases List.mem_append.1 hq with hq | hq
      · exact iha (fun ha => h (Bool.or_eq_true_iff.2 (Or.inl ha))) q hq
      · exact ihb (fun hb => h (Bool.or_eq_true_iff.2 (Or.inr hb))) q hq
  | _ =>
      intro q hq
      cases List.mem_singleton.1 hq
      exact h

theorem shown_dissolveGroups {parts : List Regex} (h : ∀ r ∈ parts, Shown source r) :
    ∀ q ∈ dissolveGroups parts, Shown source q := by
  intro q hq
  obtain ⟨r, hr, hq⟩ := List.mem_flatMap.1 hq
  split at hq
  · next on off body =>
      have hbody : Shown source body := h (.flagged on off body) hr
      split at hq
      · exact shown_items hbody q hq
      · cases List.mem_singleton.1 hq
        exact h _ hr
  · cases List.mem_singleton.1 hq
    exact h _ hr

theorem looksBehind_of_far {groups : Nat → Width} {r : Regex}
    (h : hasFarLookbehind groups r = true) : looksBehind r = true := by
  induction r with
  | seq a b iha ihb => exact Bool.or_eq_true_iff.2 ((Bool.or_eq_true_iff.1 h).imp iha ihb)
  | alt a b iha ihb => exact Bool.or_eq_true_iff.2 ((Bool.or_eq_true_iff.1 h).imp iha ihb)
  | cond index a b iha ihb => exact Bool.or_eq_true_iff.2 ((Bool.or_eq_true_iff.1 h).imp iha ihb)
  | rep greed least most body ih => exact ih h
  | capture index body ih => exact ih h
  | flagged on off body ih => exact ih h
  | atomic body ih => exact ih h
  | look behind negated body ih =>
      refine Bool.or_eq_true_iff.2 ((Bool.or_eq_true_iff.1 h).imp (fun h => ?_) ih)
      exact (Bool.and_eq_true_iff.1 h).1
  | _ => cases h

/-! ## Room for calls -/

/-- The rest of a text for which the fuel lasts, after some opening parentheses. -/
structure Room (source : Text) (need fuel opened : Nat) (r : Text) : Prop where
  suffix : r <:+ source
  calls : 6 * r.length + need ≤ fuel
  opened : opened + r.count 40 ≤ source.count 40

namespace Room

variable {need need' fuel fuel' opened opened' : Nat} {a r : Text}

theorem known : Known source (Room source need fuel opened) where
  drop {a r} h := by
    refine ⟨(List.suffix_append a r).trans h.suffix, ?_, ?_⟩
    · have := h.calls
      rw [List.length_append] at this
      omega
    · have := h.opened
      rw [List.count_append] at this
      omega
  suffix h := h.suffix

theorem mono (h : Room source need fuel opened r) (hcalls : need' + fuel ≤ fuel' + need)
    (hopened : opened' ≤ opened) : Room source need' fuel' opened' r := by
  have hfuel := h.calls
  have hcount := h.opened
  exact ⟨h.suffix, by omega, by omega⟩

/-- Taking a token makes up for six calls. -/
theorem take {t : Token} (h : Room source need (fuel + 1) opened (t.text ++ r))
    (hneed : need' ≤ need + 5) : Room source need' fuel opened r := by
  have hfuel := h.calls
  have hlength : 1 ≤ t.text.length := by cases t <;> simp [Token.text]
  rw [List.length_append] at hfuel
  exact ⟨(known.drop h).suffix, by omega, (known.drop h).opened⟩

/-- Taking an opening parenthesis makes room for two more levels. -/
theorem enter (h : Room source need (fuel + 1) opened (40 :: r)) (hneed : need' ≤ need + 5) :
    Room source need' fuel (opened + 1) r := by
  have hfuel := h.calls
  have hcount := h.opened
  rw [List.length_cons] at hfuel
  rw [List.count_cons_self] at hcount
  exact ⟨(known.tail h).suffix, by omega, by omega⟩

end Room

/-! ## Groups and sequences -/

/-- Parts that are shown, and a state with something known of the rest of the text. -/
def PartsShown (source : Text) (K : Text → Prop) (parts : List Regex) (s : Reader) : Prop :=
  (∀ r ∈ parts, Shown source r) ∧ s.Ahead source K

/-- A group that is shown if it is a part, and a state with something known of the rest of the
text. -/
def GroupShown (source : Text) (K : Text → Prop) (outcome : GroupOutcome) (s : Reader) : Prop :=
  (∀ r, outcome = .part r → Shown source r) ∧ s.Ahead source K

variable {fuel : Nat} {K : Text → Prop}

theorem groupShown_part {r : Regex} (hr : Shown source r) {s : Reader} (hs : s.Ahead source K) :
    GroupShown source K (.part r) s := by
  refine ⟨?_, hs⟩
  rintro q ⟨⟩
  exact hr

/-- What everything in a text keeps to: its faults have their signs, its lookbehinds are shown, and
the fuel lasts. -/
structure FaultsSigned (source : Text) (fuel : Nat) : Prop where
  sequence : ∀ verbose depth first parts need opened, depth ≤ 2 * opened + 1 →
    (∀ r ∈ parts, Shown source r) →
    Signed source (Reader.Ahead source (Room source (need + 1) fuel opened))
      (readSequence fuel verbose depth first parts)
      (PartsShown source (Room source (need + 1) fuel opened))
  others : ∀ verbose depth need opened, depth ≤ 2 * opened →
    Signed source (Reader.Ahead source (Room source (need + 1) fuel opened))
      (readOthers fuel verbose depth) fun others s =>
        (∀ parts ∈ others, ∀ r ∈ parts, Shown source r) ∧
          s.Ahead source (Room source (need + 1) fuel opened)
  alternatives : ∀ verbose depth need opened, depth ≤ 2 * opened →
    Signed source (Reader.Ahead source (Room source (need + 2) fuel opened))
      (readAlternatives fuel verbose depth)
      (PartsShown source (Room source (need + 2) fuel opened))
  body : ∀ verbose depth start need opened, depth + 1 ≤ 2 * opened →
    Signed source (Reader.Ahead source (Room source (need + 3) fuel opened))
      (readBody fuel verbose depth start) fun body s =>
        Shown source body ∧ s.Ahead source (Room source (need + 3) fuel opened)
  capture : ∀ verbose depth start name need opened, depth + 1 ≤ 2 * opened →
    Signed source (Reader.Ahead source (Room source (need + 4) fuel opened))
      (readCapture fuel verbose depth start name)
      (GroupShown source (Room source (need + 4) fuel opened))
  group : ∀ verbose depth start first need opened, depth + 1 ≤ 2 * opened →
    Signed source (Reader.Ahead source (Behind source [40] (Room source (need + 5) fuel opened)))
      (readGroup fuel verbose depth start first)
      (GroupShown source (Room source (need + 5) fuel opened))

/-! ## Kinds of groups -/

/-- A reference to a named group. -/
theorem readReference_signed (name : Text) : Signed source (Reader.Ahead source K) (do
      let s ← get
      match s.names.find? (·.1 == name) with
      | none => flaw (.unknownGroupName name) (name.length + 1)
      | some (_, index) =>
        if !s.isClosed index then flaw .openGroup (name.length + 1)
        checkLookbehind index
        return .part (.backref index)) (GroupShown source K) := by
  refine .bind .get_same fun s => ?_
  split
  · exact .flaw
  split
  · exact .bind_never .flaw
  · refine .bind (checkLookbehind_signed _) fun _ => .pure fun _ => ?_
    exact groupShown_part (shown_of_not rfl)

/-- What a group relies on in the readers that it calls. -/
structure Calls (source : Text) (K : Text → Prop) (fuel depth start : Nat) : Prop where
  known : Known source K
  capture : ∀ verbose name, Signed source (Reader.Ahead source K)
    (readCapture fuel verbose depth start name) (GroupShown source K)
  body : ∀ verbose, Signed source (Reader.Ahead source K)
    (readBody fuel verbose depth start) fun body s => Shown source body ∧ s.Ahead source K
  alternatives : ∀ verbose, Signed source (Reader.Ahead source K)
    (readAlternatives fuel verbose (depth + 1)) (PartsShown source K)
  sequence : ∀ verbose, Signed source (Reader.Ahead source K)
    (readSequence fuel verbose (depth + 1) false []) (PartsShown source K)

namespace Calls

variable {depth start : Nat} (h : Calls source K fuel depth start) (verbose : Bool)
include h

/-- A group with something around its body. -/
theorem around (part : Regex → Regex)
    (hpart : ∀ body, Shown source body → Shown source (part body)) :
    Signed source (Reader.Ahead source K) (do
      let body ← readBody fuel verbose depth start
      return .part (part body)) (GroupShown source K) :=
  .bind (h.body verbose) fun body => .assuming fun hbody => .pure fun _ hs =>
    groupShown_part (hpart body hbody) hs

theorem named (terminator : CodePoint) {f : Text → Reading GroupOutcome}
    (hf : ∀ name, Signed source (Reader.Ahead source K) (f name) (GroupShown source K)) :
    Signed source (Reader.Ahead source K) (do
      let name ← takeName terminator "group name"
      checkGroupName name 1
      f name) (GroupShown source K) := by
  refine .bind (takeName_signed terminator _) fun name => .bind ?_ fun _ => hf name
  exact (checkGroupName_signed name 1).weaken fun s hs =>
    ⟨hs.proper, h.known.tail (h.known.drop hs.rest)⟩

/-- A group that is marked by a letter, after that letter. -/
theorem marked : Signed source (Reader.Ahead source K) (do
      match ← take with
      | none => flaw .unexpectedEnd
      | some t =>
        if t = .plain '<' then
          let name ← takeName '>' "group name"
          checkGroupName name 1
          readCapture fuel verbose depth start (some name)
        else if t = .plain '=' then
          let name ← takeName ')' "group name"
          checkGroupName name 1
          let s ← get
          match s.names.find? (·.1 == name) with
          | none => flaw (.unknownGroupName name) (name.length + 1)
          | some (_, index) =>
            if !s.isClosed index then flaw .openGroup (name.length + 1)
            checkLookbehind index
            return .part (.backref index)
        else flaw (.unknownExtension ('P'.toNat :: t.text)) (t.length + 2))
          (GroupShown source K) := by
  refine .bind takeAny_signed fun t? => ?_
  split
  · exact .flaw
  next t =>
  refine .weaken ?_ fun s hs => hs.drop h.known
  split
  · exact h.named _ fun name => h.capture verbose (some name)
  split
  · exact h.named _ readReference_signed
  · exact .flaw

/-- A lookbehind, after its sign. -/
theorem lookbehind (negated : Bool) (hbehind : LooksBehind source) :
    Signed source (Reader.Ahead source K) (do
      let outer := (← get).lookbehind
      modify fun s => { s with lookbehind := outer.orElse fun _ => some s.groupCount }
      let body ← readAlternatives fuel verbose (depth + 1)
      modify fun s => { s with lookbehind := outer }
      closeParenthesis start
      return .part (.look true negated (.ofItems body))) (GroupShown source K) := by
  refine .bind .get_same fun s => .bind (setLookbehind_signed _) fun _ => ?_
  refine .bind (h.alternatives verbose) fun body => .assuming fun _ => ?_
  refine .bind (setLookbehind_signed _) fun _ => ?_
  refine .bind (closeParenthesis_signed h.known start) fun _ => ?_
  exact .pure fun _ => groupShown_part fun _ => hbehind

/-- A lookbehind, from its sign on. -/
theorem behindSign : Signed source (Reader.Ahead source (Behind source [40, 63, 60] K)) (do
      match ← take with
      | none => flaw .unexpectedEnd
      | some t =>
        if t = .plain '=' || t = .plain '!' then
          let outer := (← get).lookbehind
          modify fun s => { s with lookbehind := outer.orElse fun _ => some s.groupCount }
          let body ← readAlternatives fuel verbose (depth + 1)
          modify fun s => { s with lookbehind := outer }
          closeParenthesis start
          return .part (.look true (t == .plain '!') (.ofItems body))
        else flaw (.unknownExtension ('<'.toNat :: t.text)) (t.length + 2))
          (GroupShown source K) := by
  refine .bind takeAny_signed fun t? => ?_
  split
  · exact .flaw
  next t =>
  split
  · next ht =>
      refine .weaken (.assuming fun hsource => h.lookbehind verbose _ hsource) fun s hs => ?_
      refine ⟨?_, (hs.push h.known).behind⟩
      have hfound := (hs.push h.known).rest.found
      rw [Bool.or_eq_true, decide_eq_true_eq, decide_eq_true_eq] at ht
      rcases ht with rfl | rfl
      · exact Or.inl hfound
      · exact Or.inr hfound
  · exact .flaw

/-- A condition, after the group that it asks for. -/
theorem condition (index : Nat) : Signed source (Reader.Ahead source K) (do
      let present ← readSequence fuel verbose (depth + 1) false []
      let absent ←
        if ← accept '|' then
          let absent ← readSequence fuel verbose (depth + 1) false []
          if (← peek) = some (.plain '|') then flaw .thirdBranch
          pure absent
        else pure []
      closeParenthesis start
      return .part (.cond index (.ofItems present) (.ofItems absent))) (GroupShown source K) := by
  refine .bind (h.sequence verbose) fun present => .assuming fun hpresent => ?_
  have hclose : ∀ absent, Signed source (PartsShown source K absent) (do
      closeParenthesis start
      return GroupOutcome.part (.cond index (.ofItems present) (.ofItems absent)))
        (GroupShown source K) := by
    intro absent
    refine .assuming fun habsent => .bind (closeParenthesis_signed h.known start) fun _ => ?_
    refine .pure fun _ => groupShown_part (shown_cond ?_ ?_)
    · exact (composes_shown source).ofItems hpresent
    · exact (composes_shown source).ofItems habsent
  refine .bind (accept_signed 124) fun more => .weaken ?_ fun s hs =>
    hs.drop h.known
  split
  · refine .bind (h.sequence verbose) fun absent => .bind .peek_same fun t? => ?_
    refine .weaken ?_ fun s hs => hs.2
    split
    · exact .bind_never .flaw
    · exact .bind (.pure fun s hs => hs) hclose
  · exact .bind (.pure fun s hs => ⟨fun _ h => (by cases h), hs⟩) hclose

theorem group (first : Bool) : Signed source (Reader.Ahead source (Behind source [40] K))
    (readGroup (fuel + 1) verbose depth start first) (GroupShown source K) := by
  rw [readGroup]
  refine .bind (accept_signed 63) fun extended => ?_
  cases extended with
  | false => exact (h.capture verbose none).weaken fun s hs => hs.behind
  | true =>
      refine .weaken ?_ fun s hs => (hs.push h.known :
        s.Ahead source (Behind source [40, 63] K))
      simp only [Bool.not_true, Bool.false_eq_true, if_false]
      refine .bind takeAny_signed fun t? => ?_
      split
      · exact .flaw
      · exact .flaw
      next c =>
      have hrest : ∀ s : Reader, s.Ahead source (fun r => Behind source [40, 63] K ([c] ++ r)) →
          s.Ahead source K := fun s hs => (hs.push h.known).behind
      split
      · exact (h.marked verbose).weaken hrest
      split
      · exact (h.around verbose (.flagged {} {} ·) fun _ => id).weaken hrest
      split
      · refine .weaken ?_ hrest
        refine .bind .get_same fun s => .bind (skipComment_signed h.known _ _) fun _ => ?_
        exact .pure fun s hs => ⟨fun r hr => (by cases hr), hs⟩
      split
      · exact (h.around verbose (.look false (c == '!') ·) fun _ hbody => hbody).weaken hrest
      split
      · next hbehind =>
          subst hbehind
          exact (h.behindSign verbose).weaken fun s hs => hs.push h.known
      split
      · exact .bind ((readCondition_signed h.known).weaken hrest) (h.condition verbose)
      split
      · exact (h.around verbose .atomic fun _ => id).weaken hrest
      split
      · next hoption =>
          rw [Bool.or_eq_true, decide_eq_true_eq] at hoption
          refine .bind (readOptions_signed h.known hoption) fun options => ?_
          split
          · split
            · exact .bind .get_same fun s => .bind_never .flaw
            · exact .pure fun s hs => ⟨fun r hr => (by cases hr), hs⟩
          · exact h.around _ (.flagged _ _ ·) fun _ => id
      · exact .flaw

end Calls

/-! ## Kinds of tokens -/

/-- What a sequence relies on where it goes on after a token. -/
structure GoesOn (source : Text) (K K' : Text → Prop) (fuel depth : Nat) (first : Bool) : Prop where
  known : Known source K
  sequence : ∀ verbose parts, (∀ r ∈ parts, Shown source r) →
    Signed source (Reader.Ahead source K) (readSequence fuel verbose depth first parts)
      (PartsShown source K')

namespace GoesOn

variable {K' : Text → Prop} {depth : Nat} {first : Bool} {parts : List Regex}
  (h : GoesOn source K K' fuel depth first) (verbose : Bool)
  (hparts : ∀ r ∈ parts, Shown source r)
include h hparts

theorem push {r : Regex} (hr : Shown source r) : Signed source (Reader.Ahead source K)
    (readSequence fuel verbose depth first (r :: parts)) (PartsShown source K') :=
  h.sequence verbose _ (List.forall_mem_cons.2 ⟨hr, hparts⟩)

/-- One more part that does not look behind. -/
theorem leaf {r : Regex} (hr : looksBehind r = false) : Signed source (Reader.Ahead source K)
    (readSequence fuel verbose depth first (r :: parts)) (PartsShown source K') :=
  h.push verbose hparts (shown_of_not hr)

theorem escape (c : CodePoint) :
    Signed source (Reader.Ahead source (Behind source [92, c] K)) (do
      let r ← readEscape c
      readSequence fuel verbose depth first (r :: parts)) (PartsShown source K') :=
  .bind (readEscape_signed h.known c) fun _ => .assuming fun hr => h.leaf verbose hparts hr

theorem comment : Signed source (Reader.Ahead source K) (do
      skipLine (← get).rest.length
      readSequence fuel verbose depth first parts) (PartsShown source K') :=
  .bind .get_same fun _ => .bind (skipLine_signed h.known _) fun _ =>
    h.sequence verbose parts hparts

/-- One of a class of characters. -/
theorem oneOf : Signed source (Reader.Ahead source K) (do
      let test ← readClass
      readSequence fuel verbose depth first (.one test :: parts)) (PartsShown source K') :=
  .bind (readClass_signed h.known) fun _ => h.leaf verbose hparts rfl

/-- After a group, which is one more part, nothing or a change of the options. -/
theorem afterGroup (outcome : GroupOutcome) : Signed source (GroupShown source K outcome) (do
      match outcome with
      | .part r => readSequence fuel verbose depth first (r :: parts)
      | .nothing => readSequence fuel verbose depth first parts
      | .options => readSequence fuel (← get).flags.verbose depth first parts)
      (PartsShown source K') := by
  refine .assuming fun houtcome => ?_
  cases outcome with
  | part r => exact h.push verbose hparts (houtcome r rfl)
  | nothing => exact h.sequence verbose parts hparts
  | options => exact .bind .get_same fun s => h.sequence s.flags.verbose parts hparts

/-- A sign of repetition, which stands for itself where no counts are read. -/
theorem repetition {c : CodePoint} (place : Nat) (hc : c = 63 ∨ c = 42 ∨ c = 43 ∨ c = 123) :
    Signed source (Reader.Ahead source (Behind source [c] K)) (do
      match ← readCounts? c with
      | none => readSequence fuel verbose depth first (.one (.literal c) :: parts)
      | some counts =>
        let parts ← repeatLast place counts parts
        readSequence fuel verbose depth first parts) (PartsShown source K') := by
  refine .bind (readCounts?_signed h.known hc) fun counts? => ?_
  split
  · exact h.leaf verbose hparts rfl
  · refine .bind (repeatLast_signed h.known _ _ hparts) fun repeated => ?_
    exact .assuming fun hrepeated => h.sequence verbose repeated hrepeated

end GoesOn

/-! ## Calls on fuel -/

namespace FaultsSigned

/-- Without fuel there is nothing left to read. -/
theorem zero : FaultsSigned source 0 := by
  have hnone : ∀ {α : Type} {need opened : Nat} {Q : α → Reader → Prop}, 0 < need →
      Signed source (Reader.Ahead source (Room source need 0 opened))
        (fault .nestedTooDeeply) Q := by
    intro α need opened Q hneed
    refine .fault fun s hs => ?_
    have hcalls := hs.rest.calls
    omega
  constructor
  · intro verbose depth first parts need opened hdepth hparts
    rw [readSequence]
    exact hnone (Nat.succ_pos _)
  · intro verbose depth need opened hdepth
    rw [readOthers]
    exact hnone (Nat.succ_pos _)
  · intro verbose depth need opened hdepth
    rw [readAlternatives]
    exact hnone (Nat.succ_pos _)
  · intro verbose depth start need opened hdepth
    rw [readBody]
    exact hnone (Nat.succ_pos _)
  · intro verbose depth start name need opened hdepth
    rw [readCapture]
    exact hnone (Nat.succ_pos _)
  · intro verbose depth start first need opened hdepth
    rw [readGroup]
    exact (hnone (Nat.succ_pos _)).weaken fun s hs => hs.behind

variable (h : FaultsSigned source fuel)
include h

theorem alternatives_succ (verbose : Bool) (depth need opened : Nat) (hdepth : depth ≤ 2 * opened) :
    Signed source (Reader.Ahead source (Room source (need + 2) (fuel + 1) opened))
      (readAlternatives (fuel + 1) verbose depth)
      (PartsShown source (Room source (need + 2) (fuel + 1) opened)) := by
  rw [readAlternatives]
  have hsequence := h.sequence verbose (depth + 1) (depth == 0) [] need opened (by omega)
    fun _ h => (by cases h)
  refine .bind (hsequence.weaken fun s hs => ⟨hs.proper, hs.rest.mono (by omega) (by omega)⟩)
    fun first => .assuming fun hfirst => ?_
  refine .bind (h.others verbose depth need opened hdepth) fun others => .pure fun s hs => ⟨?_, ?_⟩
  · exact (composes_shown source).partsOfAlternatives (List.forall_mem_cons.2 ⟨hfirst, hs.1⟩)
  · exact ⟨hs.2.proper, hs.2.rest.mono (by omega) (by omega)⟩

theorem others_succ (verbose : Bool) (depth need opened : Nat) (hdepth : depth ≤ 2 * opened) :
    Signed source (Reader.Ahead source (Room source (need + 1) (fuel + 1) opened))
      (readOthers (fuel + 1) verbose depth) fun others s =>
        (∀ parts ∈ others, ∀ r ∈ parts, Shown source r) ∧
          s.Ahead source (Room source (need + 1) (fuel + 1) opened) := by
  rw [readOthers]
  refine .bind (accept_signed 124) fun more => ?_
  cases more with
  | false => exact .pure fun s hs => ⟨fun _ h => (by cases h), hs⟩
  | true =>
      refine .bind .get_same fun s => ?_
      simp only
      generalize (if depth = 0 then s.flags.verbose else verbose) = inner
      have hsequence := h.sequence inner (depth + 1) false [] need opened (by omega)
        fun _ h => (by cases h)
      refine .bind (hsequence.weaken fun s hs => ?_) fun next => .assuming fun hnext => ?_
      · exact ⟨hs.proper, hs.rest.take (t := .plain 124) (by omega)⟩
      refine .bind (h.others inner depth need opened hdepth) fun others =>
        .pure fun s hs => ⟨?_, ?_⟩
      · exact List.forall_mem_cons.2 ⟨hnext, hs.1⟩
      · exact ⟨hs.2.proper, hs.2.rest.mono (by omega) (by omega)⟩

theorem body_succ (verbose : Bool) (depth start need opened : Nat)
    (hdepth : depth + 1 ≤ 2 * opened) :
    Signed source (Reader.Ahead source (Room source (need + 3) (fuel + 1) opened))
      (readBody (fuel + 1) verbose depth start) fun body s =>
        Shown source body ∧ s.Ahead source (Room source (need + 3) (fuel + 1) opened) := by
  rw [readBody]
  have halternatives := h.alternatives verbose (depth + 1) need opened hdepth
  refine .bind (halternatives.weaken fun s hs => ⟨hs.proper, hs.rest.mono (by omega) (by omega)⟩)
    fun parts => .assuming fun hparts => ?_
  refine .bind (closeParenthesis_signed Room.known start) fun _ => .pure fun s hs => ⟨?_, ?_⟩
  · exact (composes_shown source).ofItems hparts
  · exact ⟨hs.proper, hs.rest.mono (by omega) (by omega)⟩

theorem capture_succ (verbose : Bool) (depth start : Nat) (name : Option Text) (need opened : Nat)
    (hdepth : depth + 1 ≤ 2 * opened) :
    Signed source (Reader.Ahead source (Room source (need + 4) (fuel + 1) opened))
      (readCapture (fuel + 1) verbose depth start name)
      (GroupShown source (Room source (need + 4) (fuel + 1) opened)) := by
  rw [readCapture]
  refine .bind (openGroup_signed name) fun index => ?_
  have hbody := h.body verbose depth start need opened hdepth
  refine .bind (hbody.weaken fun s hs => ⟨hs.proper, hs.rest.mono (by omega) (by omega)⟩)
    fun body => .assuming fun hshown => ?_
  refine .bind .get_same fun s => .bind (closeGroup_signed _ _) fun _ => .pure fun s hs => ?_
  have hroom : Room source (need + 4) (fuel + 1) opened s.rest :=
    hs.rest.mono (by omega) (Nat.le_refl opened)
  have hcapture : Shown source (.capture index body) := hshown
  exact groupShown_part hcapture ⟨hs.proper, hroom⟩

theorem sequence_succ (verbose : Bool) (depth : Nat) (first : Bool) (parts : List Regex)
    (need opened : Nat) (hdepth : depth ≤ 2 * opened + 1) (hparts : ∀ r ∈ parts, Shown source r) :
    Signed source (Reader.Ahead source (Room source (need + 1) (fuel + 1) opened))
      (readSequence (fuel + 1) verbose depth first parts)
      (PartsShown source (Room source (need + 1) (fuel + 1) opened)) := by
  have htaken : ∀ (t : Token) (s : Reader),
      s.Ahead source (fun r => Room source (need + 1) (fuel + 1) opened (t.text ++ r)) →
        s.Ahead source (Behind source t.text (Room source (need + 1) fuel opened)) := fun t s hs =>
    ⟨hs.proper, hs.rest.suffix, hs.rest.take (by omega)⟩
  have hon : GoesOn source (Room source (need + 1) fuel opened)
      (Room source (need + 1) (fuel + 1) opened) fuel depth first := by
    refine ⟨Room.known, fun verbose parts hparts => ?_⟩
    refine (h.sequence verbose depth first parts need opened hdepth hparts).strengthen ?_
    exact fun result s hs => ⟨hs.1, hs.2.proper, hs.2.rest.mono (by omega) (by omega)⟩
  have hdone : ∀ r ∈ dissolveGroups parts.reverse, Shown source r :=
    shown_dissolveGroups fun r hr => hparts r (List.mem_reverse.1 hr)
  rw [readSequence]
  by_cases hdeep : nestingLimit < depth
  · rw [if_pos hdeep]
    refine .bind_never (.fault fun s hs => .nesting ?_)
    have hopened := hs.rest.opened
    omega
  rw [if_neg hdeep]
  refine .bind .get_same fun here => .bind .peek_same fun t? => ?_
  split
  · exact .pure fun s hs => ⟨hdone, hs.2⟩
  · next c =>
      refine .bind (take_signed _) fun _ => .assuming fun _ => ?_
      exact (hon.escape verbose hparts c).weaken (htaken (.escape c))
  · next c =>
      split
      · exact .pure fun s hs => ⟨hdone, hs.2⟩
      next hend =>
      refine .weaken (.assuming fun hback => ?_) (fun s hs => ⟨hs.2.proper.ne_backslash hs.1, hs⟩)
      refine .bind (take_signed _) fun _ => .assuming fun _ => ?_
      have hrest : ∀ s : Reader,
          s.Ahead source (fun r => Room source (need + 1) (fuel + 1) opened (c :: r)) →
            s.Ahead source (Room source (need + 1) fuel opened) := fun s hs =>
        ⟨hs.proper, (htaken (.plain c) s hs).rest.rest⟩
      split
      · exact (hon.sequence verbose parts hparts).weaken hrest
      split
      · exact (hon.comment verbose hparts).weaken hrest
      split
      · exact (hon.leaf verbose hparts rfl).weaken hrest
      next hspecial =>
      split
      · exact (hon.oneOf verbose hparts).weaken hrest
      next hclass =>
      split
      · exact (hon.leaf verbose hparts rfl).weaken hrest
      next hany =>
      split
      · exact (hon.leaf verbose hparts rfl).weaken hrest
      next hstart =>
      split
      · exact (hon.leaf verbose hparts rfl).weaken hrest
      next hstop =>
      split
      · next hopen =>
          subst hopen
          have hgroup := h.group verbose depth here.position (first && parts.isEmpty) need
            (opened + 1) (by omega)
          refine .bind (hgroup.weaken fun s hs => ?_) fun outcome =>
            (hon.afterGroup verbose hparts outcome).weaken fun s hs => ?_
          · exact ⟨hs.proper, hs.rest.suffix, hs.rest.enter (by omega)⟩
          · exact ⟨hs.1, hs.2.proper, hs.2.rest.mono (by omega) (by omega)⟩
      next hopen =>
      have hsign : c = 63 ∨ c = 42 ∨ c = 43 ∨ c = 123 := by
        refine repeats_of_isSpecial (by simpa using hspecial) ?_
        simp only [Bool.or_eq_true, decide_eq_true_eq, not_or] at hend
        simp only [List.mem_cons, List.not_mem_nil, or_false, not_or]
        exact ⟨hany, hback, hclass, hopen, hend.2, hstart, hstop, hend.1⟩
      exact (hon.repetition verbose hparts _ hsign).weaken (htaken (.plain c))

theorem group_succ (verbose : Bool) (depth start : Nat) (first : Bool) (need opened : Nat)
    (hdepth : depth + 1 ≤ 2 * opened) :
    Signed source
      (Reader.Ahead source (Behind source [40] (Room source (need + 5) (fuel + 1) opened)))
      (readGroup (fuel + 1) verbose depth start first)
      (GroupShown source (Room source (need + 5) (fuel + 1) opened)) := by
  -- within a group there is room for one call more
  have hcalls : Calls source (Room source (need + 4) fuel opened) fuel depth start :=
    ⟨Room.known, fun verbose name => h.capture verbose depth start name need opened hdepth,
      fun verbose => h.body verbose depth start (need + 1) opened hdepth,
      fun verbose => h.alternatives verbose (depth + 1) (need + 2) opened hdepth,
      fun verbose => h.sequence verbose (depth + 1) false [] (need + 3) opened (by omega)
        fun _ h => (by cases h)⟩
  refine ((hcalls.group verbose first).weaken fun s hs => ?_).strengthen fun outcome s hs => ?_
  · exact ⟨hs.proper, hs.rest.place, hs.rest.rest.mono (by omega) (by omega)⟩
  · exact ⟨hs.1, hs.2.proper, hs.2.rest.mono (by omega) (by omega)⟩

end FaultsSigned

/-- **Groups and sequences end in a fault only with a sign of it.** -/
theorem faultsSigned (source : Text) (fuel : Nat) : FaultsSigned source fuel := by
  induction fuel with
  | zero => exact .zero
  | succ fuel ih =>
      constructor
      · exact ih.sequence_succ
      · exact ih.others_succ
      · exact ih.alternatives_succ
      · exact ih.body_succ
      · exact ih.capture_succ
      · exact ih.group_succ

end

/-! ## Whole patterns -/

section
variable {source : Text} {options : Flags} {f : Fault}

/-- The start of a pattern, where the options are those it was given. -/
theorem checkNext_signed (ha : options.ascii = false) (hu : options.unicode = false) :
    Signed source (fun s => s = { rest := source, flags := options }) checkNext fun _ =>
      Reader.Ahead source (Room source 2 (fuelFor source) 0) := by
  constructor
  · rintro s a s' rfl he
    unfold checkNext at he
    split at he
    · cases he
    next hwhole =>
    cases he
    refine ⟨⟨hwhole, fun h => ?_, fun h => ?_⟩, List.suffix_refl _, ?_, ?_⟩
    · rw [ha] at h
      cases h
    · rw [hu] at h
      cases h
    · show 6 * source.length + 2 ≤ 6 * source.length + 8
      omega
    · show 0 + source.count 40 ≤ source.count 40
      omega
  · intro s f _ he
    unfold checkNext at he
    split at he <;> cases he

theorem readPattern_signed (ha : options.ascii = false) (hu : options.unicode = false) :
    Signed source (fun s => s = { rest := source, flags := options }) (readPattern source)
      fun parts _ => ∀ r ∈ parts, Shown source r := by
  unfold readPattern
  refine .bind (checkNext_signed ha hu) fun _ => .bind .get_same fun s => ?_
  refine .bind ((faultsSigned source _).alternatives _ 0 0 0 (Nat.le_refl 0)) fun parts => ?_
  refine .assuming fun hparts => .bind (.get_known) fun s => .assuming fun hs => ?_
  simp only
  split
  · next hboth =>
      rw [Bool.and_eq_true] at hboth
      refine .bind_never (.fault fun _ _ => ?_)
      exact .classes (hs.proper.ascii hboth.1) (hs.proper.unicode hboth.2)
  refine .bind .peek_same fun t? => ?_
  split
  · exact .bind_never .flaw
  split
  · exact ⟨fun s a s' _ he => (by cases he), fun s f _ he => (by cases he)⟩
  · exact .pure fun _ _ => hparts

/-- **A pattern ends in a fault only if its text shows it.** -/
theorem sign_of_parse (ha : options.ascii = false) (hu : options.unicode = false)
    (h : parse source options = .error (.fault f)) : Sign source f := by
  have hread : Signed source _ (readPattern source) _ := readPattern_signed ha hu
  rw [parse] at h
  cases hp : (readPattern source).run { rest := source, flags := options } with
  | error failure =>
      rw [hp] at h
      cases h
      exact hread.signs _ f rfl hp
  | ok result =>
      obtain ⟨parts, s⟩ := result
      have hparts := hread.yields _ parts s rfl hp
      rw [hp] at h
      simp only [bind, Except.bind] at h
      split at h
      · cases h
      · split at h
        · next hfar =>
            cases h
            have htree := (composes_shown source).ofItems hparts
            exact .lookbehind (htree (looksBehind_of_far hfar))
        · cases h

end

end ToolPolicy.Regex
