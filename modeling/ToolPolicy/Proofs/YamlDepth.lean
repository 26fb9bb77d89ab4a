import ToolPolicy.Proofs.YamlSigns

/-!
# How deep the nodes of a document are nested

A node is read at some depth. Going one deeper takes an opening token, or the hyphen of a sequence
that is no further in than its key, or a pair without brackets; but of two steps down one opens
something. So where reading stops because it is too deep, the tokens so far open many more
collections than they end. The bound for the number of steps is never what stops it, because every
node and every round of a loop uses up a token.

Main statement: `fault_of_tokens` (a fault of the nodes is one of the tokens, or shows in them).
-/

namespace ToolPolicy.Yaml

open Std.Do

set_option mvcgen.warning false

/-! ## Signs -/

/-- How many more collections a token opens than it ends. -/
def Token.Kind.opened : Token.Kind → Int
  | flowSequenceStart | flowMappingStart | blockSequenceStart | blockMappingStart => 1
  | flowSequenceEnd | flowMappingEnd | blockEnd => -1
  | _ => 0

/-- How many more collections tokens open than they end. -/
def opened (tokens : List Token) : Int := (tokens.map fun t => t.kind.opened).sum

/-- That within so many collections there is something. -/
def IsNested (tokens : List Token) (count : Int) : Prop :=
  ∃ start, start <+: tokens ∧ count ≤ opened start

/-- How many collections are open where nodes may be nested too deeply. -/
def deepNesting : Int := 240

/-- That a failure, if it is a fault, is one of tokens, or shows in them. -/
def Failure.ShownBy (ts : Tokens) (e : Failure) : Prop :=
  ∀ f, e = .fault f → ts.failure = some (.fault f) ∨ f = .nestedTooDeeply ∧
    IsNested ts.tokens deepNesting

theorem Failure.shownBy_flaw (ts : Tokens) {e : Failure} (he : ∃ f, e = .flaw f) :
    e.ShownBy ts := by
  obtain ⟨f, rfl⟩ := he
  intro g h
  cases h

/-! ## Going on in tokens -/

theorem opened_cons (t : Token) (rest : List Token) :
    opened (t :: rest) = t.kind.opened + opened rest := by
  simp [opened]

theorem opened_append (s t : List Token) : opened (s ++ t) = opened s + opened t := by
  simp [opened]

namespace Tokens

/-- The tokens after the first. -/
def tail (ts : Tokens) : Tokens := { ts with tokens := ts.tokens.tail }

/-- That some tokens come at the end of others, after what opens so many more
collections than it ends. -/
structure Reaches (ts us : Tokens) (count : Int) : Prop where
  suffix : us.tokens <:+ ts.tokens
  failure : us.failure = ts.failure
  opened : opened ts.tokens = count + opened us.tokens

variable {ts us vs : Tokens} {m n : Int}

@[grind .] theorem Reaches.refl (ts : Tokens) : ts.Reaches ts 0 :=
  ⟨List.suffix_rfl, rfl, (Int.zero_add _).symm⟩

@[grind →] theorem Reaches.trans (h : ts.Reaches us m) (h' : us.Reaches vs n) :
    ts.Reaches vs (m + n) :=
  ⟨h'.suffix.trans h.suffix, h'.failure.trans h.failure, by rw [h.opened, h'.opened, Int.add_assoc]⟩

@[grind →] theorem Reaches.length_le (h : ts.Reaches us m) :
    us.tokens.length ≤ ts.tokens.length := h.suffix.length_le

@[grind →] theorem reaches_tail {t : Token} (h : us.tokens.head? = some t) :
    us.Reaches us.tail t.kind.opened := by
  obtain ⟨rest, hrest⟩ := List.head?_eq_some_iff.1 h
  refine ⟨List.tail_suffix _, rfl, ?_⟩
  rw [tail, hrest, opened_cons]
  rfl

@[grind →] theorem length_tail {t : Token} (h : us.tokens.head? = some t) :
    us.tail.tokens.length + 1 = us.tokens.length := by
  obtain ⟨rest, hrest⟩ := List.head?_eq_some_iff.1 h
  simp [tail, hrest]

/-- That at some place in the tokens a node may stand at a depth: not more than twice as deep as
collections are open. -/
def Allows (ts us : Tokens) (depth : Int) : Prop := ∃ n, ts.Reaches us n ∧ depth ≤ 2 * n + 1

theorem Allows.go {depth depth' : Int} (h : ts.Allows us depth) (hgo : us.Reaches vs m)
    (hle : depth' ≤ depth + 2 * m) :
    ts.Allows vs depth' := by
  obtain ⟨n, hn, hdepth⟩ := h
  exact ⟨n + m, hn.trans hgo, by omega⟩

theorem Allows.failure {depth : Int} (h : ts.Allows us depth) : us.failure = ts.failure := by
  obtain ⟨n, hn, -⟩ := h
  exact hn.failure

/-- Where a node is too deep, something is nested. -/
theorem Allows.shownBy {depth : Int} (h : ts.Allows us depth) (hdeep : 2 * deepNesting ≤ depth) :
    (Failure.fault .nestedTooDeeply).ShownBy ts := by
  obtain ⟨n, hn, hdepth⟩ := h
  rintro f hf
  cases hf
  obtain ⟨start, hstart⟩ := hn.suffix
  refine .inr ⟨rfl, start, ⟨us.tokens, hstart⟩, ?_⟩
  have := hn.opened
  rw [← hstart, opened_append] at this
  omega

/-- If there is no first token, that is a failure of the tokens. -/
theorem shownBy_first (h : us.failure = ts.failure) {e : Failure} (he : us.first = .error e) :
    e.ShownBy ts := by
  rintro f rfl
  rw [first] at he
  split at he
  · cases he
  · left
    rw [← h]
    cases hf : us.failure with
    | none =>
      rw [hf] at he
      cases he
    | some g =>
      rw [hf] at he
      cases he
      rfl

theorem head?_of_first {t : Token} (h : us.first = .ok t) : us.tokens.head? = some t := by
  rw [first] at h
  split at h
  · next hcons =>
    cases h
    rw [hcons]
    rfl
  · cases h

end Tokens

/-- The tokens that are left. -/
def Builder.left (s : Builder) : Tokens := ⟨s.tokens, s.failure⟩

/-- Going on in tokens past some of them, which open so many more collections than they end; or
failing in a way that shows in all tokens. -/
abbrev goesOn {α : Type} (ts us : Tokens) (count : Int) (used : Nat) :
    PostCond α (.arg Builder (.except Failure .pure)) :=
  post⟨fun _ s => ⌜us.Reaches s.left count ∧
    s.left.tokens.length + used ≤ us.tokens.length⌝, fun e => ⌜e.ShownBy ts⌝⟩

namespace Build

-- All the arithmetic below is about integers, so `grind` need not look for
-- other ordered structures.

variable {ts us : Tokens} {α : Type}

@[spec] theorem failAt_at (activity : Option Activity) (start : Option Mark)
    (cause : Flaw.Cause) (place : Mark) :
    ⦃⌜True⌝⦄ (failAt activity start cause place : Build α)
    ⦃post⟨fun _ _ => ⌜False⌝, fun e => ⌜∃ f, e = .flaw f⌝⟩⦄ :=
  fun _ _ => ⟨_, rfl⟩

theorem throw_at (e : Failure) :
    ⦃⌜True⌝⦄ (throw e : Build α) ⦃post⟨fun _ _ => ⌜False⌝, fun e' => ⌜e' = e⌝⟩⦄ :=
  fun _ _ => rfl

@[spec] theorem peek_at (hus : us.failure = ts.failure) : ⦃fun s => ⌜s.left = us⌝⦄ peek
    ⦃post⟨fun t s => ⌜s.left = us ∧ us.tokens.head? = some t⌝, fun e => ⌜e.ShownBy ts⌝⟩⦄ := by
  mvcgen [peek, except_spec]
  · next s h t => exact fun ht => ⟨h, h ▸ Tokens.head?_of_first ht⟩
  · next s h e => exact fun he => Tokens.shownBy_first hus (h ▸ he)

@[spec] theorem skip_at : ⦃fun s => ⌜s.left = us⌝⦄ skip ⦃⇓ _ s => ⌜s.left = us.tail⌝⦄ := by
  mvcgen [skip]
  next h _ => exact congrArg Tokens.tail h

@[spec] theorem isNext_at (hus : us.failure = ts.failure) (kinds : List Token.Kind) :
    ⦃fun s => ⌜s.left = us⌝⦄ isNext kinds
    ⦃post⟨fun _ s => ⌜s.left = us⌝, fun e => ⌜e.ShownBy ts⌝⟩⦄ := by
  mvcgen [isNext]
  all_goals grind -linarith

@[spec] theorem nodeAt_at (id : NodeId) :
    ⦃fun s => ⌜s.left = us⌝⦄ nodeAt id ⦃⇓ _ s => ⌜s.left = us⌝⦄ := by
  mvcgen [nodeAt]

@[spec] theorem add_at (anchor : Option Text) (n : Node) :
    ⦃fun s => ⌜s.left = us⌝⦄ add anchor n ⦃⇓ _ s => ⌜s.left = us⌝⦄ := by
  mvcgen [add]

@[spec] theorem fill_at (id : NodeId) (content : Content) :
    ⦃fun s => ⌜s.left = us⌝⦄ fill id content ⦃⇓ _ s => ⌜s.left = us⌝⦄ := by
  mvcgen [fill]
  next h _ _ h' _ => exact h'.trans h

@[spec] theorem empty_at (place : Mark) :
    ⦃fun s => ⌜s.left = us⌝⦄ empty place ⦃⇓ _ s => ⌜s.left = us⌝⦄ := by
  mvcgen [empty]

@[spec] theorem checkAnchor_at (anchor : Option Text) (start : Mark) :
    ⦃fun s => ⌜s.left = us⌝⦄ checkAnchor anchor start
    ⦃post⟨fun _ s => ⌜s.left = us⌝, fun e => ⌜e.ShownBy ts⌝⟩⦄ := by
  mvcgen [checkAnchor]
  · exact False.elim
  · exact Failure.shownBy_flaw ts

@[spec] theorem properties_at (hus : us.failure = ts.failure) : ⦃fun s => ⌜s.left = us⌝⦄ properties
    ⦃post⟨fun p s => ⌜us.Reaches s.left 0 ∧
      (p.anchor.isSome ∨ p.tag.isSome → s.left.tokens.length < us.tokens.length)⌝, fun e =>
      ⌜e.ShownBy ts⌝⟩⦄ := by
  mvcgen [properties]
  all_goals grind -linarith [Token.Kind.opened, Tokens.Reaches.failure]

@[spec] theorem writtenTag_at (p : Properties) : ⦃fun s => ⌜s.left = us⌝⦄ writtenTag p
    ⦃post⟨fun t s => ⌜s.left = us ∧ (t.isSome → p.tag.isSome)⌝, fun e => ⌜e.ShownBy ts⌝⟩⦄ := by
  mvcgen [writtenTag]
  all_goals grind -linarith [Failure.shownBy_flaw]

/-! ## Nodes -/

/-- How much deeper a node may stand at a place. -/
def Place.slack : Place → Nat
  | entry => 1
  | _ => 0

/-- How many tokens are used for sure where a sequence that is no further in is
read: its first hyphen. -/
def hyphenCount (us : Tokens) : Nat :=
  if us.tokens.head?.map Token.kind = some .blockEntry then 1 else 0

/-- That each reader goes on in tokens with so much fuel: four steps for each token are enough. -/
structure Reads (ts : Tokens) (fuel : Nat) : Prop where
  node {us : Tokens} {depth : Nat} {place : Place} (h : ts.Allows us (depth + place.slack))
    (hfuel : 4 * us.tokens.length + 3 ≤ fuel) :
    ⦃fun s => ⌜s.left = us⌝⦄ node fuel depth place ⦃goesOn ts us 0 1⦄
  nodeOr {us : Tokens} {depth : Nat} {place : Place} {stops : List Token.Kind} {stop : Mark}
    (h : ts.Allows us (depth + 1 + place.slack)) (hfuel : 4 * us.tokens.length + 4 ≤ fuel) :
    ⦃fun s => ⌜s.left = us⌝⦄ nodeOr fuel depth place stops stop ⦃goesOn ts us 0 0⦄
  valueNode {us : Tokens} {depth : Nat} {place : Place} {stops : List Token.Kind}
    (h : ts.Allows us (depth + 1 + place.slack)) (hfuel : 4 * us.tokens.length + 1 ≤ fuel) :
    ⦃fun s => ⌜s.left = us⌝⦄ valueNode fuel depth place stops ⦃goesOn ts us 0 0⦄
  hyphenEntries {us : Tokens} {depth : Nat} {items : List NodeId} (h : ts.Allows us (depth + 1))
    (hfuel : 4 * us.tokens.length + 2 ≤ fuel) :
    ⦃fun s => ⌜s.left = us⌝⦄ hyphenEntries fuel depth items ⦃goesOn ts us 0 (hyphenCount us)⦄
  blockItems {us : Tokens} {depth : Nat} {start : Mark} {items : List NodeId}
    (h : ts.Allows us (depth + 2)) (hfuel : 4 * us.tokens.length + 4 ≤ fuel) :
    ⦃fun s => ⌜s.left = us⌝⦄ blockItems fuel depth start items ⦃goesOn ts us (-1) 0⦄
  blockEntries {us : Tokens} {depth : Nat} {start : Mark} {entries : List (NodeId × NodeId)}
    (h : ts.Allows us (depth + 2)) (hfuel : 4 * us.tokens.length + 4 ≤ fuel) :
    ⦃fun s => ⌜s.left = us⌝⦄ blockEntries fuel depth start entries ⦃goesOn ts us (-1) 0⦄
  flowItems {us : Tokens} {depth : Nat} {start : Mark} {isFirst : Bool} {items : List NodeId}
    (h : ts.Allows us (depth + 2)) (hfuel : 4 * us.tokens.length + 4 ≤ fuel) :
    ⦃fun s => ⌜s.left = us⌝⦄ flowItems fuel depth start isFirst items ⦃goesOn ts us (-1) 0⦄
  pair {us : Tokens} {depth : Nat} {t : Token} (h : ts.Allows us (depth + 1))
    (ht : us.tokens.head? = some t)
    (hkey : t.kind = .key) (hfuel : 4 * us.tokens.length + 1 ≤ fuel) :
    ⦃fun s => ⌜s.left = us⌝⦄ pair fuel depth t ⦃goesOn ts us 0 1⦄
  flowEntries {us : Tokens} {depth : Nat} {start : Mark} {isFirst : Bool}
    {entries : List (NodeId × NodeId)}
    (h : ts.Allows us (depth + 2)) (hfuel : 4 * us.tokens.length + 4 ≤ fuel) :
    ⦃fun s => ⌜s.left = us⌝⦄ flowEntries fuel depth start isFirst entries ⦃goesOn ts us (-1) 0⦄

variable {fuel depth : Nat}

theorem nodeOr_goesOn (ih : Reads ts fuel) {place : Place} {stops : List Token.Kind} {stop : Mark}
    (h : ts.Allows us (depth + 1 + place.slack)) (hfuel : 4 * us.tokens.length + 4 ≤ fuel + 1) :
    ⦃fun s => ⌜s.left = us⌝⦄ nodeOr (fuel + 1) depth place stops stop ⦃goesOn ts us 0 0⦄ := by
  have hnode := @ih.node
  obtain ⟨n, hn, hdepth⟩ := h
  refine triple_of_forall fun Q hQ => ?_
  mvcgen [nodeOr, hnode]
  all_goals grind -linarith [Tokens.Allows, Tokens.Reaches.failure]

theorem valueNode_goesOn (ih : Reads ts fuel) {place : Place} {stops : List Token.Kind}
    (h : ts.Allows us (depth + 1 + place.slack)) (hfuel : 4 * us.tokens.length + 1 ≤ fuel + 1) :
    ⦃fun s => ⌜s.left = us⌝⦄ valueNode (fuel + 1) depth place stops ⦃goesOn ts us 0 0⦄ := by
  have hnodeOr := @ih.nodeOr
  obtain ⟨n, hn, hdepth⟩ := h
  refine triple_of_forall fun Q hQ => ?_
  mvcgen [valueNode, hnodeOr]
  all_goals grind -linarith [Tokens.Allows, Tokens.Reaches.failure, Token.Kind.opened]

theorem hyphenEntries_goesOn (ih : Reads ts fuel) {items : List NodeId}
    (h : ts.Allows us (depth + 1)) (hfuel : 4 * us.tokens.length + 2 ≤ fuel + 1) :
    ⦃fun s => ⌜s.left = us⌝⦄ hyphenEntries
    (fuel + 1) depth items ⦃goesOn ts us 0 (hyphenCount us)⦄ := by
  have hnodeOr := @ih.nodeOr
  have hentries := @ih.hyphenEntries
  obtain ⟨n, hn, hdepth⟩ := h
  refine triple_of_forall fun Q hQ => ?_
  mvcgen [hyphenEntries, hnodeOr, hentries]
  all_goals grind -linarith [Tokens.Allows, Tokens.Reaches.failure, Token.Kind.opened,
    hyphenCount, Place.slack]

theorem blockItems_goesOn (ih : Reads ts fuel) {start : Mark} {items : List NodeId}
    (h : ts.Allows us (depth + 2)) (hfuel : 4 * us.tokens.length + 4 ≤ fuel + 1) :
    ⦃fun s => ⌜s.left = us⌝⦄ blockItems (fuel + 1) depth start items ⦃goesOn ts us (-1) 0⦄ := by
  have hnodeOr := @ih.nodeOr
  have hitems := @ih.blockItems
  obtain ⟨n, hn, hdepth⟩ := h
  refine triple_of_forall fun Q hQ => ?_
  mvcgen [blockItems, hnodeOr, hitems]
  all_goals grind -linarith [Tokens.Allows, Tokens.Reaches.failure, Token.Kind.opened, Place.slack,
    Failure.shownBy_flaw]

theorem blockEntries_goesOn (ih : Reads ts fuel) {start : Mark} {entries : List (NodeId × NodeId)}
    (h : ts.Allows us (depth + 2)) (hfuel : 4 * us.tokens.length + 4 ≤ fuel + 1) :
    ⦃fun s => ⌜s.left = us⌝⦄ blockEntries (fuel + 1) depth start entries ⦃goesOn ts us (-1) 0⦄ := by
  have hnodeOr := @ih.nodeOr
  have hvalueNode := @ih.valueNode
  have hentries := @ih.blockEntries
  obtain ⟨n, hn, hdepth⟩ := h
  refine triple_of_forall fun Q hQ => ?_
  mvcgen [blockEntries, hnodeOr, hvalueNode, hentries]
  all_goals grind -linarith [Tokens.Allows, Tokens.Reaches.failure, Token.Kind.opened, Place.slack,
    Failure.shownBy_flaw]

theorem flowItems_goesOn (ih : Reads ts fuel) {start : Mark} {isFirst : Bool} {items : List NodeId}
    (h : ts.Allows us (depth + 2)) (hfuel : 4 * us.tokens.length + 4 ≤ fuel + 1) :
    ⦃fun s => ⌜s.left = us⌝⦄ flowItems
    (fuel + 1) depth start isFirst items ⦃goesOn ts us (-1) 0⦄ := by
  have hnode := @ih.node
  have hpair := @ih.pair
  have hitems := @ih.flowItems
  obtain ⟨n, hn, hdepth⟩ := h
  refine triple_of_forall fun Q hQ => ?_
  mvcgen [flowItems, hnode, hpair, hitems]
  all_goals grind -linarith [Tokens.Allows, Tokens.Reaches.failure, Token.Kind.opened, Place.slack,
    Failure.shownBy_flaw]

theorem pair_goesOn (ih : Reads ts fuel) {t : Token} (h : ts.Allows us (depth + 1))
    (ht : us.tokens.head? = some t)
    (hkey : t.kind = .key) (hfuel : 4 * us.tokens.length + 1 ≤ fuel + 1) :
    ⦃fun s => ⌜s.left = us⌝⦄ pair (fuel + 1) depth t ⦃goesOn ts us 0 1⦄ := by
  have hnodeOr := @ih.nodeOr
  have hvalueNode := @ih.valueNode
  have hdeep : depthLimit < depth → (Failure.fault .nestedTooDeeply).ShownBy ts := fun hlt =>
    h.shownBy (by simp only [depthLimit, deepNesting] at *; omega)
  obtain ⟨n, hn, hdepth⟩ := h
  refine triple_of_forall fun Q hQ => ?_
  mvcgen [pair, hnodeOr, hvalueNode, throw_at, -Spec.throw_MonadExcept]
  all_goals grind -linarith [Tokens.Allows, Tokens.Reaches.failure, Token.Kind.opened, Place.slack]

theorem flowEntries_goesOn (ih : Reads ts fuel) {start : Mark} {isFirst : Bool}
    {entries : List (NodeId × NodeId)}
    (h : ts.Allows us (depth + 2)) (hfuel : 4 * us.tokens.length + 4 ≤ fuel + 1) :
    ⦃fun s => ⌜s.left = us⌝⦄ flowEntries
    (fuel + 1) depth start isFirst entries ⦃goesOn ts us (-1) 0⦄ := by
  have hnode := @ih.node
  have hnodeOr := @ih.nodeOr
  have hvalueNode := @ih.valueNode
  have hentries := @ih.flowEntries
  obtain ⟨n, hn, hdepth⟩ := h
  refine triple_of_forall fun Q hQ => ?_
  mvcgen [flowEntries, hnode, hnodeOr, hvalueNode, hentries]
  all_goals grind -linarith [Tokens.Allows, Tokens.Reaches.failure, Token.Kind.opened, Place.slack,
    Failure.shownBy_flaw]

theorem node_goesOn (ih : Reads ts fuel) {place : Place} (h : ts.Allows us (depth + place.slack))
    (hfuel : 4 * us.tokens.length + 3 ≤ fuel + 1) :
    ⦃fun s => ⌜s.left = us⌝⦄ node (fuel + 1) depth place ⦃goesOn ts us 0 1⦄ := by
  have hhyphen := @ih.hyphenEntries
  have hitems := @ih.blockItems
  have hentries := @ih.blockEntries
  have hflowItems := @ih.flowItems
  have hflowEntries := @ih.flowEntries
  have hdeep : depthLimit < depth → (Failure.fault .nestedTooDeeply).ShownBy ts := fun hlt =>
    h.shownBy (by simp only [depthLimit, deepNesting] at *; omega)
  obtain ⟨n, hn, hdepth⟩ := h
  refine triple_of_forall fun Q hQ => ?_
  mvcgen [node, hhyphen, hitems, hentries, hflowItems, hflowEntries, throw_at,
    -Spec.throw_MonadExcept]
  all_goals grind -linarith [Tokens.Allows, Tokens.Reaches.failure, Token.Kind.opened, Place.slack,
    Failure.shownBy_flaw, hyphenCount]

/-- With enough fuel every reader goes on in tokens. -/
theorem reads (ts : Tokens) (fuel : Nat) : Reads ts fuel := by
  induction fuel with
  | zero => constructor <;> intros <;> omega
  | succ fuel ih =>
    exact {
      node := node_goesOn ih
      nodeOr := nodeOr_goesOn ih
      valueNode := valueNode_goesOn ih
      hyphenEntries := hyphenEntries_goesOn ih
      blockItems := blockItems_goesOn ih
      blockEntries := blockEntries_goesOn ih
      flowItems := flowItems_goesOn ih
      pair := pair_goesOn ih
      flowEntries := flowEntries_goesOn ih }

/-! ## Documents -/

/-- Standing in tokens where as many collections are open as at the beginning. -/
abbrev level (ts : Tokens) : Assertion (.arg Builder (.except Failure .pure)) :=
  fun s => ⌜ts.Reaches s.left 0⌝

/-- Going on to where as many collections are open as at the beginning. -/
abbrev levels {α : Type} (ts : Tokens) : PostCond α (.arg Builder (.except Failure .pure)) :=
  post⟨fun _ s => ⌜ts.Reaches s.left 0⌝, fun e => ⌜e.ShownBy ts⌝⟩

theorem directives_levels (fuel : Nat) (hasVersion : Bool) (handles : List (Text × Text)) :
    ⦃level ts⦄ directives fuel hasVersion handles ⦃levels ts⦄ := by
  induction fuel generalizing hasVersion handles with
  | zero => mvcgen [directives]
  | succ fuel ih =>
    mvcgen [directives, ih]
    all_goals grind -linarith [Tokens.Reaches.failure, Token.Kind.opened, Failure.shownBy_flaw]

theorem skipEnds_levels (fuel : Nat) : ⦃level ts⦄ skipEnds fuel ⦃levels ts⦄ := by
  induction fuel with
  | zero => mvcgen [skipEnds]
  | succ fuel ih =>
    mvcgen [skipEnds, ih]
    all_goals grind -linarith [Tokens.Reaches.failure, Token.Kind.opened]

theorem beginDocument_levels (fuel : Nat) : ⦃level ts⦄ beginDocument fuel ⦃levels ts⦄ := by
  mvcgen [beginDocument, directives_levels, skipEnds_levels]
  all_goals grind -linarith [Tokens.Reaches.failure, Token.Kind.opened,
    Failure.shownBy_flaw, Builder.left]

theorem node_levels (hfuel : 4 * ts.tokens.length + 3 ≤ fuel) :
    ⦃level ts⦄ node fuel 1 .block ⦃levels ts⦄ := by
  have hnode := @(reads ts fuel).node
  mvcgen [hnode]
  all_goals grind -linarith [Tokens.Allows, Place.slack]

theorem afterStart_levels (hfuel : 4 * ts.tokens.length + 3 ≤ fuel) :
    ⦃level ts⦄ afterStart fuel ⦃levels ts⦄ := by
  have hnode := node_levels hfuel
  mvcgen [afterStart, hnode]
  all_goals grind -linarith [Tokens.Reaches.failure, Token.Kind.opened]

theorem firstDocument_levels (hfuel : 4 * ts.tokens.length + 3 ≤ fuel) :
    ⦃level ts⦄ firstDocument fuel ⦃levels ts⦄ := by
  have hnode := node_levels hfuel
  have hafter := afterStart_levels hfuel
  mvcgen [firstDocument, hnode, hafter, beginDocument_levels]
  all_goals grind -linarith [Tokens.Reaches.failure, Token.Kind.opened, Builder.left]

theorem document_levels (hfuel : 4 * ts.tokens.length + 3 ≤ fuel) :
    ⦃level ts⦄ document fuel ⦃levels ts⦄ := by
  have hfirst := firstDocument_levels hfuel
  mvcgen [document, hfirst, beginDocument_levels]
  all_goals grind -linarith [Tokens.Reaches.failure, Token.Kind.opened, Failure.shownBy_flaw]

end Build

/-- A fault of the nodes of a document is one of its tokens, or shows in them. -/
theorem fault_of_tokens {ts : Tokens} {f : Fault} (h : Graph.ofTokens ts = .error (.fault f)) :
    ts.failure = some (.fault f) ∨ f = .nestedTooDeeply ∧ IsNested ts.tokens deepNesting := by
  have hfuel : 4 * ts.tokens.length + 3 ≤ 8 * ts.tokens.length + 32 := by omega
  let s : Builder := { tokens := ts.tokens, failure := ts.failure }
  have hs : ts.Reaches s.left 0 := .refl ts
  rw [Graph.ofTokens] at h
  rcases run_cases (Build.document_levels hfuel) hs with ⟨root, s', hrun, -⟩ | ⟨e, hrun, he⟩
  · rw [hrun] at h
    cases h
  · rw [hrun] at h
    cases h
    exact he f rfl

end ToolPolicy.Yaml
