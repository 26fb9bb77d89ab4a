import ToolPolicy.Policy.RuleText
import ToolPolicy.Proofs.Paths

/-!
# Reading plain names

A tool pattern of plain names, with bars between them, holds nothing that has a meaning of its own
but the bars. So it is read, in its wrapping, from left to right without a failure: each name as the
literals of its letters, and the names as alternatives.

* `ReadsTo`: a reader takes a text up to some rest of it, and gives a result.
* `readsTo_word`, `readsTo_others`: what is read for one name and for the names behind the first.
* `compile_names`: what a wrapped tool pattern of plain names is compiled to.
-/

namespace ToolPolicy.Regex

open Reading

/-! ## Readers that succeed -/

/-- Wherever it begins, a reader takes a text up to a rest of it and gives a result; nothing is
recorded or switched on the way. -/
def ReadsTo {α : Type} (text : Text) (m : Reading α) (a : α) (rest : Text) : Prop :=
  ∀ i, ∃ j, m { rest := text, position := i } = .ok (a, { rest, position := j })

namespace ReadsTo

variable {α β : Type} {text rest rest' : Text} {m : Reading α} {a : α} {b : β}
    {f : α → Reading β}

theorem bind (h : ReadsTo text m a rest) (hf : ReadsTo rest (f a) b rest') :
    ReadsTo text (m >>= f) b rest' := by
  intro i
  obtain ⟨j, hj⟩ := h i
  obtain ⟨n, hn⟩ := hf j
  refine ⟨n, ?_⟩
  change (m _ >>= fun p => f p.1 p.2) = _
  rw [hj]
  exact hn

theorem pure : ReadsTo text (pure a) a text := fun i => ⟨i, rfl⟩

theorem get {f : Reader → Reading β}
    (hf : ∀ i, ReadsTo text (f { rest := text, position := i }) b rest) :
    ReadsTo text (MonadState.get >>= f) b rest := fun i => hf i i

theorem peek {f : Option Token → Reading β}
    (hf : ReadsTo text (f ({ rest := text : Reader }.next?)) b rest) :
    ReadsTo text (Reading.peek >>= f) b rest := hf

end ReadsTo

/-- A text at whose end no backslash is left over. -/
theorem append_ne_backslash {sep : CodePoint} (h : sep ≠ 92) (word rest : Text) :
    word ++ sep :: rest ≠ [92] := by
  cases word with
  | nil => simp [h]
  | cons => simp

theorem next?_plain {c : CodePoint} (h : c ≠ 92) (rest : Text) (i : Nat) :
    ({ rest := c :: rest, position := i } : Reader).next? = some (.plain c) := by
  cases rest <;> simp [Reader.next?, h]

theorem readsTo_take {c : CodePoint} {rest : Text} (hc : c ≠ 92) (hrest : rest ≠ [92]) :
    ReadsTo (c :: rest) take (some (.plain c)) rest := by
  intro i
  refine ⟨i + 1, ?_⟩
  rw [take, next?_plain hc]
  simp [Token.length, checkNext, hrest, Except.map]

theorem readsTo_take_escape {c : CodePoint} {rest : Text} (hrest : rest ≠ [92]) :
    ReadsTo (92 :: c :: rest) take (some (.escape c)) rest := by
  intro i
  refine ⟨i + 2, ?_⟩
  simp [take, Reader.next?, Token.length, checkNext, hrest, Except.map]

theorem readsTo_accept {c : CodePoint} {rest : Text} (hc : c ≠ 92) (hrest : rest ≠ [92]) :
    ReadsTo (c :: rest) (accept c) true rest := by
  refine .peek ?_
  rw [next?_plain hc, if_pos rfl]
  exact (readsTo_take hc hrest).bind .pure

theorem readsTo_accept_other {c d : CodePoint} (hd : d ≠ 92) (hne : d ≠ c) (rest : Text) :
    ReadsTo (d :: rest) (accept c) false (d :: rest) := by
  refine .peek ?_
  rw [next?_plain hd, if_neg (by simpa using hne)]
  exact .pure

/-! ## Steps of a sequence -/

theorem not_isAsciiWord_of_special {c : CodePoint} (h : isSpecial c = true ∨ c = 41 ∨ c = 92) :
    CodePoint.isAsciiWord c = false := by
  have hspecial : ∀ d ∈ (".\\[\x7b()*+?^$|" : Text), CodePoint.isAsciiWord d = false := by decide
  rcases h with h | rfl | rfl
  · exact hspecial c (List.contains_iff_mem.1 h)
  · rfl
  · rfl

section
variable {fuel depth : Nat} {first : Bool} {parts result : List Regex} {rest rest' : Text}

/-- A sequence ends at the end of the text, and in front of a bar or a closing parenthesis. -/
theorem readsTo_sequence_end (hdepth : depth ≤ nestingLimit)
    (hend : rest = [] ∨ ∃ sep after, rest = sep :: after ∧ (sep = 124 ∨ sep = 41)) :
    ReadsTo rest (readSequence (fuel + 1) false depth first parts) (dissolveGroups parts.reverse)
      rest := by
  rw [readSequence, if_neg (by omega)]
  refine .get fun i => .peek ?_
  rcases hend with rfl | ⟨sep, after, rfl, hsep⟩
  · exact .pure
  · have hplain : sep ≠ 92 := by rcases hsep with rfl | rfl <;> decide
    rw [next?_plain hplain]
    have hstop : (sep = '|'.toNat || sep = ')'.toNat) = true := by
      rcases hsep with rfl | rfl <;> rfl
    simp only [hstop, if_true]
    exact .pure

/-- A sequence goes on behind a letter, a digit or an underscore. -/
theorem readsTo_sequence_literal (hdepth : depth ≤ nestingLimit) {c : CodePoint}
    (hc : CodePoint.isAsciiWord c = true) (hrest : rest ≠ [92])
    (h : ReadsTo rest
      (readSequence fuel false depth first (.one (.literal c) :: parts)) result rest') :
    ReadsTo (c :: rest) (readSequence (fuel + 1) false depth first parts) result rest' := by
  have hplain : c ≠ 92 := by
    rintro rfl
    cases hc
  have hspecial : isSpecial c = false := Bool.eq_false_iff.2 fun h => by
    rw [not_isAsciiWord_of_special (.inl h)] at hc
    cases hc
  have hgoes : (c = '|'.toNat || c = ')'.toNat) = false := Bool.eq_false_iff.2 fun h => by
    rw [Bool.or_eq_true, decide_eq_true_eq, decide_eq_true_eq] at h
    rcases h with rfl | rfl <;> cases hc
  rw [readSequence, if_neg (by omega)]
  refine .get fun i => .peek ?_
  rw [next?_plain hplain]
  simp only [hgoes, hspecial, Bool.false_and, Bool.false_eq_true, if_false, Bool.not_false, if_true]
  exact (readsTo_take hplain hrest).bind h

/-- A sequence goes on behind a condition that is written as an escape. -/
theorem readsTo_sequence_anchor (hdepth : depth ≤ nestingLimit) {c : CodePoint} {a : Anchor}
    (hc : anchorEscape? c = some a) (hrest : rest ≠ [92])
    (h : ReadsTo rest (readSequence fuel false depth first (.anchor a :: parts)) result rest') :
    ReadsTo (92 :: c :: rest) (readSequence (fuel + 1) false depth first parts) result rest' := by
  have hread : readEscape c = pure (.anchor a) := by
    rw [readEscape, hc]
  rw [readSequence, if_neg (by omega)]
  refine .get fun i => .peek ?_
  have hnext : ({ rest := 92 :: c :: rest : Reader }.next?) = some (.escape c) := rfl
  simp only [hnext, hread, pure_bind]
  exact (readsTo_take_escape hrest).bind h

/-- A sequence goes on behind a group. -/
theorem readsTo_sequence_group (hdepth : depth ≤ nestingLimit) {r : Regex} {after : Text}
    (hrest : rest ≠ [92])
    (hgroup : ∀ start first, ReadsTo rest (readGroup fuel false depth start first) (.part r) after)
    (h : ReadsTo after (readSequence fuel false depth first (r :: parts)) result rest') :
    ReadsTo (40 :: rest) (readSequence (fuel + 1) false depth first parts) result rest' := by
  rw [readSequence, if_neg (by omega)]
  refine .get fun i => .peek ?_
  rw [next?_plain (by decide)]
  exact (readsTo_take (by decide) hrest).bind ((hgroup _ _).bind h)

end

/-! ## Names -/

/-- A name that means nothing but itself in a pattern: letters, digits and underscores. -/
def IsWord (word : Text) : Prop := ∀ c ∈ word, CodePoint.isAsciiWord c = true

/-- The parts that a name is read to. -/
def spelled (word : Text) : List Regex := word.map fun c => .one (.literal c)

theorem dissolveGroups_spelled (word : Text) : dissolveGroups (spelled word) = spelled word := by
  rw [dissolveGroups, spelled, List.flatMap_map]
  exact (List.map_eq_flatMap ..).symm

/-- A name is read as the literals of its letters, up to the bar or the parenthesis behind it. -/
theorem readsTo_word {word : Text} (hword : IsWord word) {sep : CodePoint}
    (hsep : sep = 124 ∨ sep = 41) (rest : Text) {depth : Nat} (hdepth : depth ≤ nestingLimit)
    (first : Bool) {fuel : Nat} (hfuel : word.length < fuel) (before : Text) :
    ReadsTo (word ++ sep :: rest) (readSequence fuel false depth first (spelled before).reverse)
      (spelled (before ++ word)) (sep :: rest) := by
  have hplain : sep ≠ 92 := by rcases hsep with rfl | rfl <;> decide
  induction word generalizing fuel before with
  | nil =>
      obtain ⟨fuel, rfl⟩ : ∃ n, fuel = n + 1 := ⟨fuel - 1, by omega⟩
      rw [List.nil_append, List.append_nil]
      have h : ReadsTo (sep :: rest)
          (readSequence (fuel + 1) false depth first (spelled before).reverse) _ (sep :: rest) :=
        readsTo_sequence_end hdepth (.inr ⟨sep, rest, rfl, hsep⟩)
      rwa [List.reverse_reverse, dissolveGroups_spelled] at h
  | cons c word ih =>
      obtain ⟨hc, hword⟩ := List.forall_mem_cons.1 hword
      obtain ⟨fuel, rfl⟩ : ∃ n, fuel = n + 1 := ⟨fuel - 1, by omega⟩
      rw [List.length_cons] at hfuel
      refine readsTo_sequence_literal hdepth hc (append_ne_backslash hplain word rest) ?_
      have h := ih hword (Nat.lt_of_succ_lt_succ hfuel) (before ++ [c])
      rwa [spelled, List.map_append, List.reverse_append, List.append_assoc] at h

/-- No alternatives follow where no bar stands. -/
theorem readsTo_others_end {fuel depth : Nat} {rest : Text}
    (h : rest = [] ∨ ∃ after, rest = 41 :: after) :
    ReadsTo rest (readOthers (fuel + 1) false depth) [] rest := by
  have hnone : ReadsTo rest (accept 124) false rest := by
    rcases h with rfl | ⟨after, rfl⟩
    · exact fun i => ⟨i, rfl⟩
    · exact readsTo_accept_other (by decide) (by decide) after
  rw [readOthers]
  exact hnone.bind .pure

/-- A bar or the closing parenthesis stands behind each name. -/
theorem exists_separator (names : List Text) (rest : Text) : ∃ sep after,
    names.flatMap (124 :: ·) ++ 41 :: rest = sep :: after ∧ (sep = 124 ∨ sep = 41) := by
  cases names with
  | nil => exact ⟨41, rest, rfl, .inr rfl⟩
  | cons name names => exact ⟨124, _, rfl, .inl rfl⟩

/-- A name at the start of a sequence, with other names behind it. -/
theorem readsTo_name {name : Text} (hname : IsWord name) (names : List Text) (rest : Text)
    {depth : Nat} (hdepth : depth ≤ nestingLimit) (first : Bool) {fuel : Nat}
    (hfuel : name.length < fuel) :
    ReadsTo (name ++ (names.flatMap (124 :: ·) ++ 41 :: rest))
      (readSequence fuel false depth first []) (spelled name)
      (names.flatMap (124 :: ·) ++ 41 :: rest) := by
  obtain ⟨sep, after, he, hsep⟩ := exists_separator names rest
  rw [he]
  exact readsTo_word hname hsep after hdepth first hfuel []

/-- Names with a bar in front of each are read one by one. -/
theorem readsTo_others {names : List Text} (hnames : ∀ name ∈ names, IsWord name) (rest : Text)
    {depth : Nat} (hdepth : depth < nestingLimit) {fuel : Nat}
    (hfuel : (names.flatMap (124 :: ·)).length < fuel) :
    ReadsTo (names.flatMap (124 :: ·) ++ 41 :: rest) (readOthers fuel false depth)
      (names.map spelled) (41 :: rest) := by
  induction names generalizing fuel with
  | nil =>
      obtain ⟨fuel, rfl⟩ : ∃ n, fuel = n + 1 := ⟨fuel - 1, by omega⟩
      exact readsTo_others_end (.inr ⟨rest, rfl⟩)
  | cons name names ih =>
      obtain ⟨hname, hnames⟩ := List.forall_mem_cons.1 hnames
      obtain ⟨fuel, rfl⟩ : ∃ n, fuel = n + 1 := ⟨fuel - 1, by omega⟩
      have hlength : (names.flatMap (124 :: ·)).length + name.length < fuel := by
        rw [List.flatMap_cons, List.length_append, List.length_cons] at hfuel
        omega
      have hrest : name ++ (names.flatMap (124 :: ·) ++ 41 :: rest) ≠ [92] := by
        rw [← List.append_assoc]
        exact append_ne_backslash (by decide) _ rest
      rw [List.flatMap_cons, List.cons_append, List.cons_append, List.append_assoc, readOthers]
      refine (readsTo_accept (by decide) hrest).bind (.get fun i => ?_)
      simp only [ite_self]
      refine (readsTo_name hname names rest hdepth false (by omega)).bind ?_
      exact (ih hnames (by omega)).bind .pure

/-- Names with bars between them are read as alternatives. -/
theorem readsTo_alternatives {name : Text} {names : List Text} (hname : IsWord name)
    (hnames : ∀ name ∈ names, IsWord name) (rest : Text) {depth : Nat}
    (hdepth : depth < nestingLimit)
    {fuel : Nat} (hfuel : (name ++ names.flatMap (124 :: ·)).length < fuel) :
    ReadsTo (name ++ (names.flatMap (124 :: ·) ++ 41 :: rest))
      (readAlternatives (fuel + 1) false depth)
      (partsOfAlternatives ((name :: names).map spelled)) (41 :: rest) := by
  rw [List.length_append] at hfuel
  rw [readAlternatives]
  refine (readsTo_name hname names rest hdepth _ (by omega)).bind ?_
  exact (readsTo_others hnames rest hdepth (by omega)).bind .pure

/-! ## The wrapping -/

/-- The tree of a choice between names. -/
def namesBody (names : List Text) : Regex := .ofItems (partsOfAlternatives (names.map spelled))

/-- A choice between names, as a group that only groups. -/
theorem readsTo_group {name : Text} {names : List Text} (hname : IsWord name)
    (hnames : ∀ name ∈ names, IsWord name) {rest : Text} (hrest : rest ≠ [92]) {depth : Nat}
    (hdepth : depth + 1 < nestingLimit) {fuel : Nat}
    (hfuel : (name ++ names.flatMap (124 :: ·)).length < fuel) (start : Nat) (first : Bool) :
    ReadsTo (63 :: 58 :: (name ++ (names.flatMap (124 :: ·) ++ 41 :: rest)))
      (readGroup (fuel + 3) false depth start first)
      (.part (.flagged {} {} (namesBody (name :: names)))) rest := by
  have hinner : name ++ (names.flatMap (124 :: ·) ++ 41 :: rest) ≠ [92] := by
    rw [← List.append_assoc]
    exact append_ne_backslash (by decide) _ rest
  have hclose : ReadsTo (41 :: rest) (closeParenthesis start) () rest := by
    rw [closeParenthesis]
    exact (readsTo_accept (by decide) hrest).bind .pure
  have hbody : ReadsTo (name ++ (names.flatMap (124 :: ·) ++ 41 :: rest))
      (readBody (fuel + 2) false depth start) (namesBody (name :: names)) rest := by
    rw [readBody]
    exact (readsTo_alternatives hname hnames rest hdepth hfuel).bind (hclose.bind .pure)
  rw [readGroup]
  refine (readsTo_accept (by decide) (by simp)).bind ?_
  refine (readsTo_take (by decide) hinner).bind ?_
  exact hbody.bind .pure

/-- The parts of a wrapped choice between names. -/
def namesParts (names : List Text) : List Regex :=
  .anchor .textStart :: (namesBody names).items ++ [.anchor .textEnd]

theorem join_cons (name : Text) (names : List Text) :
    Text.join [124] (name :: names) = name ++ names.flatMap (124 :: ·) := by
  induction names generalizing name with
  | nil => simp [Text.join]
  | cons other names ih => simp [Text.join, ih]

theorem dissolveGroups_wrapped (body : Regex) :
    dissolveGroups [.anchor .textStart, .flagged {} {} body, .anchor .textEnd] =
      .anchor .textStart :: body.items ++ [.anchor .textEnd] := by
  simp [dissolveGroups, Flags.isEmpty]

/-- A wrapped choice between names is read to its parts. -/
theorem readsTo_wrapped {name : Text} {names : List Text} (hname : IsWord name)
    (hnames : ∀ name ∈ names, IsWord name) {fuel : Nat}
    (hfuel : (name ++ names.flatMap (124 :: ·)).length < fuel) :
    ReadsTo (92 :: 65 :: 40 :: 63 :: 58 :: (name ++ (names.flatMap (124 :: ·) ++ [41, 92, 90])))
      (readAlternatives (fuel + 6) false 0) (namesParts (name :: names)) [] := by
  have hdepth : 1 + 1 < nestingLimit := by decide
  have hend : ReadsTo [] (readSequence (fuel + 2) false 1 true [.anchor .textEnd,
      .flagged {} {} (namesBody (name :: names)), .anchor .textStart])
      (dissolveGroups [.anchor .textStart, .flagged {} {} (namesBody (name :: names)),
        .anchor .textEnd]) [] := readsTo_sequence_end (by omega) (.inl rfl)
  rw [dissolveGroups_wrapped] at hend
  rw [readAlternatives]
  refine ReadsTo.bind ?_ ((readsTo_others_end (.inl rfl)).bind .pure)
  refine readsTo_sequence_anchor (by omega) rfl (by simp) ?_
  refine readsTo_sequence_group (by omega) (by simp)
    (fun start first => readsTo_group hname hnames (by simp) (by omega) (by omega) start first) ?_
  exact readsTo_sequence_anchor (by omega) rfl (by simp) hend

/-- The pattern of a choice between names. -/
def namesPattern (names : List Text) : Pattern where
  source := RuleText.anchor (Text.join [124] names)
  options := {}
  tree := .ofItems (namesParts names)
  flags := { unicode := true }
  widths := []

theorem checkShape_of_isPlain (groups : Nat → Width) {r : Regex} (h : isPlain r = true) :
    checkShape groups false r = .ok () := by
  induction r with
  | seq a b iha ihb | alt a b iha ihb =>
      rw [isPlain, Bool.and_eq_true] at h
      rw [checkShape, iha h.1]
      exact ihb h.2
  | rep greed least most body ih => exact ih h
  | empty | one | anchor => rfl
  | capture | flagged | atomic | look | backref | cond => cases h

theorem hasFarLookbehind_of_isPlain (groups : Nat → Width) {r : Regex} (h : isPlain r = true) :
    hasFarLookbehind groups r = false := by
  induction r with
  | seq a b iha ihb | alt a b iha ihb =>
      rw [isPlain, Bool.and_eq_true] at h
      rw [hasFarLookbehind, iha h.1, ihb h.2]
      rfl
  | rep greed least most body ih => exact ih h
  | empty | one | anchor => rfl
  | capture | flagged | atomic | look | backref | cond => cases h

theorem isStraight_items {r : Regex} (h : isStraight r = true) :
    ∀ q ∈ r.items, isStraight q = true := by
  induction r with
  | empty => simp [items]
  | seq a b iha ihb =>
      rw [isStraight, Bool.and_eq_true] at h
      intro q hq
      rcases List.mem_append.1 hq with hq | hq
      · exact iha h.1 q hq
      · exact ihb h.2 q hq
  | _ =>
      intro q hq
      cases List.mem_singleton.1 hq
      exact h

theorem composes_isStraight : Composes fun r => isStraight r = true where
  empty := rfl
  one _ := rfl
  seq ha hb := by rw [isStraight, ha, hb]; rfl
  alt ha hb := by rw [isStraight, ha, hb]; rfl

theorem isStraight_namesPattern (names : List Text) :
    isStraight (namesPattern names).tree = true := by
  have hspelled : ∀ parts ∈ names.map spelled, ∀ r ∈ parts, isStraight r = true := by
    intro parts hparts r hr
    obtain ⟨name, -, rfl⟩ := List.mem_map.1 hparts
    obtain ⟨c, -, rfl⟩ := List.mem_map.1 hr
    rfl
  have hbody : isStraight (namesBody names) = true :=
    composes_isStraight.ofItems (composes_isStraight.partsOfAlternatives hspelled)
  refine composes_isStraight.ofItems fun r hr => ?_
  rcases List.mem_append.1 hr with hr | hr
  · rcases List.mem_cons.1 hr with rfl | hr
    · rfl
    · exact isStraight_items hbody r hr
  · cases List.mem_singleton.1 hr
    rfl

theorem readsTo_pattern {pattern : Text} (hpattern : pattern ≠ [92]) {parts : List Regex}
    (h : ReadsTo pattern (readAlternatives (fuelFor pattern) false 0) parts []) :
    ReadsTo pattern (readPattern pattern) parts [] := by
  have hcheck : ReadsTo pattern checkNext () pattern := fun i => ⟨i, by simp [checkNext, hpattern]⟩
  rw [readPattern]
  refine hcheck.bind (.get fun i => h.bind (.get fun j => ?_))
  exact .pure

/-- A tool pattern of plain names compiles. -/
theorem compile_names {names : List Text} (hne : names ≠ [])
    (hnames : ∀ name ∈ names, IsWord name) :
    Pattern.compile (RuleText.anchor (Text.join [124] names)) {} = .ok (namesPattern names) := by
  obtain ⟨name, names, rfl⟩ := List.exists_cons_of_ne_nil hne
  obtain ⟨hname, hnames⟩ := List.forall_mem_cons.1 hnames
  have htext : RuleText.anchor (Text.join [124] (name :: names)) = 92 :: 65 :: 40 :: 63 :: 58 ::
      (name ++ (names.flatMap (124 :: ·) ++ [41, 92, 90])) := by
    rw [join_cons]
    simp [RuleText.anchor, Text.ofString]
  have hread : ReadsTo (RuleText.anchor (Text.join [124] (name :: names)))
      (readPattern (RuleText.anchor (Text.join [124] (name :: names))))
      (namesParts (name :: names)) [] := by
    refine readsTo_pattern (by rw [htext]; simp) ?_
    have hfuel : fuelFor (RuleText.anchor (Text.join [124] (name :: names))) =
        6 * (name ++ names.flatMap (124 :: ·)).length + 50 + 6 := by
      rw [fuelFor, htext]
      simp only [List.length_cons, List.length_append, List.length_nil]
      omega
    rw [hfuel, htext]
    exact readsTo_wrapped hname hnames (by omega)
  obtain ⟨j, hj⟩ := hread 0
  have hplain := isPlain_of_isStraight (isStraight_namesPattern (name :: names))
  simp only [namesPattern] at hplain
  rw [Pattern.compile, parse, StateT.run, hj]
  simp only [bind, Except.bind, checkShape_of_isPlain _ hplain,
    hasFarLookbehind_of_isPlain _ hplain]
  rfl

end ToolPolicy.Regex
