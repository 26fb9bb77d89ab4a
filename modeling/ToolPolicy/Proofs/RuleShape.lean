import ToolPolicy.Proofs.EntryFailure
import ToolPolicy.Proofs.Paths

/-!
# The shape of a rule

A rule is a pattern for the tool without parentheses, and a pattern for the content in parentheses;
neither is empty, and the content may hold anything, line feeds and parentheses included. A text can
be written in this way in at most one way. Splitting finds it, and it is what a pattern with two
greedy groups finds that has to match the whole text.

* `Written`: a text is written from two patterns.
* `splitBy?_wholeShape`: the groups of the pattern are the parts of a split.
* `parseText_shape_iff`: a text is refused for its shape exactly if it is not
  written from two patterns.
* `split_iff_written`: the shape, the split, the pattern, the refusal and the
  rules that are accepted.
-/

namespace ToolPolicy

open Regex

namespace RuleText

/-- A text is written from a pattern for the tool and one for the content. -/
structure Written (raw tool content : Text) : Prop where
  raw_eq : raw = tool ++ "(" ++ content ++ ")"
  tool_ne_nil : tool ≠ []
  unopened : 40 ∉ tool
  content_ne_nil : content ≠ []

theorem written_iff {raw tool content : Text} : Written raw tool content ↔
    raw = tool ++ "(" ++ content ++ ")" ∧ tool ≠ [] ∧ 40 ∉ tool ∧ content ≠ [] := by
  constructor
  · rintro ⟨hraw, ht, hp, hc⟩
    exact ⟨hraw, ht, hp, hc⟩
  · rintro ⟨hraw, ht, hp, hc⟩
    exact ⟨hraw, ht, hp, hc⟩

theorem split?_eq_some_iff_written {raw tool content : Text} :
    split? raw = some (tool, content) ↔ Written raw tool content := by
  have hcompose : compose tool content = tool ++ "(" ++ content ++ ")" := by
    simp [compose, Text.ofString]
  rw [split?_eq_some_iff, hcompose, written_iff]

/-- A text is written in one way at most. -/
theorem Written.unique {raw tool content tool' content' : Text} (h : Written raw tool content)
    (h' : Written raw tool' content') : tool = tool' ∧ content = content' := by
  rw [← split?_eq_some_iff_written] at h h'
  rw [h] at h'
  exact Prod.mk.inj (Option.some.inj h')

theorem split?_eq_none_iff_written {raw : Text} :
    split? raw = none ↔ ∀ tool content, ¬Written raw tool content := by
  simp only [Option.eq_none_iff_forall_ne_some, Ne, Prod.forall, split?_eq_some_iff_written]

/-! ## The pattern -/

/-- The pattern for the shape of a rule, with a group for each part. -/
def shape : Text := "([^(]+)\\((.+)\\)"

/-- The part of the pattern that stands for the tool. -/
def toolPart : Regex := .rep .greedy 1 none (.one (.notLiteral 40))

/-- The part of the pattern that stands for the content. -/
def contentPart : Regex := .rep .greedy 1 none (.one .any)

/-- The part of the pattern behind the content, up to the end of the text. -/
def closingPart : Regex := .seq (.one (.literal 41)) (.anchor .textEnd)

/-- The pattern as it is read, for a match of the whole text. -/
def wholeShape : Pattern where
  source := anchor shape
  options := { dotAll := true }
  tree := .seq (.anchor .textStart) (.seq (.capture 1 toolPart) (.seq (.one (.literal 40))
    (.seq (.capture 2 contentPart) closingPart)))
  flags := { dotAll := true, unicode := true }
  widths := [some ⟨1, unboundedWidth⟩, some ⟨1, unboundedWidth⟩]

theorem compile_wholeShape :
    Pattern.compile (anchor shape) { dotAll := true } = .ok wholeShape :=
  Pattern.compile_of_toOption (by decide +kernel)

/-- The two groups of a pattern where it matches from the start of a text. -/
def splitBy? (p : Pattern) (raw : Text) : Option (Text × Text) :=
  match run (p.subject raw) p.flags false none p.tree ⟨0, 0, []⟩ accepted with
  | .failed .. => none
  | .found final => do
    let (first, last) ← final.marks.group? 1
    let (first', last') ← final.marks.group? 2
    return ((raw.drop first).take (last - first), (raw.drop first').take (last' - first'))

section
variable {raw : Text} {i j : Nat}

theorem passes_toolPart : wholeShape.Passes raw toolPart i j ↔
    ∃ tool, tool ≠ [] ∧ 40 ∉ tool ∧ raw.drop i = tool ++ raw.drop j ∧ j = i + tool.length := by
  have hholds : ∀ c, (CharTest.notLiteral 40).holds wholeShape.flags c = true ↔ 40 ≠ c := by
    intro c
    simp [CharTest.holds, CharTest.isLiteral, wholeShape]
  rw [toolPart, Pattern.passes_rep_iff]
  constructor
  · rintro ⟨tool, hleast, -, hall, h⟩
    exact ⟨tool, List.length_pos_iff.1 hleast, fun hmem => (hholds 40).1 (hall 40 hmem) rfl, h⟩
  · rintro ⟨tool, hne, hopen, h⟩
    refine ⟨tool, List.length_pos_iff.2 hne, by simp, fun c hc => (hholds c).2 ?_, h⟩
    rintro rfl
    exact hopen hc

theorem passes_contentPart : wholeShape.Passes raw contentPart i j ↔
    ∃ content, content ≠ [] ∧ raw.drop i = content ++ raw.drop j ∧ j = i + content.length := by
  have hholds : ∀ c, CharTest.any.holds wholeShape.flags c = true := fun _ => rfl
  rw [contentPart, Pattern.passes_rep_iff]
  constructor
  · rintro ⟨content, hleast, -, -, h⟩
    exact ⟨content, List.length_pos_iff.1 hleast, h⟩
  · rintro ⟨content, hne, h⟩
    exact ⟨content, List.length_pos_iff.2 hne, by simp, fun c _ => hholds c, h⟩

theorem passes_parenthesis (c : CodePoint) :
    wholeShape.Passes raw (.one (.literal c)) i j ↔
      raw.drop i = c :: raw.drop j ∧ j = i + 1 := by
  have hcase : wholeShape.flags.ignoreCase = false := rfl
  simp only [Pattern.passes_one_iff, CharTest.holds_literal hcase]
  constructor
  · rintro ⟨_, rfl, hdrop, rfl⟩
    exact ⟨hdrop, rfl⟩
  · rintro ⟨hdrop, rfl⟩
    exact ⟨c, rfl, hdrop, rfl⟩

end

/-- The pattern leads through a text, with its groups between `a` and `b`
and between `c` and `d`. -/
def LeadsThrough (raw : Text) (i a b c d j : Nat) : Prop :=
  wholeShape.Passes raw (.anchor .textStart) i a ∧ wholeShape.Passes raw toolPart a b ∧
    wholeShape.Passes raw (.one (.literal 40)) b c ∧ wholeShape.Passes raw contentPart c d ∧
      wholeShape.Passes raw closingPart d j

/-- The pattern leads through a text that is written from two patterns, and puts its groups around
these. -/
theorem leadsThrough_iff {raw : Text} {i a b c d j : Nat} : LeadsThrough raw i a b c d j ↔
    ∃ tool content, Written raw tool content ∧ i = 0 ∧ a = 0 ∧ b = tool.length ∧ c = b + 1 ∧
      d = c + content.length ∧ j = raw.length := by
  simp only [LeadsThrough, closingPart, leads_seq, passes_toolPart, passes_contentPart,
    passes_parenthesis, Pattern.passes_textStart, Pattern.passes_textEnd]
  constructor
  · rintro ⟨⟨rfl, rfl⟩, ⟨tool, hne, hopen, htool, rfl⟩, ⟨hopening, rfl⟩,
      ⟨content, hfilled, hcontent, rfl⟩, m, ⟨hclosing, rfl⟩, hend, rfl⟩
    refine ⟨tool, content, ⟨?_, hne, hopen, hfilled⟩, rfl, rfl, by simp, rfl, rfl, hend⟩
    rw [hend, List.drop_length] at hclosing
    rw [← List.drop_zero (l := raw), htool, hopening, hcontent, hclosing]
    simp [Text.ofString]
  · rintro ⟨tool, content, ⟨hraw, hne, hopen, hfilled⟩, rfl, rfl, rfl, rfl, rfl, rfl⟩
    have hstart : raw.drop 0 = tool ++ 40 :: (content ++ [41]) := by simp [hraw, Text.ofString]
    have htool := Pattern.drop_append hstart
    rw [Nat.zero_add] at htool
    have hopening := Pattern.drop_cons htool
    have hcontent := Pattern.drop_append hopening
    have hend : raw.length = tool.length + 1 + content.length + 1 := by
      simp [hraw, Text.ofString]
      omega
    refine ⟨⟨rfl, rfl⟩, ⟨tool, hne, hopen, ?_, by simp⟩, ⟨?_, rfl⟩, ⟨content, hfilled, ?_, rfl⟩,
      raw.length, ⟨?_, hend⟩, rfl, rfl⟩
    · rw [hstart, htool]
    · rw [htool, hopening]
    · rw [hopening, hcontent]
    · rw [hcontent, List.drop_length]

/-- The pattern ends from the end `d` of the content, with the places of both groups recorded. -/
def EndsBehindContent (raw : Text) (a b c d i : Nat) (final : State) : Prop :=
  ∃ j, wholeShape.Passes raw closingPart i j ∧ final = ⟨j, j, [some a, some b, some c, some d]⟩

/-- The pattern ends from the end of the tool, which is recorded from `a` to `b`. -/
def EndsBehindTool (raw : Text) (a b i : Nat) (final : State) : Prop :=
  ∃ c, wholeShape.Passes raw (.one (.literal 40)) i c ∧
    ∃ d, wholeShape.Passes raw contentPart c d ∧ EndsBehindContent raw a b c d d final

/-- The pattern from the opening parenthesis on. -/
def opening (raw : Text) : Continuation :=
  wholeShape.before raw none (.one (.literal 40)) (wholeShape.before raw (some 41)
    (.capture 2 contentPart) (wholeShape.before raw none closingPart accepted))

theorem decides_opening (raw : Text) (a b : Nat) :
    Decides [some a, some b] (EndsBehindTool raw a b) (opening raw) := by
  have hclosing : ∀ c d, Decides [some a, some b, some c, some d] (EndsBehindContent raw a b c d)
      (wholeShape.before raw none closingPart accepted) :=
    fun c d => Pattern.decides_before rfl (Decides.accepted _)
  have hliteral : isStraight (.one (.literal 40)) = true := rfl
  have hgroup : isStraight contentPart = true := rfl
  have hfresh : [some a, some b].length = 2 * 1 := rfl
  exact Pattern.decides_before hliteral
    (Pattern.decides_before_capture hgroup hfresh _ hclosing)

/-- A run of the pattern ends at the end of a text that it leads through, with the places of both
groups recorded. -/
theorem settled_wholeShape (raw : Text) (i : Nat) :
    Settled [] (fun final => ∃ a b c d j, LeadsThrough raw i a b c d j ∧
        final = ⟨j, j, [some a, some b, some c, some d]⟩)
      (run (wholeShape.subject raw) wholeShape.flags false none wholeShape.tree ⟨i, i, []⟩
        accepted) := by
  have hgroup : isStraight toolPart = true := rfl
  have hfresh : ([] : Marks).length = 2 * 0 := rfl
  have htool : Decides []
      (fun a final => ∃ b, wholeShape.Passes raw toolPart a b ∧ EndsBehindTool raw a b b final)
      (wholeShape.before raw (some 40) (.capture 1 toolPart) (opening raw)) :=
    Pattern.decides_before_capture hgroup hfresh _ (decides_opening raw)
  have hstart : isStraight (.anchor .textStart) = true := rfl
  refine (Pattern.decides_before hstart htool ⟨i, i, []⟩ rfl).congr fun final => ?_
  constructor
  · rintro ⟨a, ha, b, hb, c, hc, d, hd, j, hj, rfl⟩
    exact ⟨a, b, c, d, j, ⟨ha, hb, hc, hd, hj⟩, rfl⟩
  · rintro ⟨a, b, c, d, j, ⟨ha, hb, hc, hd, hj⟩, rfl⟩
    exact ⟨a, ha, b, hb, c, hc, d, hd, j, hj, rfl⟩

theorem group?_one {a b : Nat} (h : a ≤ b) (rest : Marks) :
    Marks.group? (some a :: some b :: rest) 1 = some (a, b) := by
  have hlength : ¬rest.length + 1 + 1 < 2 := by omega
  simp [Marks.group?, Marks.span?, Option.filter, h, hlength]

theorem group?_two {a b : Nat} (h : a ≤ b) (first last : Option Nat) :
    Marks.group? [first, last, some a, some b] 2 = some (a, b) := by
  simp [Marks.group?, Marks.span?, Option.filter, h]

/-- The groups of the pattern are the parts into which a text is split. -/
theorem splitBy?_wholeShape (raw : Text) : splitBy? wholeShape raw = split? raw := by
  have hrun := settled_wholeShape raw 0
  rw [splitBy?]
  cases h : run (wholeShape.subject raw) wholeShape.flags false none wholeShape.tree ⟨0, 0, []⟩
      accepted with
  | failed resume left =>
      rw [h] at hrun
      cases hrun with
      | failed none =>
          refine (split?_eq_none_iff_written.2 fun tool content hwritten => ?_).symm
          exact none _ ⟨0, _, _, _, _, leadsThrough_iff.2
            ⟨tool, content, hwritten, rfl, rfl, rfl, rfl, rfl, rfl⟩, rfl⟩
  | found final =>
      rw [h] at hrun
      cases hrun with
      | found hfinal =>
          obtain ⟨a, b, c, d, j, hleads, rfl⟩ := hfinal
          obtain ⟨tool, content, hwritten, -, rfl, rfl, rfl, rfl, rfl⟩ := leadsThrough_iff.1 hleads
          have hraw : raw = tool ++ 40 :: (content ++ [41]) := by
            rw [hwritten.raw_eq]
            simp [Text.ofString]
          have htool : (raw.drop 0).take (tool.length - 0) = tool := by
            rw [hraw, List.drop_zero, Nat.sub_zero, List.take_left]
          have hcontent : (raw.drop (tool.length + 1)).take
              (tool.length + 1 + content.length - (tool.length + 1)) = content := by
            rw [hraw, ← List.drop_drop, List.drop_left, List.drop_one, List.tail_cons,
              Nat.add_sub_cancel_left, List.take_left]
          rw [split?_eq_some_iff_written.2 hwritten]
          simp only [group?_one (Nat.zero_le _), group?_two (Nat.le_add_right _ _)]
          exact congrArg some (Prod.ext htool hcontent)

end RuleText

/-! ## Rules -/

namespace RuleEntry

open RuleText (Written)

/-- A text is refused for its shape exactly if it is not written from two patterns. -/
theorem parseText_shape_iff (cache : PatternCache) (category : Option Text) (raw : Text)
    (e : RuleEntry) :
    (∃ failure, (parseText cache category raw e).2.result = .ok (.error failure) ∧
      failure.Reports "RuleFormatError" 2002 raw category none) ↔
    ∀ tool content, ¬Written raw tool content := by
  rw [← RuleText.split?_eq_none_iff_written, parseText]
  cases hsplit : RuleText.split? raw with
  | none =>
      simp only [iff_true]
      exact ⟨_, rfl, PolicyError.reports_make rfl rfl []⟩
  | some parts =>
      obtain ⟨tool, content⟩ := parts
      simp only [reduceCtorEq, iff_false]
      rintro ⟨failure, hresult, hreports⟩
      rcases hcompile : compile cache tool content (Flags.strip (e.flags.getD [])) with
        ⟨after, (cause | f) | patterns⟩
      · rw [hcompile] at hresult
        cases hresult
        cases hreports.cause_eq
      · rw [hcompile] at hresult
        cases hresult
      · rw [hcompile] at hresult
        cases hresult

/-- The text of a rule that is accepted after any history is written from its two patterns. -/
theorem written_of_parse (steps : List CacheStep) {category : Option Text} {entry : Entry}
    {rule : Rule Pattern}
    (h : (parse (PatternCache.after steps) category entry).2.result = .ok (.ok rule)) :
    ∃ tool, Written rule.raw tool rule.content.source ∧
      rule.tool.source = RuleText.anchor tool := by
  rw [((PatternCache.sound_after steps).parse category entry).2] at h
  obtain ⟨e, tool, content, options, hgives, -⟩ := gives_of_parse h
  have hcontent : rule.content.source = content := Pattern.compile_source hgives.contentPattern
  rw [hcontent]
  exact ⟨tool, RuleText.split?_eq_some_iff_written.1 hgives.parts,
    Pattern.compile_source hgives.toolPattern⟩

/-- **A rule is written in one way.**  A text is split into two patterns exactly if it is the first,
without an opening parenthesis, followed by the second in parentheses, and neither is empty; there
is at most one such way to write it, and composing two patterns is undone. The pattern for the shape
compiles, and its groups hold the same parts. A text that is not written in this way is refused for
its shape, and no other is; and a rule that is accepted is written from its own patterns. -/
theorem split_iff_written :
    (∀ raw tool content, RuleText.split? raw = some (tool, content) ↔
      raw = tool ++ "(" ++ content ++ ")" ∧ tool ≠ [] ∧ 40 ∉ tool ∧ content ≠ []) ∧
    (∀ raw, RuleText.split? raw = none ↔
      ¬∃! parts : Text × Text, raw = parts.1 ++ "(" ++ parts.2 ++ ")" ∧ parts.1 ≠ [] ∧
        40 ∉ parts.1 ∧ parts.2 ≠ []) ∧
    (∃ p, Pattern.compile (RuleText.anchor RuleText.shape) { dotAll := true } = .ok p ∧
      ∀ raw, RuleText.splitBy? p raw = RuleText.split? raw) ∧
    (∀ cache category raw e, RuleText.split? raw = none ↔
      ∃ failure, (parseText cache category raw e).2.result = .ok (.error failure) ∧
        failure.Reports "RuleFormatError" 2002 raw category none) ∧
    ∀ steps category entry rule,
      (parse (PatternCache.after steps) category entry).2.result = .ok (.ok rule) →
        ∃ tool content, RuleText.split? rule.raw = some (tool, content) ∧
          rule.raw = tool ++ "(" ++ content ++ ")" ∧
            rule.tool.source = RuleText.anchor tool ∧ rule.content.source = content := by
  refine ⟨fun raw tool content => ?_, fun raw => ?_, ⟨_, RuleText.compile_wholeShape,
    RuleText.splitBy?_wholeShape⟩, fun cache category raw e => ?_,
    fun steps category entry rule h => ?_⟩
  · rw [RuleText.split?_eq_some_iff_written, RuleText.written_iff]
  · rw [RuleText.split?_eq_none_iff_written]
    constructor
    · rintro h ⟨⟨tool, content⟩, ⟨hraw, ht, hp, hc⟩, -⟩
      exact h tool content ⟨hraw, ht, hp, hc⟩
    · rintro h tool content hwritten
      refine h ⟨(tool, content), ⟨hwritten.1, hwritten.2, hwritten.3, hwritten.4⟩, ?_⟩
      rintro ⟨tool', content'⟩ ⟨hraw, ht, hp, hc⟩
      obtain ⟨rfl, rfl⟩ := hwritten.unique ⟨hraw, ht, hp, hc⟩
      rfl
  · rw [parseText_shape_iff, RuleText.split?_eq_none_iff_written]
  · obtain ⟨tool, hwritten, htool⟩ := written_of_parse steps h
    exact ⟨tool, _, RuleText.split?_eq_some_iff_written.2 hwritten, hwritten.raw_eq, htool, rfl⟩

/-- A content that opens and closes with parentheses and holds a line feed, in a mapping. -/
theorem split_iff_written_feed : ∃ rule : Rule Pattern,
    (parse (PatternCache.after []) (some "ask") (.value (.object
      [("rule", .str "Bash((a)\n(b))"), ("flags", .str "i")]))).2.result = .ok (.ok rule) ∧
    ∃ tool content, RuleText.split? rule.raw = some (tool, content) ∧
      rule.raw = tool ++ "(" ++ content ++ ")" ∧
        rule.tool.source = RuleText.anchor tool ∧ rule.content.source = content := by
  have hraw : ((parse (PatternCache.after []) (some "ask") (.value (.object
      [("rule", .str "Bash((a)\n(b))"), ("flags", .str "i")]))).2.result.toOption.bind
        Except.toOption).map (fun rule => rule.raw) = some ("Bash((a)\n(b))" : Text) := by
    decide +kernel
  obtain ⟨rule, hrule, -⟩ := exists_rule hraw
  exact ⟨rule, hrule, split_iff_written.2.2.2.2 _ _ _ rule hrule⟩

end RuleEntry

end ToolPolicy
