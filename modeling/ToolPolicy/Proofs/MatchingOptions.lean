import ToolPolicy.Regex.Pattern

/-!
# Options that only matter for matching

Three options say how a text is matched: whether upper and lower case differ, what a line is, and
whether a dot stands for a line feed. None of them says how a pattern is read. So a pattern is read
alike whether they are on or off, and what is wrong with it stays the same.

* `Carries`: a reader that does the same under further options for matching, and keeps them.
* `Readers`: the readers of groups and sequences, with `Readers.carry` by induction on the fuel.
* `parse_matching`: what is read under further options for matching.
* `Pattern.compile_isOk_matching`: whether a pattern compiles does not depend on them.
-/

namespace ToolPolicy.Regex

open Reading

/-- Options, with those of others for matching added. -/
def Flags.matching (flags o : Flags) : Flags :=
  { flags with
    ignoreCase := flags.ignoreCase || o.ignoreCase
    multiLine := flags.multiLine || o.multiLine
    dotAll := flags.dotAll || o.dotAll }

theorem Flags.union_matching (flags on o : Flags) :
    (flags.matching o).union on = (flags.union on).matching o := by
  simp only [Flags.matching, Flags.union, Bool.or_right_comm]

/-- A state of reading, with options for matching added. -/
def Reader.matching (s : Reader) (o : Flags) : Reader := { s with flags := s.flags.matching o }

/-- A reader to which options for matching make no difference, and that keeps them. -/
def Carries (o : Flags) {α : Type} (m : Reading α) : Prop :=
  ∀ s, m (s.matching o) = (m s).map fun result => (result.1, result.2.matching o)

namespace Carries

variable {o : Flags} {α β : Type} {m : Reading α}

theorem bind {f : α → Reading β} (h : Carries o m) (hf : ∀ a, Carries o (f a)) :
    Carries o (m >>= f) := by
  intro s
  change (m (s.matching o) >>= fun p => f p.1 p.2) = (m s >>= fun p => f p.1 p.2).map _
  rw [h s]
  cases m s with
  | error failure => rfl
  | ok p => exact hf p.1 p.2

theorem pure {a : α} : Carries o (pure a : Reading α) := fun _ => rfl

theorem flaw {cause : Flaw.Cause} {back : Nat} : Carries o (flaw cause back : Reading α) :=
  fun _ => rfl

theorem fault {f : Fault} : Carries o (fault f : Reading α) := fun _ => rfl

theorem peek : Carries o peek := fun _ => rfl

/-- What is looked at in a state is the same with the options. -/
theorem get {f : Reader → Reading α} (hf : ∀ s, Carries o (f s))
    (hsame : ∀ s : Reader, f (s.matching o) = f s) : Carries o (MonadState.get >>= f) := by
  intro s
  change f (s.matching o) (s.matching o) = (f s s).map _
  rw [hsame s]
  exact hf s s

/-- A reader that stores the state that it looks at. -/
theorem get_at {f : Reader → Reading α} (hf : ∀ s, f (s.matching o) (s.matching o) =
      (f s s).map fun result => (result.1, result.2.matching o)) :
    Carries o (MonadState.get >>= f) := hf

theorem modify {g : Reader → Reader} (hg : ∀ s, g (s.matching o) = (g s).matching o) :
    Carries o (modify g : Reading PUnit) := by
  intro s
  change Except.ok ((), g (s.matching o)) = _
  rw [hg s]
  rfl

/-- A check that ends the reading, in front of what is left to read. -/
theorem check {c : Prop} [Decidable c] {m : Reading PUnit} {rest : Reading α} (hm : Carries o m)
    (hrest : Carries o rest) : Carries o (if c then m >>= fun _ => rest else rest) := by
  split
  · exact .bind hm fun _ => hrest
  · exact hrest

theorem get_flaw {cause : Flaw.Cause} {start : Nat} :
    Carries o (MonadState.get >>= fun s => Reading.flaw cause (s.position - start) : Reading α) :=
  .get (fun _ => .flaw) fun _ => rfl

end Carries

section
variable {o : Flags}

/-! ## Tokens and names -/

theorem checkNext_carries : Carries o checkNext := by
  intro s
  change (if s.rest = [92] then _ else _) = (if s.rest = [92] then _ else _ : Except _ _).map _
  split <;> rfl

theorem take_carries : Carries o take := by
  intro s
  have hnext : (s.matching o).next? = s.next? := rfl
  simp only [take, hnext]
  cases s.next? with
  | none => rfl
  | some t =>
      have h := checkNext_carries (o := o)
        { s with rest := s.rest.drop t.length, position := s.position + t.length }
      simp only
      refine (congrArg (Except.map fun result => (some t, result.2)) h).trans ?_
      cases checkNext { s with rest := s.rest.drop t.length, position := s.position + t.length } <;>
        rfl

theorem accept_carries (c : CodePoint) : Carries o (accept c) := by
  refine .bind .peek fun t? => ?_
  split
  · exact .bind take_carries fun _ => .pure
  · exact .pure

theorem backTo_carries (place : Reader) : Carries o (backTo place) := fun s =>
  checkNext_carries { s with rest := place.rest, position := place.position }

theorem takeSome_carries (p : CodePoint → Bool) (n : Nat) : Carries o (takeSome p n) := by
  induction n with
  | zero => exact .pure
  | succ n ih =>
      rw [takeSome]
      refine .bind .peek fun t? => ?_
      split
      · split
        · exact .bind take_carries fun _ => .bind ih fun _ => .pure
        · exact .pure
      · exact .pure

theorem takeAll_carries (p : CodePoint → Bool) : Carries o (takeAll p) :=
  .get (fun _ => takeSome_carries p _) fun _ => rfl

theorem takeName_carries (terminator : CodePoint) (what : Text) :
    Carries o (takeName terminator what) := by
  have hgo : ∀ n name, Carries o (takeName.go terminator what n name) := by
    intro n
    induction n with
    | zero => exact fun _ => .flaw
    | succ n ih =>
        intro name
        rw [takeName.go]
        refine .bind take_carries fun t? => ?_
        split
        · split
          · exact .flaw
          · exact .flaw
        · split
          · split
            · exact .flaw
            · exact .pure
          · exact ih _
  exact .get (fun _ => hgo _ []) fun _ => rfl

theorem checkGroupName_carries (name : Text) (back : Nat) :
    Carries o (checkGroupName name back) := by
  unfold checkGroupName
  split
  · exact .flaw
  · exact .pure

theorem openGroup_carries (name : Option Text) : Carries o (openGroup name) := by
  intro s
  cases name with
  | none => rfl
  | some name =>
      have hnames : (s.matching o).names = s.names := rfl
      simp only [openGroup, bind, StateT.bind, get, getThe, MonadStateOf.get, StateT.get, pure,
        Except.pure, Except.bind, hnames]
      cases s.names.find? fun n => n.1 == name <;> rfl

theorem closeGroup_carries (index : Nat) (w : Width) : Carries o (closeGroup index w) :=
  .modify fun _ => rfl

theorem checkLookbehind_carries (index : Nat) : Carries o (checkLookbehind index) := by
  refine .get (fun s => ?_) fun _ => rfl
  split
  · exact .pure
  split
  · exact .flaw
  split
  · exact .flaw
  · exact .pure

/-! ## Escapes -/

theorem readHexEscape_carries (letter : CodePoint) (count : Nat) :
    Carries o (readHexEscape letter count) := by
  refine .bind (takeSome_carries _ count) fun digits => ?_
  simp only
  split
  · exact .flaw
  split
  · exact .pure
  split
  · exact .flaw
  · exact .fault

theorem readNamedEscape_carries : Carries o readNamedEscape := by
  refine .bind (accept_carries 123) fun opened => ?_
  simp only
  refine .check .flaw (.bind (takeName_carries 125 _) fun name => .check .flaw ?_)
  split
  · exact .pure
  · exact .flaw

theorem readNumericEscape?_carries {c : CodePoint} {m : Reading CodePoint}
    (h : readNumericEscape? c = some m) : Carries o m := by
  unfold readNumericEscape? at h
  split at h
  · cases h
    exact readHexEscape_carries c 2
  split at h
  · cases h
    exact readHexEscape_carries c 4
  split at h
  · cases h
    exact readHexEscape_carries c 8
  split at h
  · cases h
    exact readNamedEscape_carries
  · cases h

theorem octalValue_carries (digits : Text) : Carries o (octalValue digits) := by
  unfold octalValue
  simp only
  split
  · exact .flaw
  · exact .pure

theorem readBackref_carries (digits : Text) : Carries o (readBackref digits) := by
  refine .get (fun s => ?_) fun _ => rfl
  simp only
  split
  · exact .check .flaw (.bind (checkLookbehind_carries _) fun _ => .pure)
  · exact .flaw

theorem readEscape_carries (c : CodePoint) : Carries o (readEscape c) := by
  unfold readEscape
  split
  · exact .pure
  split
  · exact .pure
  split
  · exact .pure
  split
  · next hm => exact .bind (readNumericEscape?_carries hm) fun _ => .pure
  split
  · exact .bind (takeSome_carries _ 2) fun _ => .pure
  split
  · refine .bind (takeSome_carries _ 1) fun second => ?_
    simp only
    split
    · refine .bind (takeSome_carries _ 1) fun third => ?_
      split
      · exact .bind (octalValue_carries _) fun _ => .pure
      · exact readBackref_carries _
    · exact readBackref_carries _
  split
  · exact .flaw
  · exact .pure

/-! ## Classes -/

theorem readClassEscape_carries (c : CodePoint) : Carries o (readClassEscape c) := by
  unfold readClassEscape
  split
  · exact .pure
  split
  · exact .pure
  split
  · next hm => exact .bind (readNumericEscape?_carries hm) fun _ => .pure
  split
  · refine .bind (takeSome_carries _ 2) fun digits => ?_
    exact .bind (octalValue_carries _) fun _ => .pure
  split
  · exact .flaw
  · exact .pure

theorem readClassMember_carries (t : Token) : Carries o (readClassMember t) := by
  cases t with
  | plain c => exact .pure
  | escape c => exact readClassEscape_carries c

theorem readMembers_carries (start fuel : Nat) (members : List ClassItem) :
    Carries o (readMembers start fuel members) := by
  induction fuel generalizing members with
  | zero => exact .flaw
  | succ fuel ih =>
      rw [readMembers]
      refine .bind take_carries fun first? => ?_
      split
      · exact .get_flaw
      next first =>
      split
      · exact .pure
      refine .bind (readClassMember_carries first) fun low => ?_
      refine .bind (accept_carries 45) fun ranged => ?_
      split
      · exact ih _
      refine .bind take_carries fun last? => ?_
      split
      · exact .get_flaw
      next last =>
      split
      · exact .pure
      refine .bind (readClassMember_carries last) fun high => ?_
      simp only
      split
      · split
        · exact .flaw
        · exact ih _
      · exact .flaw

theorem readClass_carries : Carries o readClass := by
  refine .get (fun s => ?_) fun _ => rfl
  refine .bind (accept_carries 94) fun negated => ?_
  refine .get (fun s' => ?_) fun _ => rfl
  exact .bind (readMembers_carries _ _ _) fun _ => .pure

/-! ## Repetition -/

theorem readCount_carries (digits : Text) : Carries o (readCount digits) := by
  unfold readCount
  simp only
  exact .check .fault (.check .fault .pure)

theorem countsFrom_carries (here : Reader) (high : Text) (least : Nat) :
    Carries o (countsFrom here high least) := by
  unfold countsFrom
  split
  · exact .pure
  refine .bind (readCount_carries high) fun most => ?_
  split
  · exact .get (fun _ => .bind .flaw fun _ => .pure) fun _ => rfl
  · exact .pure

theorem closeCounts_carries (here : Reader) (low high : Text) :
    Carries o (closeCounts here low high) := by
  refine .bind (accept_carries 125) fun closed => ?_
  split
  · exact .bind (backTo_carries here) fun _ => .pure
  split
  · exact .bind .pure (countsFrom_carries here high)
  · exact .bind (readCount_carries low) (countsFrom_carries here high)

theorem bracedCounts_carries : Carries o bracedCounts := by
  refine .bind .peek fun next? => ?_
  split
  · exact .pure
  refine .get (fun here => ?_) fun _ => rfl
  refine .bind (takeAll_carries _) fun low => .bind (accept_carries 44) fun comma => ?_
  simp only
  split
  · exact .bind (takeAll_carries _) (closeCounts_carries here low)
  · exact .bind .pure (closeCounts_carries here low)

theorem readCounts?_carries (sign : CodePoint) : Carries o (readCounts? sign) := by
  rw [readCounts?_eq]
  split
  · exact .pure
  split
  · exact .pure
  split
  · exact .pure
  · exact bracedCounts_carries

theorem readGreed_carries : Carries o readGreed := by
  refine .bind (accept_carries 63) fun reluctant => ?_
  split
  · exact .pure
  refine .bind (accept_carries 43) fun possessive => ?_
  split
  · exact .pure
  · exact .pure

theorem repeatLast_carries (place : Nat) (counts : Nat × Option Nat) (parts : List Regex) :
    Carries o (repeatLast place counts parts) := by
  refine .get (fun s => ?_) fun _ => rfl
  simp only
  split
  · exact .flaw
  · exact .flaw
  · exact .flaw
  · exact .bind readGreed_carries fun _ => .pure

/-! ## Options -/

theorem wrongOption_carries {α : Type} (t : Token) (otherwise : Flaw.Cause) :
    Carries o (wrongOption t otherwise : Reading α) := by
  cases t with
  | plain c =>
      rw [wrongOption]
      split
      · exact .flaw
      · exact .flaw
  | escape c => exact .flaw

theorem readOptionsOn_carries (fuel : Nat) (letter : CodePoint) (on : Flags) :
    Carries o (readOptionsOn fuel letter on) := by
  induction fuel generalizing letter on with
  | zero => exact .flaw
  | succ fuel ih =>
      rw [readOptionsOn]
      split
      · exact .flaw
      simp only
      refine .check .flaw (.bind take_carries fun t? => ?_)
      split
      · exact .flaw
      · split
        · exact .pure
        split
        · exact ih _ _
        · exact wrongOption_carries _ _
      · exact wrongOption_carries _ _

theorem readOptionsOff_carries (fuel : Nat) (letter : CodePoint) (off : Flags) :
    Carries o (readOptionsOff fuel letter off) := by
  induction fuel generalizing letter off with
  | zero => exact .flaw
  | succ fuel ih =>
      rw [readOptionsOff]
      split
      · exact .flaw
      simp only
      refine .check .flaw (.bind take_carries fun t? => ?_)
      split
      · exact .flaw
      · split
        · exact .pure
        split
        · exact ih _ _
        · exact wrongOption_carries _ _
      · exact wrongOption_carries _ _

/-- Switching options on for the whole pattern. -/
theorem switchOn_carries (on : Flags) :
    Carries o (modify fun s => { s with flags := s.flags.union on } : Reading PUnit) := by
  refine .modify fun s => ?_
  simp only [Reader.matching, Flags.union_matching]

theorem readOptions_carries (c : CodePoint) : Carries o (readOptions c) := by
  refine .get (fun s => ?_) fun _ => rfl
  -- what is left behind the letters that switch on
  extract_lets fuel rest
  have hrest : ∀ read, Carries o (rest read) := by
    intro read
    simp only [rest]
    split
    · exact .bind (switchOn_carries _) fun _ => .pure
    refine .check .flaw ?_
    split
    · refine .bind take_carries fun t? => ?_
      split
      · exact .bind .flaw fun _ => .check .flaw (.check .flaw .pure)
      · split
        · exact .bind (readOptionsOff_carries _ _ _) fun _ => .check .flaw (.check .flaw .pure)
        · exact .bind (wrongOption_carries _ _) fun _ => .check .flaw (.check .flaw .pure)
      · exact .bind (wrongOption_carries _ _) fun _ => .check .flaw (.check .flaw .pure)
    · exact .bind .pure fun _ => .check .flaw (.check .flaw .pure)
  split
  · exact .bind .pure hrest
  · exact .bind (readOptionsOn_carries _ _ _) hrest

/-! ## Comments and conditions -/

theorem skipLine_carries (fuel : Nat) : Carries o (skipLine fuel) := by
  induction fuel with
  | zero => exact .pure
  | succ fuel ih =>
      rw [skipLine]
      refine .bind take_carries fun t? => ?_
      split
      · exact .pure
      · split
        · exact .pure
        · exact ih

theorem skipComment_carries (start fuel : Nat) : Carries o (skipComment start fuel) := by
  induction fuel with
  | zero => exact .flaw
  | succ fuel ih =>
      rw [skipComment]
      refine .bind take_carries fun t? => ?_
      split
      · exact .get_flaw
      · split
        · exact .pure
        · exact ih

theorem closeParenthesis_carries (start : Nat) : Carries o (closeParenthesis start) := by
  refine .bind (accept_carries 41) fun closed => ?_
  split
  · exact .get_flaw
  · exact .pure

/-- Noting a condition in the state that was looked at. -/
theorem noted_carries {α : Type} {rest : Reading α} (hrest : Carries o rest) (new : Bool)
    (s : Reader) (conditions : List (Nat × Nat)) :
    (if new then (set { s.matching o with conditions } : Reading PUnit) >>= fun _ => rest else rest)
        (s.matching o) =
      ((if new then (set { s with conditions } : Reading PUnit) >>= fun _ => rest else rest) s).map
        fun result => (result.1, result.2.matching o) := by
  cases new with
  | false => exact hrest s
  | true => exact hrest { s with conditions }

theorem readCondition_carries : Carries o readCondition := by
  -- the state that is looked at is stored again, so both runs are followed from that state on
  refine .bind (takeName_carries 41 _) fun name => .get_at fun s => ?_
  have hnames : (s.matching o).names = s.names := rfl
  have hconditions : (s.matching o).conditions = s.conditions := rfl
  have htail : ∀ index, Carries o (checkLookbehind index >>= fun _ => pure index) :=
    fun index => .bind (checkLookbehind_carries index) fun _ => .pure
  simp only [hnames, hconditions]
  split
  · cases s.names.find? fun n => n.1 == name with
    | none => rfl
    | some found => exact noted_carries (htail found.2) _ s _
  · rcases Text.readInteger 10 name with _ | (index | _)
    · rfl
    · simp only
      split
      · rfl
      split
      · rfl
      · exact noted_carries (htail index) _ s _
    · rfl

/-! ## Groups and sequences -/

/-- The readers of groups and sequences carry options for matching along, with some fuel. -/
structure Readers (o : Flags) (fuel : Nat) : Prop where
  sequence : ∀ verbose depth first parts, Carries o (readSequence fuel verbose depth first parts)
  others : ∀ verbose depth, Carries o (readOthers fuel verbose depth)
  alternatives : ∀ verbose depth, Carries o (readAlternatives fuel verbose depth)
  body : ∀ verbose depth start, Carries o (readBody fuel verbose depth start)
  capture : ∀ verbose depth start name, Carries o (readCapture fuel verbose depth start name)
  group : ∀ verbose depth start first, Carries o (readGroup fuel verbose depth start first)

namespace Readers

variable {fuel : Nat} (h : Readers o fuel)
include h

theorem alternatives_succ (verbose : Bool) (depth : Nat) :
    Carries o (readAlternatives (fuel + 1) verbose depth) := by
  rw [readAlternatives]
  refine .bind (h.sequence _ _ _ _) fun first => ?_
  exact .bind (h.others _ _) fun others => .pure

theorem others_succ (verbose : Bool) (depth : Nat) :
    Carries o (readOthers (fuel + 1) verbose depth) := by
  rw [readOthers]
  refine .bind (accept_carries 124) fun more => ?_
  split
  · refine .get (fun s => ?_) fun _ => rfl
    refine .bind (h.sequence _ _ _ _) fun next => ?_
    exact .bind (h.others _ _) fun others => .pure
  · exact .pure

theorem body_succ (verbose : Bool) (depth start : Nat) :
    Carries o (readBody (fuel + 1) verbose depth start) := by
  rw [readBody]
  refine .bind (h.alternatives _ _) fun parts => ?_
  exact .bind (closeParenthesis_carries start) fun _ => .pure

theorem capture_succ (verbose : Bool) (depth start : Nat) (name : Option Text) :
    Carries o (readCapture (fuel + 1) verbose depth start name) := by
  rw [readCapture]
  refine .bind (openGroup_carries name) fun index => .bind (h.body _ _ _) fun body => ?_
  refine .get (fun s => ?_) fun _ => rfl
  exact .bind (closeGroup_carries _ _) fun _ => .pure

theorem sequence_succ (verbose : Bool) (depth : Nat) (first : Bool) (parts : List Regex) :
    Carries o (readSequence (fuel + 1) verbose depth first parts) := by
  rw [readSequence]
  refine .check .fault (.get (fun here => ?_) fun _ => rfl)
  refine .bind .peek fun t? => ?_
  split
  · exact .pure
  · refine .bind take_carries fun _ => ?_
    exact .bind (readEscape_carries _) fun _ => h.sequence _ _ _ _
  · split
    · exact .pure
    refine .bind take_carries fun _ => ?_
    split
    · exact h.sequence _ _ _ _
    split
    · refine .get (fun s => ?_) fun _ => rfl
      exact .bind (skipLine_carries _) fun _ => h.sequence _ _ _ _
    split
    · exact h.sequence _ _ _ _
    split
    · exact .bind readClass_carries fun _ => h.sequence _ _ _ _
    split
    · exact h.sequence _ _ _ _
    split
    · exact h.sequence _ _ _ _
    split
    · exact h.sequence _ _ _ _
    split
    · refine .bind (h.group _ _ _ _) fun outcome => ?_
      split
      · exact h.sequence _ _ _ _
      · exact h.sequence _ _ _ _
      · exact .get (fun s => h.sequence _ _ _ _) fun _ => rfl
    · refine .bind (readCounts?_carries _) fun counts? => ?_
      split
      · exact h.sequence _ _ _ _
      · exact .bind (repeatLast_carries _ _ _) fun _ => h.sequence _ _ _ _

theorem group_succ (verbose : Bool) (depth start : Nat) (first : Bool) :
    Carries o (readGroup (fuel + 1) verbose depth start first) := by
  rw [readGroup]
  refine .bind (accept_carries 63) fun extended => ?_
  cases extended with
  | false => exact h.capture _ _ _ _
  | true =>
      simp only [Bool.not_true, Bool.false_eq_true, if_false]
      refine .bind take_carries fun t? => ?_
      split
      · exact .flaw
      · exact .flaw
      split
      · refine .bind take_carries fun t? => ?_
        split
        · exact .flaw
        split
        · refine .bind (takeName_carries _ _) fun name => ?_
          exact .bind (checkGroupName_carries _ _) fun _ => h.capture _ _ _ _
        split
        · refine .bind (takeName_carries _ _) fun name =>
            .bind (checkGroupName_carries _ _) fun _ => ?_
          refine .get (fun s => ?_) fun _ => rfl
          split
          · exact .flaw
          · exact .check .flaw (.bind (checkLookbehind_carries _) fun _ => .pure)
        · exact .flaw
      split
      · exact .bind (h.body _ _ _) fun _ => .pure
      split
      · refine .get (fun s => ?_) fun _ => rfl
        exact .bind (skipComment_carries _ _) fun _ => .pure
      split
      · exact .bind (h.body _ _ _) fun _ => .pure
      split
      · refine .bind take_carries fun t? => ?_
        split
        · exact .flaw
        split
        · refine .get (fun s => ?_) fun _ => rfl
          refine .bind (.modify fun _ => rfl) fun _ => .bind (h.alternatives _ _) fun body => ?_
          exact .bind (.modify fun _ => rfl) fun _ =>
            .bind (closeParenthesis_carries _) fun _ => .pure
        · exact .flaw
      split
      · refine .bind readCondition_carries fun index => .bind (h.sequence _ _ _ _) fun present => ?_
        have hclose : Carries o (closeParenthesis start) := closeParenthesis_carries start
        refine .bind (accept_carries 124) fun more => ?_
        split
        · refine .bind (h.sequence _ _ _ _) fun absent => .bind .peek fun t? => ?_
          exact .check .flaw (.bind .pure fun absent => .bind hclose fun _ => .pure)
        · exact .bind .pure fun absent => .bind hclose fun _ => .pure
      split
      · exact .bind (h.body _ _ _) fun _ => .pure
      split
      · refine .bind (readOptions_carries _) fun options => ?_
        split
        · split
          · exact .get (fun _ => .bind .flaw fun _ => .pure) fun _ => rfl
          · exact .pure
        · exact .bind (h.body _ _ _) fun _ => .pure
      · exact .flaw

end Readers

/-- **Groups and sequences are read alike under further options for matching.** -/
theorem Readers.carry (o : Flags) (fuel : Nat) : Readers o fuel := by
  induction fuel with
  | zero =>
      constructor
      · intros
        rw [readSequence]
        exact .fault
      · intros
        rw [readOthers]
        exact .fault
      · intros
        rw [readAlternatives]
        exact .fault
      · intros
        rw [readBody]
        exact .fault
      · intros
        rw [readCapture]
        exact .fault
      · intros
        rw [readGroup]
        exact .fault
  | succ fuel ih =>
      constructor
      · exact ih.sequence_succ
      · exact ih.others_succ
      · exact ih.alternatives_succ
      · exact ih.body_succ
      · exact ih.capture_succ
      · exact ih.group_succ

/-! ## Whole patterns -/

theorem readPattern_carries (pattern : Text) : Carries o (readPattern pattern) := by
  refine .bind checkNext_carries fun _ => .get (fun s => ?_) fun _ => rfl
  refine .bind ((Readers.carry o _).alternatives _ _) fun parts => .get (fun s => ?_) fun _ => rfl
  refine .check .fault (.bind .peek fun t? => .check .flaw ?_)
  split
  · exact fun _ => rfl
  · exact .pure

/-- What is read under further options for matching is the same, with these options. -/
theorem parse_matching (pattern : Text) (flags : Flags) :
    parse pattern (flags.matching o) =
      (parse pattern flags).map fun parsed => { parsed with flags := parsed.flags.matching o } := by
  have hread : readPattern pattern { rest := pattern, flags := flags.matching o } = _ :=
    readPattern_carries pattern { rest := pattern, flags }
  simp only [parse, StateT.run, hread]
  cases readPattern pattern { rest := pattern, flags } with
  | error failure => rfl
  | ok read =>
      obtain ⟨parts, s⟩ := read
      have hwidths : (s.matching o).widthOf = s.widthOf := rfl
      have htemplate : (s.matching o).flags.template = s.flags.template := rfl
      have hascii : (s.matching o).flags.ascii = s.flags.ascii := rfl
      simp only [Except.map, bind, Except.bind, hwidths, htemplate, hascii]
      cases checkShape s.widthOf s.flags.template (.ofItems parts) with
      | error f => rfl
      | ok =>
          simp only
          split
          · rfl
          · cases s.flags.ascii <;> rfl

/-- **Whether a pattern compiles does not depend on the options for matching.** -/
theorem Pattern.compile_isOk_matching (source : Text) (flags : Flags) :
    (∃ p, Pattern.compile source (flags.matching o) = .ok p) ↔
      ∃ p, Pattern.compile source flags = .ok p := by
  rw [Pattern.compile, Pattern.compile, parse_matching]
  cases parse source flags with
  | error failure => simp [Except.map]
  | ok parsed => simp [Except.map]

end

end ToolPolicy.Regex
