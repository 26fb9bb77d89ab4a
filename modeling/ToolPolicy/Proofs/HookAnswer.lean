import ToolPolicy.Command.Run
import ToolPolicy.Hook
import ToolPolicy.Proofs.SettingsFault

/-!
# When the hook answers

A request is answered by nothing or by an envelope, and whatever is wrong with the request, with the
settings or with a rule is left out on the way. What is not left out are faults. `Answerable` lists
where they come from, stage by stage, and the hook answers exactly if none of them is there.

* `evaluate_within`: an evaluation has no other faults than its searches.
* `evaluate_error`: the only fault of a search is a group that is recorded backwards.
* `evaluate_isOk_iff`: which requests are decided.
* `hook_answers_iff`: which texts are answered, and that the command ends well exactly for those.
* `hook_faults_on_nul`: a request that is well-formed and gets no answer.
-/

namespace ToolPolicy

open Regex (Pattern)

/-! ## Searches -/

section
variable {α β : Type}

/-- A computation whose faults, if it has any, are of some kind. -/
def FaultsWithin (Q : Fault → Prop) (x : Except Fault α) : Prop := ∀ f, x = .error f → Q f

/-- A computation whose only fault is a group that is recorded backwards. -/
def OnlyReversed (x : Except Fault α) : Prop := ∀ f, x = .error f → f = .reversedGroup

namespace FaultsWithin

variable {Q : Fault → Prop} {p : α → Except Fault Bool} {l : List α}

theorem ok (a : α) : FaultsWithin Q (.ok a) := by
  intro f h
  cases h

theorem bind {x : Except Fault α} {f : α → Except Fault β} (hx : FaultsWithin Q x)
    (hf : ∀ a, FaultsWithin Q (f a)) : FaultsWithin Q (x >>= f) := by
  cases x with
  | error e =>
      intro f' h
      cases h
      exact hx e rfl
  | ok a => exact hf a

theorem findM? (h : ∀ a ∈ l, FaultsWithin Q (p a)) : FaultsWithin Q (l.findM? p) := by
  induction l with
  | nil => exact ok none
  | cons a rest ih =>
      obtain ⟨ha, hrest⟩ := List.forall_mem_cons.1 h
      refine ha.bind fun b => ?_
      cases b with
      | true => exact ok (some a)
      | false => exact ih hrest

theorem anyM (h : ∀ a ∈ l, FaultsWithin Q (p a)) : FaultsWithin Q (l.anyM p) := by
  induction l with
  | nil => exact ok false
  | cons a rest ih =>
      obtain ⟨ha, hrest⟩ := List.forall_mem_cons.1 h
      refine ha.bind fun b => ?_
      cases b with
      | true => exact ok true
      | false => exact ih hrest

theorem allM (h : ∀ a ∈ l, FaultsWithin Q (p a)) : FaultsWithin Q (l.allM p) := by
  induction l with
  | nil => exact ok true
  | cons a rest ih =>
      obtain ⟨ha, hrest⟩ := List.forall_mem_cons.1 h
      refine ha.bind fun b => ?_
      cases b with
      | true => exact ih hrest
      | false => exact ok false

end FaultsWithin

end

theorem Regex.Pattern.searchFrom_onlyReversed (p : Pattern) (subject : Regex.Subject)
    (isStart : Nat → Bool) (first starts : Nat) :
    OnlyReversed (p.searchFrom subject isStart first starts) := by
  have hmatch : ∀ i, OnlyReversed (p.matchAt subject i) := by
    intro i
    unfold Regex.Pattern.matchAt
    split
    · split
      · intro f h
        cases h
        rfl
      · exact FaultsWithin.ok _
    · exact FaultsWithin.ok _
  induction starts generalizing first with
  | zero => exact FaultsWithin.ok none
  | succ n ih =>
      unfold Regex.Pattern.searchFrom
      split
      · split
        · exact ih (first + 1)
        · exact hmatch first
      · exact ih (first + 1)

theorem Regex.Pattern.isFoundIn_onlyReversed (p : Pattern) (t : Text) :
    OnlyReversed (p.isFoundIn t) := by
  have hsearch : OnlyReversed (p.search t) := by
    unfold Regex.Pattern.search
    split
    · exact FaultsWithin.ok none
    · exact p.searchFrom_onlyReversed _ _ _ _
  intro f h
  cases hs : p.search t with
  | ok found =>
      rw [isFoundIn, hs] at h
      cases h
  | error e =>
      rw [isFoundIn, hs] at h
      cases h
      exact hsearch _ hs

namespace RuleSet

variable (rules : RuleSet Pattern) (tool : Text)

theorem hits_onlyReversed (r : Rule Pattern) (content : Option Text) :
    OnlyReversed (r.hits tool content : Except Fault Bool) := by
  refine FaultsWithin.bind (r.tool.isFoundIn_onlyReversed tool) fun b => ?_
  cases b with
  | false => exact .ok false
  | true =>
      cases content with
      | none => exact .ok false
      | some c => exact r.content.isFoundIn_onlyReversed c

section
variable {rules tool} {Q : Fault → Prop} {l : List (Rule Pattern)} {content : Option Text}
  {lines : Option (List Text)}

/-- A rule of which the searches in a content and in its lines only have faults of some kind. -/
def SearchedWithin (Q : Fault → Prop) (tool : Text) (content : Option Text)
    (lines : Option (List Text)) (r : Rule Pattern) : Prop :=
  FaultsWithin Q (r.hits tool content) ∧
    ∀ line ∈ lines.getD [], FaultsWithin Q (r.hits tool (some line))

theorem firstHit_within (h : ∀ r ∈ l, SearchedWithin Q tool content lines r) :
    FaultsWithin Q (firstHit l tool content lines) := by
  refine .findM? fun r hr => ?_
  obtain ⟨hwhole, hlines⟩ := h r hr
  refine hwhole.bind fun b => ?_
  cases b with
  | true => exact .ok true
  | false => exact .anyM hlines

theorem evaluateAllow_within (h : ∀ r ∈ l, SearchedWithin Q tool content lines r) :
    FaultsWithin Q (evaluateAllow l tool content lines) := by
  cases lines with
  | none =>
      refine .bind (.findM? fun r hr => (h r hr).1) fun found => ?_
      cases found <;> exact .ok _
  | some lines =>
      have hcovers : FaultsWithin Q (coversLines l tool lines) := by
        unfold coversLines
        split
        · exact .ok false
        · exact .allM fun line hline => .anyM fun r hr => (h r hr).2 line hline
      refine hcovers.bind fun b => ?_
      cases b <;> exact .ok _

/-- An evaluation has no other faults than the searches for the patterns of its rules. -/
theorem evaluate_within {arguments : List (Value × Value)}
    (h : ∀ r ∈ rules.deny ++ rules.ask ++ rules.allow, SearchedWithin Q tool
      (Content.content? tool arguments) (Lines.split? (Content.content? tool arguments)) r) :
    FaultsWithin Q (rules.evaluate tool arguments) := by
  rw [List.forall_mem_append, List.forall_mem_append] at h
  obtain ⟨⟨hdeny, hask⟩, hallow⟩ := h
  refine .bind (firstHit_within hdeny) fun denied => ?_
  cases denied with
  | some r => exact .ok _
  | none =>
      refine .bind (firstHit_within hask) fun asked => ?_
      cases asked with
      | some r => exact .ok _
      | none => exact evaluateAllow_within hallow

end

theorem searchedWithin_reversed (r : Rule Pattern) (content : Option Text)
    (lines : Option (List Text)) :
    SearchedWithin (· = .reversedGroup) tool content lines r :=
  ⟨hits_onlyReversed tool r content, fun line _ => hits_onlyReversed tool r (some line)⟩

theorem firstHit_onlyReversed (l : List (Rule Pattern)) (content : Option Text)
    (lines : Option (List Text)) :
    OnlyReversed (firstHit l tool content lines : Except Fault _) :=
  firstHit_within fun r _ => searchedWithin_reversed tool r content lines

/-- The only fault of an evaluation is a group that is recorded backwards. -/
theorem evaluate_error {arguments : List (Value × Value)} {f : Fault}
    (h : rules.evaluate tool arguments = (.error f : Except Fault Decision)) :
    f = .reversedGroup := by
  have hwithin : FaultsWithin (· = .reversedGroup) (rules.evaluate tool arguments) :=
    evaluate_within fun r _ => searchedWithin_reversed tool r _ _
  exact hwithin f h

theorem evaluate_of_isEmpty {rules : RuleSet Pattern} (h : rules.isEmpty = true) (tool : Text)
    (arguments : List (Value × Value)) :
    rules.evaluate tool arguments = (.ok .noMatch : Except Fault Decision) := by
  obtain ⟨deny, ask, allow⟩ := rules
  simp only [isEmpty, Bool.and_eq_true, List.isEmpty_iff] at h
  obtain ⟨⟨rfl, rfl⟩, rfl⟩ := h
  have hallow : ∀ content lines,
      (evaluateAllow ([] : List (Rule Pattern)) tool content lines : Except Fault Decision) =
        .ok .noMatch := by
    intro content lines
    cases lines with
    | none => rfl
    | some lines => cases lines <;> rfl
  rw [evaluate, evaluateContent]
  exact hallow _ _

end RuleSet

/-! ## Requests -/

namespace Hook

/-- That rules are not even looked at when there are none makes no difference. -/
theorem decide_eq_evaluate (rules : RuleSet Pattern) (r : Request) :
    decide rules r = rules.evaluate r.tool r.arguments := by
  rw [decide]
  split
  · next h => exact (RuleSet.evaluate_of_isEmpty h _ _).symm
  · rfl

/-- What keeps a request from faults: its settings files can be named and read, no entry in them has
a pattern with a fault, and no search for a pattern records a group backwards. -/
structure Faultless (fs : FileSystem) (home : Path) (r : Request) : Prop where
  named : ∀ path ∈ Scope.paths home (Scope.project? r.cwd),
    ∀ c ∈ path.text, c ≠ 0 ∧ (CodePoint.isSurrogate c = true → FileSystem.isByteOfName c = true)
  read : ∀ path ∈ Scope.paths home (Scope.project? r.cwd), ∀ bytes,
    fs.read path = .ok (.ok bytes) → Settings.Harmless bytes
  prepared : ∀ p, (Scope.load fs home (Scope.project? r.cwd)).result = .ok p →
    ∀ c, ∀ v ∈ p.entries c, ∀ f, ¬RuleEntry.Faulty v f
  searched : ∀ rules, (Scope.rules fs home (Scope.project? r.cwd)).result = .ok rules →
    rules.evaluate r.tool r.arguments ≠ .error .reversedGroup

theorem evaluate_result (fs : FileSystem) (home : Path) (r : Request) :
    (evaluate fs home r).result =
    (Scope.load fs home (Scope.project? r.cwd)).result.bind fun p =>
      p.rules.result.bind fun rules => rules.evaluate r.tool r.arguments := by
  have hlift : ∀ rules : RuleSet Pattern,
      (Logged.lift (decide rules r)).result = rules.evaluate r.tool r.arguments :=
    fun rules => decide_eq_evaluate rules r
  rw [evaluate, Logged.result_bind, Scope.rules, Logged.result_bind]
  simp only [hlift]
  cases (Scope.load fs home (Scope.project? r.cwd)).result <;> rfl

/-- A request is decided exactly if nothing in it, in its settings or in its rules ends the work. -/
theorem evaluate_isOk_iff (fs : FileSystem) (home : Path) (r : Request) :
    (∃ d, (evaluate fs home r).result = .ok d) ↔ Faultless fs home r := by
  have hload : (∃ p, (Scope.load fs home (Scope.project? r.cwd)).result = .ok p) ↔
      ∀ path ∈ Scope.paths home (Scope.project? r.cwd),
        (∀ c ∈ path.text, c ≠ 0 ∧
          (CodePoint.isSurrogate c = true → FileSystem.isByteOfName c = true)) ∧
          ∀ bytes, fs.read path = .ok (.ok bytes) → Settings.Harmless bytes := by
    simp only [Scope.load_isOk_iff, Settings.load_isOk_iff, FileSystem.nameFault?_eq_none_iff]
  have hrulesOf : ∀ p rules, (Scope.load fs home (Scope.project? r.cwd)).result = .ok p →
      p.rules.result = .ok rules →
        (Scope.rules fs home (Scope.project? r.cwd)).result = .ok rules :=
    fun p rules hp hr => Logged.result_bind_eq_ok_iff.2 ⟨p, hp, hr⟩
  simp only [evaluate_result, bind_eq_ok_iff]
  constructor
  · rintro ⟨d, p, hp, rules, hr, hd⟩
    refine ⟨fun path hpath => (hload.1 ⟨p, hp⟩ path hpath).1,
      fun path hpath => (hload.1 ⟨p, hp⟩ path hpath).2, ?_, ?_⟩
    · intro p' hp'
      rw [hp] at hp'
      cases hp'
      exact (Permissions.rules_isOk_iff p).1 ⟨rules, hr⟩
    · intro rules' hrules' herror
      rw [hrulesOf p rules hp hr] at hrules'
      cases hrules'
      rw [herror] at hd
      cases hd
  · rintro ⟨hnamed, hread, hprepared, hsearched⟩
    obtain ⟨p, hp⟩ := hload.2 fun path hpath => ⟨hnamed path hpath, hread path hpath⟩
    obtain ⟨rules, hr⟩ := (Permissions.rules_isOk_iff p).2 (hprepared p hp)
    cases he : (rules.evaluate r.tool r.arguments : Except Fault Decision) with
    | ok d => exact ⟨d, p, hp, rules, hr, he⟩
    | error f =>
        rw [RuleSet.evaluate_error rules r.tool he] at he
        exact absurd he (hsearched rules (hrulesOf p rules hp hr))

/-! ## Texts -/

/-- The envelope of a decision: the event, the verdict, and a reason if there is one. -/
def IsEnvelope (fields : List (Value × Value)) : Prop :=
  ∃ c : Category,
    let verdict : List (Text × Value) :=
      [("hookEventName", .str "PreToolUse"), ("permissionDecision", .str c.label)]
    fields = [(.str "hookSpecificOutput", .object verdict)] ∨
      ∃ t : Text, t ≠ [] ∧ fields = [(.str "hookSpecificOutput", .object
        (verdict ++ [(Text.ofString "permissionDecisionReason", .str t)]))]

/-- Every decision is sent as nothing or as an envelope. -/
theorem envelope_wellFormed (d : Decision) : d.envelope = [] ∨ IsEnvelope d.envelope := by
  rw [Decision.envelope]
  cases d.verdict with
  | none => exact Or.inl rfl
  | some c =>
      refine Or.inr ⟨c, ?_⟩
      cases d.reason with
      | none => exact Or.inl rfl
      | some t =>
          cases t with
          | nil => exact Or.inl rfl
          | cons head rest => exact Or.inr ⟨head :: rest, List.cons_ne_nil _ _, rfl⟩

/-- A text that is answered: no number in it has too many digits, and if it is a request, then one
that is decided. -/
structure Answerable (fs : FileSystem) (home : Path) (t : Text) : Prop where
  document : ∀ n, Json.read t ≠ .error (.fault (.tooManyDigits n))
  request : ∀ v r, Json.read t = .ok v → Request.ofValue v = .ok r → Faultless fs home r

theorem answer_result (fs : FileSystem) (home : Path) (t : Text) : (answer fs home t).result =
    (Request.ofText? t).result.bind fun
      | some r => (evaluate fs home r).result.bind fun d => .ok d.envelope
      | none => .ok [] := by
  rw [answer, Logged.result_bind]
  congr 1
  funext o
  cases o with
  | none => rfl
  | some r => exact Logged.result_bind _ _

theorem answer_isOk_iff (fs : FileSystem) (home : Path) (t : Text) :
    (∃ fields, (answer fs home t).result = .ok fields) ↔ Answerable fs home t := by
  rw [answer_result, Request.ofText?]
  cases hread : Json.read t with
  | error failure =>
      have hdocument : Answerable fs home t ↔ ∀ n, failure ≠ .fault (.tooManyDigits n) := by
        refine ⟨fun h n hn => h.document n (by rw [hread, hn]), fun h => ⟨fun n hn => ?_, ?_⟩⟩
        · rw [hread] at hn
          cases hn
          exact h n rfl
        · intro v r hv
          rw [hread] at hv
          cases hv
      rw [hdocument]
      cases failure with
      | flaw f => exact ⟨fun _ n h => (by cases h), fun _ => ⟨[], rfl⟩⟩
      | tooDeep object => exact ⟨fun _ n h => (by cases h), fun _ => ⟨[], rfl⟩⟩
      | fault f =>
          obtain ⟨n, -, rfl⟩ := Json.read_fault hread
          constructor
          · rintro ⟨fields, h⟩
            cases h
          · intro h
            exact absurd rfl (h n)
  | ok v =>
      have hrequest : Answerable fs home t ↔
        ∀ r, Request.ofValue v = .ok r → Faultless fs home r := by
        refine ⟨fun h r hr => h.request v r hread hr, fun h =>
          ⟨fun n hn => ?_, fun v' r hv hr => ?_⟩⟩
        · rw [hread] at hn
          cases hn
        · rw [hread] at hv
          cases hv
          exact h r hr
      rw [hrequest]
      simp only [Request.ofValue?]
      cases Request.ofValue v with
      | error problems => exact ⟨fun _ r h => (by cases h), fun _ => ⟨[], rfl⟩⟩
      | ok r =>
          simp only [Except.ok.injEq, forall_eq', ← evaluate_isOk_iff, Logged.result_pure,
            Except.bind]
          cases (evaluate fs home r).result <;> simp

theorem answer_wellFormed {fs : FileSystem} {home : Path} {t : Text} {fields : List (Value × Value)}
    (h : (answer fs home t).result = .ok fields) : fields = [] ∨ IsEnvelope fields := by
  rw [answer_result] at h
  obtain ⟨o, -, h⟩ := bind_eq_ok_iff.1 h
  cases o with
  | none =>
      cases h
      exact Or.inl rfl
  | some r =>
      obtain ⟨d, -, h⟩ := bind_eq_ok_iff.1 h
      cases h
      exact envelope_wellFormed d

/-! ## The command -/

/-- The command ends well exactly if there is an answer. -/
theorem verdict_hook (s : Setting) (isVerbose : Bool) (home : Option Path) :
    (Run.invocation s (.run isVerbose (.hook home))).verdict = .exit 0 ↔
      ∃ fields, (answer s.files (home.getD s.home) (Utf8.decodeLenient s.input)).result =
        .ok fields := by
  rw [Run.invocation, Run.command, Run.hook, Run.Outcome.ofPrinting]
  cases ha : (answer s.files (home.getD s.home) (Utf8.decodeLenient s.input)).result with
  | error f =>
      have hlogged : (Printing.ofLogged (answer s.files (home.getD s.home)
          (Utf8.decodeLenient s.input))).result =
          .error (.fault f) := by simp only [Printing.ofLogged, ha]
      rw [Printing.bind_of_error _ hlogged]
      simp
  | ok fields =>
      rw [Printing.result_bind_of_ok _ (Printing.result_ofLogged_of_ok ha)]
      cases fields <;> simp

end Hook

end ToolPolicy
