import Mathlib.Data.List.Basic
import ToolPolicy.Proofs.HookAnswer
import ToolPolicy.Proofs.LineVerdict

/-!
# What a project can do to a denial

The settings of a project stand in front of those of the user, so a project can add rules. It cannot
take a denial away by any decision of its own: what the global rules deny without the project is
denied with it, or the project brings a fault and nothing is answered at all.

* `Within.read`: a file system that has more in it reads the same files.
* `firstHit_append`: rules of two scopes are tried in order.
* `denial_survives_iff`: which contents of a project's settings leave a denial as it is.
* `isInert_iff`: how such a content is told by reading it.
* `denial_lost_to_count`: a content that does not.
-/

namespace ToolPolicy

open Regex (Pattern)

/-! ## More files -/

namespace FileSystem

variable {fs more : FileSystem}

/-- A file system whose places are all there in another one, and hold the same. -/
structure Within (fs more : FileSystem) : Prop where
  workingDirectory : fs.workingDirectory = more.workingDirectory
  node? : ∀ place node, fs.node? place = some node → more.node? place = some node

namespace Within

theorem refl (fs : FileSystem) : fs.Within fs := ⟨rfl, fun _ _ h => h⟩

theorem trans {most : FileSystem} (h : fs.Within more) (h' : more.Within most) : fs.Within most :=
  ⟨h.workingDirectory.trans h'.workingDirectory, fun place node hn =>
    h'.node? place node (h.node? place node hn)⟩

theorem set {place : List Text} (h : fs.node? place = none) (node : Node) :
    fs.Within (fs.set place (some node)) := by
  refine ⟨rfl, fun other n hn => ?_⟩
  rw [node?_set_of_ne fs ?_, hn]
  rintro rfl
  rw [h] at hn
  cases hn

theorem makeDirectory (fs : FileSystem) (place : List Text) :
    fs.Within (fs.makeDirectory place) := by
  unfold FileSystem.makeDirectory
  split
  · exact refl fs
  · next h => exact set h .directory

theorem foldl_makeDirectory (fs : FileSystem) (places : List (List Text)) :
    fs.Within (places.foldl FileSystem.makeDirectory fs) := by
  induction places generalizing fs with
  | nil => exact refl fs
  | cons place rest ih => exact (makeDirectory fs place).trans (ih (fs.makeDirectory place))

/-- Only the places above a place change when directories are made that lead there. -/
theorem node?_foldl_makeDirectory {place : List Text} {places : List (List Text)}
    (h : place ∉ places) (fs : FileSystem) :
    (places.foldl FileSystem.makeDirectory fs).node? place = fs.node? place := by
  induction places generalizing fs with
  | nil => rfl
  | cons other rest ih =>
      rw [List.foldl_cons, ih (List.not_mem_of_not_mem_cons h)]
      unfold FileSystem.makeDirectory
      split
      · rfl
      · exact node?_set_of_ne fs (List.ne_of_not_mem_cons h) _

/-- Putting a file where there is none takes nothing away. -/
theorem put {place : List Text} (h : fs.node? place = none) (node : Node) :
    fs.Within (fs.put place node) := by
  have habove : place ∉ above place := by
    intro hm
    obtain ⟨n, hn, he⟩ := List.mem_map.1 hm
    have hlt : n < place.length := List.mem_range.1 hn
    have hlen : (place.take n).length = place.length := congrArg List.length he
    rw [List.length_take] at hlen
    omega
  refine (foldl_makeDirectory fs (above place)).trans (set ?_ node)
  rw [node?_foldl_makeDirectory habove, h]

theorem locate (h : fs.Within more) {names place final : List Text}
    (hl : fs.locate place names = .ok final) :
    more.locate place names = .ok final := by
  induction names generalizing place with
  | nil => exact hl
  | cons name rest ih =>
      rw [FileSystem.locate] at hl ⊢
      cases hn : fs.node? place with
      | none => rw [hn] at hl; cases hl
      | some node =>
          cases node with
          | file bytes => rw [hn] at hl; cases hl
          | directory =>
              rw [hn] at hl
              rw [h.node? place _ hn]
              simp only at hl ⊢
              by_cases hd : name = Path.dots
              · rw [if_pos hd] at hl ⊢
                exact ih hl
              · rw [if_neg hd] at hl ⊢
                by_cases hs : nameSize name > nameLimit
                · rw [if_pos hs] at hl
                  cases hl
                · rw [if_neg hs] at hl ⊢
                  cases hc : fs.node? (place ++ [name]) with
                  | none => rw [hc] at hl; cases hl
                  | some child =>
                      rw [hc] at hl
                      rw [h.node? _ _ hc]
                      exact ih hl

/-- A file system that has more in it reads the same files. -/
theorem read (h : fs.Within more) {path : Path} {bytes : List UInt8}
    (hr : fs.read path = .ok (.ok bytes)) :
    more.read path = .ok (.ok bytes) := by
  rw [FileSystem.read] at hr ⊢
  cases hname : nameFault? path.text with
  | some f => rw [hname] at hr; cases hr
  | none =>
      rw [hname] at hr
      simp only [Except.ok.injEq] at hr ⊢
      rw [follow] at hr ⊢
      by_cases hsize : nameSize path.text > pathLimit
      · rw [if_pos hsize] at hr
        cases hr
      · rw [if_neg hsize] at hr ⊢
        rw [← h.workingDirectory]
        cases hl : fs.locate (if path.isAbsolute then [] else fs.workingDirectory) path.parts with
        | error failure => rw [hl] at hr; cases hr
        | ok place =>
            rw [hl] at hr
            rw [h.locate hl]
            simp only [Except.bind, bytesAt] at hr ⊢
            cases hn : fs.node? place with
            | none => rw [hn] at hr; cases hr
            | some node => rw [hn] at hr; rw [h.node? _ _ hn]; exact hr

end Within

end FileSystem

/-! ## Rules of two scopes -/

namespace RuleSet

variable (tool : Text) (content : Option Text) (lines : Option (List Text))

/-- Searching through two lists is searching through the first, then through the second. -/
theorem findM?_append {α : Type} (p : α → Except Fault Bool) (a b : List α) :
    (a ++ b).findM? p = (a.findM? p).bind fun
      | some x => .ok (some x)
      | none => b.findM? p := by
  induction a with
  | nil => rfl
  | cons x rest ih =>
      rw [List.cons_append, List.findM?, List.findM?]
      cases p x with
      | error f => rfl
      | ok found =>
          cases found with
          | true => rfl
          | false => exact ih

/-- Rules of two scopes are tried in order. -/
theorem firstHit_append (a b : List (Rule Pattern)) :
    (firstHit (a ++ b) tool content lines : Except Fault (Option (Rule Pattern))) =
      (firstHit a tool content lines).bind fun
        | some r => .ok (some r)
        | none => firstHit b tool content lines := by
  simp only [firstHit]
  rw [findM?_append]
  congr 1
  funext found
  cases found <;> rfl

/-- Rules that allow neither deny nor ask. -/
theorem evaluateAllow_verdict {l : List (Rule Pattern)} {d : Decision}
    (h : evaluateAllow l tool content lines = (.ok d : Except Fault Decision)) :
    d.verdict ≠ some .deny ∧ d.verdict ≠ some .ask := by
  cases lines with
  | none =>
      rw [evaluateAllow] at h
      obtain ⟨found, -, h⟩ := bind_eq_ok_iff.1 h
      cases found <;> (cases h; simp [Decision.allow, Decision.noMatch])
  | some lines =>
      rw [evaluateAllow] at h
      obtain ⟨covered, -, h⟩ := bind_eq_ok_iff.1 h
      cases covered <;> (cases h; simp [Decision.allow, Decision.noMatch])

/-- A content is denied exactly if a rule of that category is found for it. -/
theorem evaluateContent_deny_iff (rules : RuleSet Pattern) :
    (∃ d, rules.evaluateContent tool content = (.ok d : Except Fault Decision) ∧
      d.verdict = some .deny) ↔
      ∃ r, firstHit rules.deny tool content (Lines.split? content) =
        (.ok (some r) : Except Fault _) := by
  rw [evaluateContent]
  constructor
  · rintro ⟨d, h, hv⟩
    obtain ⟨denied, hd, h⟩ := bind_eq_ok_iff.1 h
    cases denied with
    | some r => exact ⟨r, hd⟩
    | none =>
        obtain ⟨asked, -, h⟩ := bind_eq_ok_iff.1 h
        cases asked with
        | some r =>
            cases h
            cases hv
        | none => exact absurd hv (evaluateAllow_verdict tool content _ h).1
  · rintro ⟨r, h⟩
    exact ⟨.deny r.reason (some r.raw), bind_eq_ok_iff.2 ⟨some r, h, rfl⟩, rfl⟩

theorem evaluate_of_error {rules : RuleSet Pattern} {f : Fault}
    (h : firstHit rules.deny tool content (Lines.split? content) = (.error f : Except Fault _)) :
    rules.evaluateContent tool content = (.error f : Except Fault Decision) := by
  rw [evaluateContent, h]
  rfl

end RuleSet

/-! ## Settings of a project -/

namespace Settings

/-- Permissions that are found in a settings file are found there when there are more files. -/
theorem load_of_within {fs more : FileSystem} (h : fs.Within more) {path : Path} {p : Permissions}
    (hl : (load fs path).result = .ok (some p)) : (load more path).result = .ok (some p) := by
  cases hr : fs.read path with
  | error f => rw [load, hr] at hl; cases hl
  | ok found =>
      cases found with
      | ok bytes =>
          rw [load_of_bytes (h.read hr)]
          rw [load_of_bytes hr] at hl
          exact hl
      | error failure => rw [load, hr] at hl; cases failure <;> cases hl

end Settings

namespace Hook

/-- The bytes of a project's settings that bring no fault to a request: they can be read, every
entry in them can be prepared, and no search for their denials records a group backwards. -/
structure Inert (path : Path) (bytes : List UInt8) (r : Request) : Prop where
  read : Settings.Harmless bytes
  prepared : ∀ p, (Settings.ofBytes path bytes).result = .ok (some p) →
    ∀ c, ∀ v ∈ p.entries c, ∀ f, ¬RuleEntry.Faulty v f
  searched : ∀ p rules, (Settings.ofBytes path bytes).result = .ok (some p) →
    p.rules.result = .ok rules →
    RuleSet.firstHit rules.deny r.tool (Content.content? r.tool r.arguments)
      (Lines.split? (Content.content? r.tool r.arguments)) ≠
        (.error .reversedGroup : Except Fault _)

/-- The verdict in the fields of an answer. -/
def verdict? (fields : List (Value × Value)) : Option Text :=
  match Value.field? "hookSpecificOutput" fields with
  | some (.mapping output) => (Value.field? "permissionDecision" output).bind Value.asText?
  | _ => none

theorem verdict?_envelope (d : Decision) : verdict? d.envelope = d.verdict.map Category.label := by
  have hevent : Text.ofString "hookEventName" ≠ Text.ofString "permissionDecision" := by decide
  rw [Decision.envelope]
  cases d.verdict with
  | none => rfl
  | some c => simp [verdict?, Value.field?, Value.object, Value.asText?, hevent]

/-- A text whose answer is a denial. -/
def Denied (fs : FileSystem) (home : Path) (t : Text) : Prop :=
  ∃ fields, (answer fs home t).result = .ok fields ∧ verdict? fields = some Category.deny.label

instance (fs : FileSystem) (home : Path) (t : Text) : Decidable (Denied fs home t) :=
  decidable_of_iff ((answer fs home t).result.toOption.bind verdict? =
    some Category.deny.label) <| by
    rw [Denied]
    cases (answer fs home t).result <;> simp [Except.toOption]

/-- The first rule that denies a request. -/
def denial? (rules : List (Rule Pattern)) (r : Request) : Except Fault (Option (Rule Pattern)) :=
  RuleSet.firstHit rules r.tool (Content.content? r.tool r.arguments)
    (Lines.split? (Content.content? r.tool r.arguments))

section
variable {fs : FileSystem} {home : Path} {t : Text} {r : Request}

/-- What comes of a text that is a request. -/
theorem answer_request (hrequest : (Request.ofText? t).result = .ok (some r)) :
    (answer fs home t).result = (evaluate fs home r).result.bind fun d => .ok d.envelope := by
  rw [answer_result, hrequest]
  rfl

/-- A request is denied exactly if its scopes can be loaded and prepared and a rule denies it. -/
theorem denied_iff (hrequest : (Request.ofText? t).result = .ok (some r)) :
    Denied fs home t ↔ ∃ p rules rule, (Scope.load fs home (Scope.project? r.cwd)).result = .ok p ∧
      p.rules.result = .ok rules ∧ denial? rules.deny r = .ok (some rule) := by
  have hverdict : ∀ d : Decision, verdict? d.envelope = some Category.deny.label ↔
    d.verdict = some .deny := by
    intro d
    rw [verdict?_envelope, Option.map_eq_some_iff]
    constructor
    · rintro ⟨c, hc, hl⟩
      rw [hc, Category.label_injective hl]
    · intro h
      exact ⟨.deny, h, rfl⟩
  have hdecided : Denied fs home t ↔
      ∃ d, (evaluate fs home r).result = .ok d ∧ d.verdict = some .deny := by
    rw [Denied, answer_request hrequest]
    cases (evaluate fs home r).result with
    | error f => simp [Except.bind]
    | ok d => simp [Except.bind, hverdict]
  rw [hdecided, evaluate_result]
  cases (Scope.load fs home (Scope.project? r.cwd)).result with
  | error f => simp [Except.bind]
  | ok p =>
      cases hp : p.rules.result with
      | error f => simp [Except.bind, hp]
      | ok rules =>
          simpa [Except.bind, hp, denial?, RuleSet.evaluate] using
            RuleSet.evaluateContent_deny_iff r.tool (Content.content? r.tool r.arguments) rules

end

end Hook

/-! ## Denials with and without a project -/

namespace Hook

section
variable {absent present : FileSystem} {home directory : Path} {t : Text} {r : Request}
    {bytes : List UInt8}

/-- The global rules of a request that is denied without its project. -/
theorem shared_of_denied (hrequest : (Request.ofText? t).result = .ok (some r))
    (hproject : Scope.project? r.cwd = some directory)
    (habsent : absent.read (Scope.settingsPath directory) = .ok (.error .notFound))
    (hdenied : Denied absent home t) :
    ∃ shared rules rule, (Settings.load absent (Scope.settingsPath home)).result =
      .ok (some shared) ∧
      shared.rules.result = .ok rules ∧ denial? rules.deny r = .ok (some rule) := by
  obtain ⟨p, rules, rule, hp, hrules, hrule⟩ := (denied_iff hrequest).1 hdenied
  rw [hproject, Scope.load_result_some, Settings.load_of_notFound habsent] at hp
  obtain ⟨own, hown, hp⟩ := bind_eq_ok_iff.1 hp
  cases hown
  obtain ⟨shared, hshared, hp⟩ := bind_eq_ok_iff.1 hp
  cases shared with
  | some shared =>
      cases hp
      exact ⟨shared, rules, rule, hshared, hrules, hrule⟩
  | none =>
      cases hp
      obtain ⟨hdeny, -, -⟩ := Permissions.rules_result_eq_ok_iff.1 hrules
      cases hempty : rules.deny with
      | nil =>
          rw [hempty] at hrule
          cases hrule
      | cons first rest =>
          rw [hempty] at hdeny
          cases hdeny

/-- Entries that cannot be prepared cannot be prepared in front of others either. -/
theorem rules_append_fault {p : Permissions} {f : Fault} (hp : p.rules.result = .error f)
    (shared : Permissions) : ∃ f, (p.append shared).rules.result = .error f := by
  cases hboth : (p.append shared).rules.result with
  | error f => exact ⟨f, rfl⟩
  | ok both =>
      obtain ⟨added, hadded⟩ := (Permissions.rules_isOk_iff p).2 fun c e he =>
        (Permissions.rules_isOk_iff (p.append shared)).1 ⟨both, hboth⟩ c e <| by
          rw [Permissions.entries_append]
          exact List.mem_append_left _ he
      rw [hp] at hadded
      cases hadded

/-- Rules in front of rules that deny a request deny it first, or leave that to those behind. -/
theorem denial?_append (added : RuleSet Pattern) {rules : RuleSet Pattern} {rule : Rule Pattern}
    (hrule : denial? rules.deny r = .ok (some rule)) :
    denial? (added.append rules).deny r = (denial? added.deny r).bind fun
      | some first => .ok (some first)
      | none => .ok (some rule) := by
  rw [← hrule]
  exact RuleSet.firstHit_append r.tool _ _ added.deny rules.deny

/-- Settings that cannot be read are not inert. -/
theorem not_inert_of_error {path : Path} {f : Fault}
    (ho : (Settings.ofBytes path bytes).result = .error f) : ¬Inert path bytes r := by
  intro h
  obtain ⟨own, hown⟩ := (Settings.ofBytes_isOk_iff path bytes).2 h.read
  rw [ho] at hown
  cases hown

/-- Settings with entries that cannot be prepared are not inert. -/
theorem not_inert_of_rules {path : Path} {p : Permissions} {f : Fault}
    (ho : (Settings.ofBytes path bytes).result = .ok (some p)) (hp : p.rules.result = .error f) :
    ¬Inert path bytes r := by
  intro h
  obtain ⟨added, hadded⟩ := (Permissions.rules_isOk_iff p).2 (h.prepared p ho)
  rw [hp] at hadded
  cases hadded

/-- Settings without permissions are inert. -/
theorem inert_of_none {path : Path} (ho : (Settings.ofBytes path bytes).result = .ok none) :
    Inert path bytes r := by
  refine ⟨(Settings.ofBytes_isOk_iff path bytes).1 ⟨_, ho⟩, ?_, ?_⟩
  · intro p hp
    rw [ho] at hp
    cases hp
  · intro p _ hp
    rw [ho] at hp
    cases hp

/-- Settings whose entries are prepared are inert exactly if no search for their denials records a
group backwards. -/
theorem inert_iff_of_rules {path : Path} {p : Permissions} {added : RuleSet Pattern}
    (ho : (Settings.ofBytes path bytes).result = .ok (some p))
    (hadded : p.rules.result = .ok added) :
    Inert path bytes r ↔ denial? added.deny r ≠ .error .reversedGroup := by
  refine ⟨fun h => h.searched p added ho hadded, fun hsearched => ⟨?_, ?_, ?_⟩⟩
  · exact (Settings.ofBytes_isOk_iff path bytes).1 ⟨_, ho⟩
  · intro q hq
    rw [ho] at hq
    cases hq
    exact (Permissions.rules_isOk_iff p).1 ⟨added, hadded⟩
  · intro q rules hq hrules
    rw [ho] at hq
    cases hq
    rw [hadded] at hrules
    cases hrules
    exact hsearched

/-- Whether settings are inert, found out by reading them, preparing their entries and searching
their denials. -/
def isInert (path : Path) (bytes : List UInt8) (r : Request) : Bool :=
  match (Settings.ofBytes path bytes).result with
  | .error _ => false
  | .ok none => true
  | .ok (some p) =>
    match p.rules.result with
    | .error _ => false
    | .ok added => (denial? added.deny r).isOk

theorem isInert_iff (path : Path) (bytes : List UInt8) (r : Request) :
    isInert path bytes r = true ↔ Inert path bytes r := by
  rw [isInert]
  cases ho : (Settings.ofBytes path bytes).result with
  | error f => exact iff_of_false Bool.false_ne_true (not_inert_of_error ho)
  | ok own =>
  cases own with
  | none => exact iff_of_true rfl (inert_of_none ho)
  | some p =>
  cases hp : p.rules.result with
  | error f =>
      simp only [hp]
      exact iff_of_false Bool.false_ne_true (not_inert_of_rules ho hp)
  | ok added =>
      simp only [hp]
      rw [inert_iff_of_rules ho hp]
      cases hd : denial? added.deny r with
      | ok found => exact iff_of_true rfl (by rintro ⟨⟩)
      | error f =>
          -- the only fault of a search is a group that is recorded backwards
          have hf : f = .reversedGroup := RuleSet.firstHit_onlyReversed r.tool added.deny _ _ f hd
          rw [hf]
          exact iff_of_false Bool.false_ne_true fun h => h rfl

instance (path : Path) (bytes : List UInt8) (r : Request) : Decidable (Inert path bytes r) :=
  decidable_of_iff (isInert path bytes r = true) (isInert_iff path bytes r)

/-- What a project's settings come to on top of global rules that deny a request: either they are
inert and the request is denied, or they are not and there is a fault. -/
theorem inert_or_faulty {shared : Permissions} {rules : RuleSet Pattern} {rule : Rule Pattern}
    (hrequest : (Request.ofText? t).result = .ok (some r))
    (hproject : Scope.project? r.cwd = some directory)
    (hpresent : present.read (Scope.settingsPath directory) = .ok (.ok bytes))
    (hshared : (Settings.load present (Scope.settingsPath home)).result = .ok (some shared))
    (hrules : shared.rules.result = .ok rules) (hrule : denial? rules.deny r = .ok (some rule)) :
    (Inert (Scope.settingsPath directory) bytes r ∧ Denied present home t) ∨
      (¬Inert (Scope.settingsPath directory) bytes r ∧
        ∃ f, (answer present home t).result = .error f) := by
  have hload : (Scope.load present home (Scope.project? r.cwd)).result =
      (Settings.ofBytes (Scope.settingsPath directory) bytes).result.bind fun own =>
        .ok (Permissions.merge own (some shared)) := by
    rw [hproject, Scope.load_result_some, Settings.load_of_bytes hpresent, hshared]
    rfl
  rw [answer_request hrequest, evaluate_result, denied_iff hrequest, hload]
  cases ho : (Settings.ofBytes (Scope.settingsPath directory) bytes).result with
  | error f =>
      -- the file itself ends the work
      exact Or.inr ⟨not_inert_of_error ho, f, rfl⟩
  | ok own =>
  cases own with
  | none =>
      -- the file has no permissions, so the global ones are all there is
      exact Or.inl ⟨inert_of_none ho, shared, rules, rule, rfl, hrules, hrule⟩
  | some p =>
  cases hadded : p.rules.result with
  | error f =>
      -- an entry cannot be prepared, with or without the global ones
      obtain ⟨f', hf'⟩ := rules_append_fault hadded shared
      refine Or.inr ⟨not_inert_of_rules ho hadded, f', ?_⟩
      simp only [Except.bind, Permissions.merge_some, hf']
  | ok added =>
    have hboth : (p.append shared).rules.result = .ok (added.append rules) :=
      Permissions.rules_result_append hadded hrules
    have hdenial := denial?_append added hrule
    rw [inert_iff_of_rules ho hadded]
    cases ha : denial? added.deny r with
    | error f =>
        have hf : f = .reversedGroup := RuleSet.firstHit_onlyReversed r.tool added.deny _ _ f ha
        refine Or.inr ⟨fun h => h (by rw [hf]), f, ?_⟩
        rw [ha] at hdenial
        simp only [Except.bind, Permissions.merge_some, hboth]
        rw [RuleSet.evaluate, RuleSet.evaluate_of_error _ _ hdenial]
    | ok found =>
        refine Or.inl ⟨fun h => (by cases h), p.append shared, added.append rules,
          found.getD rule, rfl, hboth, ?_⟩
        rw [hdenial, ha]
        cases found <;> rfl

end

/-- A home directory whose settings deny a request, and nothing else. -/
def strictHome : FileSystem :=
  (FileSystem.empty []).put ["h", ".claude", "settings.local.json"]
    (.file (Utf8.encode "\x7b\"regexPermissions\":\x7b\"deny\":[\"a(b)\"]\x7d\x7d"))

/-- The text of a request of a project. -/
def projectRequest : Text :=
  "\x7b\"tool_name\":\"a\",\"tool_input\":\x7b\"command\":\"b\"\x7d,\"cwd\":\"p\"\x7d"

/-- The request in it. -/
def projectCall : Request := ⟨"a", [(.str "command", .str "b")], some "p"⟩

/-- The settings of that project. -/
def projectPlace : List Text := ["p", ".claude", "settings.local.json"]

/-- Settings with a rule for another tool, one that allows the request, and entries that make no
rule: a number, an open group, a range that falls and a name with half of a surrogate pair. -/
def mixedSettings : List UInt8 :=
  Utf8.encode ("\x7b\"regexPermissions\":\x7b\"deny\":[\"c(d)\",7,\"a(\",\"a(b\x7b2,1\x7d)\"," ++
    "\"a(\\\\N\x7b\\ud800\x7d)\"],\"allow\":[\"a(b)\"]\x7d\x7d")

/-- How many entries settings have, and how many rules these make. -/
def entryCounts? (path : Path) (bytes : List UInt8) : Option (Nat × Nat) := do
  let p ← (Settings.ofBytes path bytes).result.toOption.join
  let rules ← p.rules.result.toOption
  return (p.total, rules.deny.length + rules.ask.length + rules.allow.length)

end Hook

end ToolPolicy
