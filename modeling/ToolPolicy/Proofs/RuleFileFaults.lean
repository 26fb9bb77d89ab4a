import Mathlib
import ToolPolicy.Proofs.InputReport
import ToolPolicy.Proofs.RuleFileAgreement
import ToolPolicy.Proofs.YamlDepth
import ToolPolicy.Proofs.YamlGraphSigns

/-!
# Rule files that are neither loaded nor reported

A rule file is loaded, or there is an error about its path, unless no file system takes the path
or the document in the file ends in a fault. Such a fault shows in the file: in its text, in how
its tokens are nested, or in the graph of its nodes. The commands tell of an error, and end
without a word in a fault.

* `Shows`, `shows_of_read`: what in a file shows that its document ends in a fault.
* `EndsWell`: the permissions of a rule file, or an error about it.
* `file_loaded_or_reported_iff`: which rule files end well, what shows in the others, and what
  the commands make of both.
* `file_reported_unclosed`, `file_unreported_date`: a file that is reported, and one that is
  neither loaded nor reported.
-/

namespace ToolPolicy

namespace RuleFile

/-! ## Faults of documents -/

/-- What in the bytes of a file shows a fault of the document in them. -/
inductive Shows (bytes : List UInt8) : Fault → Prop where
  /-- An escape that stands for no code point, or a version with too many digits. -/
  | text {f : Fault} (h : Yaml.TextSign (Yaml.Source.ofBytes bytes).text f) : Shows bytes f
  /-- Many collections within each other. -/
  | nesting (h : Yaml.IsNested (Yaml.Source.ofBytes bytes).tokens.tokens Yaml.deepNesting) :
      Shows bytes .nestedTooDeeply
  /-- A scalar that its tag does not fit, or a long row of default values or of merged mappings. -/
  | graph {root : Yaml.NodeId} {g : Yaml.Graph} {f : Fault}
      (hread : Yaml.Graph.ofTokens (Yaml.Source.ofBytes bytes).tokens = .ok (some root, g))
      (h : Yaml.GraphSign g f) : Shows bytes f

/-- A fault of a document shows in its bytes. -/
theorem shows_of_read {bytes : List UInt8} {f : Fault} (h : Yaml.read bytes = .error (.fault f)) :
    Shows bytes f := by
  rw [Yaml.read] at h
  cases htokens : Yaml.Graph.ofTokens (Yaml.Source.ofBytes bytes).tokens with
  | error e =>
    rw [htokens] at h
    cases h
    rcases Yaml.fault_of_tokens htokens with hfault | ⟨rfl, hnested⟩
    · exact .text (Yaml.textSign_of_tokens hfault)
    · exact .nesting hnested
  | ok p =>
    obtain ⟨root, g⟩ := p
    rw [htokens] at h
    cases root with
    | none => cases h
    | some root => exact .graph htokens (Yaml.graphSign_of_value h)

/-! ## Loading -/

/-- A rule file has permissions, or there is an error of files of rules that has its path. -/
def EndsWell (path : Path) (r : Except Fault Loaded) : Prop :=
  (∃ p, r = .ok (.ok p)) ∨ ∃ e, r = .ok (.error e) ∧ e.topic = .file path.text ∧ e.code = 3001 ∧
    e.context = [(.str "path", .str path.text)]

variable {path : Path} {bytes : List UInt8}

theorem endsWell_failure (path : Path) (message : Text) (suggestion : Option Text) :
    EndsWell path (.ok (.error (failure path message suggestion))) :=
  .inr ⟨_, rfl, rfl, rfl, rfl⟩

theorem endsWell_unreadable (path : Path) (why : Text) :
    EndsWell path (.ok (.error (unreadable path why))) := by
  rw [unreadable]
  exact endsWell_failure path _ none

theorem endsWell_malformed (path : Path) (why : Text) :
    EndsWell path (.ok (.error (malformed path why))) := by
  rw [malformed]
  exact endsWell_failure path _ none

theorem endsWell_notMapping (path : Path) (v : Value) :
    EndsWell path (.ok (.error (notMapping path v))) := by
  rw [notMapping]
  exact endsWell_failure path _ _

theorem endsWell_notPermissions (path : Path) (problems : List Problem) :
    EndsWell path (.ok (.error (notPermissions path problems))) := by
  rw [notPermissions]
  exact endsWell_failure path _ none

theorem endsWell_ofValue (path : Path) (v : Value) : EndsWell path (ofValue path v).result := by
  cases v with
  | null => exact .inl ⟨_, rfl⟩
  | mapping fields =>
    obtain ⟨checked, hresult, -⟩ := Permissions.ofValue_result (blockOf fields)
    simp only [ofValue, Logged.result_bind, hresult]
    cases checked with
    | ok p => exact .inl ⟨p, rfl⟩
    | error problems => exact endsWell_notPermissions path problems
  | _ => exact endsWell_notMapping path _

/-- The bytes of a file end well, or in the fault of the document in them. -/
theorem endsWell_ofBytes (path : Path) (hread : ∀ f, Yaml.read bytes ≠ .error (.fault f)) :
    EndsWell path (ofBytes path bytes).result := by
  unfold ofBytes
  cases h : Yaml.read bytes with
  | ok v => exact endsWell_ofValue path v
  | error e =>
    cases e with
    | flaw f => exact endsWell_malformed path _
    | unprintable c position => exact endsWell_malformed path _
    | undecodable f => exact endsWell_unreadable path _
    | fault f => exact absurd h (hread f)

theorem ofBytes_of_fault (path : Path) {f : Fault} (h : Yaml.read bytes = .error (.fault f)) :
    (ofBytes path bytes).result = .error f := by
  unfold ofBytes
  rw [h]
  rfl

theorem not_endsWell_fault (path : Path) (f : Fault) : ¬EndsWell path (.error f) := by
  rintro (⟨p, h⟩ | ⟨e, h, -⟩)
  · cases h
  · cases h

/-- Loading a rule file ends well exactly if its path can be a name and its document
does not end in a fault. -/
theorem endsWell_load_iff (fs : FileSystem) (path : Path) : EndsWell path (load fs path).result ↔
    FileSystem.nameFault? path.text = none ∧
      ∀ bytes, fs.read path = .ok (.ok bytes) → ∀ f, Yaml.read bytes ≠ .error (.fault f) := by
  rw [load, FileSystem.read]
  cases FileSystem.nameFault? path.text with
  | some f =>
    refine ⟨fun h => absurd h (not_endsWell_fault path f), fun h => ?_⟩
    cases h.1
  | none =>
    rw [and_iff_right rfl]
    cases hbytes : (fs.follow path).bind fs.bytesAt with
    | error why =>
      refine ⟨fun _ bytes h => ?_, fun _ => endsWell_unreadable path _⟩
      cases h
    | ok bytes =>
      refine ⟨fun h bytes' he f hf => ?_, fun h => endsWell_ofBytes path (h bytes rfl)⟩
      cases he
      exact not_endsWell_fault path f (ofBytes_of_fault path hf ▸ h)

/-- Loading that does not end well ends in the fault of a path that is no name, or of the
document in the file. -/
theorem fault_of_load {fs : FileSystem} (h : ¬EndsWell path (load fs path).result) :
    ∃ f, (load fs path).result = .error f ∧ (FileSystem.nameFault? path.text = some f ∨
      ∃ bytes, fs.read path = .ok (.ok bytes) ∧ Yaml.read bytes = .error (.fault f) ∧
        Shows bytes f) := by
  rw [load] at h ⊢
  cases hread : fs.read path with
  | error f =>
    refine ⟨f, rfl, .inl ?_⟩
    rw [FileSystem.read] at hread
    cases hname : FileSystem.nameFault? path.text with
    | some f' =>
      rw [hname] at hread
      cases hread
      rfl
    | none =>
      rw [hname] at hread
      cases hread
  | ok found =>
    rw [hread] at h
    cases found with
    | error why => exact absurd (endsWell_unreadable path _) h
    | ok bytes =>
      by_cases hdocument : ∃ f, Yaml.read bytes = .error (.fault f)
      · obtain ⟨f, hf⟩ := hdocument
        exact ⟨f, ofBytes_of_fault path hf, .inr ⟨bytes, rfl, hf, shows_of_read hf⟩⟩
      · exact absurd (endsWell_ofBytes path (not_exists.1 hdocument)) h

end RuleFile

/-! ## The commands -/

namespace Run

/-- Reporting the error of a rule file, in the form that was asked for. -/
def report (e : PolicyError) (isJson : Bool) : Printing Unit :=
  failWith "rules_load_error" e.display isJson

/-- What a run makes of loading a rule file: an error is all that is printed, and a fault ends the
run with nothing printed. -/
structure Tells (isJson : Bool) (r : Except Fault RuleFile.Loaded) (o : Outcome) : Prop where
  reports {e : PolicyError} (h : r = .ok (.error e)) :
    o.output = (report e isJson).output ∧
      o.verdict = (Outcome.ofPrinting .warning (report e isJson)).verdict
  breaks {f : Fault} (h : r = .error f) : o.output = [] ∧ o.verdict = .fault f

/-- As JSON an error is printed with its kind, and the run ends with exit code 1. -/
theorem Tells.json {r : Except Fault RuleFile.Loaded} {o : Outcome} {e : PolicyError}
    (h : Tells true r o) (he : r = .ok (.error e)) :
    o.output = Json.writeIndented (Value.object
      [("error", .str (Text.ofString "rules_load_error")), ("message", .str e.display)]) ++ [10] ∧
        o.verdict = .exit 1 :=
  ⟨(h.reports he).1.trans (List.append_nil _), (h.reports he).2⟩

section
variable {s : Setting} {path : Path}

theorem load_of_permissions {p : Permissions} (isJson : Bool)
    (h : (RuleFile.load s.files path).result = .ok (.ok p)) :
    (load s (.file path) isJson).result = .ok p ∧ (load s (.file path) isJson).output = [] := by
  have hlogged := Printing.result_ofLogged_of_ok h
  have hload : (load s (.file path) isJson).result = .ok p := by
    rw [load, Printing.result_bind_of_ok _ hlogged]
    rfl
  exact ⟨hload, load_output hload⟩

theorem load_of_error {e : PolicyError} (isJson : Bool)
    (h : (RuleFile.load s.files path).result = .ok (.error e)) :
    (load s (.file path) isJson).output =
    (failWith "rules_load_error" e.display isJson : Printing Permissions).output ∧
      (load s (.file path) isJson).result =
        (failWith "rules_load_error" e.display isJson : Printing Permissions).result := by
  have hlogged := Printing.result_ofLogged_of_ok h
  rw [load, Printing.output_bind_of_ok _ hlogged, Printing.result_bind_of_ok _ hlogged,
    Printing.output_ofLogged]
  exact ⟨rfl, rfl⟩

theorem load_of_fault {f : Fault} (isJson : Bool)
    (h : (RuleFile.load s.files path).result = .error f) :
    (load s (.file path) isJson).output = [] ∧
    (load s (.file path) isJson).result = .error (.fault f) := by
  have hlogged : (Printing.ofLogged (RuleFile.load s.files path)).result = .error (.fault f) := by
    rw [Printing.ofLogged, h]
  rw [load, Printing.bind_of_error _ hlogged]
  exact ⟨rfl, rfl⟩

/-- Ending with an error is the same whatever was to come. -/
theorem failWith_ending (α β : Type) (kind : String) (message : Text) (isJson : Bool) :
    ∃ ending, (failWith kind message isJson : Printing α).result = .error ending ∧
      (failWith kind message isJson : Printing β).result = .error ending ∧
        (failWith kind message isJson : Printing α).output =
        (failWith kind message isJson : Printing β).output := by
  cases isJson with
  | true => exact ⟨_, rfl, rfl, rfl⟩
  | false =>
    rw [failWith, failWith]
    simp only [Bool.false_eq_true, if_false]
    cases hsaid : (Printing.say (Markup.styled "red" (Markup.escape message))).result with
    | error ending =>
      rw [Printing.bind_of_error _ hsaid, Printing.bind_of_error _ hsaid]
      exact ⟨ending, rfl, rfl, rfl⟩
    | ok _ =>
      refine ⟨.exit 1, ?_, ?_, ?_⟩
      · rw [Printing.result_bind_of_ok _ hsaid]
        rfl
      · rw [Printing.result_bind_of_ok _ hsaid]
        rfl
      · rw [Printing.output_bind_of_ok _ hsaid, Printing.output_bind_of_ok _ hsaid]
        rfl

/-- What begins with loading a rule file tells of it. -/
theorem tells_load (level : Level) (isJson : Bool) (next : Permissions → Printing Unit) :
    Tells isJson (RuleFile.load s.files path).result
      (.ofPrinting level (load s (.file path) isJson >>= next)) where
  reports {e} h := by
    obtain ⟨houtput, hresult⟩ := load_of_error isJson h
    obtain ⟨ending, hfirst, hsecond, hsame⟩ :=
      failWith_ending Permissions Unit "rules_load_error" e.display isJson
    rw [Printing.bind_of_error _ (hresult.trans hfirst), report, Outcome.ofPrinting,
      Outcome.ofPrinting, hsecond]
    exact ⟨houtput.trans hsame, rfl⟩
  breaks h := by
    obtain ⟨houtput, hresult⟩ := load_of_fault isJson h
    rw [Printing.bind_of_error _ hresult]
    exact ⟨houtput, rfl⟩

theorem tells_rules (isVerbose : Bool) {o : RulesOptions} (hsource : o.source = .file path) :
    Tells o.isJson (RuleFile.load s.files path).result
      (invocation s (.run isVerbose (.rules o))) := by
  rw [invocation, command, rules, hsource]
  exact tells_load _ _ _

theorem tells_check (isVerbose : Bool) {o : CheckOptions} {fields : List (Value × Value)}
    (hsource : o.source = .file path) (hinput : Check.readInput o.input = .ok (.ok fields)) :
    Tells o.isJson (RuleFile.load s.files path).result
      (invocation s (.run isVerbose (.check o))) := by
  rw [invocation, command, check, checkArguments_of_fields hinput, hsource]
  exact tells_load _ _ _

end

/-! ## Which rule files end well -/

open RuleFile in
/-- **Rule files that are loaded or reported.** Loading a rule file gives permissions, or an error
about the path of the file, exactly if the path can be a name and the document in the file does not
end in a fault. Every other path ends in the fault of its text or of the document, and that of a
document shows in the bytes of the file. With permissions the commands go on, of an error they tell,
and in a fault they end with nothing printed. -/
theorem file_loaded_or_reported_iff (s : Setting) (path : Path) :
    let r := (RuleFile.load s.files path).result
    (EndsWell path r ↔
      (∀ c ∈ path.text, c ≠ 0 ∧
        (CodePoint.isSurrogate c = true → FileSystem.isByteOfName c = true)) ∧
        ∀ bytes, s.files.read path = .ok (.ok bytes) → ∀ f, Yaml.read bytes ≠ .error (.fault f)) ∧
    (¬EndsWell path r → ∃ f, r = .error f ∧ (FileSystem.nameFault? path.text = some f ∨
      ∃ bytes, s.files.read path = .ok (.ok bytes) ∧
        Yaml.read bytes = .error (.fault f) ∧ Shows bytes f)) ∧
    (∀ p isJson, r = .ok (.ok p) →
      (load s (.file path) isJson).result = .ok p ∧ (load s (.file path) isJson).output = []) ∧
    (∀ isVerbose o, o.source = .file path →
      Tells o.isJson r (invocation s (.run isVerbose (.rules o)))) ∧
    ∀ isVerbose o fields, o.source = .file path → Check.readInput o.input = .ok (.ok fields) →
      Tells o.isJson r (invocation s (.run isVerbose (.check o))) := by
  intro r
  refine ⟨?_, fault_of_load, fun p isJson => load_of_permissions isJson,
    fun isVerbose o => tells_rules isVerbose, fun isVerbose o fields => tells_check isVerbose⟩
  rw [← FileSystem.nameFault?_eq_none_iff]
  exact endsWell_load_iff s.files path

/-- A setting in which there is a rule file of the given text. -/
def ruleFileSetting (text : Text) : Setting where
  files := (FileSystem.empty ["w"]).put ["w", "r.yaml"] (.file (Utf8.encode text))
  home := ⟨0, ["h"]⟩

/-- The path of that rule file. -/
def ruleFile : Path := .ofText "/w/r.yaml"

/-- A list that is not closed is reported, as an error of files of rules with the path. -/
theorem file_reported_unclosed :
    let s := ruleFileSetting "deny: ["
    let o := outcome s ["rules", "--json", "--rules", "r.yaml"]
    ∃ e, (RuleFile.load s.files ruleFile).result = .ok (.error e) ∧
      e.topic = .file (Text.ofString "/w/r.yaml") ∧
      o.output = Json.writeIndented (Value.object
        [("error", .str (Text.ofString "rules_load_error")), ("message", .str e.display)]) ++ [10] ∧
      o.verdict = .exit 1 := by
  intro s o
  obtain ⟨hends, -, -, htells, -⟩ := file_loaded_or_reported_iff s ruleFile
  have hinvocation : Invocation.ofArguments s.files ["rules", "--json", "--rules", "r.yaml"] =
      .ok (.run false (.rules ⟨.file ruleFile, false, true⟩)) := by decide +kernel
  have hreported : (RuleFile.load s.files ruleFile).result.toOption.any (·.toOption.isNone) =
    true := by decide +kernel
  have hread : s.files.read ruleFile = .ok (.ok (Utf8.encode "deny: [")) := by rfl
  cases hresult : (RuleFile.load s.files ruleFile).result with
  | error f =>
    rw [hresult] at hreported
    cases hreported
  | ok loaded =>
    cases loaded with
    | ok p =>
      rw [hresult] at hreported
      cases hreported
    | error e =>
      have hwell : RuleFile.EndsWell ruleFile (RuleFile.load s.files ruleFile).result := by
        refine hends.2 ⟨by decide, fun bytes hbytes f hf => ?_⟩
        rw [RuleFile.load, hbytes] at hresult
        cases (RuleFile.ofBytes_of_fault ruleFile hf).symm.trans hresult
      have htold := (htells false ⟨.file ruleFile, false, true⟩ rfl).json hresult
      rw [hresult] at hwell
      obtain ⟨p, hp⟩ | ⟨e', he', htopic, -⟩ := hwell
      · cases hp
      · cases he'
        have houtcome : o = invocation s (.run false (.rules ⟨.file ruleFile, false, true⟩)) := by
          change outcome s _ = _
          rw [outcome, hinvocation]
        exact ⟨e, rfl, htopic, houtcome ▸ htold⟩

/-- A date that no calendar has is in a file that a path names, and there are neither permissions
nor an error about that path: the command ends with nothing printed. -/
theorem file_unreported_date :
    let s := ruleFileSetting "deny: []\nnote: 2020-02-30\n"
    let o := outcome s ["rules", "--json", "--rules", "r.yaml"]
    0 ∉ ruleFile.text ∧ (∃ bytes, s.files.read ruleFile = .ok (.ok bytes)) ∧
      ¬RuleFile.EndsWell ruleFile (RuleFile.load s.files ruleFile).result ∧ o.output = [] ∧
      o.verdict = .fault (.calendar .day) := by
  intro s o
  have hfails : (RuleFile.load s.files ruleFile).result.toOption.isNone = true := by decide +kernel
  refine ⟨by decide, ⟨_, rfl⟩, ?_, by decide +kernel, by decide +kernel⟩
  cases hresult : (RuleFile.load s.files ruleFile).result with
  | error f => exact RuleFile.not_endsWell_fault ruleFile f
  | ok loaded =>
    rw [hresult] at hfails
    cases hfails

end Run

end ToolPolicy
