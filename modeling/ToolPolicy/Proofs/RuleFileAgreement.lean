import Mathlib
import ToolPolicy.Proofs.JsonDocuments
import ToolPolicy.Proofs.SettingsInfluence
import ToolPolicy.RuleFile

/-!
# A JSON document as settings and as a rule file

Settings are read as JSON, and a rule file as YAML, so a file in JSON can be used as either. Both
find the same permissions unless the document goes beyond what the two languages share: YAML keeps
the two surrogates of a code point beyond 16 bits apart, takes a long name for a key without a
value, and is nested less deeply.

* `RuleDocument`: an object that has permissions with three lists of texts.
* `means_same_iff`: when such a document has the same permissions as settings and as a rule file.
* `emoji_differs`: a document that has others.
-/

namespace ToolPolicy

open Json Yaml

/-! ## Values that are complete in themselves -/

/-- Whether nothing in a value refers to a container around it. -/
structure Whole (v : Value) : Prop where
  fill : ∀ copy depth, Value.fill copy depth v = v
  detach : ∀ n, Value.detach n v = v

/-- Whether a value has no parts. -/
def isFlat : Value → Bool
  | .list _ | .mapping _ | .tuple _ | .set _ | .outer _ => false
  | _ => true

theorem mapIdx_eq_self {α : Type} {l : List α} {f : Nat → α → α} (h : ∀ i, ∀ a ∈ l, f i a = a) :
    l.mapIdx f = l := by
  refine List.ext_getElem (by simp) fun i hi hi' => ?_
  rw [List.getElem_mapIdx]
  exact h i _ (List.getElem_mem _)

theorem map_eq_self {α : Type} {l : List α} {f : α → α} (h : ∀ a ∈ l, f a = a) : l.map f = l :=
  (List.map_congr_left h).trans (List.map_id _)

theorem Whole.of_isFlat {v : Value} (h : isFlat v = true) : Whole v := by
  refine ⟨fun copy depth => ?_, fun n => ?_⟩
  · cases v <;> first | rfl | cases h
  · cases n <;> cases v <;> first | rfl | cases h

theorem Whole.list {items : List Value} (h : ∀ v ∈ items, Whole v) : Whole (.list items) := by
  have hfill (copy : Nat → Value) (depth : Nat) : Value.fillItems copy depth items = items := by
    induction items with
    | nil => rfl
    | cons v rest ih =>
        rw [Value.fillItems, (h v (by simp)).fill, ih fun v hv => h v (by simp [hv])]
  refine ⟨fun copy depth => by rw [Value.fill, hfill], fun n => ?_⟩
  cases n with
  | zero => rfl
  | succ n =>
    have hitems : Value.detachItems items = items := mapIdx_eq_self fun _ v hv => (h v hv).fill _ _
    rw [Value.detach, hitems, map_eq_self fun v hv => (h v hv).detach n]

theorem detachEntries_eq {entries : List (Value × Value)}
    (h : ∀ e ∈ entries, Whole e.1 ∧ Whole e.2) :
    Value.detachEntries entries = entries :=
  mapIdx_eq_self fun _ e he => congrArg (Prod.mk e.1) ((h e he).2.fill _ _)

theorem Whole.mapping {entries : List (Value × Value)} (h : ∀ e ∈ entries, Whole e.1 ∧ Whole e.2) :
    Whole (.mapping entries) := by
  have hfill (copy : Nat → Value) (depth : Nat) : Value.fillEntries copy depth entries =
    entries := by
    induction entries with
    | nil => rfl
    | cons e rest ih =>
      have he := h e (by simp)
      rw [Value.fillEntries, he.1.fill, he.2.fill, ih fun e he => h e (by simp [he])]
  refine ⟨fun copy depth => by rw [Value.fill, hfill], fun n => ?_⟩
  cases n with
  | zero => rfl
  | succ n =>
    rw [Value.detach, detachEntries_eq h,
      map_eq_self fun e he => congrArg (Prod.mk e.1) ((h e he).2.detach n)]

/-! ## Documents are complete in themselves -/

/-- Whether what is read has no parts, if something is read. -/
def ReadsFlat (r : Except Yaml.Failure Value) : Prop := ∀ v, r = .ok v → isFlat v = true

namespace ReadsFlat

theorem ok {v : Value} (h : isFlat v = true) : ReadsFlat (.ok v) := fun _ he => Except.ok.inj he ▸ h

theorem error {e : Yaml.Failure} : ReadsFlat (.error e) := fun _ he => nomatch he

theorem bind {α : Type} {m : Except Yaml.Failure α} {f : α → Except Yaml.Failure Value}
    (h : ∀ a, ReadsFlat (f a)) :
    ReadsFlat (m >>= f) := by
  cases m with
  | error e => exact error
  | ok a => exact h a

theorem orFault_map {α : Type} {r : Except Fault α} {f : α → Value} (h : ∀ a, isFlat (f a) = true) :
    ReadsFlat (ScalarValue.orFault (r.map f)) := by
  cases r with
  | error e => exact error
  | ok a => exact ok (h a)

theorem ite {p : Prop} [Decidable p] {r r' : Except Yaml.Failure Value} (h : ReadsFlat r)
    (h' : ReadsFlat r') :
    ReadsFlat (if p then r else r') := by
  split
  · exact h
  · exact h'

end ReadsFlat

/-- A scalar has no parts. -/
theorem readsFlat_ofText (place : Mark) (tag : Tag) (t : Text) :
    ReadsFlat (ScalarValue.ofText place tag t) := by
  cases tag with
  | null => exact .ok rfl
  | str => exact .ok rfl
  | bool => exact .ite (.ok rfl) (.ite (.ok rfl) .error)
  | int => exact .bind fun _ => .bind fun _ => .ok rfl
  | float =>
    exact .bind fun _ =>
      .ite (.ok rfl) (.ite (.ok rfl) (.ite (.bind fun _ => .bind fun _ => .ok rfl)
      (.bind fun _ => .ok rfl)))
  | timestamp =>
    rw [ScalarValue.ofText, ScalarValue.ofTimestamp]
    split
    · exact .error
    · split <;> exact .orFault_map fun _ => rfl
  | binary =>
    rw [ScalarValue.ofText, ScalarValue.ofBinary]
    split
    · exact .error
    · split
      · exact .ok rfl
      · exact .error
  | _ => exact .error

theorem whole_putField {name : Text} {v : Value} {entries : List (Value × Value)} (hv : Whole v)
    (h : ∀ e ∈ entries, Whole e.1 ∧ Whole e.2) :
    ∀ e ∈ Value.putField name v entries, Whole e.1 ∧ Whole e.2 := by
  rw [putField_eq_putNamed]
  induction entries with
  | nil =>
    intro e he
    rw [List.mem_singleton.mp he]
    exact ⟨.of_isFlat rfl, hv⟩
  | cons first rest ih =>
    intro e he
    have hfirst := h first (by simp)
    simp only [putNamed] at he
    split at he
    · rcases List.mem_cons.mp he with rfl | he
      · exact ⟨hfirst.1, hv⟩
      · exact h e (by simp [he])
    · rcases List.mem_cons.mp he with rfl | he
      · exact hfirst
      · exact ih (fun e he => h e (by simp [he])) e he

theorem whole_putAll {fields : List (Text × Value)} (hfields : ∀ f ∈ fields, Whole f.2)
    {entries : List (Value × Value)} (h : ∀ e ∈ entries, Whole e.1 ∧ Whole e.2) :
    ∀ e ∈ Form.putAll entries fields, Whole e.1 ∧ Whole e.2 := by
  induction fields generalizing entries with
  | nil => exact h
  | cons f rest ih =>
    exact ih (fun f hf => hfields f (by simp [hf])) (whole_putField (hfields f (by simp)) h)

mutual

/-- Nothing in a document refers to a container around it. -/
theorem whole_value : ∀ f : Form, Whole (f.value asYaml)
  | .word w => .of_isFlat (readsFlat_ofText {} _ _ _ (w.ofText_plain {}))
  | .string _ => .of_isFlat rfl
  | .list items => .list (whole_values items)
  | .object fields => .mapping (whole_putAll (whole_fieldValues fields) (by simp))

theorem whole_values : ∀ items : List Form, ∀ v ∈ Form.values asYaml items, Whole v
  | [], _, hv => by cases hv
  | f :: rest, v, hv => by
    rcases List.mem_cons.mp hv with rfl | hv
    · exact whole_value f
    · exact whole_values rest v hv

theorem whole_fieldValues :
    ∀ fields : List (Units × Form), ∀ f ∈ Form.fieldValues asYaml fields, Whole f.2
  | [], _, hf => by cases hf
  | (_, f) :: rest, e, he => by
    rcases List.mem_cons.mp he with rfl | he
    · exact whole_value f
    · exact whole_fieldValues rest e he

end

/-! ## Rule files -/

namespace RuleFile

variable {path : Path} {bytes : List UInt8}

theorem ofBytes_of_read {v : Value} (h : Yaml.read bytes = .ok v) :
    ofBytes path bytes = ofValue path v := by
  unfold ofBytes
  rw [h]

theorem ofBytes_of_error {e : Yaml.Failure} (h : Yaml.read bytes = .error e) (p : Permissions) :
    (ofBytes path bytes).result ≠ .ok (.ok p) := by
  unfold ofBytes
  rw [h]
  cases e <;> exact nofun

/-- The permissions of a mapping that holds a mapping with permissions. -/
theorem ofValue_result {fields : List (Value × Value)} {p : Permissions}
    (h : Permissions.ofBlock? (blockOf fields) = some p) :
    (ofValue path (.mapping fields)).result = .ok (.ok p) := by
  obtain ⟨checked, hresult, hchecked⟩ := Permissions.ofValue_result (blockOf fields)
  rw [h] at hchecked
  cases checked with
  | error problems => cases hchecked
  | ok p =>
    cases hchecked
    simp only [ofValue, Logged.result_bind, hresult]
    rfl

end RuleFile

/-! ## Permissions in a document -/

/-- The permissions with some texts for entries. -/
def Permissions.ofTexts (texts : Category → List Text) : Permissions :=
  ⟨(texts .deny).map .str, (texts .ask).map .str, (texts .allow).map .str⟩

/-- An object that has permissions with three lists of texts. -/
structure RuleDocument where
  fields : List (Value × Value)
  block : List (Value × Value)
  texts : Category → List Text
  isDocument : IsDocument (.mapping fields)
  found : Value.field? Permissions.settingsName fields = some (.mapping block)
  lists : ∀ c : Category, Value.field? c.label block = some (.list ((texts c).map .str))
  scalar : ∀ c, ∀ t ∈ texts c, t.isScalar = true

namespace RuleDocument

variable (d : RuleDocument) {fs : FileSystem} {path : Path}

/-- A document with rules as it is written. -/
def text : Text := Json.write (.mapping d.fields)

/-- The permissions of a document with rules, given what becomes of a text. -/
def permissions (read : Text → Text) : Permissions := .ofTexts fun c => (d.texts c).map read

theorem permissions_congr {read read' : Text → Text} (h : ∀ c, ∀ t ∈ d.texts c, read t = read' t) :
    d.permissions read = d.permissions read' := by
  have hmap : (fun c => (d.texts c).map read) = fun c => (d.texts c).map read' :=
    funext fun c => List.map_congr_left (h c)
  rw [permissions, hmap, permissions]

theorem isText (c : Category) : ∀ t ∈ d.texts c, IsText t :=
  isText_of_areDocuments
    (isDocument_of_field? (isDocument_of_field? d.isDocument d.found) (d.lists c))

/-- The parts of the written document that matter: it has permissions under their name, whatever
words and strings are taken for. -/
theorem exists_forms : ∃ forms blockForms : List (Units × Form),
    RendersFields d.fields forms ∧ (Form.object forms).text = d.text
      ∧ ∀ r : Form.Taking, (∀ name, IsAscii name → ∀ u, r.string u = name ↔ u = name) →
        Value.field? Permissions.settingsName (Form.putAll [] (Form.fieldValues r forms))
            = some ((Form.object blockForms).value r)
          ∧ Permissions.ofBlock? ((Form.object blockForms).value r)
            = some (d.permissions fun t => r.string (t.flatMap halves)) := by
  obtain ⟨f, hf⟩ := exists_renders _ d.isDocument
  cases hf with
  | word plain _ => cases plain
  | object hfields =>
    rename_i forms
    obtain ⟨f, hfound, hblock⟩ := hfields.lastNamed?_eq (by decide) d.found
    cases hblock with
    | word plain _ => cases plain
    | object hblock =>
      rename_i blockForms
      refine ⟨forms, blockForms, hfields, (Renders.object hfields).text_eq, fun r hr => ⟨?_, ?_⟩⟩
      · rw [field?_fieldValues (hr _ (by decide)), hfound]
        rfl
      · have hlisted (c : Category) :
            Permissions.listed (Form.putAll [] (Form.fieldValues r blockForms)) c
              = ((d.texts c).map fun t => r.string (t.flatMap halves)).map .str := by
          have hlabel : IsAscii c.label := by cases c <;> decide
          obtain ⟨f, hlist, hitems⟩ := hblock.lastNamed?_eq hlabel (d.lists c)
          cases hitems with
          | word plain _ => cases plain
          | list hitems =>
            rw [Permissions.listed, field?_fieldValues (hr _ hlabel), hlist,
              Option.map_some, Form.value, hitems.values_eq r, List.map_map]
            rfl
        rw [Form.value, Permissions.ofBlock?, hlisted, hlisted, hlisted]
        rfl

/-- As settings, a document that JSON can read has its permissions. -/
theorem settings_result (hread : fs.read path = .ok (.ok (Utf8.encode d.text)))
    (hlevels : levels (.mapping d.fields) ≤ Json.depthLimit) :
    (Settings.load fs path).result = .ok (some (d.permissions fun t => t)) := by
  obtain ⟨forms, blockForms, hforms, htext, hblock⟩ := d.exists_forms
  obtain ⟨hfound, hpermissions⟩ := hblock Form.asJson fun name hname u => rejoin_eq_iff hname
  have hvisible := Lexer.visible_text (.object forms)
  have hheight : (Form.object forms).height ≤ Json.depthLimit := by
    rwa [(Renders.object hforms).height_eq]
  have hholds :
    Settings.Holds (Utf8.encode d.text) (Form.putAll [] (Form.fieldValues Form.asJson forms)) := by
    refine ⟨d.text, ?_, ?_⟩
    · rw [← htext, decode_encode hvisible]
    · rw [← htext, toLineFeeds_visible hvisible, Form.read_text hheight, Form.value]
  have htexts : (d.permissions fun t => Form.asJson.string (t.flatMap halves)) =
    d.permissions fun t => t :=
    d.permissions_congr fun c t ht => rejoin_halves (d.isText c t ht) (d.scalar c t ht)
  rw [Settings.load_of_holds hread hholds, Settings.permissions?_of_found hfound,
    hpermissions, htexts]

/-- As a rule file, a document that YAML can read has the permissions with surrogates for code
points beyond 16 bits; any other has none. -/
theorem ruleFile_result (hread : fs.read path = .ok (.ok (Utf8.encode d.text))) :
    HasShortNames (.mapping d.fields) ∧ levels (.mapping d.fields) ≤ Build.depthLimit ∧
        (RuleFile.load fs path).result = .ok (.ok (d.permissions fun t => t.flatMap halves)) ∨
      ¬ (HasShortNames (.mapping d.fields) ∧ levels (.mapping d.fields) ≤ Build.depthLimit) ∧
        ∀ p : Permissions, (RuleFile.load fs path).result ≠ .ok (.ok p) := by
  obtain ⟨forms, blockForms, hforms, htext, hblock⟩ := d.exists_forms
  obtain ⟨hfound, hpermissions⟩ := hblock asYaml fun name _ u => by rw [asYaml_string]
  have hfits : Build.Fits 1 (.object forms)
      ↔ HasShortNames (.mapping d.fields) ∧ levels (.mapping d.fields) ≤ Build.depthLimit := by
    rw [Build.Fits, (Renders.object hforms).shortNames_iff, (Renders.object hforms).height_eq]
    exact and_congr_right fun _ => by omega
  rw [RuleFile.load_of_bytes hread]
  rcases read_text forms with ⟨hfit, hvalue⟩ | ⟨hfit, e, herror⟩
  · refine .inl ⟨(hfits.mp hfit).1, (hfits.mp hfit).2, ?_⟩
    have hwhole : ∀ e ∈ Form.putAll [] (Form.fieldValues asYaml forms), Whole e.1 ∧ Whole e.2 :=
      whole_putAll (whole_fieldValues forms) (by simp)
    have hentries : RuleFile.blockOf (Form.putAll [] (Form.fieldValues asYaml forms))
        = (Form.object blockForms).value asYaml := by
      rw [RuleFile.blockOf, detachEntries_eq hwhole, hfound, Option.getD_some,
        (whole_value _).detach]
    rw [htext, Form.value] at hvalue
    rw [RuleFile.ofBytes_of_read hvalue]
    exact RuleFile.ofValue_result (by rw [hentries, hpermissions]; rfl)
  · rw [htext] at herror
    exact .inr ⟨fun h => hfit (hfits.mpr h), RuleFile.ofBytes_of_error herror⟩

/-- Surrogates are the code points themselves exactly if no code point is beyond 16 bits. -/
theorem permissions_halves_iff :
    (d.permissions fun t => t.flatMap halves) = (d.permissions fun t => t)
    ↔ ∀ c, ∀ t ∈ d.texts c, ∀ x ∈ t, x < 0x10000 := by
  constructor
  · intro h
    have hlists :
        ∀ c, (d.texts c).map (fun t => t.flatMap halves) = (d.texts c).map fun t => t := by
      intro c
      have hinjective : Function.Injective Value.str := fun _ _ he => Value.str.inj he
      have hentries := congrArg (fun p => Permissions.entries p c) h
      cases c <;> exact List.map_injective_iff.mpr hinjective hentries
    intro c t ht x hx
    have hsame : t.flatMap halves = t := List.map_inj_left.mp (hlists c) t ht
    rw [← hsame] at hx
    obtain ⟨y, hy, hx⟩ := List.mem_flatMap.mp hx
    exact lt_of_mem_halves (d.isText c t ht y hy) hx
  · exact fun h => d.permissions_congr fun c t ht => flatMap_halves_of_lt (h c t ht)

/-- **A document as settings and as a rule file.** It has the same permissions as both exactly if
every name in it is short enough to be a key in YAML, it is nested no more deeply than YAML can be,
and no entry has a code point beyond 16 bits. -/
theorem means_same_iff (hread : fs.read path = .ok (.ok (Utf8.encode d.text))) :
    (∃ p, (Settings.load fs path).result = .ok (some p) ∧
      (RuleFile.load fs path).result = .ok (.ok p)) ↔
      HasShortNames (.mapping d.fields) ∧ levels (.mapping d.fields) ≤ Build.depthLimit ∧
        ∀ c, ∀ t ∈ d.texts c, ∀ x ∈ t, x < 0x10000 := by
  rcases d.ruleFile_result hread with ⟨hnames, hlevels, hruleFile⟩ | ⟨hnot, hruleFile⟩
  · have hsettings := d.settings_result hread (Nat.le_trans hlevels (by decide))
    rw [hsettings, hruleFile, ← d.permissions_halves_iff]
    constructor
    · rintro ⟨p, hp, hp'⟩
      cases hp
      exact ⟨hnames, hlevels, Except.ok.inj (Except.ok.inj hp')⟩
    · rintro ⟨_, _, hsame⟩
      exact ⟨_, rfl, by rw [hsame]⟩
  · constructor
    · rintro ⟨p, _, hp⟩
      exact absurd hp (hruleFile p)
    · exact fun h => absurd ⟨h.1, h.2.1⟩ hnot

/-- The document that denies one entry. -/
def denying (t : Text) (valid : IsText t) (scalar : t.isScalar = true) : RuleDocument where
  fields := [(.str Permissions.settingsName,
    .mapping [(.str "deny", .list [.str t]), (.str "ask", .list []), (.str "allow", .list [])])]
  block := [(.str "deny", .list [.str t]), (.str "ask", .list []), (.str "allow", .list [])]
  texts
    | .deny => [t]
    | _ => []
  isDocument := by
    refine ⟨⟨by decide, rfl⟩,
      ⟨⟨by decide, rfl⟩, ⟨valid, trivial⟩, ⟨by decide, rfl⟩, trivial, ⟨by decide, rfl⟩, trivial,
      trivial⟩, trivial⟩
  found := rfl
  lists c := by cases c <;> rfl
  scalar c u hu := by
    cases c with
    | deny => exact List.mem_singleton.mp hu ▸ scalar
    | _ => cases hu

/-- The document that denies one use of a tool. -/
def plain : RuleDocument := denying "Bash(rm)" (by decide) (by decide)

/-- The document that denies the use of a tool with an emoji, which is a code
point beyond 16 bits. -/
def emoji : RuleDocument := denying [66, 97, 115, 104, 40, 0x1F600, 41] (by decide) (by decide)

theorem read_only (t : Text) :
    (Settings.only t).read Settings.settingsFile = .ok (.ok (Utf8.encode t)) := rfl

/-- Every name in such a document is short, and it has four levels. -/
theorem fits_denying {t : Text} {valid : IsText t} {scalar : t.isScalar = true} :
    HasShortNames (.mapping (denying t valid scalar).fields) ∧
      levels (.mapping (denying t valid scalar).fields) = 4 :=
  ⟨⟨by decide,
   ⟨by decide, ⟨trivial, trivial⟩, by decide, trivial, by decide, trivial, trivial⟩, trivial⟩, rfl⟩

/-- The document that denies one use of a tool means the same as settings and as a rule file. -/
theorem plain_means_same :
    ∃ p, (Settings.load (Settings.only plain.text) Settings.settingsFile).result = .ok (some p)
    ∧ (RuleFile.load (Settings.only plain.text) Settings.settingsFile).result = .ok (.ok p) := by
  refine (means_same_iff plain (read_only plain.text)).2 ⟨fits_denying.1, ?_, fun c => ?_⟩
  · rw [plain, fits_denying.2]
    decide
  · cases c <;> decide

/-- An emoji that is denied as settings say is two surrogates for a rule file. -/
theorem emoji_differs :
    (Settings.load (Settings.only emoji.text) Settings.settingsFile).result
        = .ok (some ⟨[.str [66, 97, 115, 104, 40, 0x1F600, 41]], [], []⟩) ∧
      (RuleFile.load (Settings.only emoji.text) Settings.settingsFile).result
        = .ok (.ok ⟨[.str [66, 97, 115, 104, 40, 0xD83D, 0xDE00, 41]], [], []⟩) ∧
      ¬ ∃ p, (Settings.load (Settings.only emoji.text) Settings.settingsFile).result =
        .ok (some p) ∧
        (RuleFile.load (Settings.only emoji.text) Settings.settingsFile).result = .ok (.ok p) := by
  have hlevels : levels (.mapping emoji.fields) = 4 := fits_denying.2
  have hsettings : (Settings.load (Settings.only emoji.text) Settings.settingsFile).result
      = .ok (some ⟨[.str [66, 97, 115, 104, 40, 0x1F600, 41]], [], []⟩) :=
    emoji.settings_result (read_only emoji.text) (by rw [hlevels]; decide)
  have hruleFile : (RuleFile.load (Settings.only emoji.text) Settings.settingsFile).result
      = .ok (.ok ⟨[.str [66, 97, 115, 104, 40, 0xD83D, 0xDE00, 41]], [], []⟩) := by
    rcases emoji.ruleFile_result (read_only emoji.text) with ⟨_, _, h⟩ | ⟨hnot, _⟩
    · exact h
    · exact absurd ⟨fits_denying.1, by rw [hlevels]; decide⟩ hnot
  refine ⟨hsettings, hruleFile, ?_⟩
  rw [hsettings, hruleFile]
  rintro ⟨p, hp, hp'⟩
  cases hp
  simp at hp'

end RuleDocument

end ToolPolicy
