import ToolPolicy.Proofs.Preparation
import ToolPolicy.Scope

/-!
# Which settings end the work

A settings file that is missing, unreadable or malformed has no permissions, and the work goes on.
Two things are not covered by that: a path that no file system takes, and a document with a number
that is not converted.

* `Json.read_fault`: the only fault of a JSON text is a number with too many digits.
* `nameFault?_eq_none_iff`: which texts can be names.
* `Settings.load_isOk_iff`: which settings files end the work.
* `Scope.load_isOk_iff`: both scopes have permissions exactly if neither file ends the work.
-/

namespace ToolPolicy

/-! ## JSON texts -/

namespace Json

/-- A failure that is no fault but a number with too many digits. -/
def Failure.Expected : Failure → Prop
  | .fault f => ∃ n, digitLimit < n ∧ f = .tooManyDigits n
  | _ => True

theorem readEscape_expected {start : Nat} {t : Text} {failure : Failure}
    (h : readEscape start t = .error failure) : failure.Expected := by
  unfold readEscape flawAt at h
  repeat' split at h
  all_goals first | (cases h; trivial) | cases h

theorem readString_expected {start taken : Nat} {t : Text} {failure : Failure}
    (h : readString start taken t = .error failure) : failure.Expected := by
  have hcons : ∀ {c : CodePoint} {r : Except Failure (Text × Text)}, consTo c r = .error failure →
      r = .error failure := by
    intro c r hr
    cases r with
    | error e => cases hr; rfl
    | ok a => cases hr
  fun_induction readString start taken t with
  | case1 => cases h; trivial
  | case2 _ _ _ ih => exact ih h
  | case3 => cases h
  | case4 _ _ hescape _ => cases h; exact readEscape_expected hescape
  | case5 _ _ _ _ _ ih => exact ih (hcons h)
  | case6 => cases h; trivial
  | case7 _ _ _ _ _ ih => exact ih (hcons h)

theorem readNumber_expected {t : Text} {failure : Failure} (h : readNumber t = .error failure) :
    failure.Expected := by
  unfold readNumber flawAt at h
  simp only at h
  repeat' split at h
  all_goals first
    | (cases h; trivial)
    | (next hlimit => cases h; exact ⟨_, hlimit, rfl⟩)
    | cases h

theorem readValue_expected (fuel : Nat) :
    (∀ depth t failure, readValue fuel depth t = .error failure → failure.Expected) ∧
    (∀ depth items t failure, readItems fuel depth items t = .error failure → failure.Expected) ∧
    ∀ depth fields t failure, readFields fuel depth fields t = .error failure →
      failure.Expected := by
  induction fuel with
  | zero =>
      refine ⟨?_, ?_, ?_⟩
      · intro depth t failure h
        rw [readValue] at h
        cases h
        trivial
      · intro depth items t failure h
        rw [readItems] at h
        cases h
        trivial
      · intro depth fields t failure h
        rw [readFields] at h
        cases h
        trivial
  | succ fuel ih =>
      obtain ⟨hvalue, hitems, hfields⟩ := ih
      refine ⟨?_, ?_, ?_⟩
      · intro depth t failure h
        unfold readValue flawAt at h
        repeat' split at h
        · cases h; trivial
        · next c rest _ =>
            cases hs : readString (c :: rest).length 0 rest with
            | error e => rw [hs] at h; cases h; exact readString_expected hs
            | ok a => rw [hs] at h; cases h
        · cases h; trivial
        · cases h
        · exact hitems _ _ _ _ h
        · cases h; trivial
        · cases h
        · exact hfields _ _ _ _ h
        · cases h
        · exact readNumber_expected h
      · intro depth items t failure h
        unfold readItems flawAt at h
        split at h
        · next hv => cases h; exact hvalue _ _ _ hv
        · split at h
          · cases h
          · exact hitems _ _ _ _ h
          · cases h; trivial
      · intro depth fields t failure h
        unfold readFields flawAt at h
        repeat' split at h
        all_goals first
          | (cases h; trivial)
          | (next hs => cases h; exact readString_expected hs)
          | (next hv => cases h; exact hvalue _ _ _ hv)
          | exact hfields _ _ _ _ h
          | cases h

/-- **The only fault of a JSON text** is a number with too many digits. -/
theorem read_fault {t : Text} {f : Fault} (h : read t = .error (.fault f)) :
    ∃ n, digitLimit < n ∧ f = .tooManyDigits n := by
  have hexp : (Failure.fault f).Expected := by
    unfold read flawAt at h
    split at h
    · cases h
    · split at h
      · next hv => cases h; exact (readValue_expected _).1 _ _ _ hv
      · split at h
        · cases h
        · cases h
  exact hexp

end Json

/-! ## Names of files -/

namespace FileSystem

/-- A text can be a name exactly if it has no zero and no half of a surrogate pair but those that
stand for a byte. -/
theorem nameFault?_eq_none_iff (t : Text) : nameFault? t = none ↔
    ∀ c ∈ t, c ≠ 0 ∧ (CodePoint.isSurrogate c = true → isByteOfName c = true) := by
  have hzero : t.contains 0 = false ↔ ∀ c ∈ t, c ≠ 0 := by
    rw [← Bool.not_eq_true, List.contains_iff_mem]
    exact ⟨fun h c hc hz => h (hz ▸ hc), fun h hz => h 0 hz rfl⟩
  unfold nameFault?
  split
  · next position hfound =>
      obtain ⟨hlt, hbad, -⟩ := List.findIdx?_eq_some_iff_getElem.1 hfound
      rw [Bool.and_eq_true, Bool.not_eq_true'] at hbad
      constructor
      · intro h
        cases h
      · intro h
        rw [(h _ (List.getElem_mem hlt)).2 hbad.1] at hbad
        cases hbad.2
  · next hnone =>
      rw [List.findIdx?_eq_none_iff] at hnone
      have hbytes : ∀ c ∈ t, CodePoint.isSurrogate c = true → isByteOfName c = true := by
        intro c hc hs
        have := hnone c hc
        simpa [hs] using this
      rw [ite_eq_right_iff]
      constructor
      · intro h c hc
        have hnot : t.contains 0 = false := by
          rw [← Bool.not_eq_true]
          intro hz
          cases h hz
        exact ⟨hzero.1 hnot c hc, hbytes c hc⟩
      · intro h hz
        rw [hzero.2 fun c hc => (h c hc).1] at hz
        cases hz

end FileSystem

/-! ## Settings files -/

namespace Permissions

/-- Reading permissions from settings never ends the work. -/
theorem ofSettingsFields_isOk (fields : List (Value × Value)) :
    ∃ checked, (ofSettingsFields fields).result = .ok checked := by
  have hcategory : ∀ fields category, ∃ items,
    (readCategory fields category).result = .ok items := by
    intro fields category
    unfold readCategory
    split <;> exact ⟨_, rfl⟩
  have hvalue : ∀ v, ∃ checked, (ofValue v).result = .ok checked := by
    intro v
    unfold ofValue
    split
    · exact ⟨_, rfl⟩
    · next fields _ =>
        obtain ⟨deny, hd⟩ := hcategory fields .deny
        obtain ⟨ask, ha⟩ := hcategory fields .ask
        obtain ⟨allow, hl⟩ := hcategory fields .allow
        simp only [ofFields, Logged.result_bind, Logged.result_pure, hd, ha, hl]
        exact ⟨_, rfl⟩
  unfold ofSettingsFields
  split
  · exact ⟨_, rfl⟩
  · exact ⟨_, rfl⟩
  · next name v _ _ =>
      obtain ⟨checked, hc⟩ := hvalue v
      simp only [Logged.result_bind, Logged.result_pure, hc]
      exact ⟨_, rfl⟩

end Permissions

namespace Settings

/-- Bytes of a settings file that do not end the work: as JSON they have no number with too many
digits. -/
def Harmless (bytes : List UInt8) : Prop :=
  ∀ t, Utf8.decode bytes = .ok t → ∀ n,
    Json.read (Utf8.toLineFeeds t) ≠ .error (.fault (.tooManyDigits n))

theorem ofValue_isOk (path : Path) (v : Value) : ∃ own, (ofValue path v).result = .ok own := by
  cases v with
  | mapping fields =>
      obtain ⟨checked, hc⟩ := Permissions.ofSettingsFields_isOk fields
      rw [ofValue, Logged.result_bind, hc]
      cases checked <;> exact ⟨_, rfl⟩
  | _ => exact ⟨_, rfl⟩

/-- The bytes of a settings file have permissions, perhaps none, exactly if they are harmless. -/
theorem ofBytes_isOk_iff (path : Path) (bytes : List UInt8) :
    (∃ own, (ofBytes path bytes).result = .ok own) ↔ Harmless bytes := by
  rw [ofBytes, Harmless]
  cases hd : Utf8.decode bytes with
  | error flaw =>
      refine ⟨fun _ t ht => ?_, fun _ => ⟨none, rfl⟩⟩
      cases ht
  | ok t =>
      simp only [Except.ok.injEq, forall_eq', ofText]
      cases hr : Json.read (Utf8.toLineFeeds t) with
      | ok v => exact ⟨fun _ n h => (nomatch h), fun _ => ofValue_isOk path v⟩
      | error failure =>
          cases failure with
          | flaw f => exact ⟨fun _ n h => (nomatch h), fun _ => ⟨none, rfl⟩⟩
          | tooDeep object => exact ⟨fun _ n h => (nomatch h), fun _ => ⟨none, rfl⟩⟩
          | fault f =>
              obtain ⟨n, -, rfl⟩ := Json.read_fault hr
              constructor
              · rintro ⟨own, h⟩
                cases h
              · intro h
                exact absurd rfl (h n)

/-- Loading a settings file ends the work exactly if its path cannot be a name or its bytes are not
harmless. -/
theorem load_isOk_iff (fs : FileSystem) (path : Path) :
    (∃ own, (load fs path).result = .ok own) ↔
      FileSystem.nameFault? path.text = none ∧ ∀ bytes, fs.read path = .ok (.ok bytes) →
        Harmless bytes := by
  rw [load, FileSystem.read]
  cases FileSystem.nameFault? path.text with
  | some f =>
      constructor
      · rintro ⟨own, h⟩
        cases h
      · rintro ⟨h, -⟩
        cases h
  | none =>
      rw [and_iff_right rfl]
      cases hb : (fs.follow path).bind fs.bytesAt with
      | error failure =>
          refine ⟨fun _ bytes h => ?_, fun _ => ?_⟩
          · cases h
          · cases failure <;> exact ⟨none, rfl⟩
      | ok bytes =>
          rw [ofBytes_isOk_iff]
          refine ⟨fun h bytes' he => ?_, fun h => h bytes rfl⟩
          cases he
          exact h

end Settings

/-! ## Both scopes -/

namespace Scope

/-- The settings files that count for a project and a home directory. -/
def paths (home : Path) (project : Option Path) : List Path :=
  (project.map settingsPath).toList ++ [settingsPath home]

/-- What comes of loading both scopes. -/
theorem load_result (fs : FileSystem) (home : Path) (project : Option Path) :
    (load fs home project).result =
      (match project with
        | some directory => (Settings.load fs (settingsPath directory)).result
        | none => .ok none).bind fun own =>
          (Settings.load fs (settingsPath home)).result.bind fun shared =>
            .ok (Permissions.merge own shared) := by
  unfold load
  cases project <;> simp only [Logged.result_bind, Logged.result_pure]

theorem load_result_some (fs : FileSystem) (home directory : Path) :
    (load fs home (some directory)).result =
      (Settings.load fs (settingsPath directory)).result.bind fun own =>
        (Settings.load fs (settingsPath home)).result.bind fun shared =>
          .ok (Permissions.merge own shared) :=
  load_result fs home (some directory)

/-- Both scopes have permissions exactly if neither settings file ends the work. -/
theorem load_isOk_iff (fs : FileSystem) (home : Path) (project : Option Path) :
    (∃ p, (load fs home project).result = .ok p) ↔
      ∀ path ∈ paths home project, ∃ own, (Settings.load fs path).result = .ok own := by
  have hshared : ∀ own : Option Permissions,
      (∃ p, ((Settings.load fs (settingsPath home)).result.bind fun shared =>
        .ok (Permissions.merge own shared)) = (.ok p : Except Fault Permissions)) ↔
          ∃ own, (Settings.load fs (settingsPath home)).result = .ok own := by
    intro own
    cases (Settings.load fs (settingsPath home)).result <;> simp [Except.bind]
  rw [load_result, paths]
  cases project with
  | none => simpa [Except.bind] using hshared none
  | some directory =>
      simp only [Option.map_some, Option.toList_some, List.singleton_append, List.forall_mem_cons]
      cases (Settings.load fs (settingsPath directory)).result with
      | error f => simp [Except.bind]
      | ok own => simpa [Except.bind] using hshared own

end Scope

end ToolPolicy
