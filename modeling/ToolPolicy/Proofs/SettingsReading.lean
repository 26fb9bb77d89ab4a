import ToolPolicy.Proofs.SettingsInfluence

/-!
# Which settings files have permissions

A settings file has permissions if its bytes are UTF-8, its text is a JSON object, and under the
name of permissions there is an object in turn. Of this each category is taken on its own: a list is
kept entry for entry, and anything else is an empty list. Any other file has no permissions, and the
log warns of it unless there is just nothing to be had.

* `HoldsBlock`, `HoldsNone`: files with permissions, and files that do not mention them.
* `Comes`, `comes_ofBytes`: what comes of the bytes of a file.
* `loads_exactly_blocks`: which files have permissions and which of the others are warned about.
-/

namespace ToolPolicy

namespace Permissions

/-- The permissions of a mapping. -/
def ofBlock (block : List (Value × Value)) : Permissions :=
  ⟨listed block .deny, listed block .ask, listed block .allow⟩

theorem eq_ofBlock_iff {p : Permissions} {block : List (Value × Value)} :
    p = ofBlock block ↔ ∀ c, p.entries c = listed block c := by
  constructor
  · rintro rfl c
    cases c <;> rfl
  · intro h
    obtain ⟨deny, ask, allow⟩ := p
    cases h .deny
    cases h .ask
    cases h .allow
    rfl

end Permissions

namespace Settings

/-- Bytes that hold an object with an object of the given fields for permissions. -/
def HoldsBlock (bytes : List UInt8) (block : List (Value × Value)) : Prop :=
  ∃ fields, Holds bytes fields ∧
    Value.field? Permissions.settingsName fields = some (.mapping block)

/-- Bytes that hold an object in which permissions are missing or null. -/
def HoldsNone (bytes : List UInt8) : Prop :=
  ∃ fields, Holds bytes fields ∧
    (Value.field? Permissions.settingsName fields).getD .null = .null

theorem Holds.unique {bytes : List UInt8} {a b : List (Value × Value)} (ha : Holds bytes a)
    (hb : Holds bytes b) : a = b := by
  obtain ⟨t, hdecode, hread⟩ := ha
  obtain ⟨t', hdecode', hread'⟩ := hb
  cases hdecode.symm.trans hdecode'
  cases hread.symm.trans hread'
  rfl

theorem HoldsBlock.unique {bytes : List UInt8} {block block' : List (Value × Value)}
    (h : HoldsBlock bytes block) (h' : HoldsBlock bytes block') : block = block' := by
  obtain ⟨fields, hholds, hfound⟩ := h
  obtain ⟨fields', hholds', hfound'⟩ := h'
  cases hholds.unique hholds'
  cases hfound.symm.trans hfound'
  rfl

theorem HoldsBlock.not_holdsNone {bytes : List UInt8} {block : List (Value × Value)}
    (h : HoldsBlock bytes block) : ¬HoldsNone bytes := by
  rintro ⟨fields, hholds, hnone⟩
  obtain ⟨fields', hholds', hfound⟩ := h
  cases hholds.unique hholds'
  rw [hfound] at hnone
  cases hnone

/-- No permissions, and a warning that says why. -/
def Refused (l : Logged (Option Permissions)) : Prop := ∃ w, w.level = .warning ∧ l = without w

/-! ## Objects -/

section
variable {fields : List (Value × Value)} (path : Path)

/-- Where permissions are missing or null there are none, and nothing is said about it. -/
theorem ofValue_of_none
    (hother : Value.field? Permissions.otherSettingsName fields = none)
    (h : (Value.field? Permissions.settingsName fields).getD .null = .null) :
    ofValue path (.mapping fields) = pure none := by
  rw [ofValue, Permissions.ofSettingsFields, Permissions.settingsField?]
  cases hfound : Value.field? Permissions.settingsName fields with
  | none =>
      rw [hother]
      rfl
  | some v =>
      rw [hfound] at h
      cases h
      rfl

theorem ofValue_of_block {block : List (Value × Value)}
    (h : Value.field? Permissions.settingsName fields = some (.mapping block)) :
    (ofValue path (.mapping fields)).result = .ok (some (.ofBlock block)) := by
  rw [ofValue_mapping_result, permissions?_of_found h]
  rfl

/-- What is neither null nor an object is refused. -/
theorem ofValue_refused {v : Value} (h : Value.field? Permissions.settingsName fields = some v)
    (hnull : v ≠ .null) (hblock : ∀ block, v ≠ .mapping block) :
    Refused (ofValue path (.mapping fields)) := by
  rw [ofValue, Permissions.ofSettingsFields, Permissions.settingsField?, h]
  cases v with
  | null => exact absurd rfl hnull
  | mapping block => exact absurd rfl (hblock block)
  | _ => exact ⟨_, rfl, rfl⟩

end

/-! ## Bytes -/

/-- What comes of the bytes of a file: the permissions in its object, nothing because it does not
mention them, or nothing with a warning. -/
inductive Comes (bytes : List UInt8) : Logged (Option Permissions) → Prop where
  | block {block : List (Value × Value)} {l : Logged (Option Permissions)}
    (holds : HoldsBlock bytes block) (result : l.result = .ok (some (.ofBlock block))) :
    Comes bytes l
  | missing (holds : HoldsNone bytes) : Comes bytes (pure none)
  | refused {l : Logged (Option Permissions)} (noBlock : ∀ block, ¬HoldsBlock bytes block)
    (mentioned : ¬HoldsNone bytes) (refused : Refused l) : Comes bytes l

/-- Bytes that hold no object are refused. -/
theorem Comes.of_not_holds {bytes : List UInt8} {l : Logged (Option Permissions)}
    (h : ∀ fields, ¬Holds bytes fields) (hrefused : Refused l) : Comes bytes l := by
  refine .refused ?_ ?_ hrefused
  · rintro block ⟨fields, hholds, -⟩
    exact h fields hholds
  · rintro ⟨fields, hholds, -⟩
    exact h fields hholds

/-- What comes of an object with nothing under the other name. -/
theorem comes_ofValue {bytes : List UInt8} {fields : List (Value × Value)} (path : Path)
    (hholds : Holds bytes fields)
    (hother : Value.field? Permissions.otherSettingsName fields = none) :
    Comes bytes (ofValue path (.mapping fields)) := by
  by_cases hnone : (Value.field? Permissions.settingsName fields).getD .null = .null
  · rw [ofValue_of_none path hother hnone]
    exact .missing ⟨fields, hholds, hnone⟩
  cases hfound : Value.field? Permissions.settingsName fields with
  | none => exact absurd (by rw [hfound]; rfl) hnone
  | some v =>
      rw [hfound, Option.getD_some] at hnone
      by_cases hblock : ∃ block, v = .mapping block
      · obtain ⟨block, rfl⟩ := hblock
        exact .block ⟨fields, hholds, hfound⟩ (ofValue_of_block path hfound)
      rw [not_exists] at hblock
      refine .refused ?_ ?_ (ofValue_refused path hfound hnone hblock)
      · rintro block ⟨fields', hholds', hfound'⟩
        cases hholds.unique hholds'
        exact hblock block (Option.some.inj (hfound.symm.trans hfound'))
      · rintro ⟨fields', hholds', hnone'⟩
        cases hholds.unique hholds'
        rw [hfound, Option.getD_some] at hnone'
        exact hnone hnone'

theorem comes_ofBytes {bytes : List UInt8} (path : Path) (hharmless : Harmless bytes)
    (hother : ∀ fields, Holds bytes fields →
      Value.field? Permissions.otherSettingsName fields = none) :
    Comes bytes (ofBytes path bytes) := by
  rw [ofBytes]
  cases hdecode : Utf8.decode bytes with
  | error flaw =>
      refine .of_not_holds ?_ ⟨_, rfl, rfl⟩
      rintro fields ⟨t, ht, -⟩
      cases hdecode.symm.trans ht
  | ok t =>
      have hholds : ∀ fields, Holds bytes fields →
          Json.read (Utf8.toLineFeeds t) = .ok (.mapping fields) := by
        rintro fields ⟨t', ht', hread⟩
        cases hdecode.symm.trans ht'
        exact hread
      simp only [ofText]
      cases hread : Json.read (Utf8.toLineFeeds t) with
      | error failure =>
          have hnot : ∀ fields, ¬Holds bytes fields := by
            intro fields h
            cases hread.symm.trans (hholds fields h)
          cases failure with
          | flaw f => exact .of_not_holds hnot ⟨_, rfl, rfl⟩
          | tooDeep object => exact .of_not_holds hnot ⟨_, rfl, rfl⟩
          | fault f =>
              obtain ⟨n, -, rfl⟩ := Json.read_fault hread
              exact absurd hread (hharmless t hdecode n)
      | ok v =>
          by_cases hobject : ∃ fields, v = .mapping fields
          · obtain ⟨fields, rfl⟩ := hobject
            have hfields : Holds bytes fields := ⟨t, hdecode, hread⟩
            exact comes_ofValue path hfields (hother fields hfields)
          rw [not_exists] at hobject
          refine .of_not_holds (fun fields h => hobject fields ?_) ?_
          · exact Except.ok.inj (hread.symm.trans (hholds fields h))
          · cases v with
            | mapping fields => exact absurd rfl (hobject fields)
            | _ => exact ⟨_, rfl, rfl⟩

namespace Comes

variable {bytes : List UInt8} {l : Logged (Option Permissions)} (h : Comes bytes l)
include h

theorem result_eq_some_iff {p : Permissions} :
    l.result = .ok (some p) ↔ ∃ block, HoldsBlock bytes block ∧ p = .ofBlock block := by
  cases h with
  | @block block _ holds result =>
      rw [result]
      constructor
      · rintro ⟨⟩
        exact ⟨block, holds, rfl⟩
      · rintro ⟨block', holds', rfl⟩
        cases holds.unique holds'
        rfl
  | missing holds =>
      constructor
      · rintro ⟨⟩
      · rintro ⟨block, holds', -⟩
        exact absurd holds holds'.not_holdsNone
  | refused noBlock mentioned refused =>
      obtain ⟨w, -, rfl⟩ := refused
      constructor
      · rintro ⟨⟩
      · rintro ⟨block, holds, -⟩
        exact absurd holds (noBlock block)

theorem warns_iff (hno : ∀ block, ¬HoldsBlock bytes block) : l.result = .ok none ∧
    ((∃ r ∈ l.log, r.level = .warning) ↔ ¬HoldsNone bytes) := by
  cases h with
  | @block block _ holds result => exact absurd holds (hno block)
  | missing holds =>
      refine ⟨rfl, fun ⟨r, hr, _⟩ => ?_, fun hmentioned => absurd holds hmentioned⟩
      cases hr
  | refused noBlock mentioned refused =>
      obtain ⟨w, hw, rfl⟩ := refused
      exact ⟨rfl, fun _ => mentioned, fun _ => ⟨w, List.mem_singleton_self w, hw⟩⟩

end Comes

/-! ## Files -/

/-- **The settings files that have permissions.**  Let a path be looked up, and if there is a file
let it be read as JSON without a fault and have nothing under the other name. It has permissions
exactly if its bytes hold an object with an object for permissions, and then each category is the
list that is there, or empty. Otherwise there are none, and the log has a warning unless there is no
file, or an object in which permissions are missing or null. -/
theorem loads_exactly_blocks {fs : FileSystem} {path : Path}
    {found : Except FileFailure (List UInt8)} (hfound : fs.read path = .ok found)
    (hharmless : ∀ bytes, found = .ok bytes → Harmless bytes)
    (hother : ∀ bytes fields, found = .ok bytes → Holds bytes fields →
      Value.field? Permissions.otherSettingsName fields = none) :
    (∀ p, (load fs path).result = .ok (some p) ↔
      ∃ bytes block, found = .ok bytes ∧ HoldsBlock bytes block ∧
        ∀ c, p.entries c = Permissions.listed block c) ∧
    ((¬∃ bytes block, found = .ok bytes ∧ HoldsBlock bytes block) →
      (load fs path).result = .ok none ∧
        ((∃ r ∈ (load fs path).log, r.level = .warning) ↔
          ¬(found = .error .notFound ∨ ∃ bytes, found = .ok bytes ∧ HoldsNone bytes))) := by
  cases found with
  | error failure =>
      rw [load, hfound]
      cases failure <;> simp [without, absentRecord, unreadableWarning]
  | ok bytes =>
      have hcomes := comes_ofBytes path (hharmless bytes rfl) fun fields => hother bytes fields rfl
      rw [load_of_bytes hfound]
      refine ⟨fun p => ?_, fun hno => ?_⟩
      · rw [hcomes.result_eq_some_iff]
        constructor
        · rintro ⟨block, hblock, rfl⟩
          exact ⟨bytes, block, rfl, hblock, Permissions.eq_ofBlock_iff.1 rfl⟩
        · rintro ⟨_, block, ⟨⟩, hblock, hentries⟩
          exact ⟨block, hblock, Permissions.eq_ofBlock_iff.2 hentries⟩
      · obtain ⟨hresult, hwarns⟩ :=
          hcomes.warns_iff fun block hblock => hno ⟨bytes, block, rfl, hblock⟩
        refine ⟨hresult, hwarns.trans (not_congr ⟨fun hnone => .inr ⟨bytes, rfl, hnone⟩, ?_⟩)⟩
        rintro (⟨⟨⟩⟩ | ⟨_, ⟨⟩, hnone⟩)
        exact hnone

/-- Settings with a list, a category that is no list, and one that is missing. -/
def partlyText : Text := "\x7b\"regexPermissions\":\x7b\"deny\":[7],\"ask\":\"no\"\x7d\x7d"

/-- The object under the name of permissions in these. -/
def partlyBlock : List (Value × Value) := [(.str "deny", .list [.int 7]), (.str "ask", .str "no")]

/-- A category that is no list leaves the others as they are. -/
theorem loads_exactly_blocks_partly :
    (load (only partlyText) settingsFile).result = .ok (some ⟨[.int 7], [], []⟩) := by
  have hdecode : Utf8.decode (Utf8.encode partlyText) = .ok partlyText := by cbv
  have hread : Json.read (Utf8.toLineFeeds partlyText) =
      .ok (.mapping [(.str "regexPermissions", .mapping partlyBlock)]) := by cbv
  have hholds : Holds (Utf8.encode partlyText) [(.str "regexPermissions", .mapping partlyBlock)] :=
    ⟨partlyText, hdecode, hread⟩
  refine ((loads_exactly_blocks (by cbv) ?_ ?_).1 _).2
    ⟨Utf8.encode partlyText, partlyBlock, rfl, ⟨_, hholds, by cbv⟩, ?_⟩
  · rintro bytes ⟨⟩ t ht n hfault
    cases hdecode.symm.trans ht
    cases hread.symm.trans hfault
  · rintro bytes fields ⟨⟩ hfields
    cases hholds.unique hfields
    cbv
  · intro c
    cases c <;> cbv

end Settings

end ToolPolicy
