import Mathlib
import ToolPolicy.Proofs.SettingsFault

/-!
# What counts in a settings file

A settings file is an object with many keys, and rules stand under one of them. If that key is
there, nothing else in the file matters. If it is not, permissions are still found under the other
name, so a file without the key need not be a file without rules.

* `load_of_holds`: the permissions of a file that holds an object, as a function of the object.
* `load_agrees_iff`: when two files that agree on the key have the same permissions.
* `loaded_under_other_name`: two files without the key that have different permissions.
-/

namespace ToolPolicy

namespace Permissions

/-- The entries of a category in a mapping; none if there is no list. -/
def listed (fields : List (Value × Value)) (c : Category) : List Value :=
  match Value.field? c.label fields with
  | some (.list items) => items
  | _ => []

/-- The permissions that a value is, if it is a mapping. -/
def ofBlock? : Value → Option Permissions
  | .mapping fields => some ⟨listed fields .deny, listed fields .ask, listed fields .allow⟩
  | _ => none

theorem readCategory_result (fields : List (Value × Value)) (c : Category) :
    (readCategory fields c).result = .ok (listed fields c) := by
  unfold readCategory listed
  split <;> simp_all

theorem ofFields_result (fields : List (Value × Value)) : (ofFields fields).result =
    .ok ⟨listed fields .deny, listed fields .ask, listed fields .allow⟩ := by
  simp only [ofFields, Logged.result_bind, readCategory_result, Logged.result_pure]
  rfl

/-- What a value is taken for, as permissions. -/
theorem ofValue_result (v : Value) :
    ∃ checked, (ofValue v).result = .ok checked ∧ checked.toOption = ofBlock? v := by
  cases v with
  | mapping fields =>
      refine ⟨.ok ⟨listed fields .deny, listed fields .ask, listed fields .allow⟩, ?_, rfl⟩
      simp only [ofValue, Record.readFields, Logged.result_bind, ofFields_result]
      rfl
  | _ => exact ⟨_, rfl, rfl⟩

end Permissions

namespace Settings

/-- Bytes that hold an object with the given fields, in JSON. -/
def Holds (bytes : List UInt8) (fields : List (Value × Value)) : Prop :=
  ∃ t, Utf8.decode bytes = .ok t ∧ Json.read (Utf8.toLineFeeds t) = .ok (.mapping fields)

/-- The permissions of an object: those under the name, or else those under the other name. -/
def permissions? (fields : List (Value × Value)) : Option Permissions :=
  (Permissions.settingsField? fields).bind fun found => Permissions.ofBlock? found.2

theorem ofValue_mapping_result (path : Path) (fields : List (Value × Value)) :
    (ofValue path (.mapping fields)).result = .ok (permissions? fields) := by
  rw [ofValue, permissions?, Permissions.ofSettingsFields]
  cases Permissions.settingsField? fields with
  | none => rfl
  | some found =>
      obtain ⟨name, v⟩ := found
      obtain ⟨checked, hresult, hblock⟩ := Permissions.ofValue_result v
      cases v with
      | null => rfl
      | _ =>
          simp only [Option.bind_some, ← hblock, Logged.result_bind, hresult, Logged.result_pure]
          cases checked <;> rfl

/-- The permissions of a file that holds an object depend on the object alone. -/
theorem load_of_holds {fs : FileSystem} {path : Path} {bytes : List UInt8}
    {fields : List (Value × Value)} (hread : fs.read path = .ok (.ok bytes))
    (hholds : Holds bytes fields) : (load fs path).result = .ok (permissions? fields) := by
  obtain ⟨t, hdecode, hjson⟩ := hholds
  simp only [load_of_bytes hread, ofBytes, hdecode, ofText, hjson, ofValue_mapping_result]

theorem permissions?_of_found {fields : List (Value × Value)} {v : Value}
    (h : Value.field? Permissions.settingsName fields = some v) :
    permissions? fields = Permissions.ofBlock? v := by
  simp only [permissions?, Permissions.settingsField?, h, Option.bind_some]

theorem permissions?_of_absent {fields : List (Value × Value)}
    (h : Value.field? Permissions.settingsName fields = none) : permissions? fields =
      (Value.field? Permissions.otherSettingsName fields).bind Permissions.ofBlock? := by
  simp only [permissions?, Permissions.settingsField?, h]
  cases Value.field? Permissions.otherSettingsName fields <;> rfl

section
variable {fs fs' : FileSystem} {path path' : Path} {bytes bytes' : List UInt8}
  {a b : List (Value × Value)}

/-- **What counts in a settings file.**  Two files that hold objects which agree on the name of the
permissions have the same permissions, whatever else they hold, exactly if the name is there or the
two agree on the permissions under the other name; and a file without the name has none exactly if
there is no mapping under the other name. -/
theorem load_agrees_iff (hread : fs.read path = .ok (.ok bytes))
    (hread' : fs'.read path' = .ok (.ok bytes')) (ha : Holds bytes a) (hb : Holds bytes' b)
    (hagree : Value.field? Permissions.settingsName a = Value.field? Permissions.settingsName b) :
    ((load fs path).result = (load fs' path').result ↔
      (Value.field? Permissions.settingsName a).isSome ∨
        (Value.field? Permissions.otherSettingsName a).bind Permissions.ofBlock? =
          (Value.field? Permissions.otherSettingsName b).bind Permissions.ofBlock?) ∧
    (Value.field? Permissions.settingsName a = none →
      ((load fs path).result = .ok none ↔
        ∀ block, Value.field? Permissions.otherSettingsName a ≠ some (.mapping block))) := by
  rw [load_of_holds hread ha, load_of_holds hread' hb]
  constructor
  · cases hfound : Value.field? Permissions.settingsName a with
    | some v =>
        rw [permissions?_of_found hfound, permissions?_of_found (hagree ▸ hfound)]
        simp
    | none =>
        rw [permissions?_of_absent hfound, permissions?_of_absent (hagree ▸ hfound)]
        simp
  · intro habsent
    rw [permissions?_of_absent habsent]
    cases Value.field? Permissions.otherSettingsName a with
    | none => simp
    | some v => cases v <;> simp [Permissions.ofBlock?]

end

/-- The place of a file with settings. -/
def settingsFile : Path := ⟨0, ["s"]⟩

/-- A file system with one file, which holds a text. -/
def only (t : Text) : FileSystem := (FileSystem.empty []).put ["s"] (.file (Utf8.encode t))

/-- The fields of settings that deny one use of a tool, under a name. -/
def denying (name : Text) : List (Value × Value) :=
  [(.str name, .mapping [(.str "deny", .list [.str "Bash(rm)"])])]

/-- Settings that deny one use of a tool, under the name of permissions. -/
def usualText : Text := "\x7b\"regexPermissions\":\x7b\"deny\":[\"Bash(rm)\"]\x7d\x7d"

/-- The same settings with something under the other name. -/
def coveringText : Text :=
  "\x7b\"regexPermissions\":\x7b\"deny\":[\"Bash(rm)\"]\x7d,\"regex_permissions\":\x7b\x7d\x7d"

/-- The same settings under the other name only. -/
def otherText : Text := "\x7b\"regex_permissions\":\x7b\"deny\":[\"Bash(rm)\"]\x7d\x7d"

/-- Settings without any keys. -/
def bareText : Text := "\x7b\x7d"

/-- Permissions under the name hide what is under the other name. -/
theorem load_agrees_hidden :
    (load (only usualText) settingsFile).result =
      (load (only coveringText) settingsFile).result := by
  have husual : Holds (Utf8.encode usualText) (denying "regexPermissions") :=
    ⟨usualText, by cbv, by cbv⟩
  have hcovering : Holds (Utf8.encode coveringText)
      (denying "regexPermissions" ++ [(.str "regex_permissions", .mapping [])]) :=
    ⟨coveringText, by cbv, by cbv⟩
  exact (load_agrees_iff (by cbv) (by cbv) husual hcovering (by cbv)).1.2 (.inl (by cbv))

/-- Of two files without the name, one has permissions and the other has none. -/
theorem loaded_under_other_name :
    (∃ fields, Holds (Utf8.encode otherText) fields ∧
      Value.field? Permissions.settingsName fields = none) ∧
    Holds (Utf8.encode bareText) [] ∧
    (load (only otherText) settingsFile).result ≠ .ok none ∧
    (load (only otherText) settingsFile).result ≠ (load (only bareText) settingsFile).result := by
  have hother : Holds (Utf8.encode otherText) (denying "regex_permissions") :=
    ⟨otherText, by cbv, by cbv⟩
  have hbare : Holds (Utf8.encode bareText) [] := ⟨bareText, by cbv, by cbv⟩
  have hsome : (load (only otherText) settingsFile).result =
      .ok (some ⟨[.str "Bash(rm)"], [], []⟩) := load_of_holds (by cbv) hother
  have hnone : (load (only bareText) settingsFile).result = .ok none :=
    load_of_holds (by cbv) hbare
  refine ⟨⟨_, hother, by cbv⟩, hbare, ?_, ?_⟩
  · rw [hsome]
    simp
  · rw [hsome, hnone]
    simp

end Settings

end ToolPolicy
