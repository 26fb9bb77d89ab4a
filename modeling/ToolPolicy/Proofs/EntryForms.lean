import ToolPolicy.Proofs.EntryFailure

/-!
# Forms of an entry

A rule can be written as a text or as a mapping, or be given as a record. Reading an entry leaves
its rule text, reason and flags and nothing else, so entries in which these are the same come to
the same: one rule, or one failure with all of its report, with the same log and the same
patterns kept for later.

* `Spells`: that an entry is a form of a record.
* `spells_iff`: an entry of JSON is read as a record exactly if it is a form of it.
* `forms_interchangeable`: forms of one record come to the same.
-/

namespace ToolPolicy.RuleEntry

/-! ## Forms of a record -/

/-- That a mapping has a text under a name, or null or nothing where there is no text. -/
def HasText (fields : List (Value × Value)) (name : Text) (t : Option Text) : Prop :=
  (Value.field? name fields).getD .null = .ofText? t

/-- That an entry is a form of a record. What else a mapping holds does not matter. -/
inductive Spells (e : RuleEntry) : Entry → Prop where
  | record : Spells e (.record e)
  | text {t : Text} (h : e = { rule := some t }) : Spells e (.value (.str t))
  | mapping {fields : List (Value × Value)} (rule : HasText fields "rule" e.rule)
      (reason : HasText fields "reason" e.reason) (flags : HasText fields "flags" e.flags) :
      Spells e (.value (.mapping fields))

section
variable {fields : List (Value × Value)} {name : Text} {t : Option Text} {e : RuleEntry}

theorem HasText.readText? (h : HasText fields name t) :
    Record.readText? (Value.field? name fields) = .ok t := by
  rw [HasText] at h
  cases t with
  | none =>
    cases hfound : Value.field? name fields with
    | none => rfl
    | some v =>
      rw [hfound] at h
      cases h
      rfl
  | some t =>
    cases hfound : Value.field? name fields with
    | none =>
      rw [hfound] at h
      cases h
    | some v =>
      rw [hfound] at h
      cases h
      rfl

/-- A field of JSON is read as a text exactly if it is that text. -/
theorem readText?_iff (hjson : Value.areJsonFields fields = true) :
    Record.readText? (Value.field? name fields) = .ok t ↔ HasText fields name t := by
  refine ⟨fun h => ?_, HasText.readText?⟩
  rw [HasText]
  cases hfound : Value.field? name fields with
  | none =>
    rw [hfound] at h
    cases h
    rfl
  | some v =>
    rw [hfound] at h
    have hvalue : v.isJson = true := Value.isJson_of_field? hjson hfound
    cases v with
    | null =>
      cases h
      rfl
    | str u =>
      cases h
      rfl
    | bytes b => cases hvalue
    | _ => cases h

theorem ofFields_of_texts (hrule : Record.readText? (Value.field? "rule" fields) = .ok e.rule)
    (hreason : Record.readText? (Value.field? "reason" fields) = .ok e.reason)
    (hflags : Record.readText? (Value.field? "flags" fields) = .ok e.flags) :
    ofFields fields = .ok e := by
  rw [ofFields, hrule, hreason, hflags]
  rfl

/-- The record of a mapping is the one with its texts. -/
theorem ofFields_of_hasText (hrule : HasText fields "rule" e.rule)
    (hreason : HasText fields "reason" e.reason)
    (hflags : HasText fields "flags" e.flags) : ofFields fields = .ok e :=
  ofFields_of_texts hrule.readText? hreason.readText? hflags.readText?

end

/-! ## Reading the forms -/

section
variable {e : RuleEntry} {entry other : Entry}

/-- Each form of a record is read as this record. -/
theorem Spells.ofEntry (h : Spells e entry) (category : Option Text) :
    ofEntry category entry = .ok e := by
  cases h with
  | record => rfl
  | text h =>
    rw [h]
    rfl
  | mapping hrule hreason hflags =>
      simp only [RuleEntry.ofEntry, ofFields_of_hasText hrule hreason hflags]

/-- What is read as a record is one of its forms. -/
theorem spells_iff (hjson : entry.IsJson) (category : Option Text) :
    Spells e entry ↔ RuleEntry.ofEntry category entry = .ok e := by
  refine ⟨fun h => h.ofEntry category, fun h => ?_⟩
  cases entry with
  | record e' =>
    cases h
    exact .record
  | value v =>
    cases v with
    | str t =>
      cases h
      exact .text rfl
    | mapping fields =>
      have hfields : Value.areJsonFields fields = true := hjson
      simp only [RuleEntry.ofEntry] at h
      cases hread : ofFields fields with
      | error problems =>
        rw [hread] at h
        cases h
      | ok e' =>
        rw [hread] at h
        cases h
        obtain ⟨hrule, hreason⟩ := ofFields_eq_ok hread
        exact .mapping ((readText?_iff hfields).1 hrule) ((readText?_iff hfields).1 hreason)
          ((readText?_iff hfields).1 (flags_of_ofFields hread))
    | _ => cases h

/-- That two entries come to the same under every category and with any patterns compiled before:
the same rule or failure, log and cache, whether failures are reported or left out. -/
def Interchangeable (a b : Entry) : Prop := ∀ cache category,
  parse cache category a = parse cache category b ∧
    parse? cache category a = parse? cache category b

theorem Spells.interchangeable (h : Spells e entry) (hother : Spells e other) :
    Interchangeable entry other := by
  intro cache category
  have hparse : parse cache category entry = parse cache category other := by
    rw [parse_of_ofEntry (h.ofEntry category), parse_of_ofEntry (hother.ofEntry category)]
  exact ⟨hparse, by rw [parse?, parse?, hparse]⟩

/-- **The forms of an entry are interchangeable.** A text comes to the same as a mapping with it for
its rule and neither reason nor flags, whatever else is in the mapping, and as the record with this
rule alone; a mapping with texts, or nothing, for rule, reason and flags comes to the same as the
record that is made of it. Beyond that, any two forms of one record come to the same, and what is
read as a record in JSON is one of its forms. -/
theorem forms_interchangeable :
    (∀ s fields, Value.field? "rule" fields = some (.str s) → HasText fields "reason" none →
        HasText fields "flags" none →
      Interchangeable (.value (.str s)) (.value (.mapping fields)) ∧
        Interchangeable (.value (.str s)) (.record { rule := some s })) ∧
    (∀ e fields, HasText fields "rule" e.rule → HasText fields "reason" e.reason →
      HasText fields "flags" e.flags →
      ofValue (.mapping fields) = .ok e ∧ Interchangeable (.value (.mapping fields)) (.record e)) ∧
    (∀ e a b, Spells e a → Spells e b → Interchangeable a b) ∧
    ∀ e category v, v.isJson = true → ofEntry category (.value v) = .ok e →
      Spells e (.value v) := by
  refine ⟨fun s fields hrule hreason hflags => ?_, fun e fields hrule hreason hflags => ?_,
    fun e a b ha hb => ha.interchangeable hb, fun e category v hjson h => ?_⟩
  · have htext : Spells { rule := some s } (.value (.str s)) := .text rfl
    have hmapping : Spells { rule := some s } (.value (.mapping fields)) :=
      .mapping (by rw [HasText, hrule]; rfl) hreason hflags
    exact ⟨htext.interchangeable hmapping, htext.interchangeable .record⟩
  · have hmapping : Spells e (.value (.mapping fields)) := .mapping hrule hreason hflags
    exact ⟨ofFields_of_hasText hrule hreason hflags, hmapping.interchangeable .record⟩
  · have hentry : Entry.IsJson (.value v) := hjson
    exact (spells_iff hentry category).2 h

/-- A rule that is refused, once as a text and once in a mapping with a null and
a key that is no text. -/
theorem forms_interchangeable_refused :
    let fields : List (Value × Value) :=
      [(.int 7, .null), (.str "rule", .str "Bash((a+)+)"), (.str "reason", .null)]
    Value.field? "rule" fields = some (.str "Bash((a+)+)") ∧ HasText fields "reason" none ∧
      HasText fields "flags" none ∧
        Interchangeable (.value (.str "Bash((a+)+)")) (.value (.mapping fields)) := by
  intro fields
  have hrule : Value.field? "rule" fields = some (.str "Bash((a+)+)") := rfl
  exact ⟨hrule, rfl, rfl, (forms_interchangeable.1 _ fields hrule rfl rfl).1⟩

end

end ToolPolicy.RuleEntry
