import ToolPolicy.Proofs.RequestInfluence

/-!
# Which texts are requests

A request is read from a JSON text by looking at three fields of its object. Whatever else the text
says has no part in it, and a field is taken or refused by its kind alone, but for the name of the
tool: that must not be empty, nor have half of a surrogate pair.

* `Value.TextKeyed.readFullText_eq_ok_iff`: of the values of JSON texts, only
  texts are read as texts.
* `Holds`, `ofFields_eq_ok_iff_holds`: the fields that an object needs to be a request.
* `ofText?_eq_some_iff`: the texts that are requests.
* `reads_exactly_requests`: the same where no text has half of a surrogate pair.
-/

namespace ToolPolicy

/-! ## Values of JSON texts -/

/-- A value with half of a surrogate pair in one of its texts, the names of fields included. -/
inductive Value.HasHalf : Value → Prop where
  | str {t : Text} (half : t.isScalar = false) : HasHalf (.str t)
  | item {items : List Value} {v : Value} (mem : v ∈ items) (half : HasHalf v) :
    HasHalf (.list items)
  | name {entries : List (Value × Value)} {e : Value × Value} (mem : e ∈ entries)
    (half : HasHalf e.1) : HasHalf (.mapping entries)
  | field {entries : List (Value × Value)} {e : Value × Value} (mem : e ∈ entries)
    (half : HasHalf e.2) : HasHalf (.mapping entries)

theorem Value.mem_of_field? {name : Text} {v : Value} {entries : List (Value × Value)}
    (h : Value.field? name entries = some v) : ∃ e ∈ entries, e.2 = v := by
  induction entries with
  | nil => cases h
  | cons first rest ih =>
      obtain ⟨k, w⟩ := first
      have hrest (h : Value.field? name rest = some v) : ∃ e ∈ (k, w) :: rest, e.2 = v := by
        obtain ⟨e, he, hv⟩ := ih h
        exact ⟨e, List.mem_cons_of_mem _ he, hv⟩
      unfold Value.field? at h
      split at h
      · split at h
        · cases h
          exact ⟨_, List.mem_cons_self, rfl⟩
        · exact hrest h
      · exact hrest h

/-- Without halves of surrogate pairs, the text in a field has none. -/
theorem Value.isScalar_of_field? {name t : Text} {entries : List (Value × Value)}
    (h : ¬(Value.mapping entries).HasHalf) (hfound : Value.field? name entries = some (.str t)) :
    t.isScalar = true := by
  obtain ⟨e, he, hv⟩ := Value.mem_of_field? hfound
  rw [← Bool.not_eq_false]
  intro hhalf
  exact h (.field he (hv ▸ .str hhalf))

namespace Value.TextKeyed

/-- Of the values of JSON texts, only texts are read as texts. -/
theorem readFullText_eq_ok_iff {v : Value} (h : TextKeyed v) {t : Text} :
    Record.readFullText v = .ok t ↔ v = .str t ∧ t ≠ [] ∧ t.isScalar = true := by
  cases h with
  | str u =>
      rw [Record.readFullText_str_eq_ok_iff]
      constructor
      · rintro ⟨hscalar, hne, rfl⟩
        exact ⟨rfl, hne, hscalar⟩
      · rintro ⟨⟨⟩, hne, hscalar⟩
        exact ⟨hscalar, hne, rfl⟩
  | _ => simp [Record.readFullText, Record.readText, Record.refuse]

end Value.TextKeyed

namespace Request

/-! ## Three fields -/

/-- An object with the fields of a request, whatever else it has. -/
structure Holds (fields : List (Value × Value)) (r : Request) : Prop where
  tool : Value.field? "tool_name" fields = some (.str r.tool)
  named : r.tool ≠ []
  /-- There are no arguments where they are missing or null. -/
  arguments : Value.field? "tool_input" fields = some (.mapping r.arguments) ∨
    (Value.field? "tool_input" fields).getD .null = .null ∧ r.arguments = []
  cwd : (Value.field? "cwd" fields).getD .null = .ofText? r.cwd

section
variable {fields : List (Value × Value)} (h : Value.TextKeyed (.mapping fields))
include h

theorem readTool_field_iff {name tool : Text} :
    readTool (Value.field? name fields) = .ok tool ↔
      Value.field? name fields = some (.str tool) ∧ tool ≠ [] ∧ tool.isScalar = true := by
  cases hfound : Value.field? name fields with
  | none => simp [readTool, Record.refuse]
  | some v =>
      rw [Option.some.injEq]
      exact (h.field? hfound).readFullText_eq_ok_iff

theorem readArguments_field_iff {name : Text} {arguments : List (Value × Value)} :
    readArguments (Value.field? name fields) = .ok arguments ↔
      Value.field? name fields = some (.mapping arguments) ∨
        (Value.field? name fields).getD .null = .null ∧ arguments = [] := by
  cases hfound : Value.field? name fields with
  | none => simp [readArguments, eq_comm]
  | some v =>
      cases h.field? hfound with
      | null => simp [readArguments, eq_comm]
      | mapping hkeys hvalues =>
          simp [readArguments, nameProblems_of_textKeyed (.mapping hkeys hvalues)]
      | _ => simp [readArguments, Record.refuse]

theorem readText?_field_iff {name : Text} {t : Option Text} :
    Record.readText? (Value.field? name fields) = .ok t ↔
      (Value.field? name fields).getD .null = .ofText? t := by
  cases hfound : Value.field? name fields with
  | none => cases t <;> simp [Value.ofText?]
  | some v =>
      cases h.field? hfound with
      | null => cases t <;> simp [Value.ofText?]
      | str u => cases t <;> simp [Value.ofText?]
      | _ =>
          cases t <;>
            simp [Record.readText?, Record.readText, Record.refuse, Value.ofText?, Except.map]

/-- An object of a JSON text is a request exactly if it has the fields of one, and no half of a
surrogate pair in the name of the tool. -/
theorem ofFields_eq_ok_iff_holds {r : Request} :
    ofFields fields = .ok r ↔ Holds fields r ∧ r.tool.isScalar = true := by
  rw [ofFields_eq_ok_iff, readTool_field_iff h, readArguments_field_iff h, readText?_field_iff h]
  constructor
  · rintro ⟨⟨htool, hne, hscalar⟩, harguments, hcwd⟩
    exact ⟨⟨htool, hne, harguments, hcwd⟩, hscalar⟩
  · rintro ⟨⟨htool, hne, harguments, hcwd⟩, hscalar⟩
    exact ⟨⟨htool, hne, hscalar⟩, harguments, hcwd⟩

end

theorem ofFields_congr {a b : List (Value × Value)}
    (h : ∀ name ∈ (["tool_name", "tool_input", "cwd"] : List Text),
      Value.field? name a = Value.field? name b) : ofFields a = ofFields b := by
  simp only [List.forall_mem_cons] at h
  obtain ⟨htool, harguments, hcwd, -⟩ := h
  simp only [ofFields, htool, harguments, hcwd]

/-! ## Texts -/

/-- The texts that are requests are those whose object has the fields of one, and no half of a
surrogate pair in the name of the tool. -/
theorem ofText?_eq_some_iff {t : Text} {r : Request} :
    (ofText? t).result = .ok (some r) ↔
      ∃ fields, Json.read t = .ok (.mapping fields) ∧ Holds fields r ∧ r.tool.isScalar = true := by
  rw [ofText?]
  cases hread : Json.read t with
  | error failure => cases failure <;> simp [Logged.fail]
  | ok v =>
      have hkeyed := Json.read_textKeyed hread
      cases v with
      | mapping fields =>
          simp only [Except.ok.injEq, Value.mapping.injEq, exists_eq_left',
            ← ofFields_eq_ok_iff_holds hkeyed]
          rw [ofValue?, ofValue, Record.readFields]
          simp only [bind, Except.bind]
          cases ofFields fields <;> simp
      | _ => simp [ofValue?, ofValue, Record.readFields, Record.refuse, bind, Except.bind]

/-- Unless the text ends the reading with a fault, it is a request or not. -/
theorem exists_ofText?_result {t : Text} (h : ∀ f, Json.read t ≠ .error (.fault f)) :
    ∃ r, (ofText? t).result = .ok r := by
  rw [ofText?]
  cases hread : Json.read t with
  | error failure =>
      cases failure with
      | fault f => exact absurd hread (h f)
      | _ => exact ⟨none, rfl⟩
  | ok v =>
      change ∃ r, (ofValue? v).result = .ok r
      rw [ofValue?]
      cases ofValue v with
      | ok r => exact ⟨some r, rfl⟩
      | error problems => exact ⟨none, rfl⟩

/-- **The texts that are requests.**  Of the texts that can be read without a fault and in which no
text has half of a surrogate pair, those are requests that are objects with the name of a tool,
which is not empty; with an object, null or nothing for arguments; and with a text, null or nothing
for a directory. The request has these three, none of the other keys count, and no other text is a
request. -/
theorem reads_exactly_requests {t : Text} (hread : ∀ f, Json.read t ≠ .error (.fault f))
    (hwhole : ∀ v, Json.read t = .ok v → ¬v.HasHalf) :
    (∀ r, (ofText? t).result = .ok (some r) ↔
      ∃ fields, Json.read t = .ok (.mapping fields) ∧ Holds fields r) ∧
    ((¬∃ fields r, Json.read t = .ok (.mapping fields) ∧ Holds fields r) →
      (ofText? t).result = .ok none) ∧
    ∀ t' a b, Json.read t = .ok (.mapping a) → Json.read t' = .ok (.mapping b) →
      (∀ name ∈ (["tool_name", "tool_input", "cwd"] : List Text),
        Value.field? name a = Value.field? name b) → ofText? t' = ofText? t := by
  have hsome : ∀ r, (ofText? t).result = .ok (some r) ↔
      ∃ fields, Json.read t = .ok (.mapping fields) ∧ Holds fields r := by
    intro r
    rw [ofText?_eq_some_iff]
    refine exists_congr fun fields => and_congr_right fun hfields => ?_
    exact and_iff_left_of_imp fun hholds => Value.isScalar_of_field? (hwhole _ hfields) hholds.tool
  refine ⟨hsome, fun hnone => ?_, fun t' a b ha hb hagree => ?_⟩
  · obtain ⟨_ | r, hresult⟩ := exists_ofText?_result hread
    · exact hresult
    · obtain ⟨fields, hfields, hholds⟩ := (hsome r).1 hresult
      exact absurd ⟨fields, r, hfields, hholds⟩ hnone
  · rw [ofText?_of_value ha, ofText?_of_value hb, ofValue?, ofValue?, ofValue, ofValue,
      Record.readFields, Record.readFields]
    simp only [bind, Except.bind, ofFields_congr hagree]

/-- A null directory, no arguments and another key. -/
def sparseText : Text := "\x7b\"id\":[7],\"cwd\":null,\"tool_name\":\"a\"\x7d"

/-- The fields of the text with another key. -/
def sparseFields : List (Value × Value) :=
  [(.str "id", .list [.int 7]), (.str "cwd", .null), (.str "tool_name", .str "a")]

theorem not_hasHalf_sparse : ¬(Value.mapping sparseFields).HasHalf := by
  have hscalar : ∀ t ∈ (["id", "cwd", "tool_name", "a"] : List Text), ¬(Value.str t).HasHalf := by
    rintro t ht ⟨hhalf⟩
    revert t
    decide
  intro h
  cases h with
  | name mem half =>
      simp only [sparseFields, List.mem_cons, List.not_mem_nil, or_false] at mem
      rcases mem with rfl | rfl | rfl <;> exact hscalar _ (by decide) half
  | field mem half =>
      simp only [sparseFields, List.mem_cons, List.not_mem_nil, or_false] at mem
      rcases mem with rfl | rfl | rfl
      · cases half with
        | item mem half =>
            rw [List.mem_singleton.1 mem] at half
            cases half
      · cases half
      · exact hscalar _ (by decide) half

/-- A request without arguments and directory. -/
theorem reads_exactly_requests_sparse :
    (ofText? sparseText).result = .ok (some ⟨"a", [], none⟩) := by
  have hread : Json.read sparseText = .ok (.mapping sparseFields) := by cbv
  have hwhole : ∀ v, Json.read sparseText = .ok v → ¬v.HasHalf := by
    intro v hv
    cases hread.symm.trans hv
    exact not_hasHalf_sparse
  have hfault : ∀ f, Json.read sparseText ≠ .error (.fault f) := by
    intro f hf
    cases hread.symm.trans hf
  exact ((reads_exactly_requests hfault hwhole).1 ⟨"a", [], none⟩).2
    ⟨sparseFields, hread, by cbv, by decide, .inr ⟨by cbv, rfl⟩, by cbv⟩

end Request

end ToolPolicy
