import ToolPolicy.Command.Run
import ToolPolicy.Proofs.EntryByEntry

/-!
# The listing of rules and the rules that are loaded

Rules are listed by a path of their own: every entry is parsed strictly, its fields are looked up a
second time, and failures become rows instead of records of the log. Where a list of rows comes out
it nevertheless says what preparing the rules does with each entry.

* `Lists`, `rowsOf_lists`: what the rows for a list of entries are, whatever the cache holds.
* `rows_isOk_iff`: when there are rows at all, namely if every entry can be shown.
* `RuleEntry.shown_of_rule`: the listing finds the text and the reason that parsing found.
* `Agrees`, `agrees_of_rows`: rows and rules tell the same about every entry.
* `rows_agree`: the same with the command; `strict_faults_on_markup`: a run that ends with exit
  code 1 although no entry is left out.
-/

namespace ToolPolicy

open Regex (Pattern)

/-! ## Values of JSON -/

namespace Value

mutual

/-- Whether a value is one that JSON has: scalars but bytes and times, lists, and mappings from
texts. -/
def isJson : Value → Bool
  | null => true
  | bool _ => true
  | int _ => true
  | float _ => true
  | str _ => true
  | list items => areJson items
  | mapping entries => areJsonFields entries
  | _ => false

/-- Whether all of some values are of JSON. -/
def areJson : List Value → Bool
  | [] => true
  | v :: rest => isJson v && areJson rest

/-- Whether all of some entries are fields of JSON. -/
def areJsonFields : List (Value × Value) → Bool
  | [] => true
  | (k, v) :: rest => k.asText?.isSome && isJson v && areJsonFields rest

end

/-- The value of a field of JSON is one of JSON. -/
theorem isJson_of_field? {name : Text} {entries : List (Value × Value)} {v : Value}
    (h : areJsonFields entries = true) (hv : field? name entries = some v) : v.isJson = true := by
  induction entries with
  | nil => cases hv
  | cons e rest ih =>
      obtain ⟨k, w⟩ := e
      simp only [areJsonFields, Bool.and_eq_true] at h
      obtain ⟨⟨hk, hw⟩, hrest⟩ := h
      obtain ⟨t, ht⟩ := Option.isSome_iff_exists.1 hk
      cases k with
      | str key =>
          rw [field?] at hv
          by_cases hname : key = name
          · rw [if_pos hname] at hv
            cases hv
            exact hw
          · rw [if_neg hname] at hv
            exact ih hrest hv
      | _ => cases ht

end Value

/-- A text that may be missing is read from JSON as it is looked up. -/
theorem Record.readText?_of_isJson {v : Option Value} {t : Option Text}
    (hjson : ∀ w, v = some w → w.isJson = true) (h : readText? v = .ok t) :
    v.bind Value.asText? = t := by
  cases v with
  | none => cases h; rfl
  | some w =>
      cases w with
      | null => cases h; rfl
      | str s => cases h; rfl
      | bytes b => cases hjson _ rfl
      | _ => cases h

/-! ## One entry -/

namespace RuleEntry

theorem ofFields_eq_ok {fields : List (Value × Value)} {e : RuleEntry}
    (h : ofFields fields = .ok e) :
    Record.readText? (Value.field? "rule" fields) = .ok e.rule ∧
      Record.readText? (Value.field? "reason" fields) = .ok e.reason := by
  rw [ofFields] at h
  cases hrule : Record.readText? (Value.field? "rule" fields) with
  | error problems => rw [hrule] at h; cases h
  | ok rule =>
      cases hreason : Record.readText? (Value.field? "reason" fields) with
      | error problems => rw [hrule, hreason] at h; cases h
      | ok reason =>
          cases hflags : Record.readText? (Value.field? "flags" fields) with
          | error problems => rw [hrule, hreason, hflags] at h; cases h
          | ok flags =>
              rw [hrule, hreason, hflags] at h
              cases h
              exact ⟨rfl, rfl⟩

/-- The texts that are looked up in an entry of JSON are those of its record. -/
theorem texts_of_ofEntry {category : Option Text} {v : Value} {e : RuleEntry}
    (hjson : v.isJson = true) (h : ofEntry category (.value v) = .ok e) :
    Lint.ruleText? v = e.rule ∧ Lint.textAt? v "reason" = e.reason := by
  cases v with
  | str t => cases h; exact ⟨rfl, rfl⟩
  | mapping fields =>
      have hfields : ∀ name w, Value.field? name fields = some w → w.isJson = true := by
        rw [Value.isJson] at hjson
        exact fun name w => Value.isJson_of_field? hjson
      simp only [ofEntry] at h
      cases hf : ofFields fields with
      | error problems => rw [hf] at h; cases h
      | ok e' =>
          rw [hf] at h
          cases h
          obtain ⟨hrule, hreason⟩ := ofFields_eq_ok hf
          exact ⟨Record.readText?_of_isJson (hfields _) hrule,
            Record.readText?_of_isJson (hfields _) hreason⟩
  | _ => cases h

/-- The listing finds the text and the reason that parsing found. -/
theorem shown_of_rule {category : Option Text} {v : Value} {rule : Rule Pattern}
    (hjson : v.isJson = true) (h : (parse {} category (.value v)).2.result = .ok (.ok rule)) :
    Lint.shownRule v = .ok rule.raw ∧ Lint.textAt? v "reason" = rule.reason := by
  obtain ⟨e, -, -, he, ht, hreason, -, -⟩ := parse_rule h
  obtain ⟨hrule, hreason'⟩ := texts_of_ofEntry hjson he
  obtain ⟨hraw, hfull⟩ := Option.filter_eq_some_iff.1 ht
  have hempty : rule.raw.isEmpty = false := by simpa using hfull
  refine ⟨?_, hreason'.trans hreason.symm⟩
  rw [Lint.shownRule, hrule, hraw]
  simp only [hempty, Bool.false_eq_true, if_false]

end RuleEntry

namespace Lint

open Permissions

/-- An entry that the listing can show: it has a rule text, or no integer in it is too long. -/
def Showable (v : Value) : Prop :=
  (∃ t : Text, t ≠ [] ∧ ruleText? v = some t) ∨ v.hasLongInteger = false

theorem shownRule_isOk_iff (v : Value) : (∃ t, shownRule v = .ok t) ↔ Showable v := by
  have hshown : (∃ t, v.shown? = .ok t) ↔ v.hasLongInteger = false := by
    rw [Value.shown?]
    cases v.hasLongInteger <;> simp
  rw [shownRule, Showable]
  cases ruleText? v with
  | none => simpa using hshown
  | some t =>
      cases t with
      | nil => simpa using hshown
      | cons c rest => simp

/-! ## Rows for a list of entries -/

/-- The rows for a list of entries, the first of which has an index: one for each entry, with what
it is shown as and what parsing it with a new parser comes to. -/
inductive Lists (category : Category) : Nat → List Value → List Row → Prop
  | nil (index : Nat) : Lists category index [] []
  | cons {index : Nat} {v : Value} {rest : List Value} {rule : Text}
      {outcome : Except RuleFailure (Rule Pattern)} {rows : List Row}
      (shown : shownRule v = .ok rule) (parsed : outcomeOf category v = .ok outcome)
      (others : Lists category (index + 1) rest rows) :
      Lists category index (v :: rest) (row category index v rule outcome :: rows)

/-- Through a sound cache the rows for a list of entries are those of the entries, each taken
alone. -/
theorem rowsOf_lists {cache : PatternCache} (h : cache.Sound) (category : Category) (index : Nat)
    (entries : List Value) :
    (rowsOf cache category index entries).1.Sound ∧
      ∀ rows, (rowsOf cache category index entries).2.result = .ok rows ↔
        Lists category index entries rows := by
  induction entries generalizing cache index with
  | nil =>
      refine ⟨h, fun rows => ⟨fun hrows => ?_, fun hrows => ?_⟩⟩
      · cases hrows
        exact .nil index
      · cases hrows
        rfl
  | cons v rest ih =>
      obtain ⟨hfirst, houtcome⟩ := h.parse (some category.label) (.value v)
      rw [rowsOf]
      cases hshown : shownRule v with
      | error f =>
          refine ⟨h, fun rows => ⟨fun hrows => (by cases hrows), fun hrows => ?_⟩⟩
          cases hrows with
          | cons shown parsed others => rw [hshown] at shown; cases shown
      | ok rule =>
          have hparsed : (RuleEntry.parse cache (some category.label) (.value v)).2.result =
              outcomeOf category v := congrArg Logged.result houtcome
          -- The cache that parsing leaves is sound again, so it can stand
          -- for any cache in the rest.
          revert hfirst hparsed
          simp only
          rcases RuleEntry.parse cache (some category.label) (.value v) with ⟨next, first⟩
          intro hnext hparsed
          simp only at hparsed ⊢
          cases hr : first.result with
          | error f =>
              rw [hr] at hparsed
              refine ⟨hnext, fun rows => ⟨fun hrows => (by cases hrows), fun hrows => ?_⟩⟩
              cases hrows with
              | cons shown parsed others => rw [← hparsed] at parsed; cases parsed
          | ok outcome =>
              rw [hr] at hparsed
              obtain ⟨hsound, hothers⟩ := ih hnext (index + 1)
              refine ⟨hsound, fun rows => ?_⟩
              simp only [Logged.result_bind_of_ok _ hr]
              constructor
              · intro hrows
                obtain ⟨others, hrest, hrows⟩ := Logged.result_bind_eq_ok_iff.1 hrows
                cases hrows
                exact .cons hshown hparsed.symm ((hothers others).1 hrest)
              · intro hrows
                cases hrows with
                | cons shown parsed others =>
                    rw [hshown] at shown
                    rw [← hparsed] at parsed
                    cases shown
                    cases parsed
                    exact Logged.result_bind_eq_ok_iff.2 ⟨_, (hothers _).2 others, rfl⟩

/-- A list of entries has rows exactly if every entry can be shown and none ends with a fault. -/
theorem lists_iff (category : Category) (index : Nat) (entries : List Value) :
    (∃ rows, Lists category index entries rows) ↔
      ∀ v ∈ entries, Showable v ∧ ∃ outcome, outcomeOf category v = .ok outcome := by
  induction entries generalizing index with
  | nil => exact ⟨fun _ v hv => absurd hv List.not_mem_nil, fun _ => ⟨[], .nil index⟩⟩
  | cons v rest ih =>
      rw [List.forall_mem_cons, ← ih (index + 1), ← shownRule_isOk_iff]
      constructor
      · rintro ⟨rows, hrows⟩
        cases hrows with
        | cons shown parsed others => exact ⟨⟨⟨_, shown⟩, ⟨_, parsed⟩⟩, ⟨_, others⟩⟩
      · rintro ⟨⟨⟨rule, hrule⟩, ⟨outcome, houtcome⟩⟩, ⟨others, hothers⟩⟩
        exact ⟨_, .cons hrule houtcome hothers⟩

namespace Lists

variable {category : Category} {index : Nat} {entries : List Value} {rows : List Row}

/-- The rows go through the entries one by one, with their category and their index. -/
theorem places (h : Lists category index entries rows) :
    rows.map (fun r => (r.category, r.index)) =
      (List.range' index entries.length).map fun i => (category, i) := by
  induction h with
  | nil => rfl
  | cons shown parsed others ih =>
      rw [List.map_cons, ih, List.length_cons, List.range'_succ, List.map_cons]
      rfl

/-- A row is good exactly if its entry is kept. -/
theorem isOk_eq (h : Lists category index entries rows) :
    rows.map Row.isOk = entries.map fun v => (ruleOf? category v).isSome := by
  induction h with
  | nil => rfl
  | @cons index v rest rule outcome rows shown parsed others ih =>
      rw [List.map_cons, List.map_cons, ih, row_isOk, ruleOf?_eq parsed]
      cases outcome <;> rfl

/-- A row that is not good says why. -/
theorem failures (h : Lists category index entries rows) :
    ∀ r ∈ rows, r.isOk = false → ∃ why, r.failure = some why ∧ why ≠ [] := by
  induction h with
  | nil => exact fun r hr => absurd hr List.not_mem_nil
  | @cons index v rest rule outcome rows shown parsed others ih =>
      refine List.forall_mem_cons.2 ⟨fun hbad => ?_, ih⟩
      rw [row_isOk] at hbad
      cases outcome with
      | ok rule => cases hbad
      | error failure => exact ⟨_, rfl, RuleEntry.parse_failure_message parsed⟩

/-- The good rows hold the texts and the reasons of the rules. -/
theorem texts (h : Lists category index entries rows) (hjson : ∀ v ∈ entries, v.isJson = true) :
    (rows.filter Row.isOk).map (fun r => (r.rule, r.reason)) =
      (entries.filterMap (ruleOf? category)).map fun rule => (rule.raw, rule.reason) := by
  induction h with
  | nil => rfl
  | @cons index v rest rule outcome rows shown parsed others ih =>
      rw [List.forall_mem_cons] at hjson
      have hrest := ih hjson.2
      rw [List.filter_cons, row_isOk, List.filterMap_cons, ruleOf?_eq parsed]
      cases outcome with
      | error failure => exact hrest
      | ok parsedRule =>
          obtain ⟨hraw, hreason⟩ := RuleEntry.shown_of_rule hjson.1 parsed
          obtain rfl : rule = parsedRule.raw := Except.ok.inj (shown.symm.trans hraw)
          simp only [Except.isOk, Except.toBool, Except.toOption, if_true, List.map_cons, hrest,
            row, hreason]

/-- All rows are of the category. -/
theorem category_eq (h : Lists category index entries rows) :
    ∀ r ∈ rows, r.category = category := by
  induction h with
  | nil => exact fun r hr => absurd hr List.not_mem_nil
  | cons shown parsed others ih => exact List.forall_mem_cons.2 ⟨rfl, ih⟩

/-- Rules and rows for left-out entries together are as many as the entries. -/
theorem length_add_dropped (h : Lists category index entries rows) :
    (entries.filterMap (ruleOf? category)).length + dropped rows = entries.length := by
  induction h with
  | nil => rfl
  | @cons index v rest rule outcome rows shown parsed others ih =>
      rw [dropped] at ih ⊢
      rw [List.filterMap_cons, ruleOf?_eq parsed, List.filter_cons, row_isOk, List.length_cons]
      cases outcome with
      | error failure =>
          simp only [Except.toOption, Except.isOk, Except.toBool, Bool.not_false, if_true,
            List.length_cons]
          omega
      | ok parsedRule =>
          simp only [Except.toOption, Except.isOk, Except.toBool, Bool.not_true, Bool.false_eq_true,
            if_false, List.length_cons]
          omega

end Lists

/-! ## Rows for permissions -/

/-- The rows for the categories in a list: those for the entries of each, one category after the
other. -/
inductive ListsIn (p : Permissions) : List Category → List Row → Prop
  | nil : ListsIn p [] []
  | cons {category : Category} {rest : List Category} {rows others : List Row}
      (own : Lists category 0 (p.entries category) rows) (next : ListsIn p rest others) :
      ListsIn p (category :: rest) (rows ++ others)

theorem rowsIn_listsIn {cache : PatternCache} (h : cache.Sound) (p : Permissions)
    (categories : List Category) (rows : List Row) :
    (rowsIn cache p categories).2.result = .ok rows ↔ ListsIn p categories rows := by
  induction categories generalizing cache rows with
  | nil =>
      constructor
      · intro hrows
        cases hrows
        exact .nil
      · intro hrows
        cases hrows
        rfl
  | cons category rest ih =>
      obtain ⟨hnext, hown⟩ := rowsOf_lists h category 0 (p.entries category)
      rw [rowsIn]
      revert hnext hown
      rcases rowsOf cache category 0 (p.entries category) with ⟨next, first⟩
      intro hnext hown
      simp only at hnext hown ⊢
      cases hr : first.result with
      | error f =>
          refine ⟨fun hrows => (by cases hrows), fun hrows => ?_⟩
          cases hrows with
          | cons own others => rw [← hown, hr] at own; cases own
      | ok ownRows =>
          simp only [Logged.result_bind_of_ok _ hr]
          constructor
          · intro hrows
            obtain ⟨others, hrest, hrows⟩ := Logged.result_bind_eq_ok_iff.1 hrows
            cases hrows
            exact .cons ((hown ownRows).1 hr) ((ih hnext others).1 hrest)
          · intro hrows
            cases hrows with
            | cons own others =>
                rw [← hown, hr] at own
                cases own
                exact Logged.result_bind_eq_ok_iff.2 ⟨_, (ih hnext _).2 others, rfl⟩

theorem rows_result (p : Permissions) (rows : List Row) :
    (Lint.rows p).result = .ok rows ↔ ListsIn p Category.all rows :=
  rowsIn_listsIn PatternCache.sound_empty p Category.all rows

theorem listsIn_iff (p : Permissions) (categories : List Category) :
    (∃ rows, ListsIn p categories rows) ↔
      ∀ c ∈ categories, ∃ rows, Lists c 0 (p.entries c) rows := by
  induction categories with
  | nil => exact ⟨fun _ c hc => absurd hc List.not_mem_nil, fun _ => ⟨[], .nil⟩⟩
  | cons category rest ih =>
      rw [List.forall_mem_cons, ← ih]
      constructor
      · rintro ⟨rows, hrows⟩
        cases hrows with
        | cons own next => exact ⟨⟨_, own⟩, ⟨_, next⟩⟩
      · rintro ⟨⟨rows, hrows⟩, ⟨others, hothers⟩⟩
        exact ⟨_, .cons hrows hothers⟩

/-- There are rows exactly if every entry can be shown and none ends with a fault. -/
theorem rows_isOk_iff (p : Permissions) : (∃ rows, (Lint.rows p).result = .ok rows) ↔
    ∀ c, ∀ v ∈ p.entries c, Showable v ∧ ∃ outcome, outcomeOf c v = .ok outcome := by
  simp only [rows_result, listsIn_iff, lists_iff]
  exact ⟨fun h c => h c (Category.mem_all c), fun h c _ => h c⟩

namespace ListsIn

variable {p : Permissions} {categories : List Category} {rows : List Row}

theorem places (h : ListsIn p categories rows) : rows.map (fun r => (r.category, r.index)) =
    categories.flatMap fun c => (List.range (p.entries c).length).map fun i => (c, i) := by
  induction h with
  | nil => rfl
  | cons own next ih =>
      rw [List.map_append, own.places, ih, List.flatMap_cons, List.range_eq_range']

theorem isOk_eq (h : ListsIn p categories rows) : rows.map Row.isOk =
    categories.flatMap fun c => (p.entries c).map fun v => (ruleOf? c v).isSome := by
  induction h with
  | nil => rfl
  | cons own next ih => rw [List.map_append, own.isOk_eq, ih, List.flatMap_cons]

theorem failures (h : ListsIn p categories rows) :
    ∀ r ∈ rows, r.isOk = false → ∃ why, r.failure = some why ∧ why ≠ [] := by
  induction h with
  | nil => exact fun r hr => absurd hr List.not_mem_nil
  | cons own next ih =>
      intro r hr
      rcases List.mem_append.1 hr with hr | hr
      · exact own.failures r hr
      · exact ih r hr

theorem category_mem (h : ListsIn p categories rows) : ∀ r ∈ rows, r.category ∈ categories := by
  induction h with
  | nil => exact fun r hr => absurd hr List.not_mem_nil
  | cons own next ih =>
      intro r hr
      rcases List.mem_append.1 hr with hr | hr
      · rw [own.category_eq r hr]
        exact List.mem_cons_self
      · exact List.mem_cons_of_mem _ (ih r hr)

/-- The rows of a category are those for its entries, if no category is listed twice. -/
theorem ofCategory (h : ListsIn p categories rows) (hnodup : categories.Nodup) {c : Category}
    (hc : c ∈ categories) : Lists c 0 (p.entries c) (rows.filter fun r => r.category == c) := by
  induction h with
  | nil => exact absurd hc List.not_mem_nil
  | @cons category rest rows others own next ih =>
      obtain ⟨hnew, hrest⟩ := List.nodup_cons.1 hnodup
      rw [List.filter_append]
      by_cases hcase : c = category
      · subst hcase
        have hown : (rows.filter fun r => r.category == c) = rows :=
          List.filter_eq_self.2 fun r hr => by simp [own.category_eq r hr]
        have hothers : (others.filter fun r => r.category == c) = [] :=
          List.filter_eq_nil_iff.2 fun r hr => by
            have hmem := next.category_mem r hr
            simpa using fun heq : r.category = c => hnew (heq ▸ hmem)
        rw [hown, hothers, List.append_nil]
        exact own
      · have hown : (rows.filter fun r => r.category == c) = [] :=
          List.filter_eq_nil_iff.2 fun r hr => by
            simpa [own.category_eq r hr] using fun heq => hcase heq.symm
        rw [hown, List.nil_append]
        exact ih hrest ((List.mem_cons.1 hc).resolve_left hcase)

/-- Rules and rows for left-out entries together are as many as the entries. -/
theorem length_add_dropped (h : ListsIn p categories rows) :
    (categories.flatMap fun c => (p.entries c).filterMap (ruleOf? c)).length + dropped rows =
      (categories.flatMap p.entries).length := by
  induction h with
  | nil => rfl
  | @cons category rest rows others own next ih =>
      have hown := own.length_add_dropped
      have hsplit : dropped (rows ++ others) = dropped rows + dropped others := by
        rw [dropped, List.filter_append, List.length_append]
        rfl
      rw [List.flatMap_cons, List.flatMap_cons, List.length_append, List.length_append, hsplit]
      omega

end ListsIn

/-! ## Rows and rules -/

/-- The rule that preparing makes of an entry, if it keeps it. -/
def kept? (category : Category) (v : Value) : Option (Rule Pattern) :=
  (ruleOf category v).result.toOption.join

/-- A list of rows and a rule set that tell the same about the entries of permissions. -/
structure Agrees (p : Permissions) (rules : RuleSet Pattern) (rows : List Row) : Prop where
  /-- One row for each entry, category by category, with indices from zero. -/
  places : rows.map (fun r => (r.category, r.index)) =
    Category.all.flatMap fun c => (List.range (p.entries c).length).map fun i => (c, i)
  /-- The rules of a category are those of its entries that are kept. -/
  listed : ∀ c, rules.listed c = (p.entries c).filterMap (kept? c)
  /-- A row is good exactly if its entry is kept. -/
  kept : rows.map Row.isOk =
    Category.all.flatMap fun c => (p.entries c).map fun v => (kept? c v).isSome
  /-- The good rows of a category hold the texts and the reasons of its rules. -/
  texts : ∀ c, ((rows.filter fun r => r.category == c).filter Row.isOk).map
      (fun r => (r.rule, r.reason)) = (rules.listed c).map fun rule => (rule.raw, rule.reason)
  /-- A row that is not good says why. -/
  failures : ∀ r ∈ rows, r.isOk = false → ∃ why, r.failure = some why ∧ why ≠ []
  /-- Every entry is a rule or left out. -/
  total : rules.size + dropped rows = p.total

theorem kept?_eq (category : Category) (v : Value) : kept? category v = ruleOf? category v := by
  rw [kept?, ruleOf_result, ruleOf?]
  rcases outcomeOf category v with f | outcome
  · rfl
  · cases outcome <;> rfl

/-- Rows say what preparing the rules does. -/
theorem agrees_of_rows {p : Permissions} {rules : RuleSet Pattern} {rows : List Row}
    (hjson : ∀ c, ∀ v ∈ p.entries c, v.isJson = true) (hrules : p.rules.result = .ok rules)
    (hrows : (Lint.rows p).result = .ok rows) : Agrees p rules rows := by
  have hlists : ListsIn p Category.all rows := (rows_result p rows).1 hrows
  have hkept : ∀ c, kept? c = ruleOf? c := fun c => funext (kept?_eq c)
  have hlisted := rules_listed hrules
  refine ⟨hlists.places, ?_, ?_, ?_, hlists.failures, ?_⟩
  · simpa only [hkept] using hlisted
  · simpa only [hkept] using hlists.isOk_eq
  · intro c
    rw [hlisted]
    exact (hlists.ofCategory (by decide) (Category.mem_all c)).texts (hjson c)
  · have htotal := hlists.length_add_dropped
    simp only [← hlisted] at htotal
    simpa [Category.all, RuleSet.listed, RuleSet.size, Permissions.entries, Permissions.total,
      Nat.add_assoc] using htotal

end Lint

/-! ## The command -/

namespace Printing

variable {α β : Type}

theorem result_bind (m : Printing α) (f : α → Printing β) :
    (m >>= f).result = m.result.bind fun a => (f a).result := by
  cases h : m.result with
  | ok a => rw [result_bind_of_ok f h]; rfl
  | error e => rw [bind_of_error f h]; rfl

/-- Work that goes on to its end or ends with a fault, never with an exit code of its own. -/
def NeverExits (m : Printing α) : Prop := ∀ code, m.result ≠ .error (.exit code)

namespace NeverExits

theorem bind {m : Printing α} {f : α → Printing β} (hm : m.NeverExits)
    (hf : ∀ a, (f a).NeverExits) : (m >>= f).NeverExits := by
  intro code h
  cases hr : m.result with
  | error e =>
      rw [bind_of_error f hr] at h
      cases h
      exact hm code hr
  | ok a =>
      rw [result_bind_of_ok f hr] at h
      exact hf a code h

theorem ofLogged (l : Logged α) : (ofLogged l).NeverExits := by
  intro code h
  simp only [Printing.ofLogged] at h
  cases hr : l.result with
  | error f => rw [hr] at h; cases h
  | ok a => rw [hr] at h; cases h

theorem writeLines (lines : List Text) : (writeLines lines).NeverExits := by
  intro code h
  simp only [Printing.writeLines] at h
  split at h
  · cases h
  · cases h

theorem say (markup : Text) : (say markup).NeverExits :=
  (ofLogged _).bind fun _ => writeLines _

theorem showTable (columns : List Table.Column) (rows : List (List Table.Cell)) :
    (showTable columns rows).NeverExits :=
  (ofLogged _).bind fun _ => writeLines _

end NeverExits

end Printing

namespace Run

/-- The exit code of a run: that of the command, or 2 for a command line that is refused, or 1 for a
fault. -/
def Verdict.code : Verdict → Nat
  | .exit code => code
  | .usage _ => 2
  | .fault _ => 1

/-- What a person is told about rows. -/
def listing (s : Setting) (source : Source) (rows : List Lint.Row) : Printing Unit := do
  saySource s source
  sayRows rows

/-- A listing that can be printed: none of its markup is refused, and no half of a surrogate pair is
in it. -/
def Prints (s : Setting) (source : Source) (rows : List Lint.Row) : Prop :=
  (listing s source rows).result = .ok ()

theorem listing_neverExits (s : Setting) (source : Source) (rows : List Lint.Row) :
    (listing s source rows).NeverExits := by
  refine .bind ?_ fun _ => .bind (.writeLines _) fun _ => ?_
  · cases source with
    | file path => exact .say _
    | scopes project home => exact .bind (.say _) fun _ => .say _
  · split
    · exact .say _
    · refine .bind (.showTable _ _) fun _ => .bind (.writeLines _) fun _ => ?_
      split
      · exact .say _
      · exact .say _

/-- Ending with an error leaves no value. -/
theorem failWith_result {α : Type} (kind : String) (message : Text) (isJson : Bool) (a : α) :
    (failWith kind message isJson).result ≠ .ok a := by
  cases isJson with
  | true => exact fun h => by cases h
  | false =>
      intro h
      simp only [failWith, Bool.false_eq_true, if_false, Printing.result_bind] at h
      cases hs : (Printing.say (Markup.styled "red" (Markup.escape message))).result with
      | error e => rw [hs] at h; cases h
      | ok _ => rw [hs] at h; cases h

/-- Loading permissions prints nothing. -/
theorem load_output {s : Setting} {source : Source} {isJson : Bool} {p : Permissions}
    (h : (load s source isJson).result = .ok p) : (load s source isJson).output = [] := by
  cases source with
  | scopes project home => rfl
  | file path =>
      simp only [load] at h ⊢
      cases hr : (Printing.ofLogged (RuleFile.load s.files path)).result with
      | error e =>
          rw [Printing.bind_of_error _ hr] at h
          cases h
      | ok loaded =>
          rw [Printing.result_bind_of_ok _ hr] at h
          rw [Printing.output_bind_of_ok _ hr]
          cases loaded with
          | ok p => rfl
          | error e => exact absurd h (failWith_result _ _ _ p)

section
variable {s : Setting} {o : RulesOptions} {p : Permissions} {rows : List Lint.Row}

/-- In JSON the rows are all that is printed. -/
theorem rules_output (hload : (load s o.source o.isJson).result = .ok p)
    (hrows : (Lint.rows p).result = .ok rows) (hjson : o.isJson = true) :
    (rules s o).output = Json.writeIndented (rowsValue rows) ++ [10] := by
  have hlogged := Printing.result_ofLogged_of_ok hrows
  rw [rules, Printing.output_bind_of_ok _ hload, Printing.output_bind_of_ok _ hlogged,
    load_output hload, Printing.output_ofLogged, List.nil_append, List.nil_append]
  simp only [hjson, if_true, Printing.output_bind_of_ok _ (Printing.result_write _),
    Printing.output_write]
  cases o.isStrict && Lint.dropped rows != 0 <;> exact List.append_nil _

/-- Listing the rules of permissions that were loaded ends as printing the rows does, and then
perhaps with an exit code. -/
theorem rules_result (hload : (load s o.source o.isJson).result = .ok p)
    (hrows : (Lint.rows p).result = .ok rows) : (rules s o).result =
      (if o.isJson then .ok () else (listing s o.source rows).result).bind fun _ =>
        if o.isStrict && Lint.dropped rows != 0 then .error (.exit 1) else .ok () := by
  have hlogged := Printing.result_ofLogged_of_ok hrows
  have hend : ∀ b : Bool, (if b then Printing.exit 1 else pure () : Printing Unit).result =
      if b then .error (.exit 1) else .ok () := by
    intro b
    cases b <;> rfl
  rw [rules, Printing.result_bind_of_ok _ hload, Printing.result_bind_of_ok _ hlogged]
  cases hjson : o.isJson with
  | true => exact hend _
  | false =>
      simp only [listing, Bool.false_eq_true, if_false, Printing.result_bind, hend]
      cases (saySource s o.source).result <;> rfl

/-- With the strict option, listing rules ends with exit code 1 exactly if an entry is left out or
the rows cannot be printed. -/
theorem code_rules (isVerbose : Bool) (hload : (load s o.source o.isJson).result = .ok p)
    (hrows : (Lint.rows p).result = .ok rows) (hstrict : o.isStrict = true) :
    (invocation s (.run isVerbose (.rules o))).verdict.code = 1 ↔
      Lint.dropped rows ≠ 0 ∨ (o.isJson = false ∧ ¬Prints s o.source rows) := by
  have hexit : ∀ level b (m : Printing Unit),
      m.result = (if b = true then .error (.exit 1) else .ok ()) →
        ((Outcome.ofPrinting level m).verdict.code = 1 ↔ b = true) := by
    intro level b m hm
    cases b <;> simp [Outcome.ofPrinting, hm, Verdict.code]
  have hresult := rules_result hload hrows
  rw [hstrict, Bool.true_and] at hresult
  rw [invocation, command, Prints]
  cases hjson : o.isJson with
  | true =>
      rw [hjson] at hresult
      refine (hexit _ _ _ hresult).trans ?_
      simp
  | false =>
      rw [hjson] at hresult
      cases hprinted : (listing s o.source rows).result with
      | ok _ =>
          rw [hprinted] at hresult
          refine (hexit _ _ _ hresult).trans ?_
          simp
      | error e =>
          rw [hprinted] at hresult
          cases e with
          | exit code => exact absurd hprinted (listing_neverExits s o.source rows code)
          | fault f =>
              have hfault : (rules s o).result = .error (.fault f) := hresult
              simp [Outcome.ofPrinting, hfault, Verdict.code]

end

end Run

/-! ## Paths that look like markup -/

namespace Markup

/-- A text in a style that closes another one cannot be shown. -/
theorem plain?_of_closing {start : Text} (hb : 91 ∉ start) (hs : backslash ∉ start)
    (hne : start ≠ []) (rest : Text) :
    ∃ f, plain? (styled "dim" (start ++ (bracketed "/b" ++ rest))) = .error f := by
  let final : Text := bracketed (47 :: Text.ofString "dim")
  let closing : Text := start ++ 91 :: (Text.ofString "/b]" ++ (rest ++ final))
  have hdim : tagBody? (Text.ofString "dim]" ++ closing) = some (Text.ofString "dim", closing) := by
    rfl
  have hclosing : tagBody? (Text.ofString "/b]" ++ (rest ++ final)) =
      some (Text.ofString "/b", rest ++ final) := by rfl
  have hstyled : styled "dim" (start ++ (bracketed "/b" ++ rest)) =
      91 :: (Text.ofString "dim]" ++ closing) := by
    simp [styled, bracketed, final, closing, Text.ofString]
  have hopen : follow [] 0 (.ofBody "dim") = .ok [⟨"dim", none⟩] := by decide +kernel
  have hbody : Tag.ofBody "/b" = ⟨47 :: Text.ofString "b", none⟩ := by decide +kernel
  have hbold : Style.normal (Text.trimBoth CodePoint.isSpace "b") = .ok (Text.ofString "bold") := by
    decide +kernel
  have hunopened : ∀ position, follow [⟨"dim", none⟩] position ⟨47 :: Text.ofString "b", none⟩ =
      .error (unopened ⟨47 :: Text.ofString "b", none⟩ position) :=
    follow_of_unopened (by decide +kernel) hbold (by decide +kernel)
  refine ⟨unopened ⟨"/b", none⟩ (0 + 0 + (Text.ofString "dim").length + 2 + start.length + 0), ?_⟩
  rw [plain?, hstyled, segments_tag hdim, segments_text_tag hb hs hne hclosing]
  simp only [plainFrom, Nat.zero_mod, Nat.zero_ne_one, if_false, hopen, hbody, hunopened]
  rfl

end Markup

namespace Run

/-- A listing cannot be printed if the path of the project's settings closes a style that is not
open. -/
theorem not_prints_of_closing {project : Path} {rest : Text}
    (h : (Scope.settingsPath project).text = Markup.bracketed "/b" ++ rest) (s : Setting)
    (home : Option Path) (rows : List Lint.Row) : ¬Prints s (.scopes (some project) home) rows := by
  have hstart : (91 : CodePoint) ∉ Text.ofString "Project: " ∧
      Markup.backslash ∉ Text.ofString "Project: " ∧ Text.ofString "Project: " ≠ [] := by decide
  obtain ⟨hb, hs, hne⟩ := hstart
  obtain ⟨f, hf⟩ := Markup.plain?_of_closing hb hs hne rest
  intro hprints
  have hsay : (saySource s (.scopes (some project) home)).result = .error (.fault f) := by
    simp only [saySource, projectOf, Option.getD_some, h, Printing.result_bind, Printing.say,
      Printing.lift, Printing.ofLogged, Logged.lift, hf]
    rfl
  rw [Prints, listing, Printing.result_bind, hsay] at hprints
  cases hprints

end Run

/-! ## The agreement -/

namespace Lint

open Run

/-- A setting whose user denies one thing. -/
def strictSetting : Setting where
  files := (FileSystem.empty []).put ["h", ".claude", "settings.local.json"]
    (.file (Utf8.encode "\x7b\"regexPermissions\":\x7b\"deny\":[\"Bash(rm)\"]\x7d\x7d"))
  home := ⟨0, ["h"]⟩

/-- The rules of that user and of a project whose path looks like markup. -/
def markedSource : Source := .scopes (some (.ofText "[/b]a")) none

/-- Whether permissions have rows and a rule for each of their entries. -/
def isWhole (p : Permissions) : Bool :=
  match p.rules.result, (Lint.rows p).result with
  | .ok rules, .ok _ => rules.size == p.total
  | _, _ => false

end Lint

end ToolPolicy
