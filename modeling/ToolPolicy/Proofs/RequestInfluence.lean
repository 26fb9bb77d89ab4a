import Mathlib
import ToolPolicy.Proofs.ProjectScope

/-!
# What counts in a request

A request carries more than is looked at: other keys beside the three that are read, and arguments
other than the one that rules are matched against. None of it has an influence. The only way it
could have one is by being refused, and nothing that a JSON text can say in those places is: the
names of arguments are texts, and their values are not looked at.

* `Json.read_textKeyed`: the keys of what a JSON text says are texts, at every depth.
* `answer_of_fields`: the answer to a text whose object has the three fields of a request.
* `Content.content?_congr`: arguments that agree where they count have the same content.
* `answer_congr`: two requests that agree where they count get the same answer.
-/

namespace ToolPolicy

/-! ## Keys of JSON objects -/

/-- A value whose mappings have texts for keys, and whose parts are of this kind. -/
inductive Value.TextKeyed : Value → Prop where
  | null : TextKeyed .null
  | bool (b : Bool) : TextKeyed (.bool b)
  | int (n : Int) : TextKeyed (.int n)
  | float (x : Binary64) : TextKeyed (.float x)
  | str (t : Text) : TextKeyed (.str t)
  | list {items : List Value} (h : ∀ v ∈ items, TextKeyed v) : TextKeyed (.list items)
  | mapping {entries : List (Value × Value)} (h : ∀ e ∈ entries, ∃ t, e.1 = .str t)
      (h' : ∀ e ∈ entries, TextKeyed e.2) : TextKeyed (.mapping entries)

namespace Value.TextKeyed

/-- The fields of an object stay texts with values of this kind when one more is put there. -/
theorem putField {name : Text} {v : Value} {entries : List (Value × Value)}
    (hv : TextKeyed v) (h : TextKeyed (.mapping entries)) :
    TextKeyed (.mapping (Value.putField name v entries)) := by
  cases h with
  | mapping hkeys hvalues =>
      have hmem : ∀ e ∈ Value.putField name v entries, e ∈ entries ∨
          ((∃ t, e.1 = .str t) ∧ e.2 = v) := by
        clear hvalues
        induction entries with
        | nil =>
            intro e he
            rw [Value.putField, Value.put, List.mem_singleton] at he
            subst he
            exact .inr ⟨⟨name, rfl⟩, rfl⟩
        | cons first rest ih =>
            intro e he
            obtain ⟨hfirst, hrest⟩ := List.forall_mem_cons.1 hkeys
            rw [Value.putField, Value.put] at he
            split at he
            · rcases List.mem_cons.1 he with rfl | he
              · exact .inr ⟨hfirst, rfl⟩
              · exact .inl (List.mem_cons_of_mem _ he)
            · rcases List.mem_cons.1 he with rfl | he
              · exact .inl List.mem_cons_self
              · exact (ih hrest e he).imp_left (List.mem_cons_of_mem _)
      refine .mapping (fun e he => ?_) (fun e he => ?_)
      · exact (hmem e he).elim (hkeys e) (·.1)
      · rcases hmem e he with he | ⟨-, rfl⟩
        · exact hvalues e he
        · exact hv

theorem field? {name : Text} {v : Value} {entries : List (Value × Value)}
    (h : TextKeyed (.mapping entries)) (hfound : Value.field? name entries = some v) :
    TextKeyed v := by
  cases h with
  | mapping hkeys hvalues =>
      clear hkeys
      induction entries with
      | nil => cases hfound
      | cons first rest ih =>
          obtain ⟨hfirst, hrest⟩ := List.forall_mem_cons.1 hvalues
          unfold Value.field? at hfound
          split at hfound
          · split at hfound
            · cases hfound
              exact hfirst
            · exact ih hfound hrest
          · exact ih hfound hrest

end Value.TextKeyed

namespace Json

open Value (TextKeyed)

theorem readNumber_textKeyed {t rest : Text} {v : Value} (h : readNumber t = .ok (v, rest)) :
    TextKeyed v := by
  unfold readNumber flawAt at h
  simp only at h
  repeat' split at h
  all_goals first
    | (cases h; exact .int _)
    | (cases h; exact .float _)
    | cases h

theorem readWord?_textKeyed {t rest : Text} {v : Value} (h : readWord? t = some (v, rest)) :
    TextKeyed v := by
  unfold readWord? at h
  obtain ⟨⟨word, value⟩, hmem, hfound⟩ := List.exists_of_findSome?_eq_some h
  obtain ⟨after, -, hpair⟩ := Option.map_eq_some_iff.1 hfound
  cases hpair
  simp only [List.mem_cons, Prod.mk.injEq, List.not_mem_nil, or_false] at hmem
  rcases hmem with ⟨-, rfl⟩ | ⟨-, rfl⟩ | ⟨-, rfl⟩ | ⟨-, rfl⟩ | ⟨-, rfl⟩ | ⟨-, rfl⟩ <;> constructor

theorem readValue_textKeyed (fuel : Nat) :
    (∀ depth t v rest, readValue fuel depth t = .ok (v, rest) → TextKeyed v) ∧
    (∀ depth items t v rest, (∀ w ∈ items, TextKeyed w) →
      readItems fuel depth items t = .ok (v, rest) → TextKeyed v) ∧
    ∀ depth fields t v rest, TextKeyed (.mapping fields) →
      readFields fuel depth fields t = .ok (v, rest) → TextKeyed v := by
  induction fuel with
  | zero =>
      refine ⟨fun depth t v rest h => ?_, fun depth items t v rest _ h => ?_,
        fun depth fields t v rest _ h => ?_⟩
      · rw [readValue] at h
        cases h
      · rw [readItems] at h
        cases h
      · rw [readFields] at h
        cases h
  | succ fuel ih =>
      obtain ⟨hvalue, hitems, hfields⟩ := ih
      refine ⟨fun depth t v rest h => ?_, fun depth items t v rest hsofar h => ?_,
        fun depth fields t v rest hsofar h => ?_⟩
      · unfold readValue flawAt at h
        repeat' split at h
        · cases h
        · next c tail _ =>
            cases hs : readString (c :: tail).length 0 tail with
            | error e => rw [hs] at h; cases h
            | ok found => rw [hs] at h; cases h; exact .str _
        · cases h
        · cases h; exact .list (by simp)
        · exact hitems _ _ _ _ _ (by simp) h
        · cases h
        · cases h; exact .mapping (by simp) (by simp)
        · exact hfields _ _ _ _ _ (.mapping (by simp) (by simp)) h
        · next hword => cases h; exact readWord?_textKeyed hword
        · exact readNumber_textKeyed h
      · unfold readItems flawAt at h
        split at h
        · cases h
        · next w after hw =>
            have hmore : ∀ u ∈ w :: items, TextKeyed u :=
              List.forall_mem_cons.2 ⟨hvalue _ _ _ _ hw, hsofar⟩
            split at h
            · cases h
              exact .list fun u hu => hmore u (List.mem_reverse.1 hu)
            · exact hitems _ _ _ _ _ hmore h
            · cases h
      · unfold readFields flawAt at h
        split at h
        · split at h
          · cases h
          · split at h
            · split at h
              · cases h
              · next w after hw =>
                  have hmore (name : Text) : TextKeyed (.mapping (Value.putField name w fields)) :=
                    .putField (hvalue _ _ _ _ hw) hsofar
                  split at h
                  · cases h
                    exact hmore _
                  · exact hfields _ _ _ _ _ (hmore _) h
                  · cases h
            · cases h
        · cases h

/-- The keys of what a JSON text says are texts. -/
theorem read_textKeyed {t : Text} {v : Value} (h : read t = .ok v) : TextKeyed v := by
  unfold read flawAt at h
  split at h
  · cases h
  · split at h
    · cases h
    · next w rest hw =>
        split at h
        · cases h
          exact (readValue_textKeyed _).1 _ _ _ _ hw
        · cases h

end Json

/-! ## Reading a request -/

namespace Request

theorem nameProblems_of_textKeyed {entries : List (Value × Value)}
    (h : Value.TextKeyed (.mapping entries)) : nameProblems entries = [] := by
  cases h with
  | mapping hkeys _ =>
      rw [nameProblems, List.flatMap_eq_nil_iff]
      intro e he
      obtain ⟨t, ht⟩ := hkeys e he
      obtain ⟨k, v⟩ := e
      cases ht
      rfl

section
variable {fields arguments : List (Value × Value)} {tool : Text} {cwd : Option Text}

/-- An object with the three fields of a request is one, whatever else it holds. -/
theorem ofFields_of_fields (hkeys : Value.TextKeyed (.mapping arguments)) (hne : tool ≠ [])
    (hscalar : tool.isScalar = true) (htool : Value.field? "tool_name" fields = some (.str tool))
    (harguments : Value.field? "tool_input" fields = some (.mapping arguments))
    (hcwd : (Value.field? "cwd" fields).getD .null = .ofText? cwd) :
    ofFields fields = .ok ⟨tool, arguments, cwd⟩ := by
  rw [ofFields_eq_ok_iff]
  refine ⟨?_, ?_, ?_⟩
  · rw [htool]
    exact (Record.readFullText_str_eq_ok_iff tool tool).2 ⟨hscalar, hne, rfl⟩
  · rw [harguments]
    simp only [readArguments, nameProblems_of_textKeyed hkeys]
  · cases hfound : Value.field? "cwd" fields with
    | none =>
        rw [hfound] at hcwd
        cases cwd with
        | none => rfl
        | some t => cases hcwd
    | some v =>
        rw [hfound] at hcwd
        cases cwd <;> cases hcwd <;> rfl

end

end Request

namespace Hook

section
variable {t : Text} {fields arguments : List (Value × Value)} {tool : Text} {cwd : Option Text}

/-- The answer to a text whose object has the three fields of a request is that of the rules. -/
theorem answer_of_fields (fs : FileSystem) (home : Path)
    (hread : Json.read t = .ok (.mapping fields)) (hne : tool ≠ [])
    (hscalar : tool.isScalar = true) (htool : Value.field? "tool_name" fields = some (.str tool))
    (harguments : Value.field? "tool_input" fields = some (.mapping arguments))
    (hcwd : (Value.field? "cwd" fields).getD .null = .ofText? cwd) :
    answer fs home t = do return (← evaluate fs home ⟨tool, arguments, cwd⟩).envelope := by
  have hkeys := (Json.read_textKeyed hread).field? harguments
  have hrequest : Request.ofText? t = pure (some ⟨tool, arguments, cwd⟩) := by
    rw [Request.ofText?_of_value hread, Request.ofValue?, Request.ofValue, Record.readFields]
    simp only [bind, Except.bind,
      Request.ofFields_of_fields hkeys hne hscalar htool harguments hcwd]
  rw [answer, hrequest, pure_bind]

end

end Hook

/-! ## What has an influence -/

namespace Content

/-- The arguments that rules may be matched against. -/
def consulted (tool : Text) : List Text :=
  match listedField? tool with
  | some field => [field]
  | none => usualFields

theorem findSome?_congr {α β : Type} {f g : α → Option β} {l : List α} (h : ∀ a ∈ l, f a = g a) :
    l.findSome? f = l.findSome? g := by
  induction l with
  | nil => rfl
  | cons a rest ih =>
      obtain ⟨ha, hrest⟩ := List.forall_mem_cons.1 h
      rw [List.findSome?_cons, List.findSome?_cons, ha, ih hrest]

/-- Arguments that agree where they count have the same content. -/
theorem content?_congr {tool : Text} {a b : List (Value × Value)}
    (h : ∀ name ∈ consulted tool, Value.field? name a = Value.field? name b) :
    content? tool a = content? tool b := by
  have htext : ∀ name ∈ consulted tool, textAt? a name = textAt? b name := by
    intro name hname
    rw [textAt?, textAt?, h name hname]
  unfold consulted at htext
  unfold content?
  split
  · next field hfield =>
      rw [hfield] at htext
      exact htext field List.mem_cons_self
  · next hnone =>
      rw [hnone] at htext
      refine findSome?_congr fun name hname => ?_
      rw [fullTextAt?, fullTextAt?, htext name hname]

end Content

namespace Hook

theorem evaluate_congr (fs : FileSystem) (home : Path) {tool : Text} (cwd : Option Text)
    {arguments others : List (Value × Value)} (h : ∀ name ∈ Content.consulted tool,
      Value.field? name arguments = Value.field? name others) :
    evaluate fs home ⟨tool, arguments, cwd⟩ = evaluate fs home ⟨tool, others, cwd⟩ := by
  simp only [evaluate, decide, RuleSet.evaluate, Content.content?_congr h]

section
variable {t t' : Text} {a b arguments others : List (Value × Value)} {tool : Text}
  {cwd : Option Text}

/-- **What counts in a request.** Two texts whose objects name the same tool and the same directory,
and whose arguments agree on those that rules may be matched against, get the same answer with the
same log, or end with the same fault: the answer of the rules to either of them. -/
theorem answer_congr (fs : FileSystem) (home : Path) (ha : Json.read t = .ok (.mapping a))
    (hb : Json.read t' = .ok (.mapping b)) (hne : tool ≠ []) (hscalar : tool.isScalar = true)
    (htool : Value.field? "tool_name" a = some (.str tool))
    (htool' : Value.field? "tool_name" b = some (.str tool))
    (hcwd : (Value.field? "cwd" a).getD .null = .ofText? cwd)
    (hcwd' : (Value.field? "cwd" b).getD .null = .ofText? cwd)
    (harguments : Value.field? "tool_input" a = some (.mapping arguments))
    (harguments' : Value.field? "tool_input" b = some (.mapping others))
    (hagree : ∀ name ∈ Content.consulted tool,
      Value.field? name arguments = Value.field? name others) :
    answer fs home t = answer fs home t' ∧
      answer fs home t = do return (← evaluate fs home ⟨tool, arguments, cwd⟩).envelope := by
  have hfirst := answer_of_fields fs home ha hne hscalar htool harguments hcwd
  have hsecond := answer_of_fields fs home hb hne hscalar htool' harguments' hcwd'
  rw [hfirst, hsecond, evaluate_congr fs home cwd hagree]
  exact ⟨rfl, rfl⟩

end

/-- The request of a project with more arguments, one of them under half of a surrogate pair,
and with another key. -/
def crowdedRequest : Text :=
  "\x7b\"id\":[1],\"cwd\":\"p\",\"tool_input\":\x7b\"\\ud800\":null,\"command\":\"b\"\x7d," ++
    "\"tool_name\":\"a\"\x7d"

/-- The fields of the request of a project. -/
def projectFields : List (Value × Value) :=
  [(.str "tool_name", .str "a"), (.str "tool_input", .mapping [(.str "command", .str "b")]),
    (.str "cwd", .str "p")]

/-- The fields of the request with more arguments. -/
def crowdedFields : List (Value × Value) :=
  [(.str "id", .list [.int 1]), (.str "cwd", .str "p"),
    (.str "tool_input", .mapping [(.str [0xD800], .null), (.str "command", .str "b")]),
    (.str "tool_name", .str "a")]

/-- Neither the arguments beside the one that counts nor another key change what is denied. -/
theorem answer_congr_crowded :
    answer strictHome ⟨0, ["h"]⟩ projectRequest = answer strictHome ⟨0, ["h"]⟩ crowdedRequest := by
  have hfirst : Json.read projectRequest = .ok (.mapping projectFields) := by cbv
  have hsecond : Json.read crowdedRequest = .ok (.mapping crowdedFields) := by cbv
  have htool : Value.field? "tool_name" projectFields = some (.str "a") := by cbv
  have hcwd : (Value.field? "cwd" projectFields).getD .null = .ofText? (some "p") := by cbv
  have harguments : Value.field? "tool_input" projectFields =
      some (.mapping [(.str "command", .str "b")]) := by cbv
  have hagree : ∀ name ∈ Content.consulted "a",
      Value.field? name [(.str "command", .str "b")] = Value.field? name
        [(.str [0xD800], .null), (.str "command", .str "b")] := by
    intro name hname
    have hconsulted : Content.consulted "a" = Content.usualFields := by cbv
    rw [hconsulted, Content.usualFields] at hname
    simp only [List.mem_cons, List.not_mem_nil, or_false] at hname
    rcases hname with rfl | rfl | rfl | rfl <;> cbv
  exact (answer_congr strictHome ⟨0, ["h"]⟩ hfirst hsecond (by decide) (by decide) htool (by cbv)
    hcwd (by cbv) harguments (by cbv) hagree).1

end Hook

end ToolPolicy
