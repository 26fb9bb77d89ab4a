import ToolPolicy.Json.Reader

/-!
# Long numbers in a JSON text

Reading a JSON text can end in a fault where an integer has more digits than are converted. The
digits then stand in the text one after another, so a text without such a row of digits is read, or
has a flaw. The readers are followed through the text by what they leave of it.

* `Text.HasLongNumber`: that a text has so many digits in a row, and more than are converted.
* `Within`: that a reader leaves an end of its text, or ends in a fault that shows in it,
  for each of the readers.
* `hasLongNumber_of_read`: the fault of a text shows in it.
-/

namespace ToolPolicy

/-- That a text has so many digits in a row, and more than are converted. -/
def Text.HasLongNumber (t : Text) (n : Nat) : Prop :=
  ∃ digits, digits <:+: t ∧ (∀ c ∈ digits, CodePoint.isAsciiDigit c = true) ∧
    digits.length = n ∧ digitLimit < n

namespace Json

/-- That what is read leaves an end of a text, or ends in a fault that shows in the text. -/
def Within {α : Type} (t : Text) (r : Except Failure (α × Text)) : Prop :=
  (∀ a rest, r = .ok (a, rest) → rest <:+ t) ∧
    ∀ f, r = .error (.fault f) → ∃ n, f = .tooManyDigits n ∧ t.HasLongNumber n

namespace Within

variable {α β : Type} {s t : Text}

theorem ok {a : α} {rest : Text} (h : rest <:+ t) : Within t (.ok (a, rest)) := by
  refine ⟨fun b rest' he => ?_, fun f h => (by cases h)⟩
  cases he
  exact h

theorem flaw {f : Flaw} : Within t (.error (.flaw f) : Except Failure (α × Text)) :=
  ⟨fun a rest h => (by cases h), fun f h => (by cases h)⟩

theorem flawAt {cause : Cause} {rest : Text} :
    Within t (Json.flawAt cause rest : Except Failure (α × Text)) := flaw

theorem tooDeep {object : Bool} : Within t (.error (.tooDeep object) : Except Failure (α × Text)) :=
  ⟨fun a rest h => (by cases h), fun f h => (by cases h)⟩

/-- What shows in an end of a text shows in the text. -/
theorem mono {r : Except Failure (α × Text)} (h : Within s r) (hs : s <:+ t) : Within t r := by
  refine ⟨fun a rest he => (h.1 a rest he).trans hs, fun f he => ?_⟩
  obtain ⟨n, hf, digits, hdigits, hmore⟩ := h.2 f he
  exact ⟨n, hf, digits, hdigits.trans hs.isInfix, hmore⟩

theorem map {r : Except Failure (α × Text)} (h : Within t r) (g : α → β) :
    Within t (r.map fun p => (g p.1, p.2)) := by
  cases r with
  | ok p => exact ok (h.1 p.1 p.2 rfl)
  | error e =>
    refine ⟨fun a rest h => (by cases h), fun f he => ?_⟩
    cases he
    exact h.2 f rfl

/-- What fails while a part is read fails as the part does. -/
theorem error {r : Except Failure (α × Text)} {e : Failure} (h : Within t r) (hr : r = .error e) :
    Within t (.error e : Except Failure (β × Text)) := by
  refine ⟨fun a rest h => (by cases h), fun f he => ?_⟩
  cases he
  exact h.2 f hr

end Within

theorem skipBlanks_suffix (t : Text) : skipBlanks t <:+ t := List.dropWhile_suffix _

theorem suffix_of_skipBlanks {c : CodePoint} {t after : Text} (h : skipBlanks t = c :: after) :
    after <:+ t :=
  (List.suffix_cons c after).trans (h ▸ skipBlanks_suffix t)

/-! ## Strings and words -/

theorem readEscape_error {start : Nat} {t : Text} {failure : Failure}
    (h : readEscape start t = .error failure) :
    ∃ f, failure = .flaw f := by
  unfold readEscape flawAt at h
  repeat' split at h
  all_goals first | (cases h; exact ⟨_, rfl⟩) | cases h

theorem readString_within (start taken : Nat) (t : Text) : Within t (readString start taken t) := by
  fun_induction readString start taken t with
  | case1 => exact .flaw
  | case2 c rest more ih => exact ih.mono (List.suffix_cons c rest)
  | case3 rest => exact .ok (List.suffix_cons _ rest)
  | case4 rest failure hescape =>
    obtain ⟨f, rfl⟩ := readEscape_error hescape
    exact .flaw
  | case5 rest v length hescape h ih => exact (ih.map (v :: ·)).mono (List.suffix_cons _ rest)
  | case6 => exact .flawAt
  | case7 c rest hquote hescape hcontrol ih =>
      exact (ih.map (c :: ·)).mono (List.suffix_cons c rest)

theorem readWord?_suffix {t rest : Text} {v : Value} (h : readWord? t = some (v, rest)) :
    rest <:+ t := by
  rw [readWord?] at h
  obtain ⟨⟨word, w⟩, -, hword⟩ := List.exists_of_findSome?_eq_some h
  obtain ⟨rest', hafter, hpair⟩ := Option.map_eq_some_iff.1 hword
  cases hpair
  rw [afterWord?] at hafter
  split at hafter
  · cases hafter
    exact List.drop_suffix _ t
  · cases hafter

/-! ## Numbers -/

theorem takeDigits_suffix (t : Text) : (takeDigits t).2 <:+ t := List.dropWhile_suffix _

theorem readFraction_suffix (t : Text) : (readFraction t).2 <:+ t := by
  unfold readFraction
  split
  · next c rest =>
    split
    · exact (takeDigits_suffix (c :: rest)).trans (List.suffix_cons 46 _)
    · exact List.suffix_refl _
  · exact List.suffix_refl _

theorem readExponent?_suffix {t after : Text} {e : Int} (h : readExponent? t = some (e, after)) :
    after <:+ t := by
  cases t with
  | nil => cases h
  | cons c rest =>
    have hdigits : ∀ body, body <:+ rest → (takeDigits body).2 <:+ c :: rest :=
      fun body hbody => ((takeDigits_suffix body).trans hbody).trans (List.suffix_cons c rest)
    simp only [readExponent?] at h
    split at h
    · split at h
      all_goals
        split at h
        · cases h
        · cases h
          first | exact hdigits _ (List.suffix_cons _ _) | exact hdigits _ (List.suffix_refl _)
    · cases h

/-- Whether a number has a sign, and what follows it. -/
def unsigned (t : Text) : Bool × Text :=
  match t with
  | 45 :: rest => (true, rest)
  | _ => (false, t)

/-- The digits of a number in front of its point, and what follows them. -/
def whole? (body : Text) : Option (Text × Text) :=
  match body with
  | 48 :: rest => some ([48], rest)
  | c :: _ => if CodePoint.isAsciiDigit c then some (takeDigits body) else none
  | [] => none

theorem unsigned_suffix (t : Text) : (unsigned t).2 <:+ t := by
  unfold unsigned
  split
  · exact List.suffix_cons _ _
  · exact List.suffix_refl _

theorem whole?_eq_some {body whole rest : Text} (h : whole? body = some (whole, rest)) :
    whole ++ rest = body ∧ ∀ c ∈ whole, CodePoint.isAsciiDigit c = true := by
  unfold whole? at h
  split at h
  · cases h
    exact ⟨rfl, fun c hc => by cases List.mem_singleton.1 hc; rfl⟩
  · split at h
    · cases h
      exact ⟨List.takeWhile_append_dropWhile,
        fun c hc => List.all_eq_true.1 List.all_takeWhile c hc⟩
    · cases h
  · cases h

/-- A number leaves an end of its text, and the digits of which there are too many begin
the text after its sign. -/
theorem readNumber_within (t : Text) : Within t (readNumber t) := by
  unfold readNumber
  simp only
  split
  · exact .flawAt
  next whole rest hwhole =>
  obtain ⟨hjoined, hdigits⟩ :=
    whole?_eq_some (show whole? (unsigned t).2 = some (whole, rest) from hwhole)
  have hbody : whole ++ rest <:+ t := hjoined ▸ unsigned_suffix t
  have hfraction : (readFraction rest).2 <:+ t :=
    (readFraction_suffix rest).trans ((List.suffix_append whole rest).trans hbody)
  have htoolong (hlong : digitLimit < whole.length) :
      Within t (.error (.fault (.tooManyDigits whole.length)) : Except Failure (Value × Text)) := by
    refine ⟨fun a rest h => (by cases h), fun f hf => ?_⟩
    cases hf
    exact ⟨_, rfl, whole, (List.prefix_append whole rest).isInfix.trans hbody.isInfix,
      hdigits, rfl, hlong⟩
  have hends {integer : Prop} [Decidable integer] {v w : Value} {after : Text}
    (hafter : after <:+ t) :
      Within t (if integer then
        if digitLimit < whole.length then .error (.fault (.tooManyDigits whole.length))
        else .ok (v, after)
        else .ok (w, after)) := by
    split
    · split
      · next hlong => exact htoolong hlong
      · exact .ok hafter
    · exact .ok hafter
  split
  · next hexponent => exact hends ((readExponent?_suffix hexponent).trans hfraction)
  · exact hends hfraction

/-! ## Values -/

/-- Values, the rest of a list and the rest of an object leave an end of their text, or end
in a fault that shows. -/
structure ReadersWithin (fuel : Nat) : Prop where
  value : ∀ depth t, Within t (readValue fuel depth t)
  items : ∀ depth items t, Within t (readItems fuel depth items t)
  fields : ∀ depth fields t, Within t (readFields fuel depth fields t)

namespace ReadersWithin

variable {fuel : Nat}

theorem zero : ReadersWithin 0 := ⟨fun _ _ => .flawAt, fun _ _ _ => .flawAt, fun _ _ _ => .flawAt⟩

variable (h : ReadersWithin fuel)
include h

theorem value_succ (depth : Nat) (t : Text) : Within t (readValue (fuel + 1) depth t) := by
  cases t with
  | nil => exact .flawAt
  | cons c rest =>
    have hinside : skipBlanks rest <:+ c :: rest :=
      (skipBlanks_suffix rest).trans (List.suffix_cons c rest)
    rw [readValue]
    split
    · exact ((readString_within _ 0 rest).map Value.str).mono (List.suffix_cons c rest)
    split
    · split
      · exact .tooDeep
      split
      · next hclosed => exact .ok ((suffix_of_skipBlanks hclosed).trans (List.suffix_cons c rest))
      · exact (h.items _ _ _).mono hinside
    split
    · split
      · exact .tooDeep
      split
      · next hclosed => exact .ok ((suffix_of_skipBlanks hclosed).trans (List.suffix_cons c rest))
      · exact (h.fields _ _ _).mono hinside
    split
    · next found hword => exact .ok (readWord?_suffix hword)
    · exact readNumber_within _

theorem items_succ (depth : Nat) (items : List Value) (t : Text) :
    Within t (readItems (fuel + 1) depth items t) := by
  have hfirst := h.value depth t
  rw [readItems]
  split
  · next hfailed => exact hfirst.error hfailed
  next v rest hread =>
  have hrest : rest <:+ t := hfirst.1 v rest hread
  split
  · next hclosed => exact .ok ((suffix_of_skipBlanks hclosed).trans hrest)
  · next hcomma =>
    exact (h.items _ _ _).mono
      ((skipBlanks_suffix _).trans ((suffix_of_skipBlanks hcomma).trans hrest))
  · exact .flawAt

theorem fields_succ (depth : Nat) (fields : List (Value × Value)) (t : Text) :
    Within t (readFields (fuel + 1) depth fields t) := by
  rw [readFields.eq_def]
  simp only
  split
  · next inside =>
    have hname :=
      (readString_within (34 :: inside : Text).length 0 inside).mono (List.suffix_cons 34 inside)
    split
    · next hfailed => exact hname.error hfailed
    next name rest hread =>
    have hrest : rest <:+ 34 :: inside := hname.1 name rest hread
    split
    · next after hcolon =>
      have hafter : skipBlanks after <:+ 34 :: inside :=
        (skipBlanks_suffix after).trans ((suffix_of_skipBlanks hcolon).trans hrest)
      have hfield := (h.value depth (skipBlanks after)).mono hafter
      split
      · next hfailed => exact hfield.error hfailed
      next v rest hread =>
      have hrest : rest <:+ 34 :: inside := hfield.1 v rest hread
      split
      · next hclosed => exact .ok ((suffix_of_skipBlanks hclosed).trans hrest)
      · next hcomma =>
        exact (h.fields _ _ _).mono
          ((skipBlanks_suffix _).trans ((suffix_of_skipBlanks hcomma).trans hrest))
      · exact .flawAt
    · exact .flawAt
  · exact .flawAt

end ReadersWithin

theorem readersWithin (fuel : Nat) : ReadersWithin fuel := by
  induction fuel with
  | zero => exact .zero
  | succ fuel ih => exact ⟨ih.value_succ, ih.items_succ, ih.fields_succ⟩

/-- **A fault of a JSON text shows in it**: an integer with so many digits,
more than are converted. -/
theorem hasLongNumber_of_read {t : Text} {f : Fault} (h : read t = .error (.fault f)) :
    ∃ n, f = .tooManyDigits n ∧ t.HasLongNumber n := by
  have hvalue :=
    ((readersWithin (2 * t.length + 2)).value 0 (skipBlanks t)).mono (skipBlanks_suffix t)
  unfold read at h
  split at h
  · cases h
  · split at h
    · next hread =>
      cases h
      exact hvalue.2 f hread
    · split at h
      · cases h
      · cases h

end Json

end ToolPolicy
