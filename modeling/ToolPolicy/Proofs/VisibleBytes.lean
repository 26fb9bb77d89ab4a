import ToolPolicy.Proofs.YamlScanning

/-!
# Bytes of printable ASCII

A file of printable ASCII stands for the text that was written, whether it is read
at once or piece by piece.

Main statements: `decode_encode` and `toLineFeeds_visible` (for a reader of the whole file), and
`ofBytes_encode` (for a reader that takes pieces and hands on portions).
-/

namespace ToolPolicy.Yaml

variable {t r : Text}

/-! ## All at once -/

theorem encode_visible (h : Visible t) : Utf8.encode t = t.map Nat.toUInt8 := by
  induction t with
  | nil => rfl
  | cons c rest ih =>
    have hc := isVisible_iff.mp h.head
    have hone : Utf8.encodeOne c = [c.toUInt8] := by
      rw [Utf8.encodeOne, if_pos (Nat.lt_of_lt_of_le hc.2 (by decide))]
    have ih := ih h.tail
    rw [Utf8.encode, List.flatMap_cons, hone, ← Utf8.encode, ih]
    rfl

theorem decodeFrom_encode (h : Visible t) (position : Nat) :
    Utf8.decodeFrom position 0 (Utf8.encode t) = (t, none) := by
  rw [encode_visible h]
  induction t generalizing position with
  | nil => rfl
  | cons c rest ih =>
    have hc := isVisible_iff.mp h.head
    have hbyte : c.toUInt8.toNat = c := by
      simp
      omega
    have hlt : c.toUInt8 < 0x80 := by
      rw [UInt8.lt_iff_toNat_lt, hbyte]
      exact Nat.lt_of_lt_of_le hc.2 (by decide)
    simp only [List.map_cons, Utf8.decodeFrom, Utf8.scan_of_lt hlt, hbyte, Nat.sub_self, ih h.tail]

theorem decode_encode (h : Visible t) : Utf8.decode (Utf8.encode t) = .ok t := by
  rw [Utf8.decode, decodeFrom_encode h]

theorem toLineFeeds_visible (h : Visible t) : Utf8.toLineFeeds t = t := by
  induction t with
  | nil => rfl
  | cons c rest ih =>
    have hc := isVisible_iff.mp h.head
    have h13 : c ≠ 13 := by rintro rfl; omega
    have hne (more : Text) : 13 :: more ≠ c :: rest := fun heq => h13 (List.cons.inj heq).1.symm
    rw [Utf8.toLineFeeds.eq_def]
    split
    · exact absurd ‹_› (by simp)
    · exact absurd (Eq.symm ‹_›) (hne _)
    · exact absurd (Eq.symm ‹_›) (hne _)
    · rename_i heq
      obtain ⟨rfl, rfl⟩ := List.cons.inj heq
      rw [ih h.tail]

/-! ## Piece by piece -/

namespace Feed

/-- Whether what is still to be read is a text. -/
structure Holds (f : Feed) (r : Text) : Prop where
  bytes_eq : f.bytes = Utf8.encode r
  partialBytes_eq : f.partialBytes = []
  pendingReturn_eq : f.pendingReturn = false

theorem sizeFor_pos (f : Feed) (count : Nat) : 0 < f.sizeFor count :=
  Nat.lt_of_lt_of_le (by decide : 0 < pieceSize) (Nat.le_max_left _ _)

theorem encode_take (h : Visible r) (n : Nat) :
    (Utf8.encode r).take n = Utf8.encode (r.take n) := by
  rw [encode_visible h, encode_visible fun c hc => h c (List.mem_of_mem_take hc), List.map_take]

theorem encode_drop (h : Visible r) (n : Nat) :
    (Utf8.encode r).drop n = Utf8.encode (r.drop n) := by
  rw [encode_visible h, encode_visible (h.drop n), List.map_drop]

theorem getLast?_visible (h : Visible t) : t.getLast? ≠ some 13 := by
  intro hlast
  exact absurd (h 13 (List.mem_of_getLast? hlast)) (by decide)

theorem readPiece_holds {f : Feed} (h : f.Holds r) (hv : Visible r) (count : Nat) :
    ∃ (g : Feed) (n : Nat), f.readPiece count = .ok g ∧ 0 < n ∧ g.Holds (r.drop n)
      ∧ g.text = f.text ++ r.take n := by
  obtain ⟨hbytes, hpartial, hpending⟩ := h
  have htaken : Visible (r.take (f.sizeFor count)) := fun c hc => hv c (List.mem_of_mem_take hc)
  have hlength : (Utf8.encode (r.take (f.sizeFor count))).length =
    (r.take (f.sizeFor count)).length := by
    rw [encode_visible htaken, List.length_map]
  have hlast : ((r.take (f.sizeFor count)).getLast? == some 13) = false := by
    simpa using getLast?_visible htaken
  have hdropped : r.drop (r.take (f.sizeFor count)).length = r.drop (f.sizeFor count) := by
    rw [List.length_take]
    rcases Nat.le_total (f.sizeFor count) r.length with hle | hle
    · rw [Nat.min_eq_left hle]
    · rw [Nat.min_eq_right hle, List.drop_length, List.drop_of_length_le hle]
  unfold readPiece
  simp only [hbytes, hpartial, hpending, encode_take hv, List.nil_append, decodeFrom_encode htaken,
    Bool.false_eq_true, if_false, hlast, Bool.and_false, toLineFeeds_visible htaken,
      hlength, encode_drop hv,
    hdropped]
  exact ⟨_, f.sizeFor count, rfl, f.sizeFor_pos count, ⟨rfl, rfl, rfl⟩, rfl⟩

theorem fill_holds {f : Feed} (h : f.Holds r) (hv : Visible r) {fuel : Nat}
    (hfuel : r.length < fuel) :
    ∃ (g : Feed) (r' : Text), f.fill fuel = .ok g ∧ g.Holds r' ∧ Visible r' ∧
      g.text ++ r' = f.text ++ r
      ∧ (g.text = [] → r' = []) := by
  induction fuel generalizing f r with
  | zero => omega
  | succ fuel ih =>
    rw [fill]
    by_cases hfull : portionSize ≤ f.text.length
    · rw [if_pos hfull]
      refine ⟨f, r, rfl, h, hv, rfl, fun hempty => ?_⟩
      rw [hempty] at hfull
      exact absurd hfull (by decide)
    · rw [if_neg hfull]
      cases r with
      | nil =>
        have hend : (f.bytes.isEmpty && f.partialBytes.isEmpty && !f.pendingReturn) = true := by
          rw [h.bytes_eq, h.partialBytes_eq, h.pendingReturn_eq]
          rfl
        rw [if_pos hend]
        exact ⟨f, [], rfl, h, hv, rfl, fun _ => rfl⟩
      | cons c rest =>
        have hmore : (f.bytes.isEmpty && f.partialBytes.isEmpty && !f.pendingReturn) = false := by
          rw [h.bytes_eq, encode_visible hv]
          rfl
        obtain ⟨g, n, hread, hpos, hg, htext⟩ := readPiece_holds h hv (portionSize - f.text.length)
        rw [hmore, hread]
        obtain ⟨g', r', hfill, hg', hv', htext', hempty⟩ := ih hg (hv.drop n) (by
          simp only [List.length_drop, List.length_cons] at hfuel ⊢
          omega)
        refine ⟨g', r', hfill, hg', hv', ?_, hempty⟩
        rw [htext', htext, List.append_assoc, List.take_append_drop]

theorem portions_holds {f : Feed} (h : f.Holds r) (hv : Visible r) (fuel : Nat)
    (hfuel : (f.text ++ r).length < fuel) :
    ∃ ps : List Text, f.portions fuel = ps.map .ok ∧ ps.flatten = f.text ++ r := by
  induction fuel generalizing f r with
  | zero => omega
  | succ fuel ih =>
    have hlength : r.length < f.bytes.length + 2 := by
      rw [h.bytes_eq, encode_visible hv, List.length_map]
      omega
    obtain ⟨g, r', hfill, hg, hv', htext, hempty⟩ := fill_holds h hv hlength
    rw [portions, hfill]
    simp only
    cases hg' : g.text with
    | nil =>
      refine ⟨[], rfl, ?_⟩
      rw [← htext, hg', hempty hg']
      rfl
    | cons c rest =>
      have hrest : ({ g with text := (c :: rest).drop portionSize } : Feed).Holds r' :=
        ⟨hg.bytes_eq, hg.partialBytes_eq, hg.pendingReturn_eq⟩
      obtain ⟨ps, hps, hflat⟩ := ih hrest hv' (by
        have hlen := congrArg List.length htext
        simp only [hg', List.length_append, List.length_cons, List.length_drop,
          portionSize] at hlen hfuel ⊢
        omega)
      refine ⟨(c :: rest).take portionSize :: ps, ?_, ?_⟩
      · rw [List.map_cons, ← hps]
        rfl
      · rw [List.flatten_cons, hflat, ← List.append_assoc, List.take_append_drop, ← hg', htext]

end Feed

theorem joinFirst_ok (ps : List Text) : ∃ qs : List Text, joinFirst (ps.map .ok) = qs.map .ok
    ∧ qs.flatten = ps.flatten := by
  rcases ps with _ | ⟨p, _ | ⟨q, rest⟩⟩
  · exact ⟨[], rfl, rfl⟩
  · exact ⟨[p], rfl, rfl⟩
  · exact ⟨(p ++ q) :: rest, rfl, by simp⟩

theorem ofPortions_ok {ps : List Text} (h : Visible ps.flatten) (position : Nat) :
    Source.ofPortions position (ps.map .ok) = ⟨ps.flatten, none⟩ := by
  induction ps generalizing position with
  | nil => rfl
  | cons p rest ih =>
    rw [List.flatten_cons] at h
    have hnone : firstUnprintable? position p = none := by
      simp only [firstUnprintable?, Option.map_eq_none_iff, List.findIdx?_eq_none_iff]
      intro c hc
      have hbounds := isVisible_iff.mp (h c (List.mem_append_left _ hc))
      have hprintable : isPrintable c = true := by
        have hle : c ≤ 0x7E := Nat.le_of_lt_succ hbounds.2
        simp [isPrintable, hbounds.1, hle]
      simp [hprintable]
    simp only [List.map_cons, Source.ofPortions, hnone, ih h.of_append_right, List.flatten_cons]

/-- **A source of printable ASCII is its text.** -/
theorem ofBytes_encode (h : Visible t) : Source.ofBytes (Utf8.encode t) = ⟨t, none⟩ := by
  have hlength : (Utf8.encode t).length = t.length := by rw [encode_visible h, List.length_map]
  have hfeed : ({ bytes := Utf8.encode t } : Feed).Holds t := ⟨rfl, rfl, rfl⟩
  obtain ⟨ps, hps, hflat⟩ := Feed.portions_holds hfeed h ((Utf8.encode t).length + 1)
    (by rw [hlength]; simp)
  obtain ⟨qs, hqs, hsame⟩ := joinFirst_ok ps
  have hall : qs.flatten = t := by rw [hsame, hflat]; rfl
  rw [Source.ofBytes, hps, hqs, ofPortions_ok (hall ▸ h), hall]

end ToolPolicy.Yaml
