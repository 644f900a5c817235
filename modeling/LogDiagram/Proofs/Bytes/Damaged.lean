import LogDiagram.Proofs.Bytes.Utf8

/-!
# Damaged bytes

Bytes of a file need not be those of a text. Here it is told how far the damage reaches.

* `Bytes.utf8EncodeChar_of_nextChar`: what is read as a character was written for it, so bytes are read strictly exactly
  if they are those of a text (`Bytes.toText?_eq_some_iff`);
* `Bytes.toTextLossy_induction`: a text is read part by part, each the bytes of a character or damaged bytes;
* `Bytes.toTextLossy_append`: no part goes on over a byte that is none inside a character, so what is read in front of
  such a byte and behind it does not depend on the other side.
-/

namespace LogDiagram.Bytes

variable {rest bs : Bytes} {b c d e : UInt8} {n m k : Nat} {char : Char} {t : Text}

/-! ## The bytes of a number -/

theorem exists_continuation (h : isContinuation b = true) : ∃ n < 64, b = continuation n := by
  rw [isContinuation, between_iff] at h
  change 0x80 ≤ b.toNat ∧ b.toNat ≤ 0xBF at h
  refine ⟨b.toNat - 0x80, by omega, UInt8.toNat_inj.1 ?_⟩
  rw [toNat_continuation]
  omega

/-- A first byte is the bits behind its marker. -/
theorem exists_marked (marker : UInt8) (h : marker.toNat ≤ b.toNat) :
    ∃ lead, b = UInt8.ofNat (lead + marker.toNat) ∧ b.toNat = lead + marker.toNat :=
  ⟨b.toNat - marker.toNat, by rw [Nat.sub_add_cancel h, UInt8.ofNat_toNat], by omega⟩

theorem toNat_ofNat (h : n.isValidChar) : (Char.ofNat n).toNat = n := by
  rw [Char.ofNat, dif_pos h]
  exact UInt32.toNat_ofNatLT

theorem utf8EncodeChar_ofNat (h : n.isValidChar) :
    String.utf8EncodeChar (Char.ofNat n) =
      if n ≤ 0x7F then [UInt8.ofNat n]
      else if n ≤ 0x7FF then [UInt8.ofNat (n / 64 % 32 + 0xC0), continuation n]
      else if n ≤ 0xFFFF then [UInt8.ofNat (n / 4096 % 16 + 0xE0), continuation (n / 64), continuation n]
      else [UInt8.ofNat (n / 262144 % 8 + 0xF0), continuation (n / 4096), continuation (n / 64), continuation n] := by
  rw [String.utf8EncodeChar.eq_def]
  simp only [Char.toNat_val, toNat_ofNat h]
  rfl

theorem continuation_congr (h : m % 64 = n % 64) : continuation m = continuation n := by
  rw [continuation, continuation, h]

/-! ## Characters that are read -/

/-- A character of two bytes that is read is written as these bytes. -/
theorem utf8EncodeChar_of_two (hlow : 0xC2 ≤ b.toNat) (hhigh : b.toNat ≤ 0xDF) (hc : isContinuation c = true) :
    String.utf8EncodeChar (charOf (b - 0xC0) [c]) = [b, c] := by
  obtain ⟨lead, hb, hlead⟩ := exists_marked 0xC0 (b := b) (show 0xC0 ≤ b.toNat by omega)
  obtain ⟨m, hm, rfl⟩ := exists_continuation hc
  change b.toNat = lead + 0xC0 at hlead
  have hchar : charOf (b - 0xC0) [continuation m] = Char.ofNat (lead * 64 + m % 64) := by
    rw [hb]
    exact charOf_lead 0xC0 [m] (show lead + 0xC0 < 256 by omega)
  have hvalid : (lead * 64 + m % 64).isValidChar := .inl (by omega)
  rw [hchar, utf8EncodeChar_ofNat hvalid, if_neg (by omega), if_pos (by omega), hb]
  have hlead' : (lead * 64 + m % 64) / 64 % 32 = lead := by omega
  have hrest : continuation (lead * 64 + m % 64) = continuation m := continuation_congr (by omega)
  rw [hlead', hrest]
  rfl

/-- A second byte is bounded behind the least and the greatest first byte of its kind. -/
theorem of_isSecond {first last low high : UInt8}
    (h : (isContinuation c && (b != first || low ≤ c) && (b != last || c ≤ high)) = true) :
    isContinuation c = true ∧ (b.toNat = first.toNat → low.toNat ≤ c.toNat) ∧
      (b.toNat = last.toNat → c.toNat ≤ high.toNat) := by
  simp only [Bool.and_eq_true, Bool.or_eq_true, bne_iff_ne, decide_eq_true_iff, UInt8.le_iff_toNat_le, ne_eq,
    ← UInt8.toNat_inj] at h
  exact ⟨h.1.1, fun hb => h.1.2.resolve_left (absurd hb), fun hb => h.2.resolve_left (absurd hb)⟩

theorem utf8EncodeChar_of_three (hlow : 0xE0 ≤ b.toNat) (hhigh : b.toNat ≤ 0xEF) (hc : isSecondOfThree b c = true)
    (hd : isContinuation d = true) : String.utf8EncodeChar (charOf (b - 0xE0) [c, d]) = [b, c, d] := by
  obtain ⟨hc, hshort, hsurrogate⟩ := of_isSecond hc
  change b.toNat = 0xE0 → 0xA0 ≤ c.toNat at hshort
  change b.toNat = 0xED → c.toNat ≤ 0x9F at hsurrogate
  obtain ⟨lead, hb, hlead⟩ := exists_marked 0xE0 (b := b) hlow
  obtain ⟨m, hm, rfl⟩ := exists_continuation hc
  obtain ⟨n, hn, rfl⟩ := exists_continuation hd
  change b.toNat = lead + 0xE0 at hlead
  rw [toNat_continuation] at hshort hsurrogate
  have hchar : charOf (b - 0xE0) [continuation m, continuation n] =
      Char.ofNat ((lead * 64 + m % 64) * 64 + n % 64) := by
    rw [hb]
    exact charOf_lead 0xE0 [m, n] (show lead + 0xE0 < 256 by omega)
  have hvalid : ((lead * 64 + m % 64) * 64 + n % 64).isValidChar := by
    show _ ∨ _
    omega
  rw [hchar, utf8EncodeChar_ofNat hvalid, if_neg (by omega), if_neg (by omega), if_pos (by omega), hb]
  have hlead' : ((lead * 64 + m % 64) * 64 + n % 64) / 4096 % 16 = lead := by omega
  have hsecond : continuation (((lead * 64 + m % 64) * 64 + n % 64) / 64) = continuation m :=
    continuation_congr (by omega)
  have hthird : continuation ((lead * 64 + m % 64) * 64 + n % 64) = continuation n := continuation_congr (by omega)
  rw [hlead', hsecond, hthird]
  rfl

theorem utf8EncodeChar_of_four (hlow : 0xF0 ≤ b.toNat) (hhigh : b.toNat ≤ 0xF4) (hc : isSecondOfFour b c = true)
    (hd : isContinuation d = true) (he : isContinuation e = true) :
    String.utf8EncodeChar (charOf (b - 0xF0) [c, d, e]) = [b, c, d, e] := by
  obtain ⟨hc, hshort, hlast⟩ := of_isSecond hc
  change b.toNat = 0xF0 → 0x90 ≤ c.toNat at hshort
  change b.toNat = 0xF4 → c.toNat ≤ 0x8F at hlast
  obtain ⟨lead, hb, hlead⟩ := exists_marked 0xF0 (b := b) hlow
  obtain ⟨m, hm, rfl⟩ := exists_continuation hc
  obtain ⟨n, hn, rfl⟩ := exists_continuation hd
  obtain ⟨k, hk, rfl⟩ := exists_continuation he
  change b.toNat = lead + 0xF0 at hlead
  rw [toNat_continuation] at hshort hlast
  have hchar : charOf (b - 0xF0) [continuation m, continuation n, continuation k] =
      Char.ofNat (((lead * 64 + m % 64) * 64 + n % 64) * 64 + k % 64) := by
    rw [hb]
    exact charOf_lead 0xF0 [m, n, k] (show lead + 0xF0 < 256 by omega)
  have hvalid : (((lead * 64 + m % 64) * 64 + n % 64) * 64 + k % 64).isValidChar := by
    show _ ∨ _
    omega
  rw [hchar, utf8EncodeChar_ofNat hvalid, if_neg (by omega), if_neg (by omega), if_neg (by omega), hb]
  have hlead' : (((lead * 64 + m % 64) * 64 + n % 64) * 64 + k % 64) / 262144 % 8 = lead := by omega
  have hsecond : continuation ((((lead * 64 + m % 64) * 64 + n % 64) * 64 + k % 64) / 4096) = continuation m :=
    continuation_congr (by omega)
  have hthird : continuation ((((lead * 64 + m % 64) * 64 + n % 64) * 64 + k % 64) / 64) = continuation n :=
    continuation_congr (by omega)
  have hfourth : continuation (((lead * 64 + m % 64) * 64 + n % 64) * 64 + k % 64) = continuation k :=
    continuation_congr (by omega)
  rw [hlead', hsecond, hthird, hfourth]
  rfl

/-- A character that is read is written as the bytes that it was read from. -/
theorem utf8EncodeChar_of_nextChar (h : nextChar b rest = (some char, k)) :
    ∃ bs more, rest = bs ++ more ∧ bs.length = k ∧ String.utf8EncodeChar char = b :: bs := by
  rw [nextChar.eq_def] at h
  repeat' split at h
  -- Bytes that are missing or do not fit are read as no character. One case is left for each number of bytes.
  all_goals simp only [Prod.mk.injEq, Option.some.injEq, reduceCtorEq, false_and] at h
  all_goals obtain ⟨rfl, rfl⟩ := h
  · next hone =>
    have hascii : b.toNat < 0x80 := UInt8.lt_iff_toNat_lt.1 hone
    refine ⟨[], rest, rfl, rfl, ?_⟩
    rw [utf8EncodeChar_ofNat (.inl (by omega)), if_pos (by omega), UInt8.ofNat_toNat]
  · next htwo _ c more hc =>
    obtain ⟨hlow, hhigh⟩ := between_iff.1 htwo
    exact ⟨[c], more, rfl, rfl, utf8EncodeChar_of_two hlow hhigh hc⟩
  · next hthree _ c hc _ d more hd =>
    obtain ⟨hlow, hhigh⟩ := between_iff.1 hthree
    exact ⟨[c, d], more, rfl, rfl, utf8EncodeChar_of_three hlow hhigh hc hd⟩
  · next hfour _ c hc _ d hd _ e more he =>
    obtain ⟨hlow, hhigh⟩ := between_iff.1 hfour
    exact ⟨[c, d, e], more, rfl, rfl, utf8EncodeChar_of_four hlow hhigh hc hd he⟩

/-- What stands behind a byte that is none inside a character is not looked at. -/
theorem nextChar_append (b : UInt8) (rest : Bytes) (hn : isContinuation c = false) (more : Bytes) :
    nextChar b (rest ++ c :: more) = nextChar b rest ∧ (nextChar b rest).2 ≤ rest.length := by
  have hthree : isSecondOfThree b c = false := by simp [isSecondOfThree, hn]
  have hfour : isSecondOfFour b c = false := by simp [isSecondOfFour, hn]
  rcases rest with _ | ⟨x, _ | ⟨y, _ | ⟨z, rest⟩⟩⟩ <;>
    simp only [nextChar, List.nil_append, List.cons_append, hn, hthree, hfour] <;> grind

/-! ## Texts that are read -/

/-- The text so far stays in front. -/
theorem lossyFrom_eq (k : Nat) (done : Text) (bs : Bytes) :
    lossyFrom k done bs = done.reverse ++ toTextLossy (bs.drop k) := by
  induction bs generalizing k done with
  | nil => simp [toTextLossy, lossyFrom]
  | cons b rest ih =>
    cases k with
    | zero =>
      rw [List.drop_zero, toTextLossy, lossyFrom, lossyFrom]
      simp only [ih, List.reverse_cons, List.reverse_nil, List.nil_append, List.append_assoc]
    | succ k => exact ih k done

/-- One character, or one mark for damaged bytes, and what is read behind it. -/
theorem toTextLossy_cons (b : UInt8) (rest : Bytes) :
    toTextLossy (b :: rest) =
      (nextChar b rest).1.getD '\uFFFD' :: toTextLossy (rest.drop (nextChar b rest).2) := by
  rw [toTextLossy, lossyFrom]
  simp only [lossyFrom_eq, List.reverse_singleton, List.singleton_append]

/-- A text is read part by part: the bytes of a character, or damaged bytes that one mark stands for. -/
theorem toTextLossy_induction {motive : Bytes → Text → Prop} (bs : Bytes) (nil : motive [] [])
    (cons : ∀ part rest char, part ≠ [] → String.utf8EncodeChar char = part ∨ char = '\uFFFD' →
      motive rest (toTextLossy rest) → motive (part ++ rest) (char :: toTextLossy rest)) :
    motive bs (toTextLossy bs) := by
  match bs with
  | [] => exact nil
  | b :: rest =>
    have hrest := toTextLossy_induction (rest.drop (nextChar b rest).2) nil cons
    have hpart : b :: rest = (b :: rest.take (nextChar b rest).2) ++ rest.drop (nextChar b rest).2 := by
      rw [List.cons_append, List.take_append_drop]
    rw [toTextLossy_cons, hpart]
    refine cons _ _ _ (List.cons_ne_nil _ _) ?_ hrest
    cases hnext : nextChar b rest with
    | mk char? k =>
      cases char? with
      | none => exact .inr rfl
      | some char =>
        obtain ⟨bs, more, rfl, rfl, hchar⟩ := utf8EncodeChar_of_nextChar hnext
        exact .inl (by rw [Option.getD_some, hchar, List.take_left])
termination_by bs.length
decreasing_by simp only [List.length_cons, List.length_drop]; omega

/-- A byte that is none inside a character starts a part of its own, whatever stands in front. -/
theorem toTextLossy_append (bs : Bytes) (hn : isContinuation c = false) (more : Bytes) :
    toTextLossy (bs ++ c :: more) = toTextLossy bs ++ toTextLossy (c :: more) := by
  match bs with
  | [] => rfl
  | b :: rest =>
    obtain ⟨hnext, hle⟩ := nextChar_append b rest hn more
    rw [List.cons_append, toTextLossy_cons, toTextLossy_cons, hnext, List.drop_append_of_le_length hle,
      toTextLossy_append (rest.drop (nextChar b rest).2) hn more]
    rfl
termination_by bs.length
decreasing_by simp only [List.length_cons, List.length_drop]; omega

/-- A character of one byte is only read where this byte stands. -/
theorem mem_of_mem_toTextLossy (hbyte : String.utf8EncodeChar char = [b]) (h : char ∈ toTextLossy bs) : b ∈ bs := by
  have hmark : char ≠ '\uFFFD' := by
    rintro rfl
    cases hbyte
  revert h
  refine toTextLossy_induction (motive := fun bs t => char ∈ t → b ∈ bs) bs nofun ?_
  intro part rest first _ hpart ih h
  rcases List.mem_cons.1 h with rfl | h
  · obtain rfl := hbyte.symm.trans (hpart.resolve_right hmark)
    exact List.mem_cons_self
  · exact List.mem_append_right part (ih h)

/-- A character of one byte is only read at the end where this byte stands at the end. -/
theorem getLast?_of_getLast?_toTextLossy (hbyte : String.utf8EncodeChar char = [b])
    (h : (toTextLossy bs).getLast? = some char) : bs.getLast? = some b := by
  have hmark : char ≠ '\uFFFD' := by
    rintro rfl
    cases hbyte
  revert h
  refine toTextLossy_induction (motive := fun bs t => t.getLast? = some char → bs.getLast? = some b) bs nofun ?_
  intro part rest first _ hpart ih h
  cases rest with
  | nil =>
    obtain rfl : first = char := by simpa [toTextLossy, lossyFrom] using h
    obtain rfl := hbyte.symm.trans (hpart.resolve_right hmark)
    rfl
  | cons c rest =>
    rw [toTextLossy_cons, List.getLast?_cons_cons, ← toTextLossy_cons] at h
    rw [List.getLast?_append, ih h, Option.some_or]

/-! ## Bytes of texts -/

theorem strictFrom_eq (k : Nat) (done : Text) (bs : Bytes) :
    strictFrom k done bs = (toText? (bs.drop k)).map (done.reverse ++ ·) := by
  induction bs generalizing k done with
  | nil => simp [toText?, strictFrom]
  | cons b rest ih =>
    cases k with
    | zero =>
      rw [List.drop_zero, toText?, strictFrom, strictFrom]
      split
      · simp only [ih, Option.map_map]
        congr 1
        funext t
        simp
      · rfl
    | succ k => exact ih k done

theorem toText?_cons (b : UInt8) (rest : Bytes) :
    toText? (b :: rest) =
      (nextChar b rest).1.bind fun char => (toText? (rest.drop (nextChar b rest).2)).map (char :: ·) := by
  rw [toText?, strictFrom]
  split
  · next hnext => rw [strictFrom_eq, hnext]; rfl
  · next hnext => rw [hnext]; rfl

/-- What is read strictly was written for the text. -/
theorem eq_ofText_of_toText? : ∀ {bs : Bytes} {t : Text}, toText? bs = some t → bs = ofText t
  | [], t, h => by
    obtain rfl : [] = t := Option.some.inj h
    rfl
  | b :: rest, t, h => by
    rw [toText?_cons] at h
    cases hnext : nextChar b rest with
    | mk char? k =>
      rw [hnext] at h
      obtain ⟨char, rfl, h⟩ := Option.bind_eq_some_iff.1 h
      obtain ⟨t, ht, rfl⟩ := Option.map_eq_some_iff.1 h
      have hrest := eq_ofText_of_toText? ht
      obtain ⟨bs, more, rfl, rfl, hbytes⟩ := utf8EncodeChar_of_nextChar hnext
      rw [List.drop_left] at hrest
      rw [hrest, ofText, ofText, List.flatMap_cons, hbytes]
      rfl
termination_by bs => bs.length
decreasing_by simp only [List.length_cons, List.length_drop]; omega

/-- Bytes are read strictly exactly if they are those of a text. -/
theorem toText?_eq_some_iff : toText? bs = some t ↔ bs = ofText t := by
  refine ⟨eq_ofText_of_toText?, ?_⟩
  rintro rfl
  induction t with
  | nil => rfl
  | cons char t ih =>
    obtain ⟨b, bs, hbytes, hnext⟩ := nextChar_utf8EncodeChar char
    have hcons : ofText (char :: t) = b :: (bs ++ ofText t) := by rw [ofText, List.flatMap_cons, hbytes]; rfl
    rw [hcons, toText?_cons, hnext, Option.bind_some, List.drop_left, ih]
    rfl

end LogDiagram.Bytes
