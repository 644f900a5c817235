import LogDiagram.Bytes.Utf8

/-!
# Texts stored and read back

The bytes of a text are read back as that text (`Bytes.toTextLossy_ofText`). A character is told from its first byte,
and takes as many of the bytes after it as were written for it (`Bytes.nextChar_utf8EncodeChar`).
-/

namespace LogDiagram.Bytes

variable {rest : Bytes}

/-! ## Single bytes -/

theorem between_iff {b low high : UInt8} : (low ≤ b && b ≤ high) = true ↔ low.toNat ≤ b.toNat ∧ b.toNat ≤ high.toNat := by
  rw [Bool.and_eq_true, decide_eq_true_iff, decide_eq_true_iff, UInt8.le_iff_toNat_le, UInt8.le_iff_toNat_le]

/-- A byte inside a character: the six bits of a number behind a one and a zero. -/
def continuation (n : Nat) : UInt8 := UInt8.ofNat (n % 64 + 0x80)

theorem toNat_continuation (n : Nat) : (continuation n).toNat = n % 64 + 0x80 :=
  UInt8.toNat_ofNat_of_lt' (by show n % 64 + 0x80 < 256; omega)

theorem isContinuation_continuation (n : Nat) : isContinuation (continuation n) = true := by
  rw [isContinuation, between_iff, toNat_continuation]
  show 0x80 ≤ n % 64 + 0x80 ∧ n % 64 + 0x80 ≤ 0xBF
  omega

/-- The number that a first byte and the bytes after it stand for: the bits behind the marker, and six bits from each. -/
theorem charOf_lead {lead : Nat} (marker : UInt8) (ns : List Nat) (h : lead + marker.toNat < 256) :
    charOf (UInt8.ofNat (lead + marker.toNat) - marker) (ns.map continuation) =
      Char.ofNat (ns.foldl (fun m n => m * 64 + n % 64) lead) := by
  have hsum : (UInt8.ofNat (lead + marker.toNat)).toNat = lead + marker.toNat := UInt8.toNat_ofNat_of_lt' h
  have hlead : (UInt8.ofNat (lead + marker.toNat) - marker).toNat = lead := by
    rw [UInt8.toNat_sub_of_le _ _ (UInt8.le_iff_toNat_le.2 (by omega)), hsum]
    omega
  rw [charOf, List.foldl_map, hlead]
  simp only [toNat_continuation, Nat.add_sub_cancel]

/-! ## First bytes -/

/-- A first byte that is no character on its own. -/
theorem not_lt_of_le {b : UInt8} (h : 0xC2 ≤ b.toNat) : ¬b < 0x80 := by
  rw [UInt8.lt_iff_toNat_lt]
  show ¬b.toNat < 0x80
  omega

theorem nextChar_of_two {b c : UInt8} (hlow : 0xC2 ≤ b.toNat) (hhigh : b.toNat ≤ 0xDF) (hc : isContinuation c = true) :
    nextChar b (c :: rest) = (some (charOf (b - 0xC0) [c]), 1) := by
  have htwo : (0xC2 ≤ b && b ≤ 0xDF) = true := between_iff.2 ⟨hlow, hhigh⟩
  rw [nextChar.eq_def, if_neg (not_lt_of_le hlow), if_pos htwo]
  simp only [hc, if_true]

theorem nextChar_of_three {b c d : UInt8} (hlow : 0xE0 ≤ b.toNat) (hhigh : b.toNat ≤ 0xEF)
    (hc : isSecondOfThree b c = true) (hd : isContinuation d = true) :
    nextChar b (c :: d :: rest) = (some (charOf (b - 0xE0) [c, d]), 2) := by
  have htwo : ¬(0xC2 ≤ b && b ≤ 0xDF) = true := by
    rw [between_iff]
    show ¬(0xC2 ≤ b.toNat ∧ b.toNat ≤ 0xDF)
    omega
  have hthree : (0xE0 ≤ b && b ≤ 0xEF) = true := between_iff.2 ⟨hlow, hhigh⟩
  rw [nextChar.eq_def, if_neg (not_lt_of_le (by omega)), if_neg htwo, if_pos hthree]
  simp only [hc, hd, if_true]

theorem nextChar_of_four {b c d e : UInt8} (hlow : 0xF0 ≤ b.toNat) (hhigh : b.toNat ≤ 0xF4)
    (hc : isSecondOfFour b c = true) (hd : isContinuation d = true) (he : isContinuation e = true) :
    nextChar b (c :: d :: e :: rest) = (some (charOf (b - 0xF0) [c, d, e]), 3) := by
  have htwo : ¬(0xC2 ≤ b && b ≤ 0xDF) = true := by
    rw [between_iff]
    show ¬(0xC2 ≤ b.toNat ∧ b.toNat ≤ 0xDF)
    omega
  have hthree : ¬(0xE0 ≤ b && b ≤ 0xEF) = true := by
    rw [between_iff]
    show ¬(0xE0 ≤ b.toNat ∧ b.toNat ≤ 0xEF)
    omega
  have hfour : (0xF0 ≤ b && b ≤ 0xF4) = true := between_iff.2 ⟨hlow, hhigh⟩
  rw [nextChar.eq_def, if_neg (not_lt_of_le (by omega)), if_neg htwo, if_neg hthree, if_pos hfour]
  simp only [hc, hd, he, if_true]

/-- The second byte of three is not below the shortest form of a character and not among the surrogates. -/
theorem isSecondOfThree_continuation {b : UInt8} {n : Nat} (hlow : b.toNat = 0xE0 → 0x20 ≤ n % 64)
    (hsurrogate : b.toNat = 0xED → n % 64 < 0x20) : isSecondOfThree b (continuation n) = true := by
  have hn := toNat_continuation n
  simp only [isSecondOfThree, isContinuation_continuation, Bool.true_and, Bool.and_eq_true, Bool.or_eq_true,
    bne_iff_ne, decide_eq_true_iff, UInt8.le_iff_toNat_le, ne_eq, ← UInt8.toNat_inj, hn]
  show (¬b.toNat = 0xE0 ∨ 0xA0 ≤ n % 64 + 0x80) ∧ (¬b.toNat = 0xED ∨ n % 64 + 0x80 ≤ 0x9F)
  omega

/-- The second byte of four is not below the shortest form of a character and not beyond the last character. -/
theorem isSecondOfFour_continuation {b : UInt8} {n : Nat} (hlow : b.toNat = 0xF0 → 0x10 ≤ n % 64)
    (hlast : b.toNat = 0xF4 → n % 64 < 0x10) : isSecondOfFour b (continuation n) = true := by
  have hn := toNat_continuation n
  simp only [isSecondOfFour, isContinuation_continuation, Bool.true_and, Bool.and_eq_true, Bool.or_eq_true,
    bne_iff_ne, decide_eq_true_iff, UInt8.le_iff_toNat_le, ne_eq, ← UInt8.toNat_inj, hn]
  show (¬b.toNat = 0xF0 ∨ 0x90 ≤ n % 64 + 0x80) ∧ (¬b.toNat = 0xF4 ∨ n % 64 + 0x80 ≤ 0x8F)
  omega

/-! ## Single characters -/

theorem nextChar_one {n : Nat} (hn : n ≤ 0x7F) : nextChar (UInt8.ofNat n) rest = (some (Char.ofNat n), 0) := by
  have hbyte : (UInt8.ofNat n).toNat = n := UInt8.toNat_ofNat_of_lt' (by show n < 256; omega)
  have hascii : UInt8.ofNat n < 0x80 := by
    rw [UInt8.lt_iff_toNat_lt, hbyte]
    show n < 0x80
    omega
  rw [nextChar.eq_def, if_pos hascii, hbyte]

theorem nextChar_two {n : Nat} (hlow : 0x7F < n) (hhigh : n ≤ 0x7FF) :
    nextChar (UInt8.ofNat (n / 64 % 32 + 0xC0)) (continuation n :: rest) = (some (Char.ofNat n), 1) := by
  have hb : (UInt8.ofNat (n / 64 % 32 + 0xC0)).toNat = n / 64 % 32 + 0xC0 :=
    UInt8.toNat_ofNat_of_lt' (by show n / 64 % 32 + 0xC0 < 256; omega)
  have hchar : charOf (UInt8.ofNat (n / 64 % 32 + 0xC0) - 0xC0) [continuation n] = Char.ofNat n := by
    refine (charOf_lead 0xC0 [n] (show n / 64 % 32 + 0xC0 < 256 by omega)).trans (congrArg Char.ofNat ?_)
    simp only [List.foldl_cons, List.foldl_nil]
    omega
  rw [← hchar]
  exact nextChar_of_two (by omega) (by omega) (isContinuation_continuation n)

theorem nextChar_three {n : Nat} (hlow : 0x7FF < n) (hhigh : n ≤ 0xFFFF) (hvalid : n < 0xD800 ∨ 0xDFFF < n) :
    nextChar (UInt8.ofNat (n / 4096 % 16 + 0xE0)) (continuation (n / 64) :: continuation n :: rest) =
      (some (Char.ofNat n), 2) := by
  have hb : (UInt8.ofNat (n / 4096 % 16 + 0xE0)).toNat = n / 4096 % 16 + 0xE0 :=
    UInt8.toNat_ofNat_of_lt' (by show n / 4096 % 16 + 0xE0 < 256; omega)
  have hchar : charOf (UInt8.ofNat (n / 4096 % 16 + 0xE0) - 0xE0) [continuation (n / 64), continuation n] =
      Char.ofNat n := by
    refine (charOf_lead 0xE0 [n / 64, n] (show n / 4096 % 16 + 0xE0 < 256 by omega)).trans (congrArg Char.ofNat ?_)
    simp only [List.foldl_cons, List.foldl_nil]
    omega
  rw [← hchar]
  exact nextChar_of_three (by omega) (by omega) (isSecondOfThree_continuation (by omega) (by omega))
    (isContinuation_continuation n)

theorem nextChar_four {n : Nat} (hlow : 0xFFFF < n) (hhigh : n < 0x110000) :
    nextChar (UInt8.ofNat (n / 262144 % 8 + 0xF0))
        (continuation (n / 4096) :: continuation (n / 64) :: continuation n :: rest) = (some (Char.ofNat n), 3) := by
  have hb : (UInt8.ofNat (n / 262144 % 8 + 0xF0)).toNat = n / 262144 % 8 + 0xF0 :=
    UInt8.toNat_ofNat_of_lt' (by show n / 262144 % 8 + 0xF0 < 256; omega)
  have hchar : charOf (UInt8.ofNat (n / 262144 % 8 + 0xF0) - 0xF0)
      [continuation (n / 4096), continuation (n / 64), continuation n] = Char.ofNat n := by
    refine (charOf_lead 0xF0 [n / 4096, n / 64, n] (show n / 262144 % 8 + 0xF0 < 256 by omega)).trans
      (congrArg Char.ofNat ?_)
    simp only [List.foldl_cons, List.foldl_nil]
    omega
  rw [← hchar]
  exact nextChar_of_four (by omega) (by omega) (isSecondOfFour_continuation (by omega) (by omega))
    (isContinuation_continuation _) (isContinuation_continuation n)

/-- What a character is written as is read as this character, whatever follows. -/
theorem nextChar_utf8EncodeChar (c : Char) :
    ∃ b bs, String.utf8EncodeChar c = b :: bs ∧ ∀ rest, nextChar b (bs ++ rest) = (some c, bs.length) := by
  have hc : Char.ofNat c.toNat = c := Char.ofNat_toNat c
  have hvalid : c.toNat < 0xD800 ∨ 0xDFFF < c.toNat ∧ c.toNat < 0x110000 := c.valid
  rw [String.utf8EncodeChar.eq_def]
  simp only [Char.toNat_val]
  generalize c.toNat = n at hc hvalid
  subst hc
  by_cases hone : n ≤ 0x7F
  · rw [if_pos hone]
    exact ⟨_, [], rfl, fun rest => nextChar_one hone⟩
  rw [if_neg hone]
  by_cases htwo : n ≤ 0x7FF
  · rw [if_pos htwo]
    exact ⟨_, [continuation n], rfl, fun rest => nextChar_two (by omega) htwo⟩
  rw [if_neg htwo]
  by_cases hthree : n ≤ 0xFFFF
  · rw [if_pos hthree]
    exact ⟨_, [continuation (n / 64), continuation n], rfl, fun rest => nextChar_three (by omega) hthree (by omega)⟩
  · rw [if_neg hthree]
    exact ⟨_, [continuation (n / 4096), continuation (n / 64), continuation n], rfl,
      fun rest => nextChar_four (by omega) (by omega)⟩

/-! ## Whole texts -/

/-- The bytes of a character are passed over once it is read. -/
theorem lossyFrom_length_append (bs rest : Bytes) (done : Text) :
    lossyFrom bs.length done (bs ++ rest) = lossyFrom 0 done rest := by
  induction bs with
  | nil => rfl
  | cons b bs ih => exact ih

theorem lossyFrom_ofText (done t : Text) : lossyFrom 0 done (ofText t) = done.reverse ++ t := by
  induction t generalizing done with
  | nil => rw [ofText, List.flatMap_nil, lossyFrom, List.append_nil]
  | cons c t ih =>
    obtain ⟨b, bs, hbytes, hnext⟩ := nextChar_utf8EncodeChar c
    have hcons : ofText (c :: t) = b :: (bs ++ ofText t) := by rw [ofText, List.flatMap_cons, hbytes]; rfl
    rw [hcons, lossyFrom]
    simp only [hnext, Option.getD_some]
    rw [lossyFrom_length_append, ih, List.reverse_cons, List.append_assoc]
    rfl

/-- The bytes of a text are read back as the text. -/
theorem toTextLossy_ofText (t : Text) : toTextLossy (ofText t) = t := lossyFrom_ofText [] t

end LogDiagram.Bytes
