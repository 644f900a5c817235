import Mathlib.Data.List.Infix
import LogDiagram.Bytes.Slice
import LogDiagram.Proofs.Bytes.Utf8

/-!
# Searching and slicing by bytes

A search over the bytes of a text gives an offset in bytes, and a slice between two offsets is a text only if both stand
between characters. The first byte of a character is never one inside a character, so the bytes of a text are found in
those of another one only where the text itself stands.

* `Bytes.find?`: a search for bytes;
* `Bytes.exists_of_prefix_drop`: bytes of a text that stand at an offset are an occurrence of the text;
* `Bytes.find?_ofText`: the search gives the length of what stands before the first occurrence;
* `Bytes.slice_ofText`: a slice between characters is the text between them.
-/

namespace LogDiagram.Bytes

variable {s t a b : Text} {i : Nat}

/-- The offset of the first place where `sub` stands in bytes. -/
def find? (sub bs : Bytes) : Option Nat := (List.range (bs.length + 1)).find? fun i => sub.isPrefixOf (bs.drop i)

/-! ## The bytes of a text -/

theorem ofText_append (a b : Text) : ofText (a ++ b) = ofText a ++ ofText b := List.flatMap_append

theorem ofText_cons (c : Char) (t : Text) : ofText (c :: t) = String.utf8EncodeChar c ++ ofText t := List.flatMap_cons

/-- A byte that a character starts with is below or above those inside a character. -/
theorem isContinuation_eq_false {n : Nat} (hsize : n < 256) (h : n < 0x80 ∨ 0xC0 ≤ n) :
    isContinuation (UInt8.ofNat n) = false := by
  rw [← Bool.not_eq_true, isContinuation, between_iff, UInt8.toNat_ofNat_of_lt' hsize]
  show ¬(0x80 ≤ n ∧ n ≤ 0xBF)
  omega

/-- The first byte of a character is none inside a character, and all others are. -/
theorem exists_utf8EncodeChar_eq (c : Char) :
    ∃ first rest, String.utf8EncodeChar c = first :: rest ∧ isContinuation first = false ∧
      ∀ b ∈ rest, isContinuation b = true := by
  rw [String.utf8EncodeChar.eq_def]
  simp only [Char.toNat_val]
  generalize c.toNat = n
  by_cases hone : n ≤ 0x7F
  · rw [if_pos hone]
    exact ⟨_, [], rfl, isContinuation_eq_false (by omega) (by omega), by simp⟩
  rw [if_neg hone]
  by_cases htwo : n ≤ 0x7FF
  · rw [if_pos htwo]
    refine ⟨_, [continuation n], rfl, isContinuation_eq_false (by omega) (by omega), ?_⟩
    simp [isContinuation_continuation]
  rw [if_neg htwo]
  by_cases hthree : n ≤ 0xFFFF
  · rw [if_pos hthree]
    refine ⟨_, [continuation (n / 64), continuation n], rfl, isContinuation_eq_false (by omega) (by omega), ?_⟩
    simp [isContinuation_continuation]
  · rw [if_neg hthree]
    refine ⟨_, [continuation (n / 4096), continuation (n / 64), continuation n], rfl,
      isContinuation_eq_false (by omega) (by omega), ?_⟩
    simp [isContinuation_continuation]

/-- Two texts whose bytes are equal in front start with the same character. -/
theorem eq_of_utf8EncodeChar_append {c d : Char} {x y : Bytes}
    (h : String.utf8EncodeChar c ++ x = String.utf8EncodeChar d ++ y) : c = d := by
  obtain ⟨first, rest, hc, hreadc⟩ := nextChar_utf8EncodeChar c
  obtain ⟨first', rest', hd, hreadd⟩ := nextChar_utf8EncodeChar d
  rw [hc, hd, List.cons_append, List.cons_append, List.cons.injEq] at h
  obtain ⟨rfl, hrest⟩ := h
  have hread := hreadc x
  rw [hrest, hreadd y, Prod.mk.injEq, Option.some.injEq] at hread
  exact hread.1.symm

/-- The bytes of a text stand in front of those of another one only if the text itself does. -/
theorem prefix_of_ofText_prefix (h : ofText s <+: ofText t) : s <+: t := by
  induction s generalizing t with
  | nil => exact List.nil_prefix
  | cons c s ih =>
    obtain ⟨first, rest, hc, -, -⟩ := exists_utf8EncodeChar_eq c
    cases t with
    | nil =>
      rw [ofText_cons, hc] at h
      cases List.prefix_nil.1 h
    | cons d t =>
      rw [ofText_cons, ofText_cons] at h
      obtain ⟨x, hx⟩ := h
      rw [List.append_assoc] at hx
      obtain rfl := eq_of_utf8EncodeChar_append hx
      exact List.cons_prefix_cons.2 ⟨rfl, ih ⟨x, List.append_cancel_left hx⟩⟩

/-- An offset whose byte is none inside a character stands between two characters. -/
theorem exists_eq_append_of_not_isContinuation {x : Bytes} {first : UInt8} (hfirst : isContinuation first = false)
    (h : (ofText t).drop i = first :: x) : ∃ a b, t = a ++ b ∧ i = (ofText a).length := by
  induction t generalizing i with
  | nil => rw [ofText, List.flatMap_nil, List.drop_nil] at h; cases h
  | cons c t ih =>
    rw [ofText_cons] at h
    rcases Nat.lt_or_ge i (String.utf8EncodeChar c).length with hi | hi
    · obtain ⟨lead, rest, hc, -, hrest⟩ := exists_utf8EncodeChar_eq c
      rw [List.drop_append_of_le_length (Nat.le_of_lt hi), hc] at h
      cases i with
      | zero => exact ⟨[], c :: t, rfl, rfl⟩
      | succ i =>
        -- the offset is inside the character
        rw [hc, List.length_cons, Nat.add_lt_add_iff_right] at hi
        rw [List.drop_succ_cons, List.drop_eq_getElem_cons hi, List.cons_append, List.cons.injEq] at h
        rw [← h.1, hrest _ (List.getElem_mem hi)] at hfirst
        cases hfirst
    · obtain ⟨j, rfl⟩ := Nat.exists_eq_add_of_le hi
      rw [List.drop_append, List.drop_of_length_le (Nat.le_add_right _ j), Nat.add_sub_cancel_left,
        List.nil_append] at h
      obtain ⟨a, b, rfl, rfl⟩ := ih h
      exact ⟨c :: a, b, rfl, by rw [ofText_cons, List.length_append]⟩

/-- Where the bytes of a text stand in those of another one, the text itself stands. -/
theorem exists_of_prefix_drop (hs : s ≠ []) (h : ofText s <+: (ofText t).drop i) :
    ∃ a b, t = a ++ s ++ b ∧ i = (ofText a).length := by
  obtain ⟨c, s', rfl⟩ := List.exists_cons_of_ne_nil hs
  obtain ⟨first, rest, hc, hfirst, -⟩ := exists_utf8EncodeChar_eq c
  obtain ⟨x, hx⟩ := h
  have hdrop : (ofText t).drop i = first :: (rest ++ ofText s' ++ x) := by
    rw [← hx, ofText_cons, hc]
    simp
  obtain ⟨a, b, rfl, rfl⟩ := exists_eq_append_of_not_isContinuation hfirst hdrop
  rw [ofText_append, List.drop_left] at hx
  obtain ⟨b', rfl⟩ := prefix_of_ofText_prefix ⟨x, hx⟩
  exact ⟨a, b', by rw [List.append_assoc], rfl⟩

/-! ## Searches -/

theorem find?_eq_some_iff {sub bs : Bytes} :
    find? sub bs = some i ↔ i ≤ bs.length ∧ sub <+: bs.drop i ∧ ∀ j < i, ¬sub <+: bs.drop j := by
  simp only [find?, List.find?_range_eq_some, List.mem_range, Nat.lt_succ_iff, List.isPrefixOf_iff_prefix,
    Bool.not_eq_true', ← Bool.not_eq_true]
  exact and_left_comm

theorem find?_eq_none_iff {sub bs : Bytes} : find? sub bs = none ↔ ∀ i ≤ bs.length, ¬sub <+: bs.drop i := by
  simp only [find?, List.find?_range_eq_none, Nat.lt_succ_iff, List.isPrefixOf_iff_prefix, Bool.not_eq_true',
    ← Bool.not_eq_true]

/-- The bytes of a text are first found behind those of what stands before its first occurrence. -/
theorem find?_ofText (s t : Text) :
    find? (ofText s) (ofText t) = (s.cut? t).map fun parts => (ofText parts.1).length := by
  cases hcut : s.cut? t with
  | some parts =>
    obtain ⟨a, b⟩ := parts
    obtain ⟨rfl, hfirst⟩ := Text.cut?_eq_some_iff.1 hcut
    have hdrop : (ofText (a ++ s ++ b)).drop (ofText a).length = ofText s ++ ofText b := by
      rw [List.append_assoc, ofText_append, ofText_append, List.drop_left]
    rw [Option.map_some, find?_eq_some_iff, hdrop]
    refine ⟨?_, List.prefix_append _ _, fun j (hj : j < (ofText a).length) hprefix => ?_⟩
    · rw [List.append_assoc, ofText_append, List.length_append]
      exact Nat.le_add_right _ _
    · -- an earlier place would be an earlier occurrence
      have hs : s ≠ [] := by
        rintro rfl
        have hle := hfirst [] (a ++ b) (by simp)
        rw [List.eq_nil_of_length_eq_zero (Nat.le_zero.1 hle)] at hj
        exact absurd hj (Nat.not_lt_zero j)
      obtain ⟨a', b', heq, rfl⟩ := exists_of_prefix_drop hs hprefix
      have ha : a <+: a ++ s ++ b := ⟨s ++ b, by rw [List.append_assoc]⟩
      have ha' : a' <+: a ++ s ++ b := ⟨s ++ b', by rw [heq, List.append_assoc]⟩
      obtain ⟨x, rfl⟩ := List.prefix_of_prefix_length_le ha ha' (hfirst a' b' heq)
      rw [ofText_append, List.length_append] at hj
      omega
  | none =>
    have hno : Text.occursIn s t = false := by rw [← Text.cut?_isSome, hcut]; rfl
    rw [Option.map_none, find?_eq_none_iff]
    intro i _ hprefix
    have hs : s ≠ [] := by
      rintro rfl
      rw [Text.occursIn_nil] at hno
      cases hno
    obtain ⟨a, b, heq, -⟩ := exists_of_prefix_drop hs hprefix
    rw [Text.occursIn_iff.2 ⟨a, b, heq⟩] at hno
    cases hno

/-! ## Slices -/

/-- What stands before a text ends between two characters. -/
theorem isBoundary_ofText (a b : Text) : isBoundary (ofText (a ++ b)) (ofText a).length = true := by
  rw [isBoundary, ofText_append]
  cases b with
  | nil => simp [ofText]
  | cons c b =>
    obtain ⟨first, rest, hc, hfirst, -⟩ := exists_utf8EncodeChar_eq c
    simp [ofText_cons, hc, hfirst]

/-- A slice between characters is the text between them. -/
theorem slice_ofText (a v b : Text) :
    slice (ofText (a ++ v ++ b)) (ofText a).length ((ofText a).length + (ofText v).length) = .ok (ofText v) := by
  have hstart : isBoundary (ofText (a ++ v ++ b)) (ofText a).length = true := by
    rw [List.append_assoc]
    exact isBoundary_ofText a (v ++ b)
  have hstop : isBoundary (ofText (a ++ v ++ b)) ((ofText a).length + (ofText v).length) = true := by
    rw [← List.length_append, ← ofText_append]
    exact isBoundary_ofText (a ++ v) b
  have hlength : (ofText (a ++ v ++ b)).length = (ofText a).length + (ofText v).length + (ofText b).length := by
    rw [ofText_append, ofText_append, List.length_append, List.length_append]
  have hdrop : (ofText (a ++ v ++ b)).drop (ofText a).length = ofText v ++ ofText b := by
    rw [List.append_assoc, ofText_append, ofText_append, List.drop_left]
  rw [slice, if_neg (by omega), hstart, hstop, hdrop, Nat.add_sub_cancel_left, List.take_left]
  rfl

end LogDiagram.Bytes
