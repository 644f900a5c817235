import LogDiagram.Proofs.Bytes.Damaged
import LogDiagram.Proofs.Bytes.Offsets
import LogDiagram.Text.Preview

/-!
# Where a preview ends

The end of a preview goes back over the bytes of a line until it cuts no character. The start of the line is such a
place, so the search never steps below zero; a character has at most four bytes, so it steps back three times at most.

* `Bytes.IsLastBoundary`, `Bytes.boundaryUpTo?_eq_some_iff`, `Bytes.boundaryUpTo?_eq_none_iff`: the search gives the
  last place at which no character is cut, and fails only if there is none;
* `Text.exists_cut_within`: in a text it finds the end of a front part that fits, behind which the next character does
  not fit any more;
* `Text.IsLongestFront`, `Text.isLongestFront_frontWithin?`: the longest front part that fits comes out;
* `Text.preview_longest_front`: what a preview is, and where its end was found.
-/

namespace LogDiagram

/-! ## Lengths -/

namespace Text

theorem utf8Size_cons (c : Char) (t : Text) : utf8Size (c :: t) = c.utf8Size + utf8Size t := by
  rw [← List.singleton_append, utf8Size_append, utf8Size, List.foldl_cons, List.foldl_nil, Nat.zero_add]

end Text

namespace Bytes

variable {bs : Bytes} {t : Text} {limit offset stop : Nat}

theorem length_ofText (t : Text) : (ofText t).length = t.utf8Size := by
  induction t with
  | nil => rfl
  | cons c t ih => rw [ofText_cons, List.length_append, String.length_utf8EncodeChar, ih, Text.utf8Size_cons]

/-! ## The search for an end -/

/-- In a text no character is cut exactly behind a front part of it. -/
theorem isBoundary_ofText_iff :
    isBoundary (ofText t) offset = true ↔ ∃ front : Text, front <+: t ∧ offset = front.utf8Size := by
  constructor
  · intro h
    by_cases hoffset : offset < (ofText t).length
    · rw [isBoundary, dif_pos hoffset, Bool.not_eq_true'] at h
      obtain ⟨a, b, rfl, hlength⟩ := exists_eq_append_of_not_isContinuation h (List.drop_eq_getElem_cons hoffset)
      exact ⟨a, List.prefix_append a b, hlength.trans (length_ofText a)⟩
    · rw [isBoundary, dif_neg hoffset, beq_iff_eq, length_ofText] at h
      exact ⟨t, List.prefix_refl t, h⟩
  · rintro ⟨front, ⟨rest, rfl⟩, rfl⟩
    rw [← length_ofText]
    exact isBoundary_ofText front rest

/-- No character is cut at the offset, but one is at every later offset up to the limit. -/
structure IsLastBoundary (bs : Bytes) (limit stop : Nat) : Prop where
  le : stop ≤ limit
  isBoundary : bs.isBoundary stop = true
  last : ∀ offset ≤ limit, bs.isBoundary offset = true → offset ≤ stop

theorem isLastBoundary_self_iff (h : bs.isBoundary limit = true) : IsLastBoundary bs limit stop ↔ limit = stop := by
  constructor
  · intro hstop
    exact Nat.le_antisymm (hstop.last limit (Nat.le_refl _) h) hstop.le
  · rintro rfl
    exact ⟨Nat.le_refl _, h, fun offset hle _ => hle⟩

/-- The search may pass over an offset that is inside a character. -/
theorem isLastBoundary_succ_iff (h : bs.isBoundary (limit + 1) = false) :
    IsLastBoundary bs (limit + 1) stop ↔ IsLastBoundary bs limit stop := by
  have hlower : ∀ offset ≤ limit + 1, bs.isBoundary offset = true → offset ≤ limit := fun offset hle hoffset => by
    by_contra hlt
    obtain rfl : offset = limit + 1 := by omega
    rw [h] at hoffset
    cases hoffset
  constructor
  · intro hstop
    exact ⟨hlower stop hstop.le hstop.isBoundary, hstop.isBoundary,
      fun offset hle => hstop.last offset (Nat.le_succ_of_le hle)⟩
  · intro hstop
    exact ⟨Nat.le_succ_of_le hstop.le, hstop.isBoundary,
      fun offset hle hoffset => hstop.last offset (hlower offset hle hoffset) hoffset⟩

/-- The search gives the last place at which no character is cut. -/
theorem boundaryUpTo?_eq_some_iff : boundaryUpTo? bs limit = some stop ↔ IsLastBoundary bs limit stop := by
  induction limit with
  | zero =>
    rw [boundaryUpTo?]
    cases hzero : bs.isBoundary 0 with
    | true => rw [if_pos rfl, Option.some.injEq, isLastBoundary_self_iff hzero]
    | false =>
      refine iff_of_false nofun fun hstop => ?_
      have hboundary := hstop.isBoundary
      rw [Nat.le_zero.1 hstop.le, hzero] at hboundary
      cases hboundary
  | succ limit ih =>
    rw [boundaryUpTo?]
    cases hlast : bs.isBoundary (limit + 1) with
    | true => rw [if_pos rfl, Option.some.injEq, isLastBoundary_self_iff hlast]
    | false => rw [if_neg Bool.false_ne_true, ih, isLastBoundary_succ_iff hlast]

theorem boundaryUpTo?_eq_none_iff :
    boundaryUpTo? bs limit = none ↔ ∀ offset ≤ limit, bs.isBoundary offset = false := by
  induction limit with
  | zero => simp [boundaryUpTo?]
  | succ limit ih =>
    rw [boundaryUpTo?]
    constructor
    · intro h offset hle
      by_cases hlast : bs.isBoundary (limit + 1) = true
      · rw [if_pos hlast] at h
        cases h
      · rw [if_neg hlast, ih] at h
        rcases Nat.le_succ_iff.1 hle with hle | rfl
        · exact h offset hle
        · exact Bool.not_eq_true _ ▸ hlast
    · intro h
      rw [if_neg (by rw [h _ (Nat.le_refl _)]; exact Bool.false_ne_true), ih]
      exact fun offset hle => h offset (Nat.le_succ_of_le hle)

end Bytes

namespace Text

variable {line front : Text} {limit : Nat}

/-! ## Front parts that fit -/

/--
In a text that does not fit, the search ends behind a front part that fits and in front of a character that does not.
It cannot step below zero, since nothing is cut at the start of the text.
-/
theorem exists_cut_within (h : limit < line.utf8Size) :
    ∃ (front : Text) (c : Char) (rest : Text), line = front ++ c :: rest ∧
      (Bytes.ofText line).boundaryUpTo? limit = some front.utf8Size ∧ front.utf8Size ≤ limit ∧
      limit < front.utf8Size + c.utf8Size := by
  cases hstop : (Bytes.ofText line).boundaryUpTo? limit with
  | none =>
    have hstart : (Bytes.ofText line).isBoundary 0 = true := Bytes.isBoundary_ofText_iff.2 ⟨[], List.nil_prefix, rfl⟩
    rw [Bytes.boundaryUpTo?_eq_none_iff.1 hstop 0 (Nat.zero_le _)] at hstart
    cases hstart
  | some stop =>
    obtain ⟨hle, hboundary, hlast⟩ := Bytes.boundaryUpTo?_eq_some_iff.1 hstop
    obtain ⟨front, ⟨behind, rfl⟩, rfl⟩ := Bytes.isBoundary_ofText_iff.1 hboundary
    cases behind with
    | nil =>
      rw [List.append_nil] at h
      exact absurd h (Nat.not_lt.2 hle)
    | cons c rest =>
      refine ⟨front, c, rest, rfl, rfl, hle, ?_⟩
      have hsize : utf8Size (front ++ [c]) = front.utf8Size + c.utf8Size := by
        rw [utf8Size_append, utf8Size_cons]
        rfl
      -- the place behind the next character would be a later one
      by_contra hfits
      rw [Nat.not_lt, ← hsize] at hfits
      have hlater := hlast _ hfits (Bytes.isBoundary_ofText_iff.2 ⟨front ++ [c], ⟨rest, by simp⟩, rfl⟩)
      have := c.utf8Size_pos
      omega

/-- The front part fits into so many bytes, and every front part that fits is a front part of it. -/
structure IsLongestFront (limit : Nat) (line front : Text) : Prop where
  isPrefix : front <+: line
  fits : front.utf8Size ≤ limit
  longest : ∀ other : Text, other <+: line → other.utf8Size ≤ limit → other <+: front

/-- Of a line that does not fit, the slice up to the end that was found is made, and it is the front part. -/
theorem frontWithin?_of_cut {c : Char} {rest : Text} (h : limit < line.utf8Size) (hline : line = front ++ c :: rest)
    (hstop : (Bytes.ofText line).boundaryUpTo? limit = some front.utf8Size) :
    (Bytes.ofText line).slice 0 front.utf8Size = .ok (Bytes.ofText front) ∧ frontWithin? limit line = some front := by
  have hslice : (Bytes.ofText line).slice 0 front.utf8Size = .ok (Bytes.ofText front) := by
    have hfront := Bytes.slice_ofText [] front (c :: rest)
    rw [List.nil_append, ← hline, Bytes.length_ofText front] at hfront
    rwa [← Nat.zero_add front.utf8Size]
  refine ⟨hslice, ?_⟩
  simp only [frontWithin?, Bytes.length_ofText, if_neg (Nat.not_le.2 h), hstop, Option.bind_eq_bind, Option.bind_some,
    hslice, Except.toOption]
  exact Bytes.toText?_eq_some_iff.2 rfl

/-- The longest front part that fits comes out of every line. -/
theorem isLongestFront_frontWithin? (limit : Nat) (line : Text) :
    ∃ front, frontWithin? limit line = some front ∧ IsLongestFront limit line front := by
  by_cases hfits : line.utf8Size ≤ limit
  · refine ⟨line, ?_, List.prefix_refl line, hfits, fun other hother _ => hother⟩
    rw [frontWithin?, Bytes.length_ofText, if_pos hfits]
  · obtain ⟨front, c, rest, hline, hstop, hle, hnext⟩ := exists_cut_within (Nat.not_le.1 hfits)
    refine ⟨front, (frontWithin?_of_cut (Nat.not_le.1 hfits) hline hstop).2, ⟨c :: rest, hline.symm⟩, hle, ?_⟩
    intro other hother hsize
    rcases List.prefix_or_prefix_of_prefix hother ⟨c :: rest, hline.symm⟩ with hshort | ⟨behind, rfl⟩
    · exact hshort
    · -- a longer one would hold the next character
      rw [hline, List.prefix_append_right_inj] at hother
      cases behind with
      | nil => rw [List.append_nil]
      | cons d behind =>
        rw [List.cons_prefix_cons] at hother
        rw [utf8Size_append, utf8Size_cons, hother.1] at hsize
        omega

/--
A preview is the longest front part of the line, in whole characters, that has at most 200 bytes: it is always made. It
is the whole line exactly if that has at most 200 bytes. The end of any other one is sought backwards from there, found
after three steps at most, and the slice up to it cuts no character. The preview of a preview is the same.
-/
theorem preview_longest_front (line : Text) :
    frontWithin? 200 line = some (preview line) ∧ IsLongestFront 200 line (preview line) ∧
      (preview line = line ↔ line.utf8Size ≤ 200) ∧
      (200 < line.utf8Size → preview line ≠ line ∧ ∃ stop, 197 ≤ stop ∧ stop ≤ 200 ∧
        (Bytes.ofText line).boundaryUpTo? 200 = some stop ∧
        (Bytes.ofText line).slice 0 stop = .ok (Bytes.ofText (preview line)) ∧ (preview line).utf8Size = stop) ∧
      preview (preview line) = preview line := by
  have hmade : ∀ line, frontWithin? 200 line = some (preview line) ∧ IsLongestFront 200 line (preview line) := by
    intro line
    obtain ⟨front, hfront, hlongest⟩ := isLongestFront_frontWithin? 200 line
    have hpreview : preview line = front := by rw [preview, previewLimit, hfront, Option.getD_some]
    rw [hpreview]
    exact ⟨hfront, hlongest⟩
  have hwhole : ∀ {line : Text}, line.utf8Size ≤ 200 → preview line = line := fun {line} hfits => by
    obtain ⟨-, hlongest⟩ := hmade line
    exact hlongest.isPrefix.eq_of_length_le (hlongest.longest line (List.prefix_refl line) hfits).length_le
  obtain ⟨hsome, hlongest⟩ := hmade line
  refine ⟨hsome, hlongest, ⟨fun heq => heq ▸ hlongest.fits, hwhole⟩, fun hlong => ?_, hwhole hlongest.fits⟩
  obtain ⟨front, c, rest, hline, hstop, hle, hnext⟩ := exists_cut_within hlong
  obtain ⟨hslice, hfront⟩ := frontWithin?_of_cut hlong hline hstop
  obtain rfl : front = preview line := Option.some.inj (hfront.symm.trans hsome)
  have hwidth : c.utf8Size ≤ 4 := c.utf8Size_le_four
  refine ⟨fun heq => ?_, _, by omega, hle, hstop, hslice, rfl⟩
  rw [heq] at hle
  omega

/-- The last character that fits may leave three bytes free. -/
example : utf8Size (preview ('x' :: List.replicate 50 '😀')) = 197 := by decide +kernel

end Text

end LogDiagram
