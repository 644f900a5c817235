import LogDiagram.Proofs.Rule.Templates

/-!
# Filling in a tally

The occurrences of a text that cannot overlap itself cut a line into gaps, and there is only one way to do so. A pass
puts the new text between the same gaps. A numeral has no character in common with the place of a tally, so no such
place comes forth over the seams.

* `Text.AreGaps`: what stands in front of, between and behind the occurrences of a text;
* `Text.exists_areGaps`, `Text.AreGaps.unique`: every line has gaps, and only one list of them;
* `Text.AreGaps.replaceAll_eq`: a pass keeps the gaps;
* `Text.apart_of_disjoint`: texts without a common character share no piece;
* `Text.fillCount_between_gaps`: what filling in a tally does to a line.
-/

namespace LogDiagram.Text

variable {sub new t gap : Text} {gaps others : List Text}

/-! ## Gaps -/

/-- What stands in front of the occurrences of a text, between them and behind them. -/
structure AreGaps (sub t : Text) (gaps : List Text) : Prop where
  ne_nil : gaps ≠ []
  free : ∀ gap ∈ gaps, occursIn sub gap = false
  eq_joined : t = joined sub gaps

theorem joined_cons_of_ne_nil (sub gap : Text) (h : gaps ≠ []) :
    joined sub (gap :: gaps) = gap ++ sub ++ joined sub gaps := by
  cases gaps with
  | nil => exact absurd rfl h
  | cons next gaps => simp only [joined, List.intersperse_cons_cons, List.flatten_cons, List.append_assoc]

theorem exists_areGaps (hsub : sub ≠ []) (t : Text) : ∃ gaps, AreGaps sub t gaps := by
  induction t using cut?_induction hsub with
  | stop t hno => exact ⟨[t], List.cons_ne_nil _ _, by simpa using hno, by simp [joined]⟩
  | go t a b hcut ih =>
    obtain ⟨gaps, hne, hfree, rfl⟩ := ih
    obtain ⟨rfl, -⟩ := cut?_eq_some_iff.1 hcut
    refine ⟨a :: gaps, List.cons_ne_nil _ _, ?_, (joined_cons_of_ne_nil sub a hne).symm⟩
    rw [List.forall_mem_cons]
    exact ⟨occursIn_eq_false_iff.2 (not_infix_of_cut?_eq_some hsub hcut), hfree⟩

/-- Behind the first gap stands the first occurrence: one that starts in the gap would overlap this one. -/
theorem cut?_joined_cons (hsub : Unbordered sub) (hgap : occursIn sub gap = false) (h : gaps ≠ []) :
    cut? sub (joined sub (gap :: gaps)) = some (gap, joined sub gaps) := by
  rw [joined_cons_of_ne_nil sub gap h, cut?_eq_some_iff]
  refine ⟨rfl, fun a b hab => ?_⟩
  by_contra hlt
  rw [Nat.not_le] at hlt
  have hshort : a <+: gap ++ sub ++ joined sub gaps := ⟨sub ++ b, by rw [hab, List.append_assoc]⟩
  have hlong : gap <+: gap ++ sub ++ joined sub gaps := ⟨sub ++ joined sub gaps, by rw [List.append_assoc]⟩
  obtain ⟨inner, rfl⟩ := List.prefix_of_prefix_length_le hshort hlong (Nat.le_of_lt hlt)
  have hinner : inner ≠ [] := by
    rintro rfl
    rw [List.append_nil] at hlt
    exact Nat.lt_irrefl _ hlt
  have hstarts : sub <+: inner ++ (sub ++ joined sub gaps) := by
    rw [List.append_assoc, List.append_assoc, List.append_assoc, List.append_cancel_left_eq] at hab
    exact ⟨b, hab.symm⟩
  rw [prefix_append_iff hinner hsub.not_straddles_before] at hstarts
  exact occursIn_eq_false_iff.1 hgap (hstarts.isInfix.trans (List.suffix_append a inner).isInfix)

/-- The first gap is the whole text, or stands in front of the first occurrence, and the others are gaps behind it. -/
theorem AreGaps.cases_head (hsub : Unbordered sub) (h : AreGaps sub t (gap :: gaps)) :
    (occursIn sub t = false ∧ gap = t ∧ gaps = []) ∨
      ∃ rest, cut? sub t = some (gap, rest) ∧ AreGaps sub rest gaps := by
  obtain ⟨-, hfree, rfl⟩ := h
  rw [List.forall_mem_cons] at hfree
  by_cases hgaps : gaps = []
  · subst hgaps
    have hone : joined sub [gap] = gap := by simp [joined]
    rw [hone]
    exact .inl ⟨hfree.1, rfl, rfl⟩
  · exact .inr ⟨joined sub gaps, cut?_joined_cons hsub hfree.1 hgaps, hgaps, hfree.2, rfl⟩

/-- There is only one way to cut a text at all its occurrences. The induction goes from occurrence to occurrence. -/
theorem AreGaps.unique (hsub : Unbordered sub) (h : AreGaps sub t gaps) (h' : AreGaps sub t others) :
    others = gaps := by
  induction gaps generalizing t others with
  | nil => exact absurd rfl h.ne_nil
  | cons gap gaps ih =>
    cases others with
    | nil => exact absurd rfl h'.ne_nil
    | cons other others =>
      rcases h.cases_head hsub with ⟨hno, rfl, rfl⟩ | ⟨rest, hcut, hrest⟩ <;>
        rcases h'.cases_head hsub with ⟨hno', rfl, rfl⟩ | ⟨rest', hcut', hrest'⟩
      · rfl
      · rw [← cut?_isSome, hcut'] at hno
        cases hno
      · rw [← cut?_isSome, hcut] at hno'
        cases hno'
      · rw [hcut, Option.some.injEq, Prod.mk.injEq] at hcut'
        obtain ⟨rfl, rfl⟩ := hcut'
        rw [ih hrest hrest']

/-- A pass puts the new text in the place of each occurrence, between the same gaps. -/
theorem AreGaps.replaceAll_eq (hne : sub ≠ []) (hsub : Unbordered sub) (h : AreGaps sub t gaps) (new : Text) :
    replaceAll sub new t = joined new gaps := by
  induction gaps generalizing t with
  | nil => exact absurd rfl h.ne_nil
  | cons gap gaps ih =>
    rcases h.cases_head hsub with ⟨hno, rfl, rfl⟩ | ⟨rest, hcut, hrest⟩
    · rw [replaceAll_of_not_occursIn hno]
      simp [joined]
    · rw [replaceAll_of_cut?_eq_some hne hcut, ih hrest, joined_cons_of_ne_nil new gap hrest.ne_nil]

/-! ## Tallies -/

/-- Texts without a common character share no piece. -/
theorem apart_of_disjoint {s r : Text} (hs : s ≠ []) (hr : r ≠ []) (h : s.Disjoint r) : Apart s r := by
  have hcommon : ∀ u, u ⊆ s → u ⊆ r → u = [] := fun u hus hur =>
    List.eq_nil_iff_forall_not_mem.2 fun c hc => h (hus hc) (hur hc)
  exact
    { not_infix := fun hin => hs (hcommon s (List.Subset.refl s) hin.subset)
      not_infix' := fun hin => hr (hcommon r hin.subset (List.Subset.refl r))
      eq_nil_of_end_start := fun u hend hstart => hcommon u hend.subset hstart.subset
      eq_nil_of_start_end := fun u hstart hend => hcommon u hstart.subset hend.subset }

theorem isMark_countPlaceholder : IsMark '$' countPlaceholder := by decide

/-- A numeral shares no piece with the place of a tally, which has no digit in it. -/
theorem apart_countPlaceholder_ofNat (n : Nat) : Apart countPlaceholder (ofNat n) := by
  refine apart_of_disjoint isMark_countPlaceholder.ne_nil Nat.toDigits_ne_nil fun c hplace hnumeral => ?_
  have hdigits : (countPlaceholder.all fun c => !c.isDigit) = true := by decide
  have hdigit : c.isDigit = false := by simpa using List.all_eq_true.1 hdigits c hplace
  exact not_mem_ofNat hdigit n hnumeral

/--
Filling in a tally leaves no place for one, and filling in once more changes nothing. The places of a line cut it into
gaps, in one way only, and the line with its tally has the numeral between the same gaps.
-/
theorem fillCount_between_gaps (line : Text) :
    (∀ n, countPlaceholder.occursIn (line.fillCount n) = false) ∧
      (∀ n m, (line.fillCount n).fillCount m = line.fillCount n) ∧
      ∃ gaps, AreGaps countPlaceholder line gaps ∧ (∀ others, AreGaps countPlaceholder line others → others = gaps) ∧
        ∀ n, line.fillCount n = joined (ofNat n) gaps := by
  have hne := isMark_countPlaceholder.ne_nil
  have hmark := isMark_countPlaceholder.unbordered
  have hgone : ∀ n, countPlaceholder.occursIn (line.fillCount n) = false := fun n =>
    not_occursIn_replaceAll_self hne (apart_countPlaceholder_ofNat n) line
  obtain ⟨gaps, hgaps⟩ := exists_areGaps hne line
  exact ⟨hgone, fun n m => replaceAll_of_not_occursIn (hgone n), gaps, hgaps,
    fun others hothers => hgaps.unique hmark hothers, fun n => hgaps.replaceAll_eq hne hmark (ofNat n)⟩

/-- A numeral between the two halves of a place does not make a place of them. -/
example : fillCount "${cou${count}nt}".toList 7 = "${cou7nt}".toList := by decide

end LogDiagram.Text
