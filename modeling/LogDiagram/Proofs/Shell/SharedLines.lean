import LogDiagram.Shell.Order
import Mathlib.Order.Compare

/-!
# Lines that two files share

`mergeColumns` goes through two files side by side and shows each line in a column: those that only one file has, and those
that both have. The columns of a file together are the file, whatever it holds (`files_of_mergeColumns`). If both files are
in order then no line is shown as missing in each of them, so the columns count what the files share
(`count_mergeColumns`), and nothing is found out of order (`mergeColumns_of_inOrder`). Lines that are sorted are in order
(`inOrder_mergeSort`).
-/

namespace LogDiagram.Shell

instance lawfulEqCmp_toNat : Std.LawfulEqCmp (compareOn Char.toNat) :=
  ⟨fun h => Char.toNat_inj.mp (Nat.compare_eq_eq.mp h)⟩

instance : Std.TransCmp compareTexts := inferInstanceAs (Std.TransCmp (List.compareLex (compareOn Char.toNat)))

instance : Std.LawfulEqCmp compareTexts := inferInstanceAs (Std.LawfulEqCmp (List.compareLex (compareOn Char.toNat)))

theorem compareTexts_self (a : Text) : compareTexts a a = .eq := Std.ReflCmp.compare_self

theorem compareTexts_swap (a b : Text) : compareTexts a b = (compareTexts b a).swap := Std.OrientedCmp.eq_swap

/-- A file whose lines are in order. -/
def InOrder (lines : List Text) : Prop := lines.Pairwise fun a b => compareTexts a b ≠ .gt

/-- The lines that are shown in some columns. -/
def shownIn (columns : List Nat) (shown : List (Nat × Text)) : List Text :=
  (shown.filter fun entry => columns.contains entry.1).map (·.2)

/-- Each line of two files is shown once, and one that both have next in the column for both. -/
inductive Merged : List Text → List Text → List (Nat × Text) → Prop
  | nil : Merged [] [] []
  | left {left right : List Text} {shown : List (Nat × Text)} (a : Text) :
      (∀ b ∈ right.head?, compareTexts a b = .lt) → Merged left right shown → Merged (a :: left) right ((1, a) :: shown)
  | right {left right : List Text} {shown : List (Nat × Text)} (b : Text) :
      (∀ a ∈ left.head?, compareTexts b a = .lt) → Merged left right shown → Merged left (b :: right) ((2, b) :: shown)
  | both {left right : List Text} {shown : List (Nat × Text)} (a : Text) :
      Merged left right shown → Merged (a :: left) (a :: right) ((3, a) :: shown)

/-- Two files are gone through in that way. -/
theorem merged_mergeColumns : ∀ {fuel : Nat} {merger : Merger} {left right : List Text},
    left.length + right.length < fuel → Merged left right (mergeColumns fuel merger left right).1
  | 0, _, _, _, h => absurd h (Nat.not_lt_zero _)
  | fuel + 1, _, [], [], _ => .nil
  | fuel + 1, _, a :: left, [], h => .left a (by simp) (merged_mergeColumns (by simpa using h))
  | fuel + 1, _, [], b :: right, h => .right b (by simp) (merged_mergeColumns (by simpa using h))
  | fuel + 1, merger, a :: left, b :: right, h => by
    rw [List.length_cons, List.length_cons] at h
    rw [mergeColumns]
    split
    · rename_i heq
      obtain rfl := Std.LawfulEqCmp.eq_of_compare heq
      exact .both a (merged_mergeColumns (by omega))
    · rename_i hlt
      exact .left a (by simpa using hlt) (merged_mergeColumns (by rw [List.length_cons]; omega))
    · rename_i hgt
      have hlt : compareTexts b a = .lt := by rw [compareTexts_swap, hgt]; rfl
      exact .right b (by simpa using hlt) (merged_mergeColumns (by rw [List.length_cons]; omega))

namespace Merged

variable {left right : List Text} {shown : List (Nat × Text)}

theorem left_eq (h : Merged left right shown) : shownIn [1, 3] shown = left := by
  induction h with
  | nil => rfl
  | left a _ _ ih | right a _ _ ih | both a _ ih => simpa [shownIn] using ih

theorem right_eq (h : Merged left right shown) : shownIn [2, 3] shown = right := by
  induction h with
  | nil => rfl
  | left a _ _ ih | right a _ _ ih | both a _ ih => simpa [shownIn] using ih

/-- A line in front of the next one of a file that is in order stands nowhere in that file. -/
theorem not_mem_of_before {a : Text} {lines : List Text} (horder : InOrder lines)
    (hhead : ∀ b ∈ lines.head?, compareTexts a b = .lt) : a ∉ lines := by
  cases lines with
  | nil => exact List.not_mem_nil
  | cons b rest =>
    have hlt : compareTexts a b = .lt := hhead b rfl
    intro hmem
    rcases List.mem_cons.mp hmem with rfl | hrest
    · rw [compareTexts_self] at hlt
      cases hlt
    · refine List.rel_of_pairwise_cons horder hrest ?_
      rw [compareTexts_swap, hlt]
      rfl

theorem mem_shownIn_cons {columns : List Nat} {column : Nat} {line t : Text} {shown : List (Nat × Text)} :
    t ∈ shownIn columns ((column, line) :: shown) ↔ column ∈ columns ∧ t = line ∨ t ∈ shownIn columns shown := by
  unfold shownIn
  by_cases h : column ∈ columns <;> simp [h]

theorem shownIn_mono {columns more : List Nat} (hsubset : columns ⊆ more) {t : Text} {shown : List (Nat × Text)}
    (ht : t ∈ shownIn columns shown) : t ∈ shownIn more shown := by
  induction shown with
  | nil => exact ht
  | cons entry shown ih =>
    rw [mem_shownIn_cons] at ht ⊢
    exact ht.imp (fun h => ⟨hsubset h.1, h.2⟩) ih

theorem mem_left (h : Merged left right shown) {t : Text} (ht : t ∈ shownIn [1] shown) : t ∈ left :=
  h.left_eq ▸ shownIn_mono (by simp) ht

theorem mem_right (h : Merged left right shown) {t : Text} (ht : t ∈ shownIn [2] shown) : t ∈ right :=
  h.right_eq ▸ shownIn_mono (by simp) ht

/-- Of files that are in order, no line is shown as one that the first lacks and as one that the second lacks. -/
theorem not_missing_twice (h : Merged left right shown) (hleft : InOrder left) (hright : InOrder right) {t : Text}
    (ht : t ∈ shownIn [1] shown) : t ∉ shownIn [2] shown := by
  induction h with
  | nil => exact List.not_mem_nil
  | left a hhead hmerged ih =>
    rw [mem_shownIn_cons] at ht ⊢
    rintro (⟨hcolumn, -⟩ | hmem)
    · simp at hcolumn
    rcases ht with ⟨-, rfl⟩ | ht
    · exact not_mem_of_before hright hhead (hmerged.mem_right hmem)
    · exact ih hleft.of_cons hright ht hmem
  | right b hhead hmerged ih =>
    rw [mem_shownIn_cons] at ht ⊢
    rcases ht with ⟨hcolumn, -⟩ | ht
    · simp at hcolumn
    rintro (⟨-, rfl⟩ | hmem)
    · exact not_mem_of_before hleft hhead (hmerged.mem_left ht)
    · exact ih hleft hright.of_cons ht hmem
  | both a hmerged ih =>
    rw [mem_shownIn_cons] at ht ⊢
    simp only [List.mem_singleton, Nat.reduceEqDiff, false_and, false_or] at ht ⊢
    exact ih hleft.of_cons hright.of_cons ht

theorem count_shownIn {i j : Nat} (hne : i ≠ j) (shown : List (Nat × Text)) (t : Text) :
    (shownIn [i, j] shown).count t = (shownIn [i] shown).count t + (shownIn [j] shown).count t := by
  induction shown with
  | nil => rfl
  | cons entry shown ih =>
    have hcons (columns : List Nat) : (shownIn columns (entry :: shown)).count t =
        (if entry.1 ∈ columns then if entry.2 = t then 1 else 0 else 0) + (shownIn columns shown).count t := by
      unfold shownIn
      by_cases hcolumn : entry.1 ∈ columns <;> by_cases hline : entry.2 = t <;> simp [hcolumn, hline, Nat.add_comm]
    rw [hcons, hcons, hcons, ih]
    have hpair : (if entry.1 ∈ [i, j] then if entry.2 = t then 1 else 0 else 0) =
        (if entry.1 ∈ [i] then if entry.2 = t then 1 else 0 else 0) +
          (if entry.1 ∈ [j] then if entry.2 = t then 1 else 0 else 0) := by
      by_cases hi : entry.1 = i
      · simp [hi, hne]
      · simp [hi]
    omega

/-- The files share a line as often as the one has it that has it less often. -/
theorem count_shared (h : Merged left right shown) (hleft : InOrder left) (hright : InOrder right) (t : Text) :
    (shownIn [3] shown).count t = min (left.count t) (right.count t) := by
  have hfirst := count_shownIn (i := 1) (j := 3) (by decide) shown t
  have hsecond := count_shownIn (i := 2) (j := 3) (by decide) shown t
  rw [h.left_eq] at hfirst
  rw [h.right_eq] at hsecond
  by_cases hone : t ∈ shownIn [1] shown
  · have hzero := List.count_eq_zero_of_not_mem (h.not_missing_twice hleft hright hone)
    omega
  · have hzero := List.count_eq_zero_of_not_mem hone
    omega

end Merged

/-! ## What is printed -/

variable {fuel : Nat} {merger : Merger} {left right : List Text}

/-- **The columns of a file, taken together, are the file; no line is lost or moved.** -/
theorem files_of_mergeColumns (hfuel : left.length + right.length < fuel) :
    shownIn [1, 3] (mergeColumns fuel merger left right).1 = left ∧
      shownIn [2, 3] (mergeColumns fuel merger left right).1 = right :=
  ⟨(merged_mergeColumns hfuel).left_eq, (merged_mergeColumns hfuel).right_eq⟩

/-- **Of files that are in order, the third column has each line as often as both files have it.** -/
theorem count_mergeColumns (hfuel : left.length + right.length < fuel) (hleft : InOrder left) (hright : InOrder right)
    (t : Text) :
    (shownIn [3] (mergeColumns fuel merger left right).1).count t = min (left.count t) (right.count t) :=
  (merged_mergeColumns hfuel).count_shared hleft hright t

theorem isWrong_of_inOrder {a : Text} {rest : List Text} (h : InOrder (a :: rest)) : merger.isWrong a rest = false := by
  unfold Merger.isWrong
  cases rest with
  | nil => simp
  | cons b rest =>
    have hne := List.rel_of_pairwise_cons h List.mem_cons_self
    simp [beq_eq_false_iff_ne.mpr hne]

/-- Nothing is found out of order in files that are in order. -/
theorem mergeColumns_of_inOrder : ∀ (fuel : Nat) (merger : Merger) {left right : List Text},
    InOrder left → InOrder right →
    (mergeColumns fuel merger left right).2.isWrongLeft = merger.isWrongLeft ∧
      (mergeColumns fuel merger left right).2.isWrongRight = merger.isWrongRight
  | 0, _, _, _, _, _ => ⟨rfl, rfl⟩
  | fuel + 1, _, [], [], _, _ => ⟨rfl, rfl⟩
  | fuel + 1, merger, a :: left, [], hleft, hright => by
    obtain ⟨hl, hr⟩ := mergeColumns_of_inOrder fuel ({ merger with
      hasOdd := true, isWrongLeft := merger.isWrongLeft || Merger.isWrong { merger with hasOdd := true } a left })
      hleft.of_cons hright
    exact ⟨hl.trans (by simp [isWrong_of_inOrder hleft]), hr⟩
  | fuel + 1, merger, [], b :: right, hleft, hright => by
    obtain ⟨hl, hr⟩ := mergeColumns_of_inOrder fuel ({ merger with
      hasOdd := true, isWrongRight := merger.isWrongRight || Merger.isWrong { merger with hasOdd := true } b right })
      hleft hright.of_cons
    exact ⟨hl, hr.trans (by simp [isWrong_of_inOrder hright])⟩
  | fuel + 1, merger, a :: left, b :: right, hleft, hright => by
    rw [mergeColumns]
    split
    · obtain ⟨hl, hr⟩ := mergeColumns_of_inOrder fuel ({ merger with
        isWrongLeft := merger.isWrongLeft || merger.isWrong a left
        isWrongRight := merger.isWrongRight || merger.isWrong b right }) hleft.of_cons hright.of_cons
      exact ⟨hl.trans (by simp [isWrong_of_inOrder hleft]), hr.trans (by simp [isWrong_of_inOrder hright])⟩
    · obtain ⟨hl, hr⟩ := mergeColumns_of_inOrder fuel ({ merger with
        hasOdd := true, isWrongLeft := merger.isWrongLeft || Merger.isWrong { merger with hasOdd := true } a left })
        hleft.of_cons hright
      exact ⟨hl.trans (by simp [isWrong_of_inOrder hleft]), hr⟩
    · obtain ⟨hl, hr⟩ := mergeColumns_of_inOrder fuel ({ merger with
        hasOdd := true, isWrongRight := merger.isWrongRight || Merger.isWrong { merger with hasOdd := true } b right })
        hleft hright.of_cons
      exact ⟨hl, hr.trans (by simp [isWrong_of_inOrder hright])⟩

/-! ## Sorted lines -/

/-- The order in which lines are sorted if nothing is said about it. -/
def plainOrder : SortOrder := ⟨none, [], [], false⟩

theorem compare_plainOrder (a b : Text) : plainOrder.compare a b = compareTexts a b := by
  have hkeys : plainOrder.byKeys a b = compareTexts a b := rfl
  rw [SortOrder.compare, hkeys]
  cases h : compareTexts a b <;> rfl

/-- **Lines that are sorted are the same lines, in the order that two files to be compared must have.** -/
theorem inOrder_mergeSort (lines : List Text) :
    InOrder (lines.mergeSort fun a b => plainOrder.compare a b != .gt) ∧
      (lines.mergeSort fun a b => plainOrder.compare a b != .gt).Perm lines := by
  refine ⟨?_, List.mergeSort_perm lines _⟩
  have hsorted : (lines.mergeSort fun a b => plainOrder.compare a b != .gt).Pairwise
      fun a b => (plainOrder.compare a b != .gt) = true := by
    apply List.pairwise_mergeSort
    · intro a b c hab hbc
      simp only [compare_plainOrder, bne_iff_ne, ← Ordering.isLE_iff_ne_gt] at hab hbc ⊢
      exact Std.TransCmp.isLE_trans hab hbc
    · intro a b
      rw [compare_plainOrder, compare_plainOrder, compareTexts_swap b a]
      cases compareTexts a b <;> rfl
  exact hsorted.imp fun h => by simpa [compare_plainOrder] using h

end LogDiagram.Shell
