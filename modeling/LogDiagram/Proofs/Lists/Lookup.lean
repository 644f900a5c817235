import Mathlib.Data.List.Basic
import Mathlib.Algebra.GroupWithZero.Nat

/-!
# Lists of keys and values

Both the tallies of a buffer and the entries of a tree of files are lists of keys and values in which a key is set by
taking its entries out and putting the new one in front; `lookup_filter_ne_self` and `lookup_filter_ne` are the facts on
taking a key out, and `lookup_filter_of_kept` is the one on leaving out others. The cells of a row are found by the
names in a header (`lookup_zip_of_mem`). If no key stands there twice, the order of the entries does not matter
(`lookup_eq_of_perm`), and a key that is taken out takes its value out of the sum of all values (`sum_filter_ne`).
-/

namespace LogDiagram

variable {α β : Type} [BEq α] [LawfulBEq α] {key other : α}

/-- A key that was taken out is not found. -/
theorem lookup_filter_ne_self (entries : List (α × β)) :
    (entries.filter fun entry => entry.1 != key).lookup key = none := by
  rw [List.lookup_eq_none_iff]
  intro entry hmem
  have hne := (List.mem_filter.1 hmem).2
  rw [bne_iff_ne] at hne
  exact bne_iff_ne.2 hne.symm

/-- A key that is none of the keys is not found. -/
theorem lookup_of_not_mem {entries : List (α × β)} (h : key ∉ entries.map (·.1)) : entries.lookup key = none := by
  rw [List.lookup_eq_none_iff]
  intro entry hmem
  exact bne_iff_ne.2 fun heq => h (heq ▸ List.mem_map_of_mem hmem)

/-- A key that is kept is found as before, whatever is left out. -/
theorem lookup_filter_of_kept {kept : α → Bool} (entries : List (α × β)) (h : kept key = true) :
    (entries.filter fun entry => kept entry.1).lookup key = entries.lookup key := by
  induction entries with
  | nil => rfl
  | cons entry rest ih =>
    obtain ⟨k, value⟩ := entry
    by_cases hk : key = k
    · subst hk
      simp [h]
    · have hne : (key == k) = false := beq_eq_false_iff_ne.2 hk
      cases hkept : kept k with
      | true => simp [hkept, List.lookup_cons, hne, ih]
      | false => simp [hkept, List.lookup_cons, hne, ih]

/-- The other keys are found as before. -/
theorem lookup_filter_ne (entries : List (α × β)) (h : other ≠ key) :
    (entries.filter fun entry => entry.1 != key).lookup other = entries.lookup other :=
  @lookup_filter_of_kept α β _ _ other (fun k => k != key) entries (bne_iff_ne.2 h)

/-- A key that stands there once is found with its value. -/
theorem lookup_zip_of_mem {keys : List α} {values : List β} {value : β}
    (hcount : keys.count key ≤ 1) (h : (key, value) ∈ keys.zip values) : (keys.zip values).lookup key = some value := by
  induction keys generalizing values with
  | nil => cases h
  | cons k keys ih =>
    cases values with
    | nil => cases h
    | cons v values =>
      rw [List.zip_cons_cons] at h ⊢
      rcases List.mem_cons.1 h with heq | hmem
      · obtain ⟨rfl, rfl⟩ := Prod.mk.inj heq
        exact List.lookup_cons_self
      · have hkey : key ∈ keys := (List.of_mem_zip hmem).1
        have hne : k ≠ key := by
          rintro rfl
          have hpos := List.count_pos_iff.2 hkey
          rw [List.count_cons_self] at hcount
          omega
        rw [List.count_cons_of_ne hne] at hcount
        rw [List.lookup_cons, beq_eq_false_iff_ne.2 hne.symm]
        exact ih hcount hmem

/-- If no key stands there twice, each key is found with every value that stands by it. -/
theorem lookup_eq_some_iff_mem {entries : List (α × β)} {value : β} (h : (entries.map (·.1)).Nodup) :
    entries.lookup key = some value ↔ (key, value) ∈ entries := by
  induction entries with
  | nil => simp
  | cons entry rest ih =>
    obtain ⟨k, v⟩ := entry
    rw [List.map_cons, List.nodup_cons] at h
    rw [List.lookup_cons, List.mem_cons, Prod.mk.injEq]
    by_cases hk : key = k
    · subst hk
      have hno : (key, value) ∉ rest := fun hmem => h.1 (List.mem_map_of_mem (f := (·.1)) hmem)
      simp [hno, eq_comm]
    · simp [beq_eq_false_iff_ne.2 hk, hk, ih h.2]

/-- If no key stands there twice, the order of the entries does not matter. -/
theorem lookup_eq_of_perm {entries entries' : List (α × β)} (hperm : entries.Perm entries')
    (h : (entries.map (·.1)).Nodup) : entries.lookup key = entries'.lookup key := by
  have h' : (entries'.map (·.1)).Nodup := (hperm.map (·.1)).nodup_iff.1 h
  apply Option.ext
  intro value
  rw [lookup_eq_some_iff_mem h, lookup_eq_some_iff_mem h', hperm.mem_iff]

/-- A key that is taken out takes its value out of the sum. -/
theorem sum_filter_ne {entries : List (α × Nat)} (h : (entries.map (·.1)).Nodup) (key : α) :
    ((entries.filter fun entry => entry.1 != key).map (·.2)).sum + (entries.lookup key).getD 0 =
      (entries.map (·.2)).sum := by
  induction entries with
  | nil => rfl
  | cons entry rest ih =>
    obtain ⟨k, v⟩ := entry
    rw [List.map_cons, List.nodup_cons] at h
    have hrest := ih h.2
    rw [List.map_cons, List.sum_cons, List.lookup_cons]
    by_cases hk : k = key
    · subst hk
      rw [lookup_of_not_mem h.1] at hrest
      simp only [List.filter_cons, bne_self_eq_false, Bool.false_eq_true, if_false, beq_self_eq_true, Option.getD_some]
      simp only [Option.getD_none] at hrest
      omega
    · simp only [List.filter_cons, bne_iff_ne.2 hk, if_true, List.map_cons, List.sum_cons,
        beq_eq_false_iff_ne.2 (Ne.symm hk)]
      omega

end LogDiagram
