import Mathlib.Logic.Basic
import LogDiagram.Proofs.Bytes.Damaged
import LogDiagram.Settings.Basic
import LogDiagram.Unicode.Lowercase

/-!
# Levels in any case of letters

A level of the log may be written in any case of letters. Lower-casing takes characters to ASCII letters only if they
are ASCII letters, too; the one exception is the sign for kelvin, which becomes a `k`, and no level has one. So for
levels it makes no difference whether all of Unicode is put into small letters or ASCII only.

* `Unicode.lower_of_ascii`, `Unicode.exists_mem_lower_of_not_ascii`: the small forms of characters in ASCII and outside;
* `Settings.level?_eq`: a text names a level exactly if it is one in small letters.
-/

namespace LogDiagram

namespace Unicode

variable {c : Char} {n : Nat} {endsWord : Bool}

/-! ## Characters -/

/-- The only run of ASCII letters is the first one, and the only one that leads to ASCII letters is the kelvin sign. -/
theorem lowering_eq : FoldRun.lowering = ⟨0x41, 0x5A, 1, 32⟩ :: FoldRun.lowering.tail ∧
    ∀ run ∈ FoldRun.lowering.tail, 128 ≤ run.first ∧
      (128 ≤ (run.first : Int) + run.shift ∨ run = ⟨0x212A, 0x212A, 1, -8383⟩) := by
  decide +kernel

theorem lowerNumber_of_ascii (h : n < 128) : lowerNumber n = if 0x41 ≤ n ∧ n ≤ 0x5A then n + 32 else n := by
  obtain ⟨hruns, hothers⟩ := lowering_eq
  have hnone : (FoldRun.lowering.tail.findSome? fun run => run.moved? n) = none := by
    rw [List.findSome?_eq_none_iff]
    intro run hrun
    have := (hothers run hrun).1
    rw [FoldRun.moved?, if_neg (by omega)]
  rw [lowerNumber, hruns, List.findSome?_cons, hnone, FoldRun.moved?]
  by_cases hcapital : 0x41 ≤ n ∧ n ≤ 0x5A
  · rw [if_pos hcapital, if_pos ⟨hcapital.1, hcapital.2, Nat.mod_one _⟩]
    rfl
  · rw [if_neg hcapital, if_neg fun ⟨hlow, hhigh, _⟩ => hcapital ⟨hlow, hhigh⟩]
    rfl

theorem lowerNumber_of_not_ascii (h : 128 ≤ n) : 128 ≤ lowerNumber n ∨ lowerNumber n = 'k'.toNat := by
  obtain ⟨hruns, hothers⟩ := lowering_eq
  have hfirst : (⟨0x41, 0x5A, 1, 32⟩ : FoldRun).moved? n = none := by
    rw [FoldRun.moved?, if_neg (by simp only; omega)]
  rw [lowerNumber, hruns, List.findSome?_cons, hfirst]
  cases hmoved : FoldRun.lowering.tail.findSome? fun run => run.moved? n with
  | none => exact .inl h
  | some m =>
    obtain ⟨run, hrun, hm⟩ := List.exists_of_findSome?_eq_some hmoved
    rw [FoldRun.moved?, Option.ite_none_right_eq_some] at hm
    obtain ⟨⟨hlow, hhigh, -⟩, hm⟩ := hm
    obtain rfl := Option.some.inj hm
    rcases (hothers run hrun).2 with hshift | rfl
    · exact .inl (by rw [Option.getD_some]; omega)
    · obtain rfl : n = 0x212A := Nat.le_antisymm hhigh hlow
      exact .inr rfl

theorem lower_of_ascii (h : c.toNat < 128) : lower endsWord c = [c.toLower] := by
  have hnumbers : ∀ n < 128, Char.ofNat (if 0x41 ≤ n ∧ n ≤ 0x5A then n + 32 else n) = (Char.ofNat n).toLower := by
    decide
  have hdotted : c ≠ '\u0130' := by rintro rfl; exact absurd h (by decide)
  have hsigma : c ≠ 'Σ' := by rintro rfl; exact absurd h (by decide)
  rw [lower, if_neg hdotted, if_neg fun hboth => hsigma hboth.1, lowerNumber_of_ascii h, hnumbers _ h, Char.ofNat_toNat]

theorem not_le_of_not_ascii {last : Char} (h : 128 ≤ c.toNat) (hlast : last.toNat < 128) : ¬c.val ≤ last.val := by
  intro hle
  have hnumbers : c.toNat ≤ last.toNat := UInt32.le_iff_toNat_le.1 hle
  omega

theorem isLower_of_not_ascii (h : 128 ≤ c.toNat) : c.isLower = false := by
  have hletter : c.isLower = (decide ('a'.val ≤ c.val) && decide (c.val ≤ 'z'.val)) := rfl
  rw [hletter, decide_eq_false (not_le_of_not_ascii h (by decide)), Bool.and_false]

theorem toLower_of_not_ascii (h : 128 ≤ c.toNat) : c.toLower = c :=
  dif_neg fun hletter => not_le_of_not_ascii h (by decide) hletter.2

/-- The small form of a character outside ASCII is not made of small ASCII letters, but for a `k`. -/
theorem exists_mem_lower_of_not_ascii (endsWord : Bool) (h : 128 ≤ c.toNat) :
    ∃ d ∈ lower endsWord c, d.isLower = false ∨ d = 'k' := by
  rw [lower]
  by_cases hdotted : c = '\u0130'
  · rw [if_pos hdotted]
    exact ⟨'\u0307', by simp, .inl rfl⟩
  rw [if_neg hdotted]
  by_cases hsigma : c = 'Σ' ∧ endsWord = true
  · rw [if_pos hsigma]
    exact ⟨'ς', by simp, .inl rfl⟩
  rw [if_neg hsigma]
  refine ⟨_, List.mem_singleton_self _, ?_⟩
  rcases lowerNumber_of_not_ascii h with hlarge | hk
  · left
    by_cases hvalid : (lowerNumber c.toNat).isValidChar
    · exact isLower_of_not_ascii (by rwa [Bytes.toNat_ofNat hvalid])
    · rw [Char.ofNat, dif_neg hvalid]
      rfl
  · rw [hk]
    exact .inr rfl

end Unicode

/-! ## Texts -/

namespace Text

variable {t before : Text} {c : Char}

theorem lowerFrom_of_ascii (endsWord : Text → Text → Bool) (h : ∀ c ∈ t, c.toNat < 128) :
    lowerFrom endsWord before t = t.asciiLower := by
  induction t generalizing before with
  | nil => rfl
  | cons c t ih =>
    rw [List.forall_mem_cons] at h
    rw [lowerFrom, Unicode.lower_of_ascii h.1, ih h.2]
    rfl

/-- The small form of a text holds the small form of each character. -/
theorem exists_lower_subset_lowerFrom (endsWord : Text → Text → Bool) (before : Text) (h : c ∈ t) :
    ∃ atEnd, Unicode.lower atEnd c ⊆ lowerFrom endsWord before t := by
  induction t generalizing before with
  | nil => cases h
  | cons d t ih =>
    rw [lowerFrom]
    rcases List.mem_cons.1 h with rfl | hrest
    · exact ⟨_, List.subset_append_left _ _⟩
    · obtain ⟨atEnd, hsub⟩ := ih (d :: before) hrest
      exact ⟨atEnd, List.Subset.trans hsub (List.subset_append_right _ _)⟩

end Text

namespace Settings

variable {t : Text}

/-- Levels are made of small letters, and there is no `k` in them. -/
theorem isLower_of_mem_level : ∀ level ∈ levels, ∀ c ∈ level, c.isLower = true ∧ c ≠ 'k' := by
  have hall : (levels.all fun level => level.all fun c => c.isLower && c != 'k') = true := by decide
  simpa only [List.all_eq_true, Bool.and_eq_true, bne_iff_ne] using hall

/-- A text names a level exactly if it is one in small letters, and then it is that level. -/
theorem level?_eq (endsWord : Text → Text → Bool) (t : Text) :
    level? t = if levels.contains (t.lower endsWord) then some (t.lower endsWord) else none := by
  rw [level?]
  by_cases hascii : ∀ c ∈ t, c.toNat < 128
  · rw [Text.lower, Text.lowerFrom_of_ascii endsWord hascii]
  · -- a character outside ASCII stays in one small form, and leaves something strange in the other one
    simp only [not_forall, Nat.not_lt] at hascii
    obtain ⟨c, hc, hlarge⟩ := hascii
    have hno : t.asciiLower ∉ levels := fun hmem => by
      have hin : c ∈ t.asciiLower := List.mem_map.2 ⟨c, hc, Unicode.toLower_of_not_ascii hlarge⟩
      have := (isLower_of_mem_level _ hmem c hin).1
      rw [Unicode.isLower_of_not_ascii hlarge] at this
      cases this
    have hno' : t.lower endsWord ∉ levels := fun hmem => by
      obtain ⟨atEnd, hsub⟩ := Text.exists_lower_subset_lowerFrom endsWord [] hc
      obtain ⟨d, hd, hstrange⟩ := Unicode.exists_mem_lower_of_not_ascii atEnd hlarge
      obtain ⟨hlower, hk⟩ := isLower_of_mem_level _ hmem d (hsub hd)
      rcases hstrange with hstrange | rfl
      · rw [hstrange] at hlower
        cases hlower
      · exact hk rfl
    rw [if_neg (by rwa [List.contains_iff_mem]), if_neg (by rwa [List.contains_iff_mem])]

end Settings

end LogDiagram
