import Mathlib.Data.List.Infix
import LogDiagram.Text.Replace

/-!
# What a replaced text holds

A pass over a text may put pieces side by side that were apart before, and so may bring forth texts that did not stand
there. It does not if what it puts in has nothing in common with them: no part of an occurrence can then lie in what
was put in.

* `Text.Apart`: two texts of which neither stands in the other one and which do not overlap;
* `Text.occursIn_around`: a text that is apart from the middle of another one stands on one side of the middle;
* `Text.not_occursIn_replaceAll`: nothing that is apart from the new text comes forth;
* `Text.not_occursIn_replaceAll_self`: the old text is gone if it is apart from the new one.
-/

namespace LogDiagram.Text

variable {sub new s r t a b : Text}

theorem occursIn_iff_isInfix : occursIn s t ↔ s <:+: t := by
  rw [occursIn_iff]
  exact ⟨fun ⟨a, b, h⟩ => ⟨a, b, h.symm⟩, fun ⟨a, b, h⟩ => ⟨a, b, h.symm⟩⟩

theorem occursIn_eq_false_iff : occursIn s t = false ↔ ¬s <:+: t := by
  rw [← occursIn_iff_isInfix, Bool.not_eq_true]

/-- Neither of two texts stands in the other one, and no end of one of them is a start of the other one. -/
structure Apart (s r : Text) : Prop where
  not_infix : ¬s <:+: r
  not_infix' : ¬r <:+: s
  eq_nil_of_end_start : ∀ u, u <:+ s → u <+: r → u = []
  eq_nil_of_start_end : ∀ u, u <+: s → u <:+ r → u = []

theorem Apart.symm (h : Apart s r) : Apart r s where
  not_infix := h.not_infix'
  not_infix' := h.not_infix
  eq_nil_of_end_start u hend hstart := h.eq_nil_of_start_end u hstart hend
  eq_nil_of_start_end u hstart hend := h.eq_nil_of_end_start u hend hstart

theorem apart_iff_forall_mem :
    Apart s r ↔ ¬s <:+: r ∧ ¬r <:+: s ∧ (∀ u ∈ s.tails, u <+: r → u = []) ∧ ∀ u ∈ s.inits, u <:+ r → u = [] := by
  simp only [List.mem_tails, List.mem_inits]
  exact ⟨fun ⟨h₁, h₂, h₃, h₄⟩ => ⟨h₁, h₂, h₃, h₄⟩, fun ⟨h₁, h₂, h₃, h₄⟩ => ⟨h₁, h₂, h₃, h₄⟩⟩

instance : Decidable (Apart s r) := decidable_of_iff _ apart_iff_forall_mem.symm

/-- A text that is apart from the front of another one stands behind the front, if it stands there at all. -/
theorem Apart.infix_of_infix_append (h : Apart s r) (hs : s <:+: r ++ b) : s <:+: b := by
  rcases List.infix_append_iff.1 hs with hr | hb | ⟨u, v, rfl, hu, hv⟩
  · exact absurd hr h.not_infix
  · exact hb
  · obtain rfl := h.eq_nil_of_start_end u (List.prefix_append u v) hu
    exact hv.isInfix

/-- A text that is apart from the middle of another one stands on one side of the middle. -/
theorem occursIn_around (h : Apart s r) (hs : s <:+: a ++ (r ++ b)) : s <:+: a ∨ s <:+: b := by
  rcases List.infix_append_iff.1 hs with ha | hrb | ⟨u, v, rfl, hu, hv⟩
  · exact .inl ha
  · exact .inr (h.infix_of_infix_append hrb)
  · -- the part behind the front ends in the middle or holds all of it
    rcases List.prefix_or_prefix_of_prefix hv (List.prefix_append r b) with hvr | hrv
    · obtain rfl := h.eq_nil_of_end_start v (List.suffix_append u v) hvr
      rw [List.append_nil]
      exact .inl hu.isInfix
    · exact absurd (hrv.isInfix.trans (List.suffix_append u v).isInfix) h.not_infix'

/-- What holds of texts without an occurrence and passes on to a text from what stands behind its first occurrence. -/
theorem cut?_induction {P : Text → Prop} (hsub : sub ≠ []) (stop : ∀ t, occursIn sub t = false → P t)
    (go : ∀ t a b, cut? sub t = some (a, b) → P b → P t) (t : Text) : P t := by
  induction hlength : t.length using Nat.strongRecOn generalizing t with
  | ind n ih =>
    cases hcut : cut? sub t with
    | none =>
      apply stop
      rw [← cut?_isSome, hcut, Option.isSome_none]
    | some parts =>
      obtain ⟨a, b⟩ := parts
      have hshorter : b.length < n := by
        have := List.length_pos_iff.2 hsub
        rw [← hlength, (cut?_eq_some_iff.1 hcut).1, List.length_append, List.length_append]
        omega
      exact go t a b hcut (ih b.length hshorter b rfl)

/-- Before the first occurrence there is none. -/
theorem not_infix_of_cut?_eq_some (hsub : sub ≠ []) (h : cut? sub t = some (a, b)) : ¬sub <:+: a := by
  obtain ⟨rfl, hmin⟩ := cut?_eq_some_iff.1 h
  rintro ⟨x, y, rfl⟩
  have hle := hmin x (y ++ sub ++ b) (by simp)
  have := List.length_pos_iff.2 hsub
  simp only [List.length_append] at hle
  omega

/-- A text that is apart from the new text does not come forth by a pass. -/
theorem not_occursIn_replaceAll (hsub : sub ≠ []) (happart : Apart s new) (h : occursIn s t = false) :
    occursIn s (replaceAll sub new t) = false := by
  induction t using cut?_induction hsub with
  | stop t hno => rw [replaceAll_of_not_occursIn hno, h]
  | go t a b hcut ih =>
    obtain rfl := (cut?_eq_some_iff.1 hcut).1
    rw [occursIn_eq_false_iff] at h ⊢
    have ha : ¬s <:+: a := fun hs => h (hs.trans ⟨[], sub ++ b, by simp⟩)
    have hb : ¬s <:+: b := fun hs => h (hs.trans ⟨a ++ sub, [], by simp⟩)
    rw [replaceAll_of_cut?_eq_some hsub hcut, List.append_assoc]
    intro hs
    rcases occursIn_around happart hs with hs | hs
    · exact ha hs
    · exact occursIn_eq_false_iff.1 (ih (occursIn_eq_false_iff.2 hb)) hs

/-- After a pass the old text is gone if it is apart from the new one. -/
theorem not_occursIn_replaceAll_self (hsub : sub ≠ []) (happart : Apart sub new) (t : Text) :
    occursIn sub (replaceAll sub new t) = false := by
  induction t using cut?_induction hsub with
  | stop t hno => rw [replaceAll_of_not_occursIn hno, hno]
  | go t a b hcut ih =>
    rw [occursIn_eq_false_iff] at ih ⊢
    rw [replaceAll_of_cut?_eq_some hsub hcut, List.append_assoc]
    intro hs
    rcases occursIn_around happart hs with hs | hs
    · exact not_infix_of_cut?_eq_some hsub hcut hs
    · exact ih hs

end LogDiagram.Text
