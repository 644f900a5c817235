import Mathlib.Data.List.Forall2

/-!
# Lists in step

What `List.Forall₂` says of two lists whose members belong together one by one.
-/

namespace LogDiagram

variable {α β γ : Type} {R : α → β → Prop} {as : List α} {bs : List β}

theorem forall_mem_of_forall₂_left {P : α → Prop} (h : List.Forall₂ R as bs) (hR : ∀ a b, R a b → P a) :
    ∀ a ∈ as, P a :=
  ((List.forall₂_and_left as bs).1 (h.imp fun a b hab => ⟨hR a b hab, hab⟩)).1

theorem forall_mem_of_forall₂_right {P : β → Prop} (h : List.Forall₂ R as bs) (hR : ∀ a b, R a b → P b) :
    ∀ b ∈ bs, P b :=
  forall_mem_of_forall₂_left h.flip fun b a => hR a b

/-- Each member has one that belongs to it. -/
theorem exists_mem_of_forall₂ {a : α} (h : List.Forall₂ R as bs) (ha : a ∈ as) : ∃ b ∈ bs, R a b := by
  obtain ⟨i, hi, rfl⟩ := List.getElem_of_mem ha
  have hi' : i < bs.length := h.length_eq ▸ hi
  exact ⟨bs[i], List.getElem_mem hi', h.get hi hi'⟩

/-- Choices for all members make a list of choices. -/
theorem exists_forall₂ (h : ∀ a ∈ as, ∃ b, R a b) : ∃ bs, List.Forall₂ R as bs := by
  induction as with
  | nil => exact ⟨[], .nil⟩
  | cons a as ih =>
    obtain ⟨b, hb⟩ := h a List.mem_cons_self
    obtain ⟨bs, hbs⟩ := ih fun a' ha => h a' (List.mem_cons_of_mem _ ha)
    exact ⟨b :: bs, .cons hb hbs⟩

/-- What can be put between two members can be put between two lists. -/
theorem exists_forall₂_between {P : β → γ → Prop} {Q : α → γ → Prop} (h : List.Forall₂ R as bs)
    (hR : ∀ a b, R a b → ∃ c, P b c ∧ Q a c) : ∃ cs, List.Forall₂ P bs cs ∧ List.Forall₂ Q as cs := by
  induction h with
  | nil => exact ⟨[], .nil, .nil⟩
  | cons hab _ ih =>
    obtain ⟨c, hp, hq⟩ := hR _ _ hab
    obtain ⟨cs, hps, hqs⟩ := ih
    exact ⟨c :: cs, .cons hp hps, .cons hq hqs⟩

/-- Two functions that agree on members that belong together make one list. -/
theorem map_eq_map_of_forall₂ {f : α → γ} {g : β → γ} (h : List.Forall₂ R as bs)
    (heq : ∀ a ∈ as, ∀ b ∈ bs, R a b → f a = g b) : as.map f = bs.map g := by
  induction h with
  | nil => rfl
  | @cons a b as bs hab _ ih =>
    rw [List.map_cons, List.map_cons, heq a List.mem_cons_self b List.mem_cons_self hab]
    rw [ih fun a' ha b' hb => heq a' (List.mem_cons_of_mem _ ha) b' (List.mem_cons_of_mem _ hb)]

end LogDiagram
