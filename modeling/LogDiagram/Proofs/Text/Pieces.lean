import Mathlib.Data.List.TakeWhile
import LogDiagram.Proofs.Path.Names
import LogDiagram.Text.Blank

/-!
# Pieces of a text and their blanks

* `Text.IsPiece`, `Text.mem_splitAtChar_iff`: the pieces of a text between separators, told from the text alone;
* `Text.IsCore`, `Text.trimmed_eq_iff`: a text without the blanks around it.
-/

namespace LogDiagram.Text

variable {sep : Char} {t piece core : Text} {pieces : List Text}

/-! ## Pieces -/

/-- The piece stands in the text between two separators, or between a separator and an end of the text. -/
def IsPiece (sep : Char) (t piece : Text) : Prop :=
  sep ∉ piece ∧ ∃ a b, t = a ++ (piece ++ b) ∧ (a = [] ∨ ∃ front, a = front ++ [sep]) ∧ (b = [] ∨ ∃ rest, b = sep :: rest)

/-- A piece of what stands behind a separator is a piece of the whole text. -/
theorem IsPiece.behind (h : IsPiece sep t piece) (front : Text) : IsPiece sep (front ++ sep :: t) piece := by
  obtain ⟨hpiece, a, b, rfl, ha, hb⟩ := h
  refine ⟨hpiece, front ++ sep :: a, b, by simp, .inr ?_, hb⟩
  rcases ha with rfl | ⟨inner, rfl⟩
  · exact ⟨front, rfl⟩
  · exact ⟨front ++ sep :: inner, by simp⟩

/-- A text is split into its pieces. The induction goes from separator to separator. -/
theorem mem_splitAtChar_iff : piece ∈ splitAtChar sep t ↔ IsPiece sep t piece := by
  rw [splitAtChar_eq_splitOn]
  constructor
  · induction hlength : t.length using Nat.strongRecOn generalizing t with
    | ind n ih =>
      intro hmem
      by_cases hsep : sep ∈ t
      · obtain ⟨first, rest, rfl, hfirst⟩ := List.eq_append_cons_of_mem hsep
        rw [List.splitOn_append_cons_self_of_not_mem hfirst, List.mem_cons] at hmem
        rcases hmem with rfl | hmem
        · exact ⟨hfirst, [], sep :: rest, rfl, .inl rfl, .inr ⟨rest, rfl⟩⟩
        · have hshorter : rest.length < n := by
            rw [← hlength, List.length_append, List.length_cons]
            omega
          exact (ih rest.length hshorter rfl hmem).behind first
      · rw [List.splitOn_eq_singleton hsep, List.mem_singleton] at hmem
        subst hmem
        exact ⟨hsep, [], [], by simp, .inl rfl, .inl rfl⟩
  · rintro ⟨hpiece, a, b, rfl, ha, hb⟩
    have hfirst : piece ∈ (piece ++ b).splitOn sep := by
      rcases hb with rfl | ⟨rest, rfl⟩
      · rw [List.append_nil, List.splitOn_eq_singleton hpiece]
        exact List.mem_cons_self
      · rw [List.splitOn_append_cons_self_of_not_mem hpiece]
        exact List.mem_cons_self
    rcases ha with rfl | ⟨front, rfl⟩
    · exact hfirst
    · rw [List.append_assoc, List.singleton_append, List.splitOn_append_cons_self]
      exact List.mem_append_right _ hfirst

/-! ## Blanks -/

/-- The text is `core` with blanks around it, and neither end of `core` is blank. -/
def IsCore (t core : Text) : Prop :=
  (∀ c ∈ core.head?, isBlank c = false) ∧ (∀ c ∈ core.getLast?, isBlank c = false) ∧
    ∃ l r, t = l ++ (core ++ r) ∧ (∀ c ∈ l, isBlank c = true) ∧ ∀ c ∈ r, isBlank c = true

/-- Nothing is dropped in front of a text that does not start with a blank. -/
theorem dropWhile_isBlank_of_head? (h : ∀ c ∈ t.head?, isBlank c = false) : t.dropWhile isBlank = t := by
  cases t with
  | nil => rfl
  | cons c t => rw [List.dropWhile_cons_of_neg (by rw [h c rfl]; exact Bool.false_ne_true)]

/-- What is left of a text without the blanks in front does not start with one. -/
theorem head?_dropWhile_isBlank (t : Text) : ∀ c ∈ (t.dropWhile isBlank).head?, isBlank c = false := by
  intro c hc
  have hfirst := List.head?_dropWhile_not isBlank t
  rw [Option.mem_def.1 hc] at hfirst
  exact hfirst

theorem isCore_trimmed (t : Text) : IsCore t t.trimmed := by
  let left := t.dropWhile isBlank
  let core := (left.reverse.dropWhile isBlank).reverse
  let blanks := (left.reverse.takeWhile isBlank).reverse
  have hleft : left = core ++ blanks := by
    rw [← List.reverse_append, List.takeWhile_append_dropWhile, List.reverse_reverse]
  refine ⟨fun c hc => ?_, fun c hc => ?_, t.takeWhile isBlank, blanks, ?_, fun c hc => ?_, fun c hc => ?_⟩
  · have hfirst : left.head? = some c := by
      rw [hleft, List.head?_append]
      exact congrArg (Option.or · blanks.head?) (Option.mem_def.1 hc)
    exact head?_dropWhile_isBlank t c hfirst
  · rw [trimmed, trimmedRight, List.getLast?_reverse] at hc
    exact head?_dropWhile_isBlank _ c hc
  · exact List.takeWhile_append_dropWhile.symm.trans (congrArg _ hleft)
  · exact List.mem_takeWhile_imp hc
  · exact List.mem_takeWhile_imp (List.mem_reverse.1 hc)

/-- A text has only one core. -/
theorem IsCore.trimmed_eq (h : IsCore t core) : t.trimmed = core := by
  obtain ⟨hhead, hlast, l, r, rfl, hl, hr⟩ := h
  have hleft : (l ++ (core ++ r)).dropWhile isBlank = (core ++ r).dropWhile isBlank :=
    List.dropWhile_append_of_pos hl
  have hright : ((core ++ r).reverse.dropWhile isBlank).reverse = core := by
    rw [List.reverse_append, List.dropWhile_append_of_pos fun c hc => hr c (List.mem_reverse.1 hc),
      dropWhile_isBlank_of_head? (by rwa [List.head?_reverse]), List.reverse_reverse]
  rw [trimmed, trimmedLeft, hleft, trimmedRight]
  by_cases hcore : core = []
  · have hall : r.dropWhile isBlank = [] := List.dropWhile_eq_nil_iff.2 hr
    rw [hcore, List.nil_append, hall]
    rfl
  · have hfirst : ∀ c ∈ (core ++ r).head?, isBlank c = false := by
      rwa [List.head?_append_of_ne_nil _ hcore]
    rw [dropWhile_isBlank_of_head? hfirst, hright]

/-- A text without the blanks around it is its core. -/
theorem trimmed_eq_iff : t.trimmed = core ↔ IsCore t core :=
  ⟨fun h => h ▸ isCore_trimmed t, IsCore.trimmed_eq⟩

end LogDiagram.Text
