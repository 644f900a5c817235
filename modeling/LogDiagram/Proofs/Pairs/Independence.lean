import Mathlib.Algebra.BigOperators.Group.List.Basic
import Mathlib.Algebra.GroupWithZero.Nat
import LogDiagram.Proofs.Pairs.Answers

/-!
# Pairs that do not disturb each other

A pair sees an error line of another pair only if it is an event of its own. Where no error line is, each pair finds in
the lines of the others what it finds in the original list, whatever their order.

* `WithInserted`: a list in which error lines are inserted, and all other lines are as they were;
* `annotate_snd_of_withInserted`: inserted lines that are no events of a pair do not change the number of its errors;
* `perm_annotateAll`: the lines that independent pairs leave, each as often as it is there;
* `annotateAll_of_independent`: the order of independent pairs matters only for the places of their errors.
-/

namespace LogDiagram.PairSpec

variable {pair other : PairSpec} {pairs : List PairSpec} {errors errors' lines result result' : List Text}

/-- No error line of one of the two pairs holds a text of the other one. -/
def Independent (pair other : PairSpec) : Prop :=
  pair.isEvent other.error = false ∧ other.isEvent pair.error = false

instance (pair other : PairSpec) : Decidable (Independent pair other) := inferInstanceAs (Decidable (_ ∧ _))

theorem Independent.symm (h : Independent pair other) : Independent other pair := And.symm h

/-- All lines of a list in their order, and copies of error lines anywhere between them. -/
inductive WithInserted (errors : List Text) : (lines result : List Text) → Prop
  | nil : WithInserted errors [] []
  | keep {lines result : List Text} (line : Text) :
    WithInserted errors lines result → WithInserted errors (line :: lines) (line :: result)
  | insert {lines result : List Text} {error : Text} :
    error ∈ errors → WithInserted errors lines result → WithInserted errors lines (error :: result)

/-! ## Inserted lines -/

namespace WithInserted

theorem refl (errors lines : List Text) : WithInserted errors lines lines := by
  induction lines with
  | nil => exact .nil
  | cons line lines ih => exact .keep line ih

theorem mono (h : WithInserted errors lines result) (hsub : errors ⊆ errors') : WithInserted errors' lines result := by
  induction h with
  | nil => exact .nil
  | keep line _ ih => exact .keep line ih
  | insert hmem _ ih => exact .insert (hsub hmem) ih

theorem trans (h : WithInserted errors lines result) (h' : WithInserted errors result result') :
    WithInserted errors lines result' := by
  induction h' generalizing lines with
  | nil => exact h
  | insert hmem _ ih => exact .insert hmem (ih h)
  | keep line _ ih =>
    cases h with
    | keep _ h => exact .keep line (ih h)
    | insert hmem h => exact .insert hmem (ih h)

theorem insertIdx {error : Text} (hmem : error ∈ errors) (lines : List Text) (place : Nat) :
    WithInserted errors lines (lines.insertIdx place error) := by
  induction lines generalizing place with
  | nil =>
    cases place with
    | zero => exact .insert hmem .nil
    | succ place => exact .nil
  | cons line lines ih =>
    cases place with
    | zero => exact .insert hmem (refl errors (line :: lines))
    | succ place => exact .keep line (ih place)

theorem concat {error : Text} (hmem : error ∈ errors) (lines : List Text) :
    WithInserted errors lines (lines ++ [error]) := by
  have h := insertIdx hmem lines lines.length
  rw [List.insertIdx_length_self] at h
  exact h

/-- What is told by lines that no error line is like is told by the original lines. -/
theorem filter_eq (h : WithInserted errors lines result) {p : Text → Bool} (hp : ∀ error ∈ errors, p error = false) :
    result.filter p = lines.filter p := by
  induction h with
  | nil => rfl
  | keep line _ ih => rw [List.filter_cons, List.filter_cons, ih]
  | insert hmem _ ih => rw [List.filter_cons_of_neg (by rw [hp _ hmem]; exact Bool.false_ne_true), ih]

theorem length_le (h : WithInserted errors lines result) : lines.length ≤ result.length := by
  induction h with
  | nil => exact Nat.le_refl 0
  | keep line _ ih => exact Nat.succ_le_succ ih
  | insert _ _ ih => exact Nat.le_succ_of_le ih

/-- If there is one error line, then the list has the original lines and copies of it. -/
theorem perm_replicate {error : Text} (h : WithInserted [error] lines result) {n : Nat}
    (hlength : result.length = lines.length + n) : result.Perm (lines ++ List.replicate n error) := by
  induction h generalizing n with
  | nil =>
    obtain rfl : n = 0 := by simpa using hlength.symm
    exact .refl []
  | keep line _ ih => exact (ih (by simp only [List.length_cons] at hlength; omega)).cons line
  | @insert lines result error' hmem hrest ih =>
    obtain rfl := List.mem_singleton.1 hmem
    have hle : lines.length ≤ result.length := hrest.length_le
    obtain ⟨m, rfl⟩ : ∃ m, n = m + 1 := ⟨n - 1, by simp only [List.length_cons] at hlength; omega⟩
    have hperm := ih (n := m) (by simp only [List.length_cons] at hlength; omega)
    rw [List.replicate_succ]
    exact (hperm.cons error').trans List.perm_middle.symm

end WithInserted

theorem withInserted_insertErrors (pair : PairSpec) (places : List Nat) (lines : List Text) :
    WithInserted [pair.error] lines (pair.insertErrors places lines) := by
  induction places generalizing lines with
  | nil => exact .refl _ lines
  | cons place places ih =>
    rw [insertErrors_cons]
    exact (WithInserted.insertIdx (List.mem_singleton_self _) lines place).trans (ih _)

/-- A pair inserts copies of its error line. -/
theorem withInserted_annotate (pair : PairSpec) (lines : List Text) :
    WithInserted [pair.error] lines (pair.annotate lines).1 := by
  rw [annotate]
  cases (pair.check lines).waiting with
  | none => exact withInserted_insertErrors pair _ lines
  | some place =>
    exact (WithInserted.concat (List.mem_singleton_self _) lines).trans (withInserted_insertErrors pair _ _)

/-- Several pairs insert copies of their error lines. -/
theorem withInserted_annotateAll (pairs : List PairSpec) (lines : List Text) :
    WithInserted (pairs.map (·.error)) lines (annotateAll pairs lines).1 := by
  induction pairs using List.reverseRecOn with
  | nil => exact .refl _ lines
  | append_singleton pairs pair ih =>
    rw [annotateAll_append, List.map_append]
    have hbefore := ih.mono (List.subset_append_left _ ([pair].map (·.error)))
    exact hbefore.trans ((withInserted_annotate pair _).mono (List.subset_append_right _ _))

/-! ## What a pair sees -/

/-- Lines that are no events count neither as sources that wait nor as sources without an answer. -/
theorem counts_filter_isEvent (pair : PairSpec) (lines : List Text) :
    pair.pendingCount (lines.filter pair.isEvent) = pair.pendingCount lines ∧
      pair.unansweredCount (lines.filter pair.isEvent) = pair.unansweredCount lines := by
  induction lines using List.reverseRecOn with
  | nil => exact ⟨rfl, rfl⟩
  | append_singleton done line ih =>
    obtain ⟨hpending, hcount⟩ := ih
    have hall := unansweredCount_append pair done line
    rw [List.filter_append, pendingCount_append]
    cases he : pair.isEvent line with
    | false =>
      have hsource : pair.source.occursIn line = false := by
        simp only [isEvent, Bool.or_eq_false_iff] at he
        exact he.1.1
      have hanswer : pair.isAnswer line = false := by
        cases ha : pair.isAnswer line with
        | false => rfl
        | true => rw [isEvent_of_isAnswer ha] at he; cases he
      rw [List.filter_singleton, he, Bool.cond_false, List.append_nil]
      rw [hanswer, hsource] at hall
      simp only [Bool.false_eq_true, if_false, Nat.add_zero] at hall ⊢
      rw [hall]
      exact ⟨hpending, hcount⟩
    | true =>
      rw [List.filter_singleton, he, Bool.cond_true, pendingCount_append, he]
      have hkept := unansweredCount_append pair (done.filter pair.isEvent) line
      rw [hpending, hcount] at hkept
      exact ⟨rfl, by omega⟩

/-- Inserted lines that are no events of a pair do not change the number of its errors. -/
theorem annotate_snd_of_withInserted (h : WithInserted errors lines result)
    (hno : ∀ error ∈ errors, pair.isEvent error = false) : (pair.annotate result).2 = (pair.annotate lines).2 := by
  rw [annotate_snd, annotate_snd, ← (counts_filter_isEvent pair result).2, ← (counts_filter_isEvent pair lines).2,
    h.filter_eq hno]

/-- The last of independent pairs finds as many errors as it does alone. -/
theorem annotate_snd_of_independent (h : ∀ other ∈ pairs, Independent other pair) (lines : List Text) :
    (pair.annotate (annotateAll pairs lines).1).2 = (pair.annotate lines).2 := by
  refine annotate_snd_of_withInserted (withInserted_annotateAll pairs lines) fun error herror => ?_
  obtain ⟨other, hother, rfl⟩ := List.mem_map.1 herror
  exact (h other hother).2

/-! ## Several pairs -/

/-- All errors that pairs find, each in the original list. -/
def allErrors (pairs : List PairSpec) (lines : List Text) : List Text :=
  pairs.flatMap fun pair => List.replicate (pair.annotate lines).2 pair.error

theorem pairwise_concat (h : (pairs ++ [pair]).Pairwise Independent) :
    pairs.Pairwise Independent ∧ ∀ other ∈ pairs, Independent other pair := by
  obtain ⟨hpairs, -, hlast⟩ := List.pairwise_append.1 h
  exact ⟨hpairs, fun other hother => hlast other hother pair (List.mem_singleton_self pair)⟩

/-- The number of the errors of independent pairs is the sum of what each of them finds alone. -/
theorem annotateAll_snd (h : pairs.Pairwise Independent) (lines : List Text) :
    (annotateAll pairs lines).2 = (pairs.map fun pair => (pair.annotate lines).2).sum := by
  induction pairs using List.reverseRecOn with
  | nil => rfl
  | append_singleton pairs pair ih =>
    obtain ⟨hpairs, hlast⟩ := pairwise_concat h
    rw [annotateAll_append, List.map_append, List.sum_append, ih hpairs, annotate_snd_of_independent hlast]
    simp

/-- Independent pairs leave the original lines and the errors that each of them finds alone. -/
theorem perm_annotateAll (h : pairs.Pairwise Independent) (lines : List Text) :
    (annotateAll pairs lines).1.Perm (lines ++ allErrors pairs lines) := by
  induction pairs using List.reverseRecOn with
  | nil => simp [annotateAll, allErrors]
  | append_singleton pairs pair ih =>
    obtain ⟨hpairs, hlast⟩ := pairwise_concat h
    have hnew := (withInserted_annotate pair (annotateAll pairs lines).1).perm_replicate (length_annotate pair _)
    rw [annotate_snd_of_independent hlast] at hnew
    have hall : allErrors (pairs ++ [pair]) lines =
        allErrors pairs lines ++ List.replicate (pair.annotate lines).2 pair.error := by
      simp [allErrors]
    rw [annotateAll_append, hall, ← List.append_assoc]
    exact hnew.trans ((ih hpairs).append_right _)

/--
Pairs whose error lines hold no text of another pair do not disturb each other. They find as many errors as each of them
finds alone. In any other order they find as many and leave the same lines, each as often, and in every order they leave
the original lines as they were, with copies of their error lines between them.
-/
theorem annotateAll_of_independent (h : pairs.Pairwise Independent) (lines : List Text) :
    (annotateAll pairs lines).2 = (pairs.map fun pair => (pair.annotate lines).2).sum ∧
      ∀ reordered : List PairSpec, reordered.Perm pairs →
        (annotateAll reordered lines).2 = (annotateAll pairs lines).2 ∧
          (annotateAll reordered lines).1.Perm (annotateAll pairs lines).1 ∧
          WithInserted (pairs.map (·.error)) lines (annotateAll reordered lines).1 := by
  refine ⟨annotateAll_snd h lines, fun reordered hperm => ?_⟩
  have hreordered : reordered.Pairwise Independent := hperm.symm.pairwise h Independent.symm
  refine ⟨?_, ?_, ?_⟩
  · rw [annotateAll_snd h, annotateAll_snd hreordered]
    exact (hperm.map _).sum_eq
  · have herrors : (allErrors reordered lines).Perm (allErrors pairs lines) := hperm.flatMap_right _
    exact (perm_annotateAll hreordered lines).trans ((herrors.append_left lines).trans (perm_annotateAll h lines).symm)
  · exact (withInserted_annotateAll reordered lines).mono (hperm.map _).subset

/-- Two pairs that leave their errors at one place do so in the order of the pairs. -/
theorem annotateAll_of_independent_two_orders :
    let first : PairSpec := ⟨['q'], ['a'], ['q'], ['!']⟩
    let second : PairSpec := ⟨['r'], ['b'], ['r'], ['?']⟩
    let lines := [['q'], ['r'], ['a', 'b'], ['r'], ['q']]
    [first, second].Pairwise Independent ∧
      annotateAll [first, second] lines = ([['q'], ['r'], ['a', 'b'], ['r'], ['q'], ['!'], ['?']], 2) ∧
      annotateAll [second, first] lines = ([['q'], ['r'], ['a', 'b'], ['r'], ['q'], ['?'], ['!']], 2) ∧
      (annotateAll [second, first] lines).1.Perm (annotateAll [first, second] lines).1 := by
  intro first second lines
  have h : [first, second].Pairwise Independent := by decide
  refine ⟨h, by decide, by decide, ?_⟩
  exact ((annotateAll_of_independent h lines).2 [second, first] (.swap first second [])).2.1

end LogDiagram.PairSpec
