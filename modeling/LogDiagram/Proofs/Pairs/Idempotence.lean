import LogDiagram.Proofs.Pairs.Answers

/-!
# Lists that were checked before

An error line that holds the answer of its pair, and is no source, settles the source for which it was written. Error
lines stand directly in front of events, so none of them comes between a source and its answer.

* `AllSettled`: the sources without an answer are those that have no event behind them; a line keeps this unless it is
  an event that finds a source waiting and does not answer it (`AllSettled.append`);
* `allSettled_withErrorsBetween`: the errors in front of such events keep it, so the list has it as a whole;
* `annotate_annotate`: a second check finds nothing.
-/

namespace LogDiagram.PairSpec

variable {pair : PairSpec} {lines : List Text} {line : Text}

/-- Every source without an answer still waits for its first event. -/
def AllSettled (pair : PairSpec) (lines : List Text) : Prop := pair.unansweredCount lines = pair.pendingCount lines

/-- A line settles what waits, if it answers, is no event at all, or nothing waits. -/
theorem AllSettled.append (h : AllSettled pair lines)
    (hline : pair.isAnswer line = true ∨ pair.isEvent line = false ∨ pair.pendingCount lines = 0) :
    AllSettled pair (lines ++ [line]) := by
  have hcount := unansweredCount_append pair lines line
  have hanswer : pair.isAnswer line = true → pair.isEvent line = true := isEvent_of_isAnswer
  have hsource : pair.source.occursIn line = true → pair.isEvent line = true := isEvent_of_source
  unfold AllSettled at h ⊢
  rw [pendingCount_append]
  rcases hline with ha | he | hp
  · rw [if_pos ha] at hcount
    rw [if_pos (hanswer ha)]
    omega
  · have ha : ¬pair.isAnswer line = true := fun ha => by rw [hanswer ha] at he; cases he
    have hs : ¬pair.source.occursIn line = true := fun hs => by rw [hsource hs] at he; cases he
    rw [if_neg ha, if_neg hs] at hcount
    rw [if_neg (by rw [he]; exact Bool.false_ne_true)]
    omega
  · rw [hp, ite_self] at hcount
    by_cases he : pair.isEvent line = true
    · rw [if_pos he]
      omega
    · rw [if_neg fun hs => he (hsource hs)] at hcount
      rw [if_neg he]
      omega

/-- Behind an answer nothing waits. -/
theorem pendingCount_append_answer (lines : List Text) (h : pair.isAnswer line = true) :
    pair.pendingCount (lines ++ [line]) = 0 := by
  have hsource : ¬pair.source.occursIn line = true := fun hs => by
    rw [isAnswer_of_source hs] at h
    cases h
  rw [pendingCount_append, if_pos (isEvent_of_isAnswer h), if_neg hsource]

/-- Between its lines a list with its errors has the sources waiting that wait in the list, and all others settled. -/
theorem allSettled_withErrorsBetween (herror : pair.isAnswer pair.error = true) (lines : List Text) :
    AllSettled pair (pair.withErrorsBetween lines) ∧
      pair.pendingCount (pair.withErrorsBetween lines) = pair.pendingCount lines := by
  induction lines using List.reverseRecOn with
  | nil => exact ⟨rfl, rfl⟩
  | append_singleton done line ih =>
    obtain ⟨hsettled, hpending⟩ := ih
    have hone : pair.pendingCount done = 0 ∨ pair.pendingCount done = 1 := by
      have h := (follows_check pair done).pending
      split at h
      · exact .inr h
      · exact .inl h
    rw [withErrorsBetween_append, pendingCount_append]
    by_cases hmissed : (pair.isEvent line && !pair.isAnswer line) = true ∧ pair.pendingCount done = 1
    · -- the error answers what waits, and the line finds nothing waiting
      have hevent : pair.isEvent line = true := (Bool.and_eq_true_iff.1 hmissed.1).1
      have hanswered := hsettled.append (.inl herror)
      have hnone := pendingCount_append_answer (pair.withErrorsBetween done) herror
      rw [if_pos hmissed.1, hmissed.2, List.replicate_one, ← List.append_assoc]
      refine ⟨hanswered.append (.inr (.inr hnone)), ?_⟩
      rw [pendingCount_append, if_pos hevent, if_pos hevent]
    · have hnone : (if (pair.isEvent line && !pair.isAnswer line) = true then pair.pendingCount done else 0) = 0 := by
        split
        · next hm => exact hone.resolve_right fun h => hmissed ⟨hm, h⟩
        · rfl
      rw [hnone, List.replicate_zero, List.nil_append]
      refine ⟨hsettled.append ?_, by rw [pendingCount_append, hpending]⟩
      by_cases he : pair.isEvent line = true
      · by_cases ha : pair.isAnswer line = true
        · exact .inl ha
        · rw [if_pos (by simp [he, ha])] at hnone
          exact .inr (.inr (hpending.trans hnone))
      · exact .inr (.inl (Bool.not_eq_true _ ▸ he))

/-- A list with its errors has no source without an answer. -/
theorem unansweredCount_withErrors (herror : pair.isAnswer pair.error = true) (lines : List Text) :
    pair.unansweredCount (pair.withErrors lines) = 0 := by
  obtain ⟨hsettled, hpending⟩ := allSettled_withErrorsBetween herror lines
  have hwaits := (follows_check pair lines).pending
  rw [withErrors_eq]
  by_cases hw : (pair.check lines).waiting.isSome = true
  · have hanswered := hsettled.append (.inl herror)
    rw [if_pos hw]
    exact hanswered.trans (pendingCount_append_answer _ herror)
  · rw [if_neg hw] at hwaits ⊢
    rw [List.append_nil]
    exact hsettled.trans (hpending.trans hwaits)

/--
If the error line of a pair holds its answer and is no source, then a second check of a list adds nothing and leaves the
list as the first one left it.
-/
theorem annotate_annotate (hanswer : pair.pairsWith.occursIn pair.error = true)
    (hsource : pair.source.occursIn pair.error = false) (lines : List Text) :
    pair.annotate (pair.annotate lines).1 = ((pair.annotate lines).1, 0) := by
  have herror : pair.isAnswer pair.error = true := by rw [isAnswer, hanswer, hsource]; rfl
  have hnone : (pair.annotate (pair.annotate lines).1).2 = 0 := by
    rw [annotate_snd, annotate_fst, unansweredCount_withErrors herror]
  exact Prod.ext ((annotate_snd_eq_zero_iff _).1 hnone) hnone

/-- An answered source, one that is asked again, one that is cut off and one at the end. -/
theorem annotate_annotate_four_sources :
    let pair : PairSpec := ⟨['q'], ['a'], ['b'], ['!', 'a']⟩
    let checked := [['q'], ['a'], ['q'], ['!', 'a'], ['q'], ['-'], ['!', 'a'], ['b'], ['q'], ['-'], ['!', 'a']]
    pair.pairsWith.occursIn pair.error = true ∧ pair.source.occursIn pair.error = false ∧
      pair.annotate [['q'], ['a'], ['q'], ['q'], ['-'], ['b'], ['q'], ['-']] = (checked, 3) ∧
      pair.annotate checked = (checked, 0) := by
  intro pair checked
  have hfirst : pair.annotate [['q'], ['a'], ['q'], ['q'], ['-'], ['b'], ['q'], ['-']] = (checked, 3) := by decide
  have hanswer : pair.pairsWith.occursIn pair.error = true := by decide
  have hsource : pair.source.occursIn pair.error = false := by decide
  have hsecond := annotate_annotate hanswer hsource [['q'], ['a'], ['q'], ['q'], ['-'], ['b'], ['q'], ['-']]
  rw [hfirst] at hsecond
  exact ⟨hanswer, hsource, hfirst, hsecond⟩

end LogDiagram.PairSpec
