import Mathlib.Data.List.Basic
import Mathlib.Data.List.Induction
import LogDiagram.Diagram.OutputBuffer
import LogDiagram.Proofs.Lists.Lookup

/-!
# Pushing lines into a buffer

A buffer is seen through its kept lines and its tallies.

* `lines_push`, `tally?_push_of_drops` and `tally?_push_of_not_drops` say all that a push does to them;
* `getElem?_of_counterOf?`: a dropped line is counted at a place where it stands, so that a push changes no tally of
  another text (`tally?_push_of_ne`);
* `OutputBuffer.ofPushes` is the buffer after a sequence of pushes and `OutputBuffer.answers` what they answered; every
  tally belongs to a kept line (`tally?_ofPushes_of_length_le`), and each push gives a kept line or the answer no
  (`length_lines_ofPushes`).
-/

namespace LogDiagram.OutputBuffer

variable {buffer : OutputBuffer} {policy : DuplicatePolicy} {t u : Text} {i k n : Nat}

/-! ## Tallies as a map -/

/-- A tally that is set replaces the one of its line and no other. -/
theorem tally?_setTally : (buffer.setTally i n).tally? k = if k = i then some n else buffer.tally? k := by
  rw [setTally, tally?, List.lookup_cons]
  by_cases h : k = i
  · simp [h]
  · simp [h, beq_eq_false_iff_ne.2 h, lookup_filter_ne _ h, tally?]

/-! ## What is dropped, and where it is counted -/

theorem drops_everywhere (h : policy = .removeAll ∨ policy = .count) :
    buffer.drops policy t = true ↔ t ∈ buffer.lines := by
  rcases h with rfl | rfl <;> simp [drops, lines]

theorem drops_continuous (h : policy = .removeContinuous ∨ policy = .countContinuous) :
    buffer.drops policy t = true ↔ buffer.lines.getLast? = some t := by
  rcases h with rfl | rfl <;> simp [drops, lines]

theorem counterOf?_count : buffer.counterOf? .count t = buffer.lines.idxOf? t := by
  obtain ⟨⟨kept⟩, tallies⟩ := buffer
  simp [counterOf?, lines]

/-- What `countContinuous` drops is counted at the last line. -/
theorem counterOf?_countContinuous (h : buffer.drops .countContinuous t = true) :
    buffer.counterOf? .countContinuous t = some (buffer.lines.length - 1) := by
  have hlast := (drops_continuous (.inr rfl)).1 h
  obtain ⟨⟨kept⟩, tallies⟩ := buffer
  have hne : kept ≠ [] := by
    rintro rfl
    cases hlast
  simp [counterOf?, lines, hne]

/-- A dropped line is counted at a place where it stands. -/
theorem getElem?_of_counterOf? (hd : buffer.drops policy t = true) (h : buffer.counterOf? policy t = some i) :
    buffer.lines[i]? = some t := by
  cases policy with
  | keep | removeAll | removeContinuous => cases h
  | count =>
    rw [counterOf?_count, List.idxOf?_eq_some_iff] at h
    obtain ⟨hi, heq, -⟩ := h
    rw [List.getElem?_eq_getElem hi, heq]
  | countContinuous =>
    rw [counterOf?_countContinuous hd, Option.some.injEq] at h
    rw [← h, ← List.getLast?_eq_getElem?]
    exact (drops_continuous (.inr rfl)).1 hd

/-! ## One push -/

theorem push_snd : (buffer.push t policy).2 = !buffer.drops policy t := by
  rw [push]
  cases buffer.drops policy t with
  | false => rfl
  | true => cases buffer.counterOf? policy t <;> rfl

/-- A push appends its line or leaves the lines as they are. -/
theorem lines_push :
    (buffer.push t policy).1.lines = if buffer.drops policy t then buffer.lines else buffer.lines ++ [t] := by
  rw [push]
  cases hd : buffer.drops policy t with
  | false =>
    simp only [Bool.false_eq_true, if_false, append]
    split <;> simp [setTally, lines]
  | true =>
    cases buffer.counterOf? policy t <;> rfl

/-- A push of a line that is kept gives a tally to the new line only, and only if its policy counts. -/
theorem tally?_push_of_not_drops (hd : buffer.drops policy t = false) :
    (buffer.push t policy).1.tally? k =
      if policy.isCounting ∧ k = buffer.lines.length then some 1 else buffer.tally? k := by
  simp only [push, hd, Bool.false_eq_true, if_false, append]
  cases policy.isCounting with
  | false => simp [tally?]
  | true =>
    by_cases hk : k = buffer.kept.size
    · simp [tally?_setTally, lines, hk]
    · simp [tally?_setTally, lines, hk]
      rfl

/-- A push of a line that is dropped changes the tally where the line is counted, and no other. -/
theorem tally?_push_of_drops (hd : buffer.drops policy t = true) :
    (buffer.push t policy).1.tally? k =
      if buffer.counterOf? policy t = some k then some ((buffer.tally? k).getD 0 + 1) else buffer.tally? k := by
  simp only [push, hd, if_true]
  cases buffer.counterOf? policy t with
  | none => simp
  | some i =>
    simp only [countAt, tally?_setTally, Option.some.injEq, eq_comm (a := i)]
    split
    · next h => rw [h]
    · rfl

/-- The lines of a list with one more line. -/
theorem getElem?_concat_eq_some_iff {lines : List Text} :
    (lines ++ [u])[k]? = some t ↔ lines[k]? = some t ∨ k = lines.length ∧ u = t := by
  rcases Nat.lt_trichotomy k lines.length with h | rfl | h
  · rw [List.getElem?_append_left h]
    exact ⟨.inl, fun h' => h'.resolve_right fun hc => absurd hc.1 (Nat.ne_of_lt h)⟩
  · simp
  · rw [List.getElem?_eq_none (Nat.le_of_lt h), List.getElem?_eq_none (by rw [List.length_append]; exact h)]
    simp [Nat.ne_of_gt h]

/-- A push leaves the kept lines where they are. -/
theorem getElem?_lines_push {line : Text} (h : buffer.lines[k]? = some line) :
    (buffer.push t policy).1.lines[k]? = some line := by
  have hk := (List.getElem?_eq_some_iff.1 h).1
  rw [lines_push]
  split
  · exact h
  · rw [List.getElem?_append_left hk]; exact h

/-- A push changes no tally of another text. -/
theorem tally?_push_of_ne (hne : u ≠ t) (h : buffer.lines[k]? = some t) :
    (buffer.push u policy).1.tally? k = buffer.tally? k := by
  have hk := (List.getElem?_eq_some_iff.1 h).1
  cases hd : buffer.drops policy u with
  | false => rw [tally?_push_of_not_drops hd, if_neg fun hc => by omega]
  | true =>
    rw [tally?_push_of_drops hd, if_neg]
    intro hc
    have hu := getElem?_of_counterOf? hd hc
    rw [h, Option.some.injEq] at hu
    exact hne hu.symm

/-! ## Sequences of pushes -/

/-- A push: the line offered and its policy. -/
abbrev Push := Text × DuplicatePolicy

/-- The buffer after pushes in order. -/
def ofPushes (pushes : List Push) : OutputBuffer :=
  pushes.foldl (fun buffer push => (buffer.push push.1 push.2).1) .empty

/-- What pushes in order answer, one after the other. -/
def answersFrom (buffer : OutputBuffer) : List Push → List Bool
  | [] => []
  | push :: rest => (buffer.push push.1 push.2).2 :: answersFrom (buffer.push push.1 push.2).1 rest

/-- What the pushes into a buffer without lines answer. -/
def answers (pushes : List Push) : List Bool := empty.answersFrom pushes

variable {pushes : List Push}

theorem ofPushes_append (push : Push) : ofPushes (pushes ++ [push]) = ((ofPushes pushes).push push.1 push.2).1 := by
  simp [ofPushes]

theorem answersFrom_append (buffer : OutputBuffer) (pushes rest : List Push) :
    buffer.answersFrom (pushes ++ rest) = buffer.answersFrom pushes ++
      (pushes.foldl (fun buffer push => (buffer.push push.1 push.2).1) buffer).answersFrom rest := by
  induction pushes generalizing buffer with
  | nil => rfl
  | cons push pushes ih => rw [List.cons_append, answersFrom, ih]; rfl

theorem answers_append (push : Push) :
    answers (pushes ++ [push]) = answers pushes ++ [((ofPushes pushes).push push.1 push.2).2] :=
  answersFrom_append empty pushes [push]

theorem length_push (buffer : OutputBuffer) (push : Push) :
    (buffer.push push.1 push.2).1.lines.length =
      buffer.lines.length + if (buffer.push push.1 push.2).2 then 1 else 0 := by
  rw [lines_push, push_snd]
  cases buffer.drops push.2 push.1 <;> simp

/-- Each push gives a kept line or the answer no. -/
theorem length_lines_ofPushes (pushes : List Push) :
    (ofPushes pushes).lines.length + (answers pushes).count false = pushes.length := by
  induction pushes using List.reverseRecOn with
  | nil => rfl
  | append_singleton pushes push ih =>
    rw [ofPushes_append, length_push, answers_append, List.count_append, List.length_append, List.length_singleton]
    cases ((ofPushes pushes).push push.1 push.2).2 with
    | false =>
      rw [if_neg Bool.false_ne_true, List.count_singleton_self]
      omega
    | true =>
      rw [if_pos rfl, List.count_singleton, if_neg (by decide)]
      omega

/-- Filling in the tallies gives one line for each kept one. -/
theorem length_finish (buffer : OutputBuffer) : buffer.finish.length = buffer.lines.length := by
  obtain ⟨kept, tallies⟩ := buffer
  have hsize : ∀ kept : Array Text,
      (tallies.foldl (fun kept entry => kept.modify entry.1 fun line => line.fillCount entry.2) kept).size =
        kept.size := by
    induction tallies with
    | nil => intro kept; rfl
    | cons entry tallies ih => intro kept; rw [List.foldl_cons, ih, Array.size_modify]
  rw [lines, Array.length_toList]
  exact Array.length_toList.trans (hsize kept)

/-- Every kept line was pushed. -/
theorem mem_of_mem_lines_ofPushes (h : t ∈ (ofPushes pushes).lines) : ∃ policy, (t, policy) ∈ pushes := by
  induction pushes using List.reverseRecOn with
  | nil => cases h
  | append_singleton pushes push ih =>
    rw [ofPushes_append, lines_push] at h
    split at h
    · obtain ⟨policy, hp⟩ := ih h
      exact ⟨policy, List.mem_append_left _ hp⟩
    · rcases List.mem_append.1 h with h | h
      · obtain ⟨policy, hp⟩ := ih h
        exact ⟨policy, List.mem_append_left _ hp⟩
      · rw [List.mem_singleton] at h
        exact ⟨push.2, by simp [h]⟩

/-- Every tally belongs to a kept line. -/
theorem tally?_ofPushes_of_length_le (h : (ofPushes pushes).lines.length ≤ k) : (ofPushes pushes).tally? k = none := by
  induction pushes using List.reverseRecOn with
  | nil => rfl
  | append_singleton pushes push ih =>
    obtain ⟨t, policy⟩ := push
    rw [ofPushes_append, lines_push] at h
    rw [ofPushes_append]
    cases hd : (ofPushes pushes).drops policy t with
    | false =>
      simp only [hd, Bool.false_eq_true, if_false, List.length_append, List.length_singleton] at h
      rw [tally?_push_of_not_drops hd, if_neg fun hc => by omega]
      exact ih (by omega)
    | true =>
      simp only [hd, if_true] at h
      rw [tally?_push_of_drops hd, if_neg]
      · exact ih h
      · intro hc
        have := (List.getElem?_eq_some_iff.1 (getElem?_of_counterOf? hd hc)).1
        omega

end LogDiagram.OutputBuffer
