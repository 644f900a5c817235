import LogDiagram.Text.Basic

/-!
# Replacing every occurrence

`Text.replaceAll sub new t` goes over `t` once from left to right and puts `new` in the place of every occurrence of
`sub` that does not overlap an earlier one. What was put in is not looked at again.

Main statements: `replaceAll_of_cut?_eq_some` and `replaceAll_of_not_occursIn` (the replaced text, occurrence by
occurrence).
-/

namespace LogDiagram.Text

/--
One pass over a text. `skip` characters still belong to the occurrence that was last replaced; `done` is the output so
far, last character first.
-/
def replaceFrom (sub new : Text) : (skip : Nat) → (done rest : Text) → Text
  | _, done, [] => done.reverse
  | skip + 1, done, _ :: rest => replaceFrom sub new skip done rest
  | 0, done, c :: rest =>
    if (afterPrefix? sub (c :: rest)).isSome then replaceFrom sub new (sub.length - 1) (new.reverseAux done) rest
    else replaceFrom sub new 0 (c :: done) rest

/-- Every occurrence of `sub`, from the left and without overlaps, replaced by `new`. -/
def replaceAll (sub new t : Text) : Text := replaceFrom sub new 0 [] t

variable {sub new : Text}

theorem replaceFrom_eq : ∀ (skip : Nat) (done t : Text),
    replaceFrom sub new skip done t = done.reverse ++ replaceFrom sub new skip [] t
  | _, done, [] => by simp [replaceFrom]
  | skip + 1, done, _ :: rest => by rw [replaceFrom, replaceFrom, replaceFrom_eq skip done rest]
  | 0, done, c :: rest => by
    rw [replaceFrom, replaceFrom]
    split
    · rw [replaceFrom_eq _ (new.reverseAux done) rest, replaceFrom_eq _ (new.reverseAux []) rest]
      simp [List.reverseAux_eq]
    · rw [replaceFrom_eq 0 (c :: done) rest, replaceFrom_eq 0 [c] rest]
      simp

theorem replaceFrom_skip : ∀ (skipped rest : Text),
    replaceFrom sub new skipped.length [] (skipped ++ rest) = replaceFrom sub new 0 [] rest
  | [], _ => rfl
  | _ :: skipped, rest => by simpa [replaceFrom] using replaceFrom_skip skipped rest

/-- A text without an occurrence stays as it is. -/
theorem replaceAll_of_not_occursIn : ∀ {t : Text}, occursIn sub t = false → replaceAll sub new t = t
  | [], _ => rfl
  | c :: rest, h => by
    rw [occursIn, Bool.or_eq_false_iff] at h
    have ih : replaceFrom sub new 0 [] rest = rest := replaceAll_of_not_occursIn h.2
    rw [replaceAll, replaceFrom, h.1, if_neg (by simp), replaceFrom_eq, ih]
    rfl

/-- The first occurrence is replaced and the pass goes on behind it. -/
theorem replaceAll_of_cut?_eq_some (hsub : sub ≠ []) {t a b : Text} (h : cut? sub t = some (a, b)) :
    replaceAll sub new t = a ++ new ++ replaceAll sub new b := by
  obtain ⟨rfl, hmin⟩ := cut?_eq_some_iff.1 h
  clear h
  induction a with
  | nil =>
    obtain ⟨d, s, rfl⟩ := List.exists_cons_of_ne_nil hsub
    have hp : (afterPrefix? (d :: s) (d :: (s ++ b))).isSome := afterPrefix?_isSome_iff.2 ⟨b, by simp⟩
    show replaceFrom (d :: s) new 0 [] (d :: (s ++ b)) = _
    rw [replaceFrom, if_pos hp, replaceFrom_eq]
    simp only [List.length_cons, Nat.add_sub_cancel, replaceFrom_skip]
    simp [replaceAll, List.reverseAux_eq]
  | cons c a ih =>
    have hp : ¬ (afterPrefix? sub (c :: (a ++ sub ++ b))).isSome := fun hp => by
      obtain ⟨r, hr⟩ := afterPrefix?_isSome_iff.1 hp
      simpa using hmin [] r (by simpa using hr)
    show replaceFrom sub new 0 [] (c :: (a ++ sub ++ b)) = _
    rw [replaceFrom, if_neg hp, replaceFrom_eq]
    have ih' : replaceFrom sub new 0 [] (a ++ sub ++ b) = a ++ new ++ replaceAll sub new b :=
      ih fun a' b' h' => by simpa using hmin (c :: a') b' (by simp [h'])
    rw [ih']
    simp

end LogDiagram.Text
