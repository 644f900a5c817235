import Mathlib.Logic.Basic

/-!
# Results that may be errors

* `bind_eq_ok_iff`: when a chain of steps, each of which may fail, succeeds as a whole, then each step succeeded
  (and when it fails, then one of them failed, `bind_eq_error_iff`);
* `refuseFirst`: a check that lists all errors and reports the first one. Chains of such checks are such checks, with
  their errors one after the other (`bind_refuseFirst`, `mapM_refuseFirst`).
-/

namespace LogDiagram

variable {ε ε' α β : Type} {x : Except ε α}

theorem exists_eq_ok_of_isSome (h : x.toOption.isSome) : ∃ a, x = .ok a := by
  cases x with
  | error e => cases h
  | ok a => exact ⟨a, rfl⟩

/-- A chain succeeds if its first step does and the rest does with what that gave. -/
theorem bind_eq_ok_iff {f : α → Except ε β} {b : β} : (x >>= f) = .ok b ↔ ∃ a, x = .ok a ∧ f a = .ok b := by
  cases x with
  | error e => exact ⟨nofun, nofun⟩
  | ok a => exact ⟨fun h => ⟨a, rfl, h⟩, fun ⟨_, ha, h⟩ => Except.ok.inj ha ▸ h⟩

theorem map_eq_ok_iff {f : α → β} {b : β} : x.map f = .ok b ↔ ∃ a, x = .ok a ∧ f a = b := by
  cases x with
  | error e => exact ⟨nofun, nofun⟩
  | ok a => exact ⟨fun h => ⟨a, rfl, Except.ok.inj h⟩, fun ⟨_, ha, h⟩ => congrArg _ (Except.ok.inj ha ▸ h)⟩

/-- A chain fails in its first step or behind it. -/
theorem bind_eq_error_iff {f : α → Except ε β} {e : ε} :
    (x >>= f) = .error e ↔ x = .error e ∨ ∃ a, x = .ok a ∧ f a = .error e := by
  cases x with
  | error e' => exact ⟨fun h => .inl (congrArg _ (Except.error.inj h)),
      fun h => h.elim (fun h => congrArg _ (Except.error.inj h)) nofun⟩
  | ok a => exact ⟨fun h => .inr ⟨a, rfl, h⟩, fun h => h.elim nofun fun ⟨_, ha, h⟩ => Except.ok.inj ha ▸ h⟩

/-- What fails for a list fails for a member of it. -/
theorem exists_of_mapM_eq_error {f : α → Except ε β} {as : List α} {e : ε} (h : as.mapM f = .error e) :
    ∃ a ∈ as, f a = .error e := by
  induction as with
  | nil => cases h
  | cons a as ih =>
    rw [List.mapM_cons, bind_eq_error_iff] at h
    rcases h with ha | ⟨b, -, hrest⟩
    · exact ⟨a, List.mem_cons_self, ha⟩
    · rcases bind_eq_error_iff.1 hrest with htail | ⟨bs, -, hpure⟩
      · obtain ⟨a', hmem, ha'⟩ := ih htail
        exact ⟨a', List.mem_cons_of_mem _ hmem, ha'⟩
      · cases hpure

theorem mapError_eq_ok_iff {f : ε → ε'} {a : α} : x.mapError f = .ok a ↔ x = .ok a := by
  cases x with
  | error e => exact ⟨nofun, nofun⟩
  | ok b => exact ⟨fun h => congrArg _ (Except.ok.inj h), fun h => congrArg _ (Except.ok.inj h)⟩

/-! ## Reporting the first error -/

/-- The first error, if there are errors, else the value. -/
def refuseFirst (errors : List ε) (value : α) : Except ε α :=
  match errors with
  | [] => .ok value
  | error :: _ => .error error

theorem refuseFirst_eq_ok_iff {errors : List ε} {value a : α} :
    refuseFirst errors value = .ok a ↔ errors = [] ∧ a = value := by
  cases errors with
  | nil => exact ⟨fun h => ⟨rfl, (Except.ok.inj h).symm⟩, fun ⟨_, h⟩ => congrArg _ h.symm⟩
  | cons e rest => exact ⟨nofun, fun h => nomatch h.1⟩

theorem refuseFirst_eq_error_iff {errors : List ε} {value : α} {error : ε} :
    refuseFirst errors value = .error error ↔ errors.head? = some error := by
  cases errors with
  | nil => exact ⟨nofun, nofun⟩
  | cons e rest => exact ⟨fun h => congrArg _ (Except.error.inj h), fun h => congrArg _ (Option.some.inj h)⟩

/-- The errors of a first check come before those of a second one, which is made only if there are none. -/
theorem bind_refuseFirst {errors errors' : List ε} {a : α} {b : β} {f : α → Except ε β}
    (h : errors = [] → f a = refuseFirst errors' b) : (refuseFirst errors a >>= f) = refuseFirst (errors ++ errors') b := by
  cases errors with
  | nil => exact h rfl
  | cons e rest => rfl

/-- A last step that makes no check adds no errors. -/
theorem bind_pure_refuseFirst (errors : List ε) (a : α) (f : α → β) :
    (refuseFirst errors a >>= fun x => .ok (f x)) = refuseFirst errors (f a) := by
  cases errors <;> rfl

theorem mapError_refuseFirst (f : ε → ε') (errors : List ε) (value : α) :
    (refuseFirst errors value).mapError f = refuseFirst (errors.map f) value := by
  cases errors <;> rfl

/-- A check of each member of a list lists the errors of the first member first. -/
theorem mapM_refuseFirst {check : α → Except ε β} {errors : α → List ε} {value : α → β}
    (h : ∀ a, check a = refuseFirst (errors a) (value a)) (as : List α) :
    as.mapM check = refuseFirst (as.flatMap errors) (as.map value) := by
  induction as with
  | nil => rfl
  | cons a as ih =>
    rw [List.mapM_cons, h a, List.flatMap_cons, List.map_cons]
    refine bind_refuseFirst fun _ => ?_
    rw [ih]
    exact bind_pure_refuseFirst _ _ _

end LogDiagram
