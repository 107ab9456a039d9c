import ActenonKernel.Lib.Fallible

/-!
# Failures that cannot be told apart

Two runs of one computation on two inputs: what an observer sees of the failures.

* `Blind observe f`    any two observed failures of `f` look the same;
* `Blind.of_raises`    it is enough that every failure of one run has one fixed look;
* `Raises.mapError`, `Raises.mono`    rules for the failures of one run.
-/

set_option linter.unusedSectionVars false

namespace Fallible

variable {ε ε' ι ω α : Type}

/-- the failures of a computation that are observed all look the same, whatever the inputs -/
def Blind (observe : ε → Option ω) (f : ι → Except ε α) : Prop :=
  ∀ i j e e' o o', f i = .error e → f j = .error e' → observe e = some o → observe e' = some o' → o = o'

theorem Raises.mono {p q : ε → Prop} {x : Except ε α} (h : Raises p x) (hpq : ∀ e, p e → q e) : Raises q x :=
  fun e he => hpq e (h e he)

/-- a failure that is replaced -/
theorem Raises.mapError {p : ε' → Prop} {x : Except ε α} {f : ε → ε'} (h : ∀ e, p (f e)) :
    Raises p (x.mapError f) := by
  cases x with
  | ok a => exact Raises.ok a
  | error e => exact Raises.error (h e)

/-- a computation is blind when each of its failures, where it is observed at all, has one look -/
theorem Blind.of_raises {observe : ε → Option ω} {f : ι → Except ε α} (o : ω)
    (h : ∀ i, Raises (fun e => ∀ o', observe e = some o' → o' = o) (f i)) : Blind observe f := by
  intro i j e e' a b he he' ha hb
  rw [h i e he a ha, h j e' he' b hb]

end Fallible
