import ActenonKernel.Lib.Fallible

/-!
# The first fault of a sequence of checks

A parser goes through the parts of its input in a fixed order and stops at the first one it does not
take.  The exceptions are of two kinds, those a caller is prepared for and the others.

* `Verdict`         what a check makes of its part;
* `first`           the verdict of a sequence, that of the first part with a fault;
* `Checks`          a computation ends as a sequence of verdicts says;
* `raises_iff`      its exceptions are the expected ones exactly when the first fault is.
-/

set_option linter.unusedSectionVars false

namespace FirstFault

inductive Verdict where
  | passes
  | refuses
  /-- an exception the caller is not prepared for -/
  | escapes
deriving DecidableEq, Repr

/-- the verdict of a sequence of checks -/
def first : List Verdict → Verdict
  | [] => .passes
  | .passes :: vs => first vs
  | .refuses :: _ => .refuses
  | .escapes :: _ => .escapes

theorem first_cons (v : Verdict) (vs : List Verdict) : first (v :: vs) = if v = .passes then first vs else v := by
  cases v <;> rfl

theorem first_append (vs ws : List Verdict) : first (vs ++ ws) = if first vs = .passes then first ws else first vs := by
  induction vs with
  | nil => rfl
  | cons v vs ih =>
    rw [List.cons_append, first_cons, first_cons, ih]
    by_cases hv : v = .passes
    · rw [if_pos hv, if_pos hv]
    · rw [if_neg hv, if_neg hv, if_neg hv]

section
variable {ε α β : Type} (expected : ε → Prop) [DecidablePred expected]

/-- how a computation ends -/
def verdict : Except ε α → Verdict
  | .ok _ => .passes
  | .error e => if expected e then .refuses else .escapes

/-- the computation ends as the verdicts say -/
def Checks (x : Except ε α) (vs : List Verdict) : Prop := verdict expected x = first vs

variable {expected} {x : Except ε α} {vs ws : List Verdict}

theorem verdict_passes : verdict expected x = .passes ↔ ∃ a, x = .ok a := by
  cases x with
  | ok a => exact ⟨fun _ => ⟨a, rfl⟩, fun _ => rfl⟩
  | error e =>
    refine iff_of_false ?_ fun ⟨a, h⟩ => nomatch h
    show ¬ (if expected e then Verdict.refuses else Verdict.escapes) = .passes
    by_cases he : expected e
    · rw [if_pos he]
      exact fun h => nomatch h
    · rw [if_neg he]
      exact fun h => nomatch h

theorem raises_verdict : Fallible.Raises expected x ↔ verdict expected x ≠ .escapes := by
  cases x with
  | ok a => exact iff_of_true (Fallible.Raises.ok a) (fun h => nomatch h)
  | error e =>
    by_cases he : expected e
    · refine iff_of_true (Fallible.Raises.error he) ?_
      rw [verdict, if_pos he]
      exact fun h => nomatch h
    · refine iff_of_false (fun h => he (h e rfl)) ?_
      rw [verdict, if_neg he]
      exact not_not.mpr rfl

theorem Checks.ok (a : α) : Checks expected (.ok a : Except ε α) [] := rfl

theorem Checks.one {v : Verdict} (h : verdict expected x = v) : Checks expected x [v] := by
  unfold Checks
  rw [h]
  cases v <;> rfl

theorem Checks.bind {f : α → Except ε β} (hx : Checks expected x vs)
    (hf : ∀ a, x = .ok a → Checks expected (f a) ws) : Checks expected (x >>= f) (vs ++ ws) := by
  unfold Checks at hx ⊢
  rw [first_append, ← hx]
  cases x with
  | ok a => exact hf a rfl
  | error e =>
    have hne : verdict expected (.error e : Except ε α) ≠ .passes := by
      rw [Ne, verdict_passes]
      exact fun ⟨a, h⟩ => nomatch h
    rw [if_neg hne]
    rfl

/-- one check, then the others -/
theorem Checks.step {v : Verdict} {f : α → Except ε β} (hx : Checks expected x [v])
    (hf : ∀ a, x = .ok a → Checks expected (f a) ws) : Checks expected (x >>= f) (v :: ws) := hx.bind hf

/-- a step that is followed by one that always returns -/
theorem Checks.last {f : α → Except ε β} (hx : Checks expected x vs) (hf : ∀ a, ∃ b, f a = .ok b) :
    Checks expected (x >>= f) vs := by
  have h : Checks expected (x >>= f) (vs ++ []) := hx.bind fun a _ => by
    obtain ⟨b, hb⟩ := hf a
    rw [hb]
    exact Checks.ok b
  rwa [List.append_nil] at h

/-- what is done with the result does not matter -/
theorem Checks.map {f : α → β} (hx : Checks expected x vs) : Checks expected (x.map f) vs := by
  refine Eq.trans ?_ hx
  cases x <;> rfl

theorem Checks.mapM {f : α → Except ε β} {checks : α → List Verdict} {xs : List α}
    (h : ∀ a ∈ xs, Checks expected (f a) (checks a)) : Checks expected (xs.mapM f) (xs.flatMap checks) := by
  induction xs with
  | nil => exact Checks.ok []
  | cons a xs ih =>
    rw [List.mapM_cons, List.flatMap_cons]
    refine (h a List.mem_cons_self).bind fun b _ => ?_
    exact (ih fun a' ha' => h a' (List.mem_cons_of_mem _ ha')).last fun bs => ⟨b :: bs, rfl⟩

/-- **The exceptions of a computation are expected ones exactly when its first fault is.** -/
theorem Checks.raises_iff (h : Checks expected x vs) : Fallible.Raises expected x ↔ first vs ≠ .escapes := by
  rw [raises_verdict, h]

end

end FirstFault
