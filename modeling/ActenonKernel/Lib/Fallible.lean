import Mathlib.Data.List.Forall2

/-!
# Computations that can fail

Inversion of the monadic operations of `Except`: what a computation that ended well went through.

* `bind_eq_ok`, `map_eq_ok`    the parts of a sequence that ended well;
* `mapM_eq_ok`                 a loop over a list that ended well did so at every element;
* `mapM_ok_and`                one loop ends well when the other does and a condition holds;
* `Raises`                     the exceptions of a computation are of one kind.
-/

set_option linter.unusedSectionVars false

namespace Fallible

section
variable {ε α β : Type}

@[simp] theorem bind_eq_ok {x : Except ε α} {f : α → Except ε β} {r : β} :
    (x >>= f) = .ok r ↔ ∃ a, x = .ok a ∧ f a = .ok r := by
  cases x with
  | error e =>
    constructor
    · intro h
      cases h
    · rintro ⟨a, h, -⟩
      cases h
  | ok a =>
    constructor
    · intro h
      exact ⟨a, rfl, h⟩
    · rintro ⟨b, h, hf⟩
      cases h
      exact hf

@[simp] theorem map_eq_ok {x : Except ε α} {f : α → β} {r : β} :
    x.map f = .ok r ↔ ∃ a, x = .ok a ∧ f a = r := by
  cases x with
  | error e =>
    constructor
    · intro h
      cases h
    · rintro ⟨a, h, -⟩
      cases h
  | ok a =>
    constructor
    · intro h
      exact ⟨a, rfl, Except.ok.inj h⟩
    · rintro ⟨b, h, hf⟩
      cases h
      exact congrArg Except.ok hf

@[simp] theorem pure_eq_ok {a r : α} : (pure a : Except ε α) = .ok r ↔ a = r :=
  ⟨fun h => Except.ok.inj h, fun h => congrArg Except.ok h⟩

@[simp] theorem mapError_eq_ok {ε' : Type} {x : Except ε α} {f : ε → ε'} {a : α} :
    x.mapError f = .ok a ↔ x = .ok a := by
  cases x with
  | error e =>
    constructor
    · intro h
      cases h
    · intro h
      cases h
  | ok b =>
    constructor
    · intro h
      exact congrArg Except.ok (Except.ok.inj h)
    · intro h
      exact congrArg Except.ok (Except.ok.inj h)

@[simp] theorem ok_bind (a : α) (f : α → Except ε β) : (Except.ok a >>= f) = f a := rfl

/-- a sequence returns when its first part does and the rest returns on what it gave -/
theorem exists_bind_ok {x : Except ε α} {f : α → Except ε β} :
    (∃ r, (x >>= f) = .ok r) ↔ ∃ a, x = .ok a ∧ ∃ r, f a = .ok r := by
  constructor
  · rintro ⟨r, h⟩
    obtain ⟨a, ha, hf⟩ := bind_eq_ok.mp h
    exact ⟨a, ha, r, hf⟩
  · rintro ⟨a, ha, r, hf⟩
    exact ⟨r, bind_eq_ok.mpr ⟨a, ha, hf⟩⟩

/-- what is asked of the result of a computation that returns -/
theorem exists_ok_and {x : Except ε α} {p : α → Prop} :
    (∃ a, x = .ok a ∧ p a) ↔ (∃ a, x = .ok a) ∧ ∀ a, x = .ok a → p a := by
  constructor
  · rintro ⟨a, rfl, hp⟩
    refine ⟨⟨a, rfl⟩, fun b hb => ?_⟩
    cases hb
    exact hp
  · rintro ⟨⟨a, ha⟩, hp⟩
    exact ⟨a, ha, hp a ha⟩

/-- a check followed by a result -/
theorem check_ok {x : Except ε Unit} {b : β} : (∃ r, (x >>= fun _ => pure b) = .ok r) ↔ x = .ok () := by
  constructor
  · rintro ⟨r, h⟩
    obtain ⟨u, hu, -⟩ := bind_eq_ok.mp h
    exact hu
  · intro h
    exact ⟨b, bind_eq_ok.mpr ⟨(), h, rfl⟩⟩

theorem exists_ok {x : Except ε α} (h : x.toBool = true) : ∃ a, x = .ok a := by
  cases x with
  | error e => cases h
  | ok a => exact ⟨a, rfl⟩

theorem mapM_eq_ok {f : α → Except ε β} {xs : List α} {ys : List β} :
    xs.mapM f = .ok ys ↔ List.Forall₂ (fun x y => f x = .ok y) xs ys := by
  induction xs generalizing ys with
  | nil =>
    rw [List.mapM_nil, pure_eq_ok, List.forall₂_nil_left_iff]
    exact eq_comm
  | cons x xs ih =>
    rw [List.mapM_cons, bind_eq_ok, List.forall₂_cons_left_iff]
    constructor
    · rintro ⟨y, hy, h⟩
      obtain ⟨ys', hys, h⟩ := bind_eq_ok.mp h
      exact ⟨y, ys', hy, ih.mp hys, (pure_eq_ok.mp h).symm⟩
    · rintro ⟨y, ys', hy, hys, rfl⟩
      exact ⟨y, hy, bind_eq_ok.mpr ⟨ys', ih.mpr hys, rfl⟩⟩

/-- a loop ends well when it does at every element -/
theorem exists_mapM_ok {f : α → Except ε β} {xs : List α} (h : ∀ x ∈ xs, ∃ y, f x = .ok y) :
    ∃ ys, xs.mapM f = .ok ys := by
  induction xs with
  | nil => exact ⟨[], rfl⟩
  | cons x xs ih =>
    obtain ⟨y, hy⟩ := h x List.mem_cons_self
    obtain ⟨ys, hys⟩ := ih fun z hz => h z (List.mem_cons_of_mem _ hz)
    exact ⟨y :: ys, by rw [List.mapM_cons, hy, ok_bind, hys]; rfl⟩

/-- a loop that ended well did so at every element -/
theorem ok_of_mapM {f : α → Except ε β} {xs : List α} {ys : List β} (h : xs.mapM f = .ok ys) :
    ∀ x ∈ xs, ∃ y, f x = .ok y := by
  have hall := mapM_eq_ok.mp h
  induction hall with
  | nil => exact List.forall_mem_nil _
  | @cons x y xs ys hx hxs ih => exact List.forall_mem_cons.mpr ⟨⟨y, hx⟩, ih (mapM_eq_ok.mpr hxs)⟩

/-- a loop over a list and the results that belong to another one -/
theorem exists_mapM_forall₂ {γ : Type} {f : α → Except ε β} {R : α → γ → Prop} {S : γ → β → Prop} {xs : List α}
    {zs : List γ} (h : List.Forall₂ R xs zs) (hf : ∀ x z, R x z → ∃ y, f x = .ok y ∧ S z y) :
    ∃ ys, xs.mapM f = .ok ys ∧ List.Forall₂ S zs ys := by
  induction h with
  | nil => exact ⟨[], rfl, List.Forall₂.nil⟩
  | @cons x z xs zs hx _ ih =>
    obtain ⟨y, hy, hS⟩ := hf x z hx
    obtain ⟨ys, hys, hSs⟩ := ih
    exact ⟨y :: ys, by rw [List.mapM_cons, hy, ok_bind, hys]; rfl, List.Forall₂.cons hS hSs⟩

/-- two loops, one of which asks for more at every element -/
theorem mapM_ok_and {ε' : Type} {f : α → Except ε β} {g : α → Except ε' β} {p : α → Prop} {xs : List α}
    (h : ∀ x ∈ xs, ∀ y, f x = .ok y ↔ g x = .ok y ∧ p x) (ys : List β) :
    xs.mapM f = .ok ys ↔ xs.mapM g = .ok ys ∧ ∀ x ∈ xs, p x := by
  rw [mapM_eq_ok, mapM_eq_ok]
  induction xs generalizing ys with
  | nil => simp
  | cons x xs ih =>
    have hx := h x List.mem_cons_self
    have hxs := ih fun y hy => h y (List.mem_cons_of_mem _ hy)
    simp only [List.forall₂_cons_left_iff, hx, hxs, List.forall_mem_cons]
    constructor
    · rintro ⟨y, ys', ⟨h1, h2⟩, ⟨h3, h4⟩, rfl⟩
      exact ⟨⟨y, ys', h1, h3, rfl⟩, h2, h4⟩
    · rintro ⟨⟨y, ys', h1, h3, rfl⟩, h2, h4⟩
      exact ⟨y, ys', ⟨h1, h2⟩, ⟨h3, h4⟩, rfl⟩

theorem bind_eq_error {x : Except ε α} {f : α → Except ε β} {e : ε} :
    (x >>= f) = .error e ↔ x = .error e ∨ ∃ a, x = .ok a ∧ f a = .error e := by
  cases x with
  | error e' =>
    constructor
    · intro h
      exact Or.inl (congrArg Except.error (Except.error.inj h))
    · rintro (h | ⟨a, h, -⟩)
      · exact congrArg Except.error (Except.error.inj h)
      · cases h
  | ok a =>
    constructor
    · intro h
      exact Or.inr ⟨a, rfl, h⟩
    · rintro (h | ⟨b, h, hf⟩)
      · cases h
      · cases h
        exact hf

/-- every exception of the computation satisfies the condition -/
def Raises (p : ε → Prop) (x : Except ε α) : Prop := ∀ e, x = .error e → p e

section
variable {p : ε → Prop} {x : Except ε α}

theorem Raises.ok (a : α) : Raises p (.ok a : Except ε α) := fun _ h => nomatch h

theorem Raises.error {e : ε} (h : p e) : Raises p (.error e : Except ε α) := fun _ he => Except.error.inj he ▸ h

theorem Raises.error_iff {e : ε} : Raises p (.error e : Except ε α) ↔ p e :=
  ⟨fun h => h e rfl, Raises.error⟩

theorem Raises.bind {f : α → Except ε β} (hx : Raises p x) (hf : ∀ a, x = .ok a → Raises p (f a)) :
    Raises p (x >>= f) := by
  intro e he
  rcases bind_eq_error.mp he with he | ⟨a, ha, he⟩
  · exact hx e he
  · exact hf a ha e he

/-- the exceptions of a sequence are those of its first part and of what follows -/
theorem Raises.bind_iff {f : α → Except ε β} :
    Raises p (x >>= f) ↔ Raises p x ∧ ∀ a, x = .ok a → Raises p (f a) := by
  refine ⟨fun h => ⟨fun e he => h e (bind_eq_error.mpr (Or.inl he)), fun a ha e he => ?_⟩,
    fun h => Raises.bind h.1 h.2⟩
  exact h e (bind_eq_error.mpr (Or.inr ⟨a, ha, he⟩))

theorem Raises.mapM {f : α → Except ε β} {xs : List α} (h : ∀ a ∈ xs, Raises p (f a)) :
    Raises p (xs.mapM f) := by
  induction xs with
  | nil => exact Raises.ok []
  | cons a xs ih =>
    rw [List.mapM_cons]
    refine (h a List.mem_cons_self).bind fun b _ => ?_
    exact (ih fun a' ha' => h a' (List.mem_cons_of_mem _ ha')).bind fun bs _ => Raises.ok _

end

end

end Fallible
