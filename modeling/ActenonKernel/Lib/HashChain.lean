import Mathlib.Data.List.Forall2

/-!
# Chains of hashes

Each entry of a list holds the hash of the one before it.  Where entries with one hash are the same,
in a sense that determines the link, the hash of the last entry commits to the whole list.

* `Linked`      each entry links to the one before it;
* `commit`      lists of one length with the same last hash agree entry by entry.
-/

set_option linter.unusedSectionVars false

namespace HashChain

section
variable {ε η : Type} (hash : ε → η) (link : ε → Option η)

/-- every entry links to the hash of the one before it, the first one to `previous` -/
def Linked : Option η → List ε → Prop
  | _, [] => True
  | previous, e :: es => link e = previous ∧ Linked (some (hash e)) es

variable {hash link} {R : ε → ε → Prop} {es es' : List ε} {previous previous' : Option η}

/-- **The last hash commits to the list**, and to what the list starts from. -/
theorem commit (hlink : ∀ e e', R e e' → link e = link e')
    (hinj : ∀ e ∈ es, ∀ e' ∈ es', hash e = hash e' → R e e')
    (h : Linked hash link previous es) (h' : Linked hash link previous' es') (hlen : es.length = es'.length)
    (hlast : es.getLast?.map hash = es'.getLast?.map hash) :
    List.Forall₂ R es es' ∧ (es ≠ [] → previous = previous') := by
  induction es generalizing es' previous previous' with
  | nil =>
    cases es' with
    | nil => exact ⟨List.Forall₂.nil, fun hne => absurd rfl hne⟩
    | cons e' es' => cases hlen
  | cons e es ih =>
    cases es' with
    | nil => cases hlen
    | cons e' es' =>
      obtain ⟨hp, hrest⟩ := h
      obtain ⟨hp', hrest'⟩ := h'
      have hlen' : es.length = es'.length := Nat.succ.inj hlen
      have hinj' : ∀ x ∈ es, ∀ x' ∈ es', hash x = hash x' → R x x' := fun x hx x' hx' =>
        hinj x (List.mem_cons_of_mem _ hx) x' (List.mem_cons_of_mem _ hx')
      -- the hashes of the two entries, from the links of the rest or because they are the last
      have hboth : List.Forall₂ R es es' ∧ hash e = hash e' := by
        cases es with
        | nil =>
          obtain rfl : es' = [] := List.length_eq_zero_iff.mp hlen'.symm
          exact ⟨List.Forall₂.nil, Option.some.inj hlast⟩
        | cons x xs =>
          cases es' with
          | nil => cases hlen'
          | cons x' xs' =>
            rw [List.getLast?_cons_cons, List.getLast?_cons_cons] at hlast
            obtain ⟨hall, hprev⟩ := ih hinj' hrest hrest' hlen' hlast
            exact ⟨hall, Option.some.inj (hprev (List.cons_ne_nil _ _))⟩
      have hR := hinj e List.mem_cons_self e' List.mem_cons_self hboth.2
      refine ⟨List.Forall₂.cons hR hboth.1, fun _ => ?_⟩
      rw [← hp, ← hp', hlink e e' hR]

end

end HashChain
