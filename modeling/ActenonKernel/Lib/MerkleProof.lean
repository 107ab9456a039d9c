import ActenonKernel.Lib.MerkleWalk
import Mathlib.Data.Set.Function

/-!
# Climbing a Merkle tree: completeness and soundness of audit paths and consistency proofs

`climb node x ss p` hashes `x` with the siblings `p` on the sides `ss`.  The soundness results
do not ask that the node hash is injective everywhere (a hash of fixed width is not), only on
the pairs that are hashed: `climbPairs` by the climb, `treePairs` by the tree.

* `climb_inj`             two climbs along the same sides to the same hash are the same climb;
* `auditPath_spec`        the audit path climbs from its leaf to the tree hash;
* `climb_no_extra`        no climb from a leaf to the hash of a tree goes on past the walk;
* `subProof_spec`         the consistency proof climbs to the new and to the old tree hash.
-/

set_option linter.unusedSectionVars false

namespace Merkle

section
variable {H : Type} (node : H → H → H)

/-- the two children of the parent of `x` -/
def pairOf (side : Bool) (x sib : H) : H × H := if side then (sib, x) else (x, sib)

/-- the hash reached from `x` with the siblings `p` on the sides `ss` -/
def climb : H → List Bool → List H → H
  | x, s :: ss, h :: p => climb (node (pairOf s x h).1 (pairOf s x h).2) ss p
  | x, _, _ => x

/-- the pairs hashed on the way -/
def climbPairs : H → List Bool → List H → List (H × H)
  | x, s :: ss, h :: p =>
    pairOf s x h :: climbPairs (node (pairOf s x h).1 (pairOf s x h).2) ss p
  | _, _, _ => []

/-- the climb that only takes the siblings on the left -/
def climbOld : H → List Bool → List H → H
  | x, s :: ss, h :: p => climbOld (if s then node h x else x) ss p
  | x, _, _ => x

theorem climb_nil (x : H) (ss : List Bool) : climb node x ss [] = x := by cases ss <;> rfl

theorem climb_cons (x h : H) (s : Bool) (ss : List Bool) (p : List H) :
    climb node x (s :: ss) (h :: p)
      = climb node (node (pairOf s x h).1 (pairOf s x h).2) ss p := rfl

theorem climb_append (x : H) (ss ss' : List Bool) (p p' : List H) (h : p.length = ss.length) :
    climb node x (ss ++ ss') (p ++ p') = climb node (climb node x ss p) ss' p' := by
  induction ss generalizing x p with
  | nil =>
    have : p = [] := List.length_eq_zero_iff.mp h
    subst this
    rfl
  | cons s ss ih =>
    cases p with
    | nil => simp at h
    | cons a p => exact ih _ p (by simpa using h)

theorem climbOld_append (x : H) (ss ss' : List Bool) (p p' : List H)
    (h : p.length = ss.length) :
    climbOld node x (ss ++ ss') (p ++ p') = climbOld node (climbOld node x ss p) ss' p' := by
  induction ss generalizing x p with
  | nil =>
    have : p = [] := List.length_eq_zero_iff.mp h
    subst this
    rfl
  | cons s ss ih =>
    cases p with
    | nil => simp at h
    | cons a p => exact ih _ p (by simpa using h)

theorem climbPairs_append (x : H) (ss ss' : List Bool) (p p' : List H)
    (h : p.length = ss.length) :
    climbPairs node x (ss ++ ss') (p ++ p')
      = climbPairs node x ss p ++ climbPairs node (climb node x ss p) ss' p' := by
  induction ss generalizing x p with
  | nil =>
    have : p = [] := List.length_eq_zero_iff.mp h
    subst this
    rfl
  | cons s ss ih =>
    cases p with
    | nil => simp at h
    | cons a p =>
      show _ :: climbPairs node _ (ss ++ ss') (p ++ p') = _ :: climbPairs node _ ss p ++ _
      rw [ih _ p (by simpa using h)]
      rfl

theorem climb_append_sides (x : H) (ss ss' : List Bool) (p : List H) (h : p.length ≤ ss.length) :
    climb node x (ss ++ ss') p = climb node x ss p := by
  induction ss generalizing x p with
  | nil =>
    have : p = [] := List.length_eq_zero_iff.mp (Nat.le_zero.mp h)
    subst this
    rw [climb_nil, climb_nil]
  | cons s ss ih =>
    cases p with
    | nil => rfl
    | cons a p => exact ih _ p (by simpa using h)

theorem climbPairs_append_sides (x : H) (ss ss' : List Bool) (p : List H)
    (h : p.length ≤ ss.length) : climbPairs node x (ss ++ ss') p = climbPairs node x ss p := by
  induction ss generalizing x p with
  | nil =>
    have : p = [] := List.length_eq_zero_iff.mp (Nat.le_zero.mp h)
    subst this
    cases ss' <;> rfl
  | cons s ss ih =>
    cases p with
    | nil => rfl
    | cons a p =>
      show _ :: climbPairs node _ (ss ++ ss') p = _ :: climbPairs node _ ss p
      rw [ih _ p (by simpa using h)]

theorem climb_snoc (x h : H) (ss : List Bool) (s : Bool) (p : List H)
    (hl : p.length = ss.length) :
    climb node x (ss ++ [s]) (p ++ [h])
      = node (pairOf s (climb node x ss p) h).1 (pairOf s (climb node x ss p) h).2 := by
  rw [climb_append node x ss [s] p [h] hl]
  rfl

theorem climbPairs_snoc (x h : H) (ss : List Bool) (s : Bool) (p : List H)
    (hl : p.length = ss.length) :
    climbPairs node x (ss ++ [s]) (p ++ [h])
      = climbPairs node x ss p ++ [pairOf s (climb node x ss p) h] := by
  rw [climbPairs_append node x ss [s] p [h] hl]
  rfl

theorem pairOf_inj {s : Bool} {x y h k : H} (e : pairOf s x h = pairOf s y k) : x = y ∧ h = k := by
  cases s with
  | true => exact ⟨congrArg Prod.snd e, congrArg Prod.fst e⟩
  | false => exact ⟨congrArg Prod.fst e, congrArg Prod.snd e⟩

/-- the node hash as a function of the pair of children -/
def nodeP (p : H × H) : H := node p.1 p.2

/-- **Two climbs along the same sides to the same hash are the same climb**, when the node hash
has no collision among the pairs they hash. -/
theorem climb_inj {S : Set (H × H)} (hS : Set.InjOn (nodeP node) S) (ss : List Bool) (x y : H)
    (p q : List H) (hp : p.length = ss.length) (hq : q.length = ss.length)
    (hSp : ∀ e ∈ climbPairs node x ss p, e ∈ S) (hSq : ∀ e ∈ climbPairs node y ss q, e ∈ S)
    (h : climb node x ss p = climb node y ss q) : x = y ∧ p = q := by
  induction ss generalizing x y p q with
  | nil =>
    have h1 : p = [] := List.length_eq_zero_iff.mp hp
    have h2 : q = [] := List.length_eq_zero_iff.mp hq
    subst h1 h2
    exact ⟨h, rfl⟩
  | cons s ss ih =>
    cases p with
    | nil => simp at hp
    | cons a p =>
      cases q with
      | nil => simp at hq
      | cons b q =>
        obtain ⟨h1, h2⟩ := ih _ _ p q (by simpa using hp) (by simpa using hq)
          (fun e he => hSp e (List.mem_cons_of_mem _ he))
          (fun e he => hSq e (List.mem_cons_of_mem _ he)) h
        have h3 : pairOf s x a = pairOf s y b :=
          hS (hSp _ List.mem_cons_self) (hSq _ List.mem_cons_self) h1
        obtain ⟨h4, h5⟩ := pairOf_inj h3
        exact ⟨h4, by rw [h5, h2]⟩

/-! ## climbs of different lengths -/

/-- the last sibling on the right, where there is one -/
theorem exists_last_false {ss : List Bool} (h : false ∈ ss) :
    ∃ u m, ss = u ++ false :: List.replicate m true := by
  induction ss with
  | nil => simp at h
  | cons s ss ih =>
    by_cases hs : false ∈ ss
    · obtain ⟨u, m, rfl⟩ := ih hs
      exact ⟨s :: u, m, rfl⟩
    · have e : ss = List.replicate ss.length true := by
        refine List.eq_replicate_iff.mpr ⟨rfl, fun b hb => ?_⟩
        cases b with
        | true => rfl
        | false => exact absurd hb hs
      have hs0 : s = false := by
        rcases List.mem_cons.mp h with h | h
        · exact h.symm
        · exact absurd h hs
      exact ⟨[], ss.length, by rw [hs0, ← e]; rfl⟩

theorem climb_good {G : H → Prop} (hn : ∀ a b, G (node a b)) {x : H} (hx : G x)
    (ss : List Bool) (p : List H) : G (climb node x ss p) := by
  induction ss generalizing x p with
  | nil => exact hx
  | cons s ss ih =>
    cases p with
    | nil => exact hx
    | cons a p => exact ih (hn _ _) p

/-- **Climbs past a sibling on the right are ambiguous**: with different numbers of siblings on the
left after it, any two nodes reach a common hash. -/
theorem climb_ambiguous {G : H → Prop} (hn : ∀ a b, G (node a b)) {x y : H} (hx : G x)
    (hy : G y) (u : List Bool) {k l : Nat} (hkl : k < l) :
    ∃ p q : List H, p.length = (u ++ false :: List.replicate k true).length ∧
      q.length = (u ++ false :: List.replicate l true).length ∧ (∀ h ∈ p, G h) ∧
      (∀ h ∈ q, G h) ∧
      climb node x (u ++ false :: List.replicate k true) p
        = climb node y (u ++ false :: List.replicate l true) q := by
  -- the first climb reaches `a`, the second reaches `b`; then each is the sibling of the other
  let v : List Bool := u ++ false :: List.replicate (l - k - 1) true
  let a : H := climb node x u (List.replicate u.length x)
  let b : H := climb node y v (List.replicate v.length x)
  have ha : G a := climb_good node hn hx _ _
  have hb : G b := climb_good node hn hy _ _
  have hgood : ∀ (m : Nat), ∀ h ∈ List.replicate m x, G h := fun m h hh => by
    rw [List.eq_of_mem_replicate hh]
    exact hx
  have hv : u ++ false :: List.replicate l true = v ++ true :: List.replicate k true := by
    have e : List.replicate l true = List.replicate (l - k - 1) true ++ true :: List.replicate k true := by
      rw [← List.replicate_succ, List.replicate_append_replicate]
      congr 1
      omega
    rw [e]
    simp [v]
  refine ⟨List.replicate u.length x ++ b :: List.replicate k x,
    List.replicate v.length x ++ a :: List.replicate k x, by simp, by rw [hv]; simp, ?_, ?_, ?_⟩
  · intro h hh
    rcases List.mem_append.mp hh with hh | hh
    · exact hgood _ h hh
    · rcases List.mem_cons.mp hh with rfl | hh
      · exact hb
      · exact hgood _ h hh
  · intro h hh
    rcases List.mem_append.mp hh with hh | hh
    · exact hgood _ h hh
    · rcases List.mem_cons.mp hh with rfl | hh
      · exact ha
      · exact hgood _ h hh
  · rw [hv, climb_append node _ _ _ _ _ (by simp), climb_append node _ _ _ _ _ (by simp)]
    rfl

end

/-! ## the pairs of a tree -/

section
variable {α H : Type} (empty : H) (leaf : α → H) (node : H → H → H)

/-- the pairs hashed by `treeHash` -/
def treePairs (D : List α) : List (H × H) :=
  if D.length ≤ 1 then []
  else
    let k := splitPoint D.length
    (treeHash empty leaf node (D.take k), treeHash empty leaf node (D.drop k))
      :: treePairs (D.take k) ++ treePairs (D.drop k)
termination_by D.length
decreasing_by
  · have := splitPoint_lt (n := D.length) (by omega)
    simp only [List.length_take]
    omega
  · have := splitPoint_pos D.length
    simp only [List.length_drop]
    omega

theorem treePairs_split {D : List α} (h : 2 ≤ D.length) :
    treePairs empty leaf node D
      = (treeHash empty leaf node (D.take (splitPoint D.length)),
          treeHash empty leaf node (D.drop (splitPoint D.length)))
        :: treePairs empty leaf node (D.take (splitPoint D.length))
        ++ treePairs empty leaf node (D.drop (splitPoint D.length)) := by
  rw [treePairs, if_neg (by omega)]

theorem mem_treePairs_take {D : List α} (h : 2 ≤ D.length) {e : H × H}
    (he : e ∈ treePairs empty leaf node (D.take (splitPoint D.length))) :
    e ∈ treePairs empty leaf node D := by
  rw [treePairs_split empty leaf node h]
  exact List.mem_append_left _ (List.mem_cons_of_mem _ he)

theorem mem_treePairs_drop {D : List α} (h : 2 ≤ D.length) {e : H × H}
    (he : e ∈ treePairs empty leaf node (D.drop (splitPoint D.length))) :
    e ∈ treePairs empty leaf node D := by
  rw [treePairs_split empty leaf node h]
  exact List.mem_append_right _ he

theorem mem_treePairs_root {D : List α} (h : 2 ≤ D.length) :
    (treeHash empty leaf node (D.take (splitPoint D.length)),
      treeHash empty leaf node (D.drop (splitPoint D.length))) ∈ treePairs empty leaf node D := by
  rw [treePairs_split empty leaf node h]
  exact List.mem_append_left _ List.mem_cons_self

/-! ## the walk in a tree of `n` leaves -/

theorem sides_tree_left {n i : Nat} (h : 2 ≤ n) (hi : i < splitPoint n) :
    sides i (n - 1) = sides i (splitPoint n - 1) ++ [false] := by
  have h1 := splitPoint_lt h
  have h2 := le_two_splitPoint h
  refine sides_left (Nat.log2 (n - 1)) i (n - 1) hi ?_ ?_
  · show splitPoint n ≤ n - 1
    omega
  · have e : 2 ^ (Nat.log2 (n - 1) + 1) = 2 * splitPoint n := Nat.pow_succ'
    omega

theorem sides_tree_right {n i : Nat} (h : 2 ≤ n) (h1 : splitPoint n ≤ i) (h2 : i < n) :
    sides i (n - 1) = sides (i - splitPoint n) (n - splitPoint n - 1) ++ [true] := by
  have h3 := le_two_splitPoint h
  have e := sides_right (Nat.log2 (n - 1)) (i - splitPoint n) (n - splitPoint n - 1) (by omega)
    (by show _ < splitPoint n; omega)
  have e1 : 2 ^ Nat.log2 (n - 1) + (i - splitPoint n) = i := by
    show splitPoint n + _ = i
    omega
  have e2 : 2 ^ Nat.log2 (n - 1) + (n - splitPoint n - 1) = n - 1 := by
    show splitPoint n + _ = n - 1
    omega
  rw [e1, e2] at e
  exact e

theorem length_sides_tree_left {n i : Nat} (h : 2 ≤ n) (hi : i < splitPoint n) :
    (sides i (n - 1)).length = Nat.log2 (n - 1) + 1 := by
  rw [sides_tree_left h hi, List.length_append,
    show splitPoint n - 1 = 2 ^ Nat.log2 (n - 1) - 1 from rfl, length_sides_full _ i hi]
  rfl

/-! ## audit paths -/

/-- the length, the climb and the hashed pairs of an audit path -/
theorem auditPath_spec (D : List α) (i : Nat) (a : α) (ha : D[i]? = some a) :
    (auditPath empty leaf node i D).length = (sides i (D.length - 1)).length ∧
      climb node (leaf a) (sides i (D.length - 1)) (auditPath empty leaf node i D)
        = treeHash empty leaf node D ∧
      ∀ e ∈ climbPairs node (leaf a) (sides i (D.length - 1)) (auditPath empty leaf node i D),
        e ∈ treePairs empty leaf node D := by
  -- induction on the number of leaves, following the split of the tree
  induction hn : D.length using Nat.strong_induction_on generalizing D i with
  | _ n ih =>
  subst hn
  obtain ⟨hi, -⟩ := List.getElem?_eq_some_iff.mp ha
  by_cases h2 : 2 ≤ D.length
  · have hk := splitPoint_lt h2
    have hp := splitPoint_pos D.length
    have hroot := mem_treePairs_root empty leaf node h2
    rw [treeHash_split empty leaf node h2]
    by_cases hik : i < splitPoint D.length
    · have hlt : (D.take (splitPoint D.length)).length = splitPoint D.length := by
        rw [List.length_take, Nat.min_eq_left (Nat.le_of_lt hk)]
      have hat : (D.take (splitPoint D.length))[i]? = some a := by
        rw [List.getElem?_take_of_lt hik, ha]
      obtain ⟨h3, h4, h5⟩ := ih _ hk _ i hat hlt
      rw [sides_tree_left h2 hik, auditPath_left empty leaf node h2 hik]
      refine ⟨by simp [h3], ?_, ?_⟩
      · rw [climb_snoc node _ _ _ _ _ h3, h4]
        rfl
      · intro e he
        rw [climbPairs_snoc node _ _ _ _ _ h3, h4] at he
        rcases List.mem_append.mp he with he | he
        · exact mem_treePairs_take empty leaf node h2 (h5 e he)
        · rw [List.mem_singleton.mp he]
          exact hroot
    · have hik' : splitPoint D.length ≤ i := Nat.le_of_not_lt hik
      have hlt : (D.drop (splitPoint D.length)).length = D.length - splitPoint D.length :=
        List.length_drop
      have hat : (D.drop (splitPoint D.length))[i - splitPoint D.length]? = some a := by
        rw [List.getElem?_drop, Nat.add_sub_of_le hik', ha]
      obtain ⟨h3, h4, h5⟩ := ih _ (by omega) _ _ hat hlt
      rw [sides_tree_right h2 hik' hi, auditPath_right empty leaf node h2 hik']
      refine ⟨by simp [h3], ?_, ?_⟩
      · rw [climb_snoc node _ _ _ _ _ h3, h4]
        rfl
      · intro e he
        rw [climbPairs_snoc node _ _ _ _ _ h3, h4] at he
        rcases List.mem_append.mp he with he | he
        · exact mem_treePairs_drop empty leaf node h2 (h5 e he)
        · rw [List.mem_singleton.mp he]
          exact hroot
  · have hl : D.length = 1 := by omega
    have ei : i = 0 := by omega
    subst ei
    obtain ⟨b, rfl⟩ := List.length_eq_one_iff.mp hl
    have eb : b = a := by simpa using ha
    subst eb
    rw [auditPath_small empty leaf node 0 (by simp), treeHash_singleton]
    show _ = (sides 0 0).length ∧ climb node (leaf b) (sides 0 0) [] = _ ∧ _
    rw [sides_zero]
    exact ⟨rfl, rfl, fun e he => absurd he (by simp [climbPairs])⟩

/-- a climb from a leaf to the hash of at most `2 ^ t` leaves has at most `t` steps -/
theorem climb_depth {S : Set (H × H)} (hS : Set.InjOn (nodeP node) S) (t : Nat) (D : List α)
    (hD : D ≠ []) (ht : D.length ≤ 2 ^ t) (hT : ∀ e ∈ treePairs empty leaf node D, e ∈ S)
    (hleaf : ∀ a ∈ D, ∀ e ∈ S, leaf a ≠ nodeP node e) (x : H) (ss : List Bool) (p : List H)
    (hp : p.length = ss.length) (hC : ∀ e ∈ climbPairs node x ss p, e ∈ S)
    (h : climb node x ss p = treeHash empty leaf node D) : ss.length ≤ t := by
  induction t generalizing D ss p with
  | zero =>
    obtain ⟨a, rfl⟩ : ∃ a, D = [a] := by
      cases D with
      | nil => exact absurd rfl hD
      | cons a D => exact ⟨a, by simpa using ht⟩
    rcases List.eq_nil_or_concat ss with rfl | ⟨ss, s, rfl⟩
    · exact Nat.le_refl 0
    · rw [List.concat_eq_append] at hp hC h
      obtain ⟨p, b, rfl⟩ : ∃ p' b, p = p' ++ [b] := by
        rcases List.eq_nil_or_concat p with rfl | ⟨p', b, rfl⟩
        · simp at hp
        · exact ⟨p', b, by rw [List.concat_eq_append]⟩
      have hp' : p.length = ss.length := by simpa using hp
      rw [climb_snoc node _ _ _ _ _ hp', treeHash_singleton] at h
      rw [climbPairs_snoc node _ _ _ _ _ hp'] at hC
      exact absurd h.symm (hleaf a (by simp) _ (hC _ (by simp)))
  | succ t ih =>
    by_cases h2 : 2 ≤ D.length
    · have hk := splitPoint_lt h2
      have hk2 := le_two_splitPoint h2
      have hpos := splitPoint_pos D.length
      have hkt : splitPoint D.length ≤ 2 ^ t := by
        unfold splitPoint
        refine Nat.pow_le_pow_right (by decide) ?_
        have : Nat.log2 (D.length - 1) < t + 1 := by
          rw [Nat.log2_lt (by omega)]
          omega
        omega
      rcases List.eq_nil_or_concat ss with rfl | ⟨ss, s, rfl⟩
      · exact Nat.zero_le _
      · rw [List.concat_eq_append] at hp hC h ⊢
        obtain ⟨p, b, rfl⟩ : ∃ p' b, p = p' ++ [b] := by
          rcases List.eq_nil_or_concat p with rfl | ⟨p', b, rfl⟩
          · simp at hp
          · exact ⟨p', b, by rw [List.concat_eq_append]⟩
        have hp' : p.length = ss.length := by simpa using hp
        rw [climb_snoc node _ _ _ _ _ hp', treeHash_split empty leaf node h2] at h
        rw [climbPairs_snoc node _ _ _ _ _ hp'] at hC
        have hC' : ∀ e ∈ climbPairs node x ss p, e ∈ S := fun e he =>
          hC e (List.mem_append_left _ he)
        have hpair := hS (hC _ (by simp)) (hT _ (mem_treePairs_root empty leaf node h2)) h
        rw [List.length_append]
        cases s with
        | true =>
          have hx := congrArg Prod.snd hpair
          exact Nat.succ_le_succ (ih (D.drop (splitPoint D.length))
            (List.ne_nil_of_length_pos (by rw [List.length_drop]; omega))
            (by rw [List.length_drop]; omega)
            (fun e he => hT e (mem_treePairs_drop empty leaf node h2 he))
            (fun a ha => hleaf a (List.mem_of_mem_drop ha)) ss p hp' hC' hx)
        | false =>
          have hx := congrArg Prod.fst hpair
          exact Nat.succ_le_succ (ih (D.take (splitPoint D.length))
            (List.ne_nil_of_length_pos (by rw [List.length_take]; omega))
            (by rw [List.length_take]; omega)
            (fun e he => hT e (mem_treePairs_take empty leaf node h2 he))
            (fun a ha => hleaf a (List.mem_of_mem_take ha)) ss p hp' hC' hx)
    · have h1 : D.length ≤ 2 ^ t := by have := Nat.two_pow_pos t; omega
      exact Nat.le_succ_of_le (ih D hD h1 hT hleaf ss p hp hC h)

/-- **No climb to the hash of a tree goes on past the walk**: after the walk of leaf `i` there is
no further step with a sibling on the left. -/
theorem climb_no_extra {S : Set (H × H)} (hS : Set.InjOn (nodeP node) S) (D : List α) (i : Nat)
    (hi : i < D.length) (hT : ∀ e ∈ treePairs empty leaf node D, e ∈ S)
    (hleaf : ∀ a ∈ D, ∀ e ∈ S, leaf a ≠ nodeP node e) (x : H) (k : Nat) (p : List H)
    (hp : p.length = (sides i (D.length - 1)).length + (k + 1))
    (hC : ∀ e ∈ climbPairs node x (sides i (D.length - 1) ++ List.replicate (k + 1) true) p, e ∈ S) :
    climb node x (sides i (D.length - 1) ++ List.replicate (k + 1) true) p
      ≠ treeHash empty leaf node D := by
  induction hn : D.length using Nat.strong_induction_on generalizing D i k p with
  | _ n ih =>
  subst hn
  intro h
  -- the last step is a right step: peel it off
  have hrep : sides i (D.length - 1) ++ List.replicate (k + 1) true
      = (sides i (D.length - 1) ++ List.replicate k true) ++ [true] := by
    rw [List.replicate_succ', List.append_assoc]
  obtain ⟨p, b, rfl⟩ : ∃ p' b, p = p' ++ [b] := by
    rcases List.eq_nil_or_concat p with rfl | ⟨p', b, rfl⟩
    · simp at hp
    · exact ⟨p', b, by rw [List.concat_eq_append]⟩
  have hp' : p.length = (sides i (D.length - 1) ++ List.replicate k true).length := by
    rw [List.length_append, List.length_replicate]
    simp at hp
    omega
  rw [hrep, climb_snoc node _ _ _ _ _ hp'] at h
  rw [hrep, climbPairs_snoc node _ _ _ _ _ hp'] at hC
  by_cases h2 : 2 ≤ D.length
  · have hk := splitPoint_lt h2
    have hk2 := le_two_splitPoint h2
    have hpos := splitPoint_pos D.length
    rw [treeHash_split empty leaf node h2] at h
    have hpair := hS (hC _ (by simp)) (hT _ (mem_treePairs_root empty leaf node h2)) h
    have hx := congrArg Prod.snd hpair
    have hC' : ∀ e ∈ climbPairs node x (sides i (D.length - 1) ++ List.replicate k true) p, e ∈ S :=
      fun e he => hC e (List.mem_append_left _ he)
    have hT' : ∀ e ∈ treePairs empty leaf node (D.drop (splitPoint D.length)), e ∈ S :=
      fun e he => hT e (mem_treePairs_drop empty leaf node h2 he)
    have hleaf' : ∀ a ∈ D.drop (splitPoint D.length), ∀ e ∈ S, leaf a ≠ nodeP node e :=
      fun a ha => hleaf a (List.mem_of_mem_drop ha)
    by_cases hik : i < splitPoint D.length
    · -- the walk of a leaf of the left subtree is too long for the right subtree
      have hd := climb_depth empty leaf node hS (Nat.log2 (D.length - 1))
        (D.drop (splitPoint D.length)) (List.ne_nil_of_length_pos (by rw [List.length_drop]; omega))
        (by rw [List.length_drop]; show _ ≤ splitPoint D.length; omega) hT' hleaf' x _ p hp' hC' hx
      rw [List.length_append, length_sides_tree_left h2 hik] at hd
      omega
    · have hik' : splitPoint D.length ≤ i := Nat.le_of_not_lt hik
      have hlen : (D.drop (splitPoint D.length)).length = D.length - splitPoint D.length :=
        List.length_drop
      have hsides : sides i (D.length - 1) ++ List.replicate k true
          = sides (i - splitPoint D.length) ((D.drop (splitPoint D.length)).length - 1)
            ++ List.replicate (k + 1) true := by
        rw [sides_tree_right h2 hik' hi, hlen, List.append_assoc, List.replicate_succ]
        rfl
      rw [hsides] at hp' hC' hx
      refine ih _ (by rw [hlen]; omega) (D.drop (splitPoint D.length)) (i - splitPoint D.length)
        (by omega) hT' hleaf' k p ?_ hC' rfl hx
      rw [hp', List.length_append, List.length_replicate]
  · obtain ⟨a, rfl⟩ := List.length_eq_one_iff.mp (show D.length = 1 by omega)
    rw [treeHash_singleton] at h
    exact hleaf a (by simp) _ (hC _ (by simp)) h.symm

/-! ## consistency proofs -/

/-- `while fn & 1: fn >>= 1; sn >>= 1` -/
def dropOnes (fn sn : Nat) : Nat × Nat :=
  if fn % 2 = 1 then dropOnes (fn / 2) (sn / 2) else (fn, sn)
termination_by fn
decreasing_by omega

theorem dropOnes_odd {fn : Nat} (sn : Nat) (h : fn % 2 = 1) :
    dropOnes fn sn = dropOnes (fn / 2) (sn / 2) := by
  rw [dropOnes, if_pos h]

theorem dropOnes_even {fn : Nat} (sn : Nat) (h : fn % 2 = 0) : dropOnes fn sn = (fn, sn) := by
  rw [dropOnes, if_neg (by omega)]

theorem dropOnes_le {fn sn : Nat} (h : fn ≤ sn) : (dropOnes fn sn).1 ≤ (dropOnes fn sn).2 := by
  fun_induction dropOnes fn sn with
  | case1 fn sn _ ih => exact ih (Nat.div_le_div_right h)
  | case2 fn sn _ => exact h

/-- only ones are dropped exactly from `2 ^ t - 1` -/
theorem dropOnes_fst_eq_zero (fn sn : Nat) :
    (dropOnes fn sn).1 = 0 ↔ ∃ t, fn + 1 = 2 ^ t := by
  fun_induction dropOnes fn sn with
  | case1 fn sn h ih =>
    rw [ih]
    constructor
    · rintro ⟨t, ht⟩
      exact ⟨t + 1, by rw [Nat.pow_succ]; omega⟩
    · rintro ⟨t, ht⟩
      cases t with
      | zero => omega
      | succ t => exact ⟨t, by rw [Nat.pow_succ] at ht; omega⟩
  | case2 fn sn h =>
    constructor
    · intro h0
      exact ⟨0, by simpa using h0⟩
    · rintro ⟨t, ht⟩
      cases t with
      | zero => simpa using ht
      | succ t => rw [Nat.pow_succ] at ht; omega

/-- the sides of the walk of a consistency proof between `m` and `n` leaves -/
def proofSides (m n : Nat) : List Bool :=
  sides (dropOnes (m - 1) (n - 1)).1 (dropOnes (m - 1) (n - 1)).2

theorem sides_dropOnes_left (t f s : Nat) (hf : f < 2 ^ t) (h1 : 2 ^ t ≤ s) (h2 : s < 2 ^ (t + 1)) :
    sides (dropOnes f s).1 (dropOnes f s).2
      = sides (dropOnes f (2 ^ t - 1)).1 (dropOnes f (2 ^ t - 1)).2 ++ [false] := by
  induction t generalizing f s with
  | zero =>
    have e : f = 0 := by simpa using hf
    subst e
    rw [dropOnes_even _ rfl, dropOnes_even _ rfl]
    exact sides_left 0 0 s hf h1 h2
  | succ t ih =>
    have hp : 0 < 2 ^ t := Nat.two_pow_pos t
    have e : 2 ^ (t + 1) = 2 * 2 ^ t := Nat.pow_succ'
    have e' : 2 ^ (t + 1 + 1) = 2 * 2 ^ (t + 1) := Nat.pow_succ'
    rcases Nat.mod_two_eq_zero_or_one f with ho | ho
    · rw [dropOnes_even _ ho, dropOnes_even _ ho]
      exact sides_left (t + 1) f s hf h1 h2
    · rw [dropOnes_odd _ ho, dropOnes_odd _ ho,
        show (2 ^ (t + 1) - 1) / 2 = 2 ^ t - 1 by omega]
      exact ih (f / 2) (s / 2) (by omega) (by omega) (by omega)

theorem sides_dropOnes_right (t a b : Nat) (hab : a < b) (hb : b < 2 ^ t) :
    sides (dropOnes (2 ^ t + a) (2 ^ t + b)).1 (dropOnes (2 ^ t + a) (2 ^ t + b)).2
      = sides (dropOnes a b).1 (dropOnes a b).2 ++ [true] := by
  induction t generalizing a b with
  | zero => simp at hb; omega
  | succ t ih =>
    have e : 2 ^ (t + 1) = 2 * 2 ^ t := Nat.pow_succ'
    rcases Nat.mod_two_eq_zero_or_one a with ho | ho
    · rw [dropOnes_even _ ho, dropOnes_even _ (by omega)]
      exact sides_right (t + 1) a b (Nat.le_of_lt hab) hb
    · rw [dropOnes_odd _ ho, dropOnes_odd _ (by omega),
        show (2 ^ (t + 1) + a) / 2 = 2 ^ t + a / 2 by omega,
        show (2 ^ (t + 1) + b) / 2 = 2 ^ t + b / 2 by omega]
      exact ih (a / 2) (b / 2) (by omega) (by omega)

theorem proofSides_left {m n : Nat} (h0 : 1 ≤ m) (hn : 2 ≤ n) (hm : m ≤ splitPoint n) :
    proofSides m n = proofSides m (splitPoint n) ++ [false] := by
  have h1 := splitPoint_lt hn
  have h2 := le_two_splitPoint hn
  have e : 2 ^ (Nat.log2 (n - 1) + 1) = 2 * splitPoint n := Nat.pow_succ'
  have hl : 2 ^ Nat.log2 (n - 1) = splitPoint n := rfl
  exact sides_dropOnes_left (Nat.log2 (n - 1)) (m - 1) (n - 1) (by omega) (by omega) (by omega)

theorem proofSides_right {m n : Nat} (hn : 2 ≤ n) (h1 : splitPoint n < m) (h2 : m < n) :
    proofSides m n = proofSides (m - splitPoint n) (n - splitPoint n) ++ [true] := by
  have h3 := le_two_splitPoint hn
  have hl : 2 ^ Nat.log2 (n - 1) = splitPoint n := rfl
  have e := sides_dropOnes_right (Nat.log2 (n - 1)) (m - splitPoint n - 1) (n - splitPoint n - 1)
    (by omega) (by omega)
  have e1 : 2 ^ Nat.log2 (n - 1) + (m - splitPoint n - 1) = m - 1 := by omega
  have e2 : 2 ^ Nat.log2 (n - 1) + (n - splitPoint n - 1) = n - 1 := by omega
  rw [e1, e2] at e
  exact e

theorem proofSides_pow (t : Nat) : proofSides (2 ^ t) (2 ^ t) = [] := by
  have h : ∀ t, dropOnes (2 ^ t - 1) (2 ^ t - 1) = (0, 0) := by
    intro t
    induction t with
    | zero => exact dropOnes_even _ rfl
    | succ t ih =>
      have hp : 0 < 2 ^ t := Nat.two_pow_pos t
      have e : 2 ^ (t + 1) = 2 * 2 ^ t := Nat.pow_succ'
      rw [dropOnes_odd _ (by omega), show (2 ^ (t + 1) - 1) / 2 = 2 ^ t - 1 by omega, ih]
  unfold proofSides
  rw [h, sides_zero]

theorem treeHash_take {D : List α} {m : Nat} (hm : m ≤ D.length) (h1 : splitPoint D.length < m) :
    treeHash empty leaf node (D.take m)
      = node (treeHash empty leaf node (D.take (splitPoint D.length)))
          (treeHash empty leaf node ((D.drop (splitPoint D.length)).take (m - splitPoint D.length))) := by
  have hpos := splitPoint_pos D.length
  have h2 : 2 ≤ D.length := by omega
  have hk2 := le_two_splitPoint h2
  have hl : (D.take m).length = m := by rw [List.length_take, Nat.min_eq_left hm]
  have e : 2 ^ (Nat.log2 (D.length - 1) + 1) = 2 * splitPoint D.length := Nat.pow_succ'
  have hs : splitPoint (D.take m).length = splitPoint D.length := by
    rw [hl]
    exact splitPoint_eq h1 (by omega)
  rw [treeHash_split empty leaf node (by omega : 2 ≤ (D.take m).length), hs, List.take_take,
    Nat.min_eq_left (Nat.le_of_lt h1), List.drop_take]

/-- **The consistency proof climbs to both tree hashes**: from its first hash, along the walk,
all siblings give the hash of all leaves, and the left ones the hash of the first `m`. -/
theorem subProof_spec (D : List α) (m : Nat) (h0 : 1 ≤ m) (hm : m < D.length ∨
    m = D.length ∧ ∃ t, m = 2 ^ t) :
    ∃ x rest, subProof empty leaf node m D false = x :: rest ∧
      rest.length = (proofSides m D.length).length ∧
      climb node x (proofSides m D.length) rest = treeHash empty leaf node D ∧
      climbOld node x (proofSides m D.length) rest = treeHash empty leaf node (D.take m) ∧
      ∀ e ∈ climbPairs node x (proofSides m D.length) rest, e ∈ treePairs empty leaf node D := by
  induction hn : D.length using Nat.strong_induction_on generalizing D m with
  | _ n ih =>
  subst hn
  rcases hm with hm | ⟨hm, t, ht⟩
  · have h2 : 2 ≤ D.length := by omega
    have hk := splitPoint_lt h2
    have hpos := splitPoint_pos D.length
    have hroot := mem_treePairs_root empty leaf node h2
    rw [treeHash_split empty leaf node h2]
    by_cases hmk : m ≤ splitPoint D.length
    · have hlt : (D.take (splitPoint D.length)).length = splitPoint D.length := by
        rw [List.length_take, Nat.min_eq_left (Nat.le_of_lt hk)]
      obtain ⟨x, rest, h3, h4, h5, h6, h7⟩ := ih _ hk (D.take (splitPoint D.length)) m h0 (by
        rw [hlt]
        rcases Nat.lt_or_eq_of_le hmk with h | h
        · exact Or.inl h
        · exact Or.inr ⟨h, Nat.log2 (D.length - 1), h⟩) hlt
      refine ⟨x, rest ++ [treeHash empty leaf node (D.drop (splitPoint D.length))], ?_, ?_, ?_, ?_, ?_⟩
      · rw [subProof_left empty leaf node false h0 hm hmk, h3]
        rfl
      · rw [proofSides_left h0 h2 hmk]
        simp [h4]
      · rw [proofSides_left h0 h2 hmk, climb_snoc node _ _ _ _ _ h4, h5]
        rfl
      · rw [proofSides_left h0 h2 hmk, climbOld_append node _ _ _ _ _ h4, h6, List.take_take,
          Nat.min_eq_left hmk]
        rfl
      · intro e he
        rw [proofSides_left h0 h2 hmk, climbPairs_snoc node _ _ _ _ _ h4, h5] at he
        rcases List.mem_append.mp he with he | he
        · exact mem_treePairs_take empty leaf node h2 (h7 e he)
        · rw [List.mem_singleton.mp he]
          exact hroot
    · have hmk' : splitPoint D.length < m := Nat.lt_of_not_le hmk
      have hlt : (D.drop (splitPoint D.length)).length = D.length - splitPoint D.length :=
        List.length_drop
      obtain ⟨x, rest, h3, h4, h5, h6, h7⟩ := ih _ (by omega) (D.drop (splitPoint D.length))
        (m - splitPoint D.length) (by omega) (Or.inl (by omega)) hlt
      refine ⟨x, rest ++ [treeHash empty leaf node (D.take (splitPoint D.length))], ?_, ?_, ?_, ?_, ?_⟩
      · rw [subProof_right empty leaf node false hm hmk', h3]
        rfl
      · rw [proofSides_right h2 hmk' hm]
        simp [h4]
      · rw [proofSides_right h2 hmk' hm, climb_snoc node _ _ _ _ _ h4, h5]
        rfl
      · rw [proofSides_right h2 hmk' hm, climbOld_append node _ _ _ _ _ h4, h6,
          treeHash_take empty leaf node (Nat.le_of_lt hm) hmk']
        rfl
      · intro e he
        rw [proofSides_right h2 hmk' hm, climbPairs_snoc node _ _ _ _ _ h4, h5] at he
        rcases List.mem_append.mp he with he | he
        · exact mem_treePairs_drop empty leaf node h2 (h7 e he)
        · rw [List.mem_singleton.mp he]
          exact hroot
  · refine ⟨treeHash empty leaf node D, [], ?_, ?_, ?_, ?_, ?_⟩
    · rw [subProof_base empty leaf node false (by omega)]
      rfl
    · rw [← hm, ht, proofSides_pow]
      rfl
    · exact climb_nil node _ _
    · rw [hm, List.take_length, ← hm, ht, proofSides_pow]
      rfl
    · rw [← hm, ht, proofSides_pow]
      exact fun e he => absurd he (by simp [climbPairs])

/-- the consistency proof of a complete old tree leaves its hash out -/
theorem consistencyProof_pow (D : List α) (m : Nat) (h0 : 1 ≤ m) (hm : m ≤ D.length)
    (hpow : ∃ t, m = 2 ^ t) :
    subProof empty leaf node m D false
      = treeHash empty leaf node (D.take m) :: consistencyProof empty leaf node m D := by
  unfold consistencyProof
  induction hn : D.length using Nat.strong_induction_on generalizing D with
  | _ n ih =>
  subst hn
  rcases Nat.lt_or_eq_of_le hm with hm | hm
  · have h2 : 2 ≤ D.length := by omega
    have hk := splitPoint_lt h2
    have hk2 := le_two_splitPoint h2
    have hmk : m ≤ splitPoint D.length := by
      obtain ⟨t, rfl⟩ := hpow
      refine Nat.pow_le_pow_right (by decide) (Nat.le_of_lt_succ ?_)
      rw [← Nat.pow_lt_pow_iff_right (a := 2) (by decide), Nat.pow_succ']
      exact Nat.lt_of_lt_of_le hm hk2
    have hlt : (D.take (splitPoint D.length)).length = splitPoint D.length := by
      rw [List.length_take, Nat.min_eq_left (Nat.le_of_lt hk)]
    have h3 := ih _ hk (D.take (splitPoint D.length)) (by rw [hlt]; exact hmk) hlt
    rw [List.take_take, Nat.min_eq_left hmk] at h3
    rw [subProof_left empty leaf node _ h0 hm hmk, subProof_left empty leaf node _ h0 hm hmk, h3]
    rfl
  · rw [subProof_base empty leaf node _ (by omega), subProof_base empty leaf node _ (by omega), hm,
      List.take_length]
    rfl

/-- the consistency proof of any other old tree starts with the hash of its last subtree -/
theorem consistencyProof_not_pow (D : List α) (m : Nat) (h0 : 1 ≤ m) (hm : m < D.length)
    (hpow : ¬ ∃ t, m = 2 ^ t) :
    consistencyProof empty leaf node m D = subProof empty leaf node m D false := by
  unfold consistencyProof
  induction hn : D.length using Nat.strong_induction_on generalizing D with
  | _ n ih =>
  subst hn
  have h2 : 2 ≤ D.length := by omega
  have hk := splitPoint_lt h2
  by_cases hmk : m ≤ splitPoint D.length
  · have hlt : (D.take (splitPoint D.length)).length = splitPoint D.length := by
      rw [List.length_take, Nat.min_eq_left (Nat.le_of_lt hk)]
    have hne : m ≠ splitPoint D.length := fun h => hpow ⟨_, h⟩
    have h3 := ih _ hk (D.take (splitPoint D.length)) (by omega) hlt
    rw [subProof_left empty leaf node _ h0 hm hmk, subProof_left empty leaf node _ h0 hm hmk, h3]
  · rw [subProof_right empty leaf node _ hm (by omega),
      subProof_right empty leaf node _ hm (by omega)]

end

end Merkle
