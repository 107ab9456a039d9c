import Mathlib.Tactic.Ring
import Mathlib.Algebra.Order.Ring.Nat
import Mathlib.Data.List.Basic

/-!
# Merkle tree hashes and the bit-shift walk from a leaf to the root

The tree hash, the audit path and the consistency proof of RFC 6962 are recursive: they split
the leaves at the largest power of two below their number.  A verifier works the other way up:
it shifts a pair `(fn, sn)` (node index, index of the last node of the level) right and takes
one sibling per level that has one.  Here both are defined over an arbitrary type of hash
values, and the shape of the walk is computed.

* `treeHash`, `auditPath`, `subProof`    the recursive definitions;
* `sides fn sn`       the side of the sibling at every step of the walk (`true`: on the left);
* `sides_left`, `sides_right`    the walk in a tree is the walk in its left or right subtree and
                      one more step;
* `sides_last`, `false_mem_sides`    only the walk from the last leaf has all siblings on the left.
-/

set_option linter.unusedSectionVars false

namespace Merkle

/-! ## the split point -/

/-- the largest power of two below `n` (for `2 ≤ n`) -/
def splitPoint (n : Nat) : Nat := 2 ^ Nat.log2 (n - 1)

theorem splitPoint_pos (n : Nat) : 0 < splitPoint n := Nat.two_pow_pos _

theorem splitPoint_lt {n : Nat} (h : 2 ≤ n) : splitPoint n < n := by
  have h1 : 2 ^ Nat.log2 (n - 1) ≤ n - 1 := Nat.log2_self_le (by omega)
  unfold splitPoint
  omega

theorem le_two_splitPoint {n : Nat} (h : 2 ≤ n) : n ≤ 2 * splitPoint n := by
  have h1 : n - 1 < 2 ^ (Nat.log2 (n - 1) + 1) := Nat.lt_log2_self
  rw [Nat.pow_succ] at h1
  unfold splitPoint
  omega

/-- every number between a power of two and its double splits there -/
theorem splitPoint_eq {n t : Nat} (h1 : 2 ^ t < n) (h2 : n ≤ 2 ^ (t + 1)) : splitPoint n = 2 ^ t := by
  have h : Nat.log2 (n - 1) = t := by
    rw [Nat.log2_eq_iff (by omega)]
    omega
  unfold splitPoint
  rw [h]

/-! ## tree hash, audit path, consistency proof -/

section
variable {α H : Type} (empty : H) (leaf : α → H) (node : H → H → H)

/-- the tree hash of a list of leaves -/
def treeHash : List α → H
  | [] => empty
  | [a] => leaf a
  | a :: b :: rest =>
    let k := splitPoint (rest.length + 2)
    node (treeHash ((a :: b :: rest).take k)) (treeHash ((a :: b :: rest).drop k))
termination_by D => D.length
decreasing_by
  · have := splitPoint_lt (n := rest.length + 2) (by omega)
    simp only [List.length_take, List.length_cons]
    omega
  · have := splitPoint_pos (rest.length + 2)
    simp only [List.length_drop, List.length_cons]
    omega

/-- the sibling hashes of leaf `i`, from the leaf towards the root -/
def auditPath (i : Nat) (D : List α) : List H :=
  if D.length ≤ 1 then []
  else
    let k := splitPoint D.length
    if i < k then auditPath i (D.take k) ++ [treeHash empty leaf node (D.drop k)]
    else auditPath (i - k) (D.drop k) ++ [treeHash empty leaf node (D.take k)]
termination_by D.length
decreasing_by
  · have := splitPoint_lt (n := D.length) (by omega)
    simp only [List.length_take]
    omega
  · have := splitPoint_pos D.length
    simp only [List.length_drop]
    omega

/-- `SUBPROOF(m, D, b)` of RFC 6962, section 2.1.2 -/
def subProof (m : Nat) (D : List α) (b : Bool) : List H :=
  if D.length ≤ m then if b then [] else [treeHash empty leaf node D]
  else if D.length ≤ 1 then []
  else
    let k := splitPoint D.length
    if m ≤ k then subProof m (D.take k) b ++ [treeHash empty leaf node (D.drop k)]
    else subProof (m - k) (D.drop k) false ++ [treeHash empty leaf node (D.take k)]
termination_by D.length
decreasing_by
  · have := splitPoint_lt (n := D.length) (by omega)
    simp only [List.length_take]
    omega
  · have := splitPoint_pos D.length
    simp only [List.length_drop]
    omega

/-- the consistency proof between the first `m` leaves and all of them -/
def consistencyProof (m : Nat) (D : List α) : List H := subProof empty leaf node m D true

theorem treeHash_split {D : List α} (h : 2 ≤ D.length) :
    treeHash empty leaf node D
      = node (treeHash empty leaf node (D.take (splitPoint D.length)))
          (treeHash empty leaf node (D.drop (splitPoint D.length))) := by
  match D with
  | [] => simp at h
  | [_] => simp at h
  | a :: b :: rest => rw [treeHash]; rfl

theorem treeHash_singleton (a : α) : treeHash empty leaf node [a] = leaf a := by rw [treeHash]

theorem auditPath_small {D : List α} (i : Nat) (h : D.length ≤ 1) :
    auditPath empty leaf node i D = [] := by
  rw [auditPath, if_pos h]

theorem auditPath_left {D : List α} {i : Nat} (h : 2 ≤ D.length) (hi : i < splitPoint D.length) :
    auditPath empty leaf node i D
      = auditPath empty leaf node i (D.take (splitPoint D.length))
        ++ [treeHash empty leaf node (D.drop (splitPoint D.length))] := by
  rw [auditPath, if_neg (by omega)]
  exact if_pos hi

theorem auditPath_right {D : List α} {i : Nat} (h : 2 ≤ D.length)
    (hi : splitPoint D.length ≤ i) :
    auditPath empty leaf node i D
      = auditPath empty leaf node (i - splitPoint D.length) (D.drop (splitPoint D.length))
        ++ [treeHash empty leaf node (D.take (splitPoint D.length))] := by
  rw [auditPath, if_neg (by omega)]
  exact if_neg (by omega)

theorem subProof_base {D : List α} {m : Nat} (b : Bool) (h : D.length ≤ m) :
    subProof empty leaf node m D b = if b then [] else [treeHash empty leaf node D] := by
  rw [subProof, if_pos h]

theorem subProof_left {D : List α} {m : Nat} (b : Bool) (h0 : 1 ≤ m) (h : m < D.length)
    (hm : m ≤ splitPoint D.length) :
    subProof empty leaf node m D b
      = subProof empty leaf node m (D.take (splitPoint D.length)) b
        ++ [treeHash empty leaf node (D.drop (splitPoint D.length))] := by
  rw [subProof, if_neg (by omega), if_neg (by omega)]
  exact if_pos hm

theorem subProof_right {D : List α} {m : Nat} (b : Bool) (h : m < D.length)
    (hm : splitPoint D.length < m) :
    subProof empty leaf node m D b
      = subProof empty leaf node (m - splitPoint D.length) (D.drop (splitPoint D.length)) false
        ++ [treeHash empty leaf node (D.take (splitPoint D.length))] := by
  have := splitPoint_pos D.length
  rw [subProof, if_neg (by omega), if_neg (by omega)]
  exact if_neg (by omega)

end

/-! ## the walk: which side the sibling is on -/

/-- `while fn and not (fn & 1): fn >>= 1; sn >>= 1` -/
def dropZeros (fn sn : Nat) : Nat × Nat :=
  if fn ≠ 0 ∧ fn % 2 = 0 then dropZeros (fn / 2) (sn / 2) else (fn, sn)
termination_by fn
decreasing_by omega

theorem dropZeros_stop {fn : Nat} (sn : Nat) (h : fn = 0 ∨ fn % 2 = 1) :
    dropZeros fn sn = (fn, sn) := by
  rw [dropZeros, if_neg (by omega)]

theorem dropZeros_even {fn : Nat} (sn : Nat) (h : fn ≠ 0) (h2 : fn % 2 = 0) :
    dropZeros fn sn = dropZeros (fn / 2) (sn / 2) := by
  rw [dropZeros, if_pos ⟨h, h2⟩]

theorem dropZeros_snd_le (fn sn : Nat) : (dropZeros fn sn).2 ≤ sn := by
  fun_induction dropZeros fn sn with
  | case1 fn sn _ ih => exact le_trans ih (Nat.div_le_self sn 2)
  | case2 fn sn _ => exact le_rfl

theorem dropZeros_fst_le_snd {fn sn : Nat} (h : fn ≤ sn) :
    (dropZeros fn sn).1 ≤ (dropZeros fn sn).2 := by
  fun_induction dropZeros fn sn with
  | case1 fn sn _ ih => exact ih (Nat.div_le_div_right h)
  | case2 fn sn _ => exact h

/-- the indices after a step that hashed the node with a left sibling -/
def stepRight (fn sn : Nat) : Nat × Nat :=
  ((dropZeros fn sn).1 / 2, (dropZeros fn sn).2 / 2)

theorem stepRight_odd {fn : Nat} (sn : Nat) (h : fn % 2 = 1) :
    stepRight fn sn = (fn / 2, sn / 2) := by
  unfold stepRight
  rw [dropZeros_stop sn (Or.inr h)]

theorem stepRight_snd_lt (fn : Nat) {sn : Nat} (h : sn ≠ 0) : (stepRight fn sn).2 < sn := by
  have h1 := dropZeros_snd_le fn sn
  show (dropZeros fn sn).2 / 2 < sn
  omega

theorem stepRight_le {fn sn : Nat} (h : fn ≤ sn) : (stepRight fn sn).1 ≤ (stepRight fn sn).2 :=
  Nat.div_le_div_right (dropZeros_fst_le_snd h)

theorem stepRight_eq (s : Nat) : (stepRight s s).1 = (stepRight s s).2 := by
  have h : (dropZeros s s).1 = (dropZeros s s).2 := by
    generalize hs : s = r
    have e : (dropZeros s r).1 = (dropZeros s r).2 := by
      fun_induction dropZeros s r with
      | case1 fn sn _ ih => exact ih (by rw [hs])
      | case2 fn sn _ => exact hs
    rw [hs] at e
    exact e
  show (dropZeros s s).1 / 2 = (dropZeros s s).2 / 2
  rw [h]

/-- the sides of the siblings on the way from node `fn` of a level whose last node is `sn` up to
the root (`true`: the sibling is on the left) -/
def sides (fn sn : Nat) : List Bool :=
  if sn = 0 then []
  else if fn % 2 = 1 ∨ fn = sn then true :: sides (stepRight fn sn).1 (stepRight fn sn).2
  else false :: sides (fn / 2) (sn / 2)
termination_by sn
decreasing_by
  · exact stepRight_snd_lt fn ‹_›
  · omega

theorem sides_zero (fn : Nat) : sides fn 0 = [] := by rw [sides, if_pos rfl]

theorem sides_true {fn sn : Nat} (h0 : sn ≠ 0) (h : fn % 2 = 1 ∨ fn = sn) :
    sides fn sn = true :: sides (stepRight fn sn).1 (stepRight fn sn).2 := by
  rw [sides, if_neg h0, if_pos h]

theorem sides_false {fn sn : Nat} (h0 : sn ≠ 0) (h : ¬ (fn % 2 = 1 ∨ fn = sn)) :
    sides fn sn = false :: sides (fn / 2) (sn / 2) := by
  rw [sides, if_neg h0, if_neg h]

/-- only the root of a level of one node has no way to go -/
theorem sides_eq_nil {fn sn : Nat} : sides fn sn = [] ↔ sn = 0 := by
  constructor
  · intro hs
    by_contra h0
    by_cases hc : fn % 2 = 1 ∨ fn = sn
    · rw [sides_true h0 hc] at hs
      cases hs
    · rw [sides_false h0 hc] at hs
      cases hs
  · rintro rfl
    exact sides_zero fn

/-- a walk that starts in the left subtree ends with one step whose sibling is on the right -/
theorem sides_left (t i s : Nat) (hi : i < 2 ^ t) (h1 : 2 ^ t ≤ s) (h2 : s < 2 ^ (t + 1)) :
    sides i s = sides i (2 ^ t - 1) ++ [false] := by
  induction t generalizing i s with
  | zero =>
    have e1 : i = 0 := by simpa using hi
    have e2 : s = 1 := by simp at h1 h2; omega
    subst e1 e2
    rw [sides_false (by decide) (by decide), sides_zero, Nat.pow_zero, Nat.sub_self, sides_zero]
    rfl
  | succ t ih =>
    have hp : 0 < 2 ^ t := Nat.two_pow_pos t
    have e : 2 ^ (t + 1) = 2 * 2 ^ t := Nat.pow_succ'
    have e' : 2 ^ (t + 1 + 1) = 2 * 2 ^ (t + 1) := Nat.pow_succ'
    have hm : (2 ^ (t + 1) - 1) / 2 = 2 ^ t - 1 := by omega
    have hrec := ih (i / 2) (s / 2) (by omega) (by omega) (by omega)
    by_cases ho : i % 2 = 1
    · rw [sides_true (by omega) (Or.inl ho), sides_true (by omega) (Or.inl ho),
        stepRight_odd _ ho, stepRight_odd _ ho, hm, hrec]
      rfl
    · have hl : sides i s = false :: sides (i / 2) (s / 2) := sides_false (by omega) (by omega)
      have hr : sides i (2 ^ (t + 1) - 1) = false :: sides (i / 2) ((2 ^ (t + 1) - 1) / 2) :=
        sides_false (by omega) (by omega)
      rw [hl, hr, hm, hrec]
      rfl

theorem length_sides_full (t i : Nat) (hi : i < 2 ^ t) : (sides i (2 ^ t - 1)).length = t := by
  induction t generalizing i with
  | zero => rw [Nat.pow_zero, Nat.sub_self, sides_zero]; rfl
  | succ t ih =>
    have hp : 0 < 2 ^ t := Nat.two_pow_pos t
    have e : 2 ^ (t + 1) = 2 * 2 ^ t := Nat.pow_succ'
    have hm : (2 ^ (t + 1) - 1) / 2 = 2 ^ t - 1 := by omega
    by_cases ho : i % 2 = 1
    · rw [sides_true (by omega) (Or.inl ho), stepRight_odd _ ho, hm, List.length_cons,
        ih (i / 2) (by omega)]
    · rw [sides_false (by omega) (by omega), hm, List.length_cons, ih (i / 2) (by omega)]

theorem stepRight_two_pow (s : Nat) : stepRight (2 ^ s) (2 ^ s) = (0, 0) := by
  have h : dropZeros (2 ^ s) (2 ^ s) = (1, 1) := by
    induction s with
    | zero => rw [dropZeros_stop _ (Or.inr rfl)]; rfl
    | succ s ih =>
      have hp : 0 < 2 ^ s := Nat.two_pow_pos s
      have e : 2 ^ (s + 1) = 2 * 2 ^ s := Nat.pow_succ'
      have hd : 2 ^ (s + 1) / 2 = 2 ^ s := by omega
      rw [dropZeros_even _ (by omega) (by omega), hd, ih]
  unfold stepRight
  rw [h]
  rfl

/-- dropping the zeros of `a` and of `2 ^ s + a` is the same shift -/
theorem stepRight_add (s a b : Nat) (ha : a ≠ 0) (hs : a < 2 ^ s) (hb : b < 2 ^ s) :
    ∃ s', stepRight (2 ^ s + a) (2 ^ s + b)
        = (2 ^ s' + (stepRight a b).1, 2 ^ s' + (stepRight a b).2) ∧
      (stepRight a b).2 < 2 ^ s' := by
  induction s generalizing a b with
  | zero => simp at hs; omega
  | succ s ih =>
    have e : 2 ^ (s + 1) = 2 * 2 ^ s := Nat.pow_succ'
    by_cases ho : a % 2 = 1
    · refine ⟨s, ?_, ?_⟩
      · rw [stepRight_odd _ (by omega), stepRight_odd _ ho]
        exact Prod.ext (by show _ / 2 = 2 ^ s + a / 2; omega)
          (by show _ / 2 = 2 ^ s + b / 2; omega)
      · rw [stepRight_odd _ ho]
        show b / 2 < 2 ^ s
        omega
    · have h1 : stepRight a b = stepRight (a / 2) (b / 2) := by
        unfold stepRight
        rw [dropZeros_even _ ha (by omega)]
      have h2 : stepRight (2 ^ (s + 1) + a) (2 ^ (s + 1) + b)
          = stepRight (2 ^ s + a / 2) (2 ^ s + b / 2) := by
        unfold stepRight
        rw [dropZeros_even _ (by omega) (by omega),
          show (2 ^ (s + 1) + a) / 2 = 2 ^ s + a / 2 by omega,
          show (2 ^ (s + 1) + b) / 2 = 2 ^ s + b / 2 by omega]
      rw [h1, h2]
      exact ih (a / 2) (b / 2) (by omega) (by omega) (by omega)

/-- a walk that starts in the right subtree ends with one step whose sibling is on the left -/
theorem sides_right (s a b : Nat) (hab : a ≤ b) (hb : b < 2 ^ s) :
    sides (2 ^ s + a) (2 ^ s + b) = sides a b ++ [true] := by
  have hp : 0 < 2 ^ s := Nat.two_pow_pos s
  induction b using Nat.strong_induction_on generalizing a s with
  | _ b ih =>
  by_cases hb0 : b = 0
  · have ha0 : a = 0 := by omega
    subst hb0 ha0
    rw [Nat.add_zero, sides_true (by omega) (Or.inr rfl), stepRight_two_pow]
    show true :: sides 0 0 = sides 0 0 ++ [true]
    rw [sides_zero]
    rfl
  · obtain ⟨s', rfl⟩ : ∃ s', s = s' + 1 := by
      refine ⟨s - 1, ?_⟩
      have : s ≠ 0 := by
        rintro rfl
        simp at hb
        omega
      omega
    have e : 2 ^ (s' + 1) = 2 * 2 ^ s' := Nat.pow_succ'
    have hp' : 0 < 2 ^ s' := Nat.two_pow_pos s'
    by_cases h : a % 2 = 1 ∨ a = b
    · obtain ⟨r, hr, hlt⟩ := stepRight_add (s' + 1) a b (by omega) (by omega) hb
      rw [sides_true (by omega) (by omega), sides_true hb0 h, hr,
        ih _ (stepRight_snd_lt a hb0) r _ (stepRight_le hab) hlt (Nat.two_pow_pos r)]
      rfl
    · rw [sides_false (by omega) (by omega), sides_false hb0 h,
        show (2 ^ (s' + 1) + a) / 2 = 2 ^ s' + a / 2 by omega,
        show (2 ^ (s' + 1) + b) / 2 = 2 ^ s' + b / 2 by omega,
        ih (b / 2) (by omega) s' (a / 2) (by omega) (by omega) hp']
      rfl

/-- the walk from the last node of a level only meets siblings on the left -/
theorem sides_last (s : Nat) : sides s s = List.replicate (sides s s).length true := by
  induction s using Nat.strong_induction_on with
  | _ s ih =>
  by_cases h0 : s = 0
  · subst h0
    rw [sides_zero]
    rfl
  · have hlt := stepRight_snd_lt s h0
    have hrec := ih _ hlt
    rw [sides_true h0 (Or.inr rfl), stepRight_eq, List.length_cons, List.replicate_succ, ← hrec]

/-- the walk from any other node meets a sibling on the right -/
theorem false_mem_sides {fn sn : Nat} (h : fn < sn) : false ∈ sides fn sn := by
  induction sn using Nat.strong_induction_on generalizing fn with
  | _ sn ih =>
  by_cases ho : fn % 2 = 1 ∨ fn = sn
  · have ho' : fn % 2 = 1 := by omega
    rw [sides_true (by omega) ho, stepRight_odd _ ho']
    exact List.mem_cons_of_mem _ (ih (sn / 2) (by omega) (by omega))
  · rw [sides_false (by omega) ho]
    exact List.mem_cons_self

end Merkle
