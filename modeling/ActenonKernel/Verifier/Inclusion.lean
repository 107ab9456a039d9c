import ActenonKernel.Verifier.Transparency
import ActenonKernel.Lib.Fallible
import ActenonKernel.Core.Same

/-!
# Inclusion proofs

The loop of `verify_inclusion` climbs along the sides of the walk of the leaf and, when hashes are
left over at the root, goes on with siblings on the left.  The hash is any function with values of
32 bytes; where it has to be free of collisions, it is so on the messages that were hashed.

* `inclusionLoop_eq`        what the loop computes, for every path;
* `verifyInclusion_iff`     for the root of a tree: exactly the leaf with its audit path is accepted;
* `verifyInclusion_binding`     for an arbitrary root: when a position has one leaf only.
-/

set_option linter.unusedSectionVars false

namespace Actenon

open Merkle

section
variable (P : Platform)

/-- `MTH` of RFC 6962 -/
def mth (D : List (List UInt8)) : List UInt8 := treeHash (P.sha256 []) (leafHash P) (nodeHash P) D

/-- `PATH` of RFC 6962 -/
def rfcAuditPath (i : Nat) (D : List (List UInt8)) : List (List UInt8) :=
  auditPath (P.sha256 []) (leafHash P) (nodeHash P) i D

/-! ## messages -/

/-- the message of a pair of children -/
def pairMessage (e : List UInt8 × List UInt8) : List UInt8 := nodeMessage e.1 e.2

/-- the messages hashed for the tree of `D` -/
def treeMessages (D : List (List UInt8)) : List (List UInt8) :=
  D.map leafMessage ++ (treePairs (P.sha256 []) (leafHash P) (nodeHash P) D).map pairMessage

/-- the pairs hashed by `inclusionLoop` -/
def inclusionPairs : Nat → Nat → List UInt8 → List Hash256 → List (List UInt8 × List UInt8)
  | _, _, _, [] => []
  | fn, sn, node, sibling :: path =>
    if fn % 2 = 1 ∨ fn = sn then
      (sibling.val, node) :: inclusionPairs ((dropZeros fn sn).1 / 2) ((dropZeros fn sn).2 / 2)
        (nodeHash P sibling.val node) path
    else (node, sibling.val) :: inclusionPairs (fn / 2) (sn / 2) (nodeHash P node sibling.val) path

/-- the messages hashed by `verify_inclusion` -/
def inclusionMessages (q : InclusionInputs) : List (List UInt8) :=
  leafMessage q.digest.bytes.val :: (inclusionPairs P q.leafIndex (q.treeSize - 1)
    (leafHash P q.digest.bytes.val) q.auditPath).map pairMessage

/-- the loop takes the sides of the walk and then siblings on the left -/
def walk (fn sn k : Nat) : List Bool := sides fn sn ++ List.replicate k true

theorem walk_zero (k : Nat) : walk 0 0 k = List.replicate k true := by
  unfold walk
  rw [sides_zero]
  rfl

theorem length_walk (fn sn k : Nat) : (walk fn sn k).length = (sides fn sn).length + k := by
  unfold walk
  rw [List.length_append, List.length_replicate]

theorem walk_succ (fn sn k : Nat) : walk fn sn (k + 1) = walk fn sn k ++ [true] := by
  unfold walk
  rw [List.replicate_succ', List.append_assoc]

theorem walk_none (fn sn : Nat) : walk fn sn 0 = sides fn sn := List.append_nil _

theorem walk_trim {fn sn k n : Nat} (h : k ≤ n) :
    walk fn sn n = walk fn sn k ++ List.replicate (n - k) true := by
  unfold walk
  rw [List.append_assoc, List.replicate_append_replicate, Nat.add_sub_of_le h]

/-- sides past the end of a path play no role -/
theorem climb_walk {fn sn k n : Nat} (x : List UInt8) {p : List (List UInt8)}
    (hp : p.length = (sides fn sn).length + k) (h : k ≤ n) :
    climb (nodeHash P) x (walk fn sn n) p = climb (nodeHash P) x (walk fn sn k) p := by
  rw [walk_trim h, climb_append_sides]
  rw [length_walk, hp]

theorem length_path (path : List Hash256) : ∀ h ∈ path.map Subtype.val, h.length = 32 := by
  intro h hh
  obtain ⟨e, -, rfl⟩ := List.mem_map.mp hh
  exact e.2

/-- **What the loop computes**: the climb along the walk, and whether the path is long enough. -/
theorem inclusionLoop_eq (fn sn : Nat) (h : fn ≤ sn) (x : List UInt8) (path : List Hash256) :
    (inclusionLoop P fn sn x path).1
        = climb (nodeHash P) x (walk fn sn path.length) (path.map Subtype.val) ∧
      ((inclusionLoop P fn sn x path).2 = 0 ↔ (sides fn sn).length ≤ path.length) ∧
      inclusionPairs P fn sn x path
        = climbPairs (nodeHash P) x (walk fn sn path.length) (path.map Subtype.val) := by
  induction path generalizing fn sn x with
  | nil =>
    refine ⟨(climb_nil _ _ _).symm, ?_, ?_⟩
    · show sn = 0 ↔ (sides fn sn).length ≤ 0
      rw [Nat.le_zero, List.length_eq_zero_iff, sides_eq_nil]
    · show [] = climbPairs (nodeHash P) x (walk fn sn 0) []
      cases walk fn sn 0 <;> rfl
  | cons sib path ih =>
    have hlen : (path.map Subtype.val).length = path.length := List.length_map _
    by_cases h0 : sn = 0
    · have e0 : fn = 0 := by omega
      subst h0 e0
      have hd : dropZeros 0 0 = (0, 0) := dropZeros_stop 0 (Or.inl rfl)
      obtain ⟨h1, h2, h3⟩ := ih 0 0 (Nat.le_refl 0) (nodeHash P sib.val x)
      rw [walk_zero] at h1 h3
      rw [sides_zero] at h2
      rw [inclusionLoop, inclusionPairs, if_pos (Or.inr rfl), if_pos (Or.inr rfl), hd, walk_zero,
        sides_zero, List.length_cons, List.replicate_succ]
      refine ⟨h1, by simpa using h2, ?_⟩
      show (sib.val, x) :: inclusionPairs P 0 0 (nodeHash P sib.val x) path = _
      rw [h3]
      rfl
    · by_cases hc : fn % 2 = 1 ∨ fn = sn
      · obtain ⟨h1, h2, h3⟩ := ih (stepRight fn sn).1 (stepRight fn sn).2 (stepRight_le h)
          (nodeHash P sib.val x)
        have hw : walk fn sn (path.length + 1)
            = true :: (walk (stepRight fn sn).1 (stepRight fn sn).2 path.length ++ [true]) := by
          rw [← walk_succ]
          unfold walk
          rw [sides_true h0 hc]
          rfl
        have hle : (path.map Subtype.val).length
            ≤ (walk (stepRight fn sn).1 (stepRight fn sn).2 path.length).length := by
          rw [length_walk, hlen]
          omega
        rw [inclusionLoop, inclusionPairs, if_pos hc, if_pos hc, List.length_cons, hw, List.map_cons,
          climb_cons, climb_append_sides _ _ _ _ _ hle]
        refine ⟨h1, ?_, ?_⟩
        · rw [sides_true h0 hc, List.length_cons, Nat.succ_le_succ_iff]
          exact h2
        · show (sib.val, x) :: _ = (sib.val, x) :: climbPairs _ _ _ _
          rw [climbPairs_append_sides _ _ _ _ _ hle]
          exact congrArg _ h3
      · obtain ⟨h1, h2, h3⟩ := ih (fn / 2) (sn / 2) (Nat.div_le_div_right h) (nodeHash P x sib.val)
        have hw : walk fn sn (path.length + 1)
            = false :: (walk (fn / 2) (sn / 2) path.length ++ [true]) := by
          rw [← walk_succ]
          unfold walk
          rw [sides_false h0 hc]
          rfl
        have hle : (path.map Subtype.val).length ≤ (walk (fn / 2) (sn / 2) path.length).length := by
          rw [length_walk, hlen]
          omega
        rw [inclusionLoop, inclusionPairs, if_neg hc, if_neg hc, List.length_cons, hw, List.map_cons,
          climb_cons, climb_append_sides _ _ _ _ _ hle]
        refine ⟨h1, ?_, ?_⟩
        · rw [sides_false h0 hc, List.length_cons, Nat.succ_le_succ_iff]
          exact h2
        · show (x, sib.val) :: _ = (x, sib.val) :: climbPairs _ _ _ _
          rw [climbPairs_append_sides _ _ _ _ _ hle]
          exact congrArg _ h3

/-! ## injectivity on the hashed messages -/

theorem nodeMessage_inj {l r l' r' : List UInt8} (hl : l.length = l'.length)
    (h : nodeMessage l r = nodeMessage l' r') : l = l' ∧ r = r' :=
  List.append_inj (List.cons.inj h).2 hl

theorem leafMessage_inj {d d' : List UInt8} (h : leafMessage d = leafMessage d') : d = d' :=
  (List.cons.inj h).2

theorem leafMessage_ne_nodeMessage (d l r : List UInt8) : leafMessage d ≠ nodeMessage l r := by
  intro h
  exact absurd (List.cons.inj h).1 (by decide)

/-- the pairs of a list of messages whose left part has the length of a hash -/
def hashedPairs (M : List (List UInt8)) : Set (List UInt8 × List UInt8) :=
  fun e => pairMessage e ∈ M ∧ e.1.length = 32

section
variable {P}
variable (hlen : ∀ m, (P.sha256 m).length = 32)
variable {M : List (List UInt8)} (hM : CollisionFree P M)

include hM in
theorem injOn_hashedPairs : Set.InjOn (nodeP (nodeHash P)) (hashedPairs M) := by
  intro e he e' he' h
  have hm : pairMessage e = pairMessage e' := hM _ he.1 _ he'.1 h
  obtain ⟨h1, h2⟩ := nodeMessage_inj (he.2.trans he'.2.symm) hm
  exact Prod.ext h1 h2

include hM in
theorem leafHash_ne_pair {d : List UInt8} (hd : leafMessage d ∈ M) :
    ∀ e ∈ hashedPairs M, leafHash P d ≠ nodeP (nodeHash P) e := by
  intro e he h
  exact leafMessage_ne_nodeMessage d e.1 e.2 (hM _ hd _ he.1 h)

include hlen in
theorem length_climbPairs (x : List UInt8) (hx : x.length = 32) (ss : List Bool)
    (p : List (List UInt8)) (hp : ∀ h ∈ p, h.length = 32) :
    ∀ e ∈ climbPairs (nodeHash P) x ss p, e.1.length = 32 := by
  induction ss generalizing x p with
  | nil =>
    intro e he
    simp [climbPairs] at he
  | cons s ss ih =>
    cases p with
    | nil =>
      intro e he
      simp [climbPairs] at he
    | cons a p =>
      intro e he
      rcases List.mem_cons.mp he with rfl | he
      · cases s with
        | true => exact hp a List.mem_cons_self
        | false => exact hx
      · exact ih _ (hlen _) p (fun h hh => hp h (List.mem_cons_of_mem _ hh)) e he

include hlen in
theorem length_mth (D : List (List UInt8)) : (mth P D).length = 32 := by
  unfold mth
  match D with
  | [] => rw [treeHash]; exact hlen _
  | [a] => rw [treeHash]; exact hlen _
  | a :: b :: D => rw [treeHash]; exact hlen _

include hlen in
theorem length_treePairs (D : List (List UInt8)) :
    ∀ e ∈ treePairs (P.sha256 []) (leafHash P) (nodeHash P) D, e.1.length = 32 := by
  induction hn : D.length using Nat.strong_induction_on generalizing D with
  | _ n ih =>
  subst hn
  intro e he
  by_cases h2 : 2 ≤ D.length
  · have hk := splitPoint_lt h2
    have hp := splitPoint_pos D.length
    rw [treePairs_split _ _ _ h2, List.cons_append] at he
    rcases List.mem_cons.mp he with rfl | he
    · exact length_mth hlen _
    · rcases List.mem_append.mp he with he | he
      · exact ih _ (by rw [List.length_take]; omega) _ rfl e he
      · exact ih _ (by rw [List.length_drop]; omega) _ rfl e he
  · rw [treePairs, if_pos (by omega)] at he
    simp at he

include hlen in
theorem treePairs_hashed {D : List (List UInt8)} (hD : ∀ m ∈ treeMessages P D, m ∈ M) :
    ∀ e ∈ treePairs (P.sha256 []) (leafHash P) (nodeHash P) D, e ∈ hashedPairs M := by
  intro e he
  exact ⟨hD _ (List.mem_append_right _ (List.mem_map_of_mem he)), length_treePairs hlen D e he⟩

end

/-! ## the checks before the loop -/

theorem raiseIf_ok {bad : Prop} [Decidable bad] {code message : String} {u : Unit} :
    raiseIf bad code message = .ok u ↔ ¬ bad := by
  unfold raiseIf
  constructor
  · intro h hb
    rw [if_pos hb] at h
    cases h
  · intro hb
    exact if_neg hb

/-- what the checks have established -/
theorem inclusionInputs_ok {digest proof : Json} {checkpoint : Dict} {q : InclusionInputs}
    (h : inclusionInputs P digest proof checkpoint = .ok q) :
    q.leafIndex < q.treeSize ∧
      ∃ c, parseCheckpoint checkpoint = .ok c ∧ q.root = c.rootHash ∧ q.treeSize = c.treeSize := by
  unfold inclusionInputs at h
  obtain ⟨_, _, h⟩ := Fallible.bind_eq_ok.mp h
  obtain ⟨_, _, h⟩ := Fallible.bind_eq_ok.mp h
  obtain ⟨_, _, h⟩ := Fallible.bind_eq_ok.mp h
  obtain ⟨_, _, h⟩ := Fallible.bind_eq_ok.mp h
  obtain ⟨_, _, h⟩ := Fallible.bind_eq_ok.mp h
  obtain ⟨_, _, h⟩ := Fallible.bind_eq_ok.mp h
  obtain ⟨_, _, h⟩ := Fallible.bind_eq_ok.mp h
  obtain ⟨_, _, h⟩ := Fallible.bind_eq_ok.mp h
  obtain ⟨n, _, h⟩ := Fallible.bind_eq_ok.mp h
  obtain ⟨i, _, h⟩ := Fallible.bind_eq_ok.mp h
  obtain ⟨_, hr, h⟩ := Fallible.bind_eq_ok.mp h
  obtain ⟨_, _, h⟩ := Fallible.bind_eq_ok.mp h
  obtain ⟨c, hc, h⟩ := Fallible.bind_eq_ok.mp h
  obtain ⟨_, hm, h⟩ := Fallible.bind_eq_ok.mp h
  have hb := raiseIf_ok.mp hr
  have hs := not_not.mp (raiseIf_ok.mp hm)
  cases Fallible.pure_eq_ok.mp h
  exact ⟨by show i < n; omega, c, hc, rfl, hs.2.symm⟩

theorem inclusionInputs_lt {digest proof : Json} {checkpoint : Dict} {q : InclusionInputs}
    (h : inclusionInputs P digest proof checkpoint = .ok q) : q.leafIndex < q.treeSize :=
  (inclusionInputs_ok P h).1

/-- the verification succeeds when the loop ends at the root -/
theorem verifyInclusion_ok_iff {digest proof : Json} {checkpoint : Dict} {q : InclusionInputs}
    (hq : inclusionInputs P digest proof checkpoint = .ok q) :
    (∃ r, verifyInclusion P digest proof checkpoint = .ok r) ↔
      (inclusionLoop P q.leafIndex (q.treeSize - 1) (leafHash P q.digest.bytes.val) q.auditPath).2 = 0 ∧
      (inclusionLoop P q.leafIndex (q.treeSize - 1) (leafHash P q.digest.bytes.val) q.auditPath).1
        = q.root.val := by
  unfold verifyInclusion
  rw [hq]
  constructor
  · rintro ⟨r, h⟩
    obtain ⟨_, hq', h⟩ := Fallible.bind_eq_ok.mp h
    cases hq'
    obtain ⟨_, hr, -⟩ := Fallible.bind_eq_ok.mp h
    have hb := raiseIf_ok.mp hr
    tauto
  · rintro ⟨h1, h2⟩
    refine ⟨⟨q.logId, q.treeSize, q.leafIndex, q.digest.spec, none⟩, ?_⟩
    refine Fallible.bind_eq_ok.mpr ⟨q, rfl, Fallible.bind_eq_ok.mpr ⟨(), ?_, rfl⟩⟩
    exact if_neg (by tauto)

/-- accepted means: the path has the length of the walk or more, and its climb ends at the root -/
theorem verifyInclusion_climb {digest proof : Json} {checkpoint : Dict} {q : InclusionInputs}
    (hq : inclusionInputs P digest proof checkpoint = .ok q) :
    (∃ r, verifyInclusion P digest proof checkpoint = .ok r) ↔
      ∃ k, q.auditPath.length = (sides q.leafIndex (q.treeSize - 1)).length + k ∧
        climb (nodeHash P) (leafHash P q.digest.bytes.val) (walk q.leafIndex (q.treeSize - 1) k)
          (q.auditPath.map Subtype.val) = q.root.val := by
  have hlt := inclusionInputs_lt P hq
  obtain ⟨h1, h2, -⟩ := inclusionLoop_eq P q.leafIndex (q.treeSize - 1) (by omega)
    (leafHash P q.digest.bytes.val) q.auditPath
  rw [verifyInclusion_ok_iff P hq, h1, h2]
  constructor
  · rintro ⟨hle, hc⟩
    obtain ⟨k, hk⟩ := Nat.exists_eq_add_of_le hle
    exact ⟨k, hk, (climb_walk P _ (by rw [List.length_map, hk]) (by omega)).symm.trans hc⟩
  · rintro ⟨k, hk, hc⟩
    exact ⟨by omega, (climb_walk P _ (by rw [List.length_map, hk]) (by omega)).trans hc⟩

/-- the pairs hashed for an accepted path -/
theorem inclusionPairs_walk {fn sn k : Nat} (h : fn ≤ sn) (x : List UInt8) {path : List Hash256}
    (hk : path.length = (sides fn sn).length + k) :
    inclusionPairs P fn sn x path
      = climbPairs (nodeHash P) x (walk fn sn k) (path.map Subtype.val) := by
  obtain ⟨-, -, h3⟩ := inclusionLoop_eq P fn sn h x path
  rw [h3, walk_trim (show k ≤ path.length by omega), climbPairs_append_sides]
  rw [length_walk, List.length_map, hk]

/-! ## inclusion in the tree of an honest log -/

section
variable {P}

/-- **Exactness for honest trees**: against the root of the tree of `D`, exactly the leaf digest
`D[i]` with its audit path is accepted at index `i`. -/
theorem verifyInclusion_iff (hlen : ∀ m, (P.sha256 m).length = 32) (D : List (List UInt8))
    {digest proof : Json} {checkpoint : Dict} {q : InclusionInputs}
    (hq : inclusionInputs P digest proof checkpoint = .ok q) (hsize : D.length = q.treeSize)
    (hroot : q.root.val = mth P D)
    (hfree : CollisionFree P (inclusionMessages P q ++ treeMessages P D)) :
    (∃ r, verifyInclusion P digest proof checkpoint = .ok r) ↔
      D[q.leafIndex]? = some q.digest.bytes.val ∧
        q.auditPath.map Subtype.val = rfcAuditPath P q.leafIndex D := by
  have hlt := inclusionInputs_lt P hq
  have hi : q.leafIndex < D.length := by omega
  obtain ⟨a, ha⟩ : ∃ a, D[q.leafIndex]? = some a := ⟨_, List.getElem?_eq_getElem hi⟩
  obtain ⟨hl, hc, hp⟩ := auditPath_spec (P.sha256 []) (leafHash P) (nodeHash P) D q.leafIndex a ha
  have hplen : (q.auditPath.map Subtype.val).length = q.auditPath.length := List.length_map _
  rw [verifyInclusion_climb P hq, hroot, ← hsize]
  constructor
  · rintro ⟨k, hk, hclimb⟩
    have hS := injOn_hashedPairs hfree
    have hT := treePairs_hashed (M := inclusionMessages P q ++ treeMessages P D) hlen
      (fun m hm => List.mem_append_right _ hm)
    have hC : ∀ e ∈ climbPairs (nodeHash P) (leafHash P q.digest.bytes.val)
        (walk q.leafIndex (D.length - 1) k) (q.auditPath.map Subtype.val),
        e ∈ hashedPairs (inclusionMessages P q ++ treeMessages P D) := by
      intro e he
      refine ⟨List.mem_append_left _ (List.mem_cons_of_mem _ (List.mem_map_of_mem ?_)),
        length_climbPairs hlen _ (hlen _) _ _ (length_path q.auditPath) e he⟩
      rw [inclusionPairs_walk P (by omega) _ (by rw [← hsize]; exact hk), ← hsize]
      exact he
    have hleaf : ∀ b ∈ D, ∀ e ∈ hashedPairs (inclusionMessages P q ++ treeMessages P D),
        leafHash P b ≠ nodeP (nodeHash P) e := fun b hb =>
      leafHash_ne_pair hfree (List.mem_append_right _ (List.mem_append_left _ (List.mem_map_of_mem hb)))
    cases k with
    | zero =>
      -- the path has the length of the walk: it is the audit path
      rw [walk_none] at hclimb hC
      obtain ⟨h1, h2⟩ := climb_inj (nodeHash P) hS (sides q.leafIndex (D.length - 1)) _ _ _ _
        (by omega) hl hC (fun e he => hT e (hp e he)) (hclimb.trans hc.symm)
      have hd : q.digest.bytes.val = a := leafMessage_inj (hfree _
        (List.mem_append_left _ List.mem_cons_self) _ (List.mem_append_right _
          (List.mem_append_left _ (List.mem_map_of_mem (List.mem_of_getElem? ha)))) h1)
      exact ⟨by rw [ha, hd], h2⟩
    | succ k =>
      -- a longer path would end below a leaf of the tree
      exact absurd hclimb (climb_no_extra (P.sha256 []) (leafHash P) (nodeHash P) hS D q.leafIndex hi
        hT hleaf _ k _ (by omega) hC)
  · rintro ⟨hd, hpath⟩
    rw [ha] at hd
    cases hd
    refine ⟨0, ?_, ?_⟩
    · rw [← hplen, hpath]
      exact hl
    · rw [walk_none, hpath]
      exact hc

/-! ## one position, one leaf -/

/-- the documents pass the checks with the inputs `q`, and the verification accepts them -/
def AcceptsInclusion (P : Platform) (digest proof : Json) (checkpoint : Dict) (q : InclusionInputs) :
    Prop :=
  inclusionInputs P digest proof checkpoint = .ok q ∧
    ∃ r, verifyInclusion P digest proof checkpoint = .ok r

/-- the lengths of two audit paths for leaf `i` of `n` leave room for one leaf only -/
def OneLeaf (n i l l' : Nat) : Prop :=
  l = l' ∨ l < (sides i (n - 1)).length ∨ l' < (sides i (n - 1)).length ∨ i + 1 = n

instance (n i l l' : Nat) : Decidable (OneLeaf n i l l') := inferInstanceAs (Decidable (_ ∨ _))

/-- a climb that took a step does not reach a leaf -/
theorem climb_ne_leaf {M : List (List UInt8)} (hM : CollisionFree P M) {d : List UInt8}
    (hd : leafMessage d ∈ M) (x : List UInt8) (ss : List Bool) (s : Bool) (p : List (List UInt8))
    (h : List UInt8) (hl : p.length = ss.length)
    (hC : ∀ e ∈ climbPairs (nodeHash P) x (ss ++ [s]) (p ++ [h]), e ∈ hashedPairs M) :
    climb (nodeHash P) x (ss ++ [s]) (p ++ [h]) ≠ leafHash P d := by
  rw [climb_snoc _ _ _ _ _ _ hl]
  rw [climbPairs_snoc _ _ _ _ _ _ hl] at hC
  exact fun e => leafHash_ne_pair hM hd _ (hC _ (by simp)) e.symm

/-- for the last leaf, a longer path ends at a node where the shorter one starts at a leaf -/
theorem last_leaf_length {M : List (List UInt8)} (hM : CollisionFree P M) {d : List UInt8}
    (hd : leafMessage d ∈ M) (x : List UInt8) {k l : Nat} {p q : List (List UInt8)}
    (hp : p.length = k) (hq : q.length = l)
    (hCp : ∀ e ∈ climbPairs (nodeHash P) x (List.replicate k true) p, e ∈ hashedPairs M)
    (hCq : ∀ e ∈ climbPairs (nodeHash P) (leafHash P d) (List.replicate l true) q, e ∈ hashedPairs M)
    (h : climb (nodeHash P) x (List.replicate k true) p
      = climb (nodeHash P) (leafHash P d) (List.replicate l true) q) : k ≤ l := by
  by_contra hlt
  -- the first climb makes `m + 1` steps before the `l` steps of the second
  obtain ⟨m, hm⟩ : ∃ m, k = m + 1 + l := ⟨k - l - 1, by omega⟩
  subst hm
  have hrep : List.replicate (m + 1 + l) true
      = List.replicate (m + 1) true ++ List.replicate l true := by
    rw [List.replicate_append_replicate]
  obtain ⟨p₁, p₂, rfl, h1, h2⟩ : ∃ p₁ p₂, p = p₁ ++ p₂ ∧ p₁.length = m + 1 ∧ p₂.length = l :=
    ⟨p.take (m + 1), p.drop (m + 1), (List.take_append_drop _ _).symm, by
      rw [List.length_take]; omega, by rw [List.length_drop]; omega⟩
  rw [hrep, climb_append _ _ _ _ _ _ (by rw [h1, List.length_replicate])] at h
  rw [hrep, climbPairs_append _ _ _ _ _ _ (by rw [h1, List.length_replicate])] at hCp
  obtain ⟨h3, -⟩ := climb_inj (nodeHash P) (injOn_hashedPairs hM) (List.replicate l true) _ _ p₂ q
    (by rw [h2, List.length_replicate]) (by rw [hq, List.length_replicate])
    (fun e he => hCp e (List.mem_append_right _ he)) hCq h
  rcases List.eq_nil_or_concat p₁ with rfl | ⟨p', b, rfl⟩
  · simp at h1
  · rw [List.concat_eq_append] at h1 h3 hCp
    rw [List.replicate_succ'] at h3 hCp
    refine climb_ne_leaf hM hd x (List.replicate m true) true p' b ?_
      (fun e he => hCp e (List.mem_append_left _ he)) h3
    rw [List.length_replicate]
    simpa using h1

/-- the pairs and the climb of accepted documents -/
theorem AcceptsInclusion.spec (hlen : ∀ m, (P.sha256 m).length = 32) {digest proof : Json}
    {checkpoint : Dict} {q : InclusionInputs} (h : AcceptsInclusion P digest proof checkpoint q)
    {M : List (List UInt8)} (hM : ∀ m ∈ inclusionMessages P q, m ∈ M) :
    ∃ k, (q.auditPath.map Subtype.val).length = (walk q.leafIndex (q.treeSize - 1) k).length ∧
      climb (nodeHash P) (leafHash P q.digest.bytes.val) (walk q.leafIndex (q.treeSize - 1) k)
        (q.auditPath.map Subtype.val) = q.root.val ∧
      ∀ e ∈ climbPairs (nodeHash P) (leafHash P q.digest.bytes.val)
        (walk q.leafIndex (q.treeSize - 1) k) (q.auditPath.map Subtype.val), e ∈ hashedPairs M := by
  have hlt := inclusionInputs_lt P h.1
  obtain ⟨k, hk, hc⟩ := (verifyInclusion_climb P h.1).mp h.2
  refine ⟨k, by rw [List.length_map, length_walk, hk], hc, ?_⟩
  intro e he
  refine ⟨hM _ (List.mem_cons_of_mem _ (List.mem_map_of_mem ?_)),
    length_climbPairs hlen _ (hlen _) _ _ (length_path q.auditPath) e he⟩
  rw [inclusionPairs_walk P (by omega) _ hk]
  exact he

/-- two accepted leaves at one position are one leaf, where the lengths allow for one only -/
theorem leaf_unique (hlen : ∀ m, (P.sha256 m).length = 32) {checkpoint : Dict}
    {digest proof digest' proof' : Json} {q q' : InclusionInputs}
    (h : AcceptsInclusion P digest proof checkpoint q)
    (h' : AcceptsInclusion P digest' proof' checkpoint q') (hi : q.leafIndex = q'.leafIndex)
    (hone : OneLeaf q.treeSize q.leafIndex q.auditPath.length q'.auditPath.length)
    (hfree : CollisionFree P (inclusionMessages P q ++ inclusionMessages P q')) :
    q.digest.bytes = q'.digest.bytes := by
  obtain ⟨hlt, c, hc, hroot, hsize⟩ := inclusionInputs_ok P h.1
  obtain ⟨-, c', hc', hroot', hsize'⟩ := inclusionInputs_ok P h'.1
  cases hc.symm.trans hc'
  obtain ⟨k, hk, hclimb, hC⟩ := h.spec hlen (M := inclusionMessages P q ++ inclusionMessages P q')
    fun m hm => List.mem_append_left _ hm
  obtain ⟨k', hk', hclimb', hC'⟩ := h'.spec hlen (M := inclusionMessages P q ++ inclusionMessages P q')
    fun m hm => List.mem_append_right _ hm
  have hd : leafMessage q.digest.bytes.val ∈ inclusionMessages P q ++ inclusionMessages P q' :=
    List.mem_append_left _ List.mem_cons_self
  have hd' : leafMessage q'.digest.bytes.val ∈ inclusionMessages P q ++ inclusionMessages P q' :=
    List.mem_append_right _ List.mem_cons_self
  rw [← hi, hsize', ← hsize] at hk' hclimb' hC'
  have heq := hclimb.trans ((congrArg Subtype.val (hroot.trans hroot'.symm)).trans hclimb'.symm)
  have hkk : k = k' := by
    have hl := length_walk q.leafIndex (q.treeSize - 1) k
    have hl' := length_walk q.leafIndex (q.treeSize - 1) k'
    rw [List.length_map] at hk hk'
    rcases hone with hone | hone | hone | hone
    · omega
    · omega
    · omega
    · -- the last leaf: all siblings are on the left
      have hlast : ∀ j, walk q.leafIndex (q.treeSize - 1) j
          = List.replicate ((sides q.leafIndex (q.treeSize - 1)).length + j) true := by
        intro j
        have e : q.leafIndex = q.treeSize - 1 := by omega
        unfold walk
        rw [e, sides_last, List.length_replicate, List.replicate_append_replicate]
      rw [hlast, hlast] at heq
      rw [hlast] at hC hC'
      have h1 := last_leaf_length hfree hd' _ (by rw [List.length_map]; omega)
        (by rw [List.length_map]; omega) hC hC' heq
      have h2 := last_leaf_length hfree hd _ (by rw [List.length_map]; omega)
        (by rw [List.length_map]; omega) hC' hC heq.symm
      omega
  subst hkk
  obtain ⟨h1, -⟩ := climb_inj (nodeHash P) (injOn_hashedPairs hfree) _ _ _ _ _ hk hk' hC hC' heq
  exact Subtype.ext (leafMessage_inj (hfree _ hd _ hd' h1))

/-! ## documents -/

/-- a hash in a document -/
def hexText (h : Hash256) : String := String.ofList (Hex.toHex h.val)

theorem hex256_hexText (h : Hash256) : hex256 (hexText h) = some h := by
  have hl : (hexText h).toList.length = 64 := by
    rw [hexText, String.toList_ofList, Hex.length_toHex, h.2]
  have hf : Hex.fromHex (hexText h).toList = some h.val := by
    rw [hexText, String.toList_ofList, Hex.fromHex_toHex]
  unfold hex256
  rw [dif_pos hl]
  split
  · rename_i bytes hb
    exact congrArg some (Subtype.ext (Option.some.inj (hb.symm.trans hf)))
  · rename_i hb
    cases hb.symm.trans hf

theorem hexText_ne_empty (h : Hash256) : hexText h ≠ "" := by
  intro e
  have hl := congrArg (fun s => s.toList.length) e
  simp only [hexText, String.toList_ofList, Hex.length_toHex, h.2] at hl
  exact absurd hl (by decide)

theorem requireString_str {s : String} (h : s ≠ "") (fieldName code : String) :
    requireString (.str s) fieldName code = .ok s := if_neg h

theorem requireNonnegativeInt_nat (n : Nat) (fieldName code : String) :
    requireNonnegativeInt (.int n) fieldName code = .ok n := by
  unfold requireNonnegativeInt
  dsimp only
  rw [if_neg (by omega)]
  rfl

theorem parseHexHash_hexText (h : Hash256) (fieldName code : String) :
    parseHexHash (.str (hexText h)) fieldName code = .ok h := by
  unfold parseHexHash
  rw [requireString_str (hexText_ne_empty h), Fallible.ok_bind, hex256_hexText]

theorem parseHashItems_hexText (fieldName code : String) (i : Nat) (path : List Hash256) :
    parseHashItems fieldName code i (path.map fun h => .str (hexText h)) = .ok path := by
  induction path generalizing i with
  | nil => rfl
  | cons h path ih =>
    rw [List.map_cons, parseHashItems, parseHexHash_hexText]
    show (parseHashItems fieldName code (i + 1) _ >>= _) = _
    rw [ih]
    rfl

/-- the specification of a digest under the current profile -/
def digestSpec (h : Hash256) : DigestSpec := ⟨"sha-256", "ACTENON-JCS-STRICT-1", hexText h⟩

/-- a checkpoint of a log named `log` with the text of its signature -/
def signedCheckpoint (n : Nat) (root : Hash256) (signature : String) : Dict :=
  members [("contract", .obj (members [("name", .str "transparency_checkpoint"), ("version", .str "v1")])),
    ("log", .obj (members [("type", .str "log"), ("id", .str "log")])),
    ("tree_size", .int n),
    ("root_hash", .obj (members [("algorithm", .str "sha-256"), ("encoding", .str "hex"),
      ("value", .str (hexText root))])),
    ("issued_at", .str (formatTimestamp sampleIssued)),
    ("signature", .obj (members [("algorithm", .str "EdDSA"), ("key_id", .str "k1"),
      ("encoding", .str "base64url"), ("value", .str signature)]))]

/-- a checkpoint whose signature is not looked at -/
def checkpointDoc (n : Nat) (root : Hash256) : Dict := signedCheckpoint n root "c2ln"

/-- an inclusion proof for that log -/
def inclusionDoc (n i : Nat) (d : Hash256) (path : List Hash256) : Json :=
  .obj (members [
    ("contract", .obj (members [("name", .str "transparency_inclusion_proof"), ("version", .str "v1")])),
    ("hash_algorithm", .str "sha-256"), ("leaf_digest", .obj (digestSpec d).toDict),
    ("log_id", .str "log"), ("tree_size", .int n), ("leaf_index", .int i),
    ("audit_path", .arr (path.map fun h => .str (hexText h)))])

theorem parseDigest_digestSpec (hprof : "ACTENON-JCS-STRICT-1" ∈ P.acceptedProfiles) (h : Hash256)
    (fieldName : String) :
    parseDigest P (.obj (digestSpec h).toDict) fieldName
      = .ok ⟨digestSpec h, h, hex256_hexText h⟩ := by
  unfold parseDigest
  refine Fallible.bind_eq_ok.mpr ⟨(digestSpec h).toDict, rfl, ?_⟩
  refine Fallible.bind_eq_ok.mpr ⟨"sha-256", requireString_str (s := "sha-256") (by decide) _ _, ?_⟩
  refine Fallible.bind_eq_ok.mpr ⟨"ACTENON-JCS-STRICT-1",
    requireString_str (s := "ACTENON-JCS-STRICT-1") (by decide) _ _, ?_⟩
  refine Fallible.bind_eq_ok.mpr ⟨hexText h, requireString_str (hexText_ne_empty h) _ _, ?_⟩
  simp only [true_and, hprof, if_true]
  split
  · rename_i bytes hb
    cases hb.symm.trans (hex256_hexText h)
    rfl
  · rename_i hb
    cases hb.symm.trans (hex256_hexText h)

/-- what is read off such a checkpoint -/
def checkpointOf (n : Nat) (root : Hash256) (signature : String) : Checkpoint :=
  ⟨⟨"log", "log", .null, []⟩, n, root, formatTimestamp sampleIssued, sampleIssued,
    ⟨"EdDSA", "k1", "base64url", signature⟩⟩

theorem signature_fromDict {signature : String} (h : signature ≠ "") :
    SignatureSpec.fromDict (.obj (members [("algorithm", .str "EdDSA"), ("key_id", .str "k1"),
      ("encoding", .str "base64url"), ("value", .str signature)]))
      = .ok ⟨"EdDSA", "k1", "base64url", signature⟩ := by
  unfold SignatureSpec.fromDict
  refine Fallible.bind_eq_ok.mpr ⟨_, rfl, ?_⟩
  refine Fallible.bind_eq_ok.mpr ⟨"EdDSA", rfl, ?_⟩
  refine Fallible.bind_eq_ok.mpr ⟨"k1", rfl, ?_⟩
  refine Fallible.bind_eq_ok.mpr ⟨"base64url", rfl, ?_⟩
  exact Fallible.bind_eq_ok.mpr ⟨signature, if_neg h, rfl⟩

theorem parseCheckpoint_signedCheckpoint (n : Nat) (root : Hash256) {signature : String}
    (h : signature ≠ "") :
    parseCheckpoint (signedCheckpoint n root signature) = .ok (checkpointOf n root signature) := by
  have hts : formatTimestamp sampleIssued ≠ "" := by decide +kernel
  unfold parseCheckpoint
  refine Fallible.bind_eq_ok.mpr ⟨members [("name", .str "transparency_checkpoint"),
    ("version", .str "v1")], rfl, ?_⟩
  refine Fallible.bind_eq_ok.mpr ⟨(), if_neg (by decide), ?_⟩
  refine Fallible.bind_eq_ok.mpr ⟨⟨"log", "log", .null, []⟩, rfl, ?_⟩
  refine Fallible.bind_eq_ok.mpr ⟨⟨"EdDSA", "k1", "base64url", signature⟩, ?_, ?_⟩
  · exact congrArg (fun r => orLogError r "INVALID_CHECKPOINT" "checkpoint log or signature is invalid")
      (signature_fromDict h)
  refine Fallible.bind_eq_ok.mpr ⟨n, requireNonnegativeInt_nat n _ _, ?_⟩
  refine Fallible.bind_eq_ok.mpr ⟨root, ?_, ?_⟩
  · refine Fallible.bind_eq_ok.mpr ⟨members [("algorithm", .str "sha-256"), ("encoding", .str "hex"),
      ("value", .str (hexText root))], rfl, ?_⟩
    exact Fallible.bind_eq_ok.mpr ⟨(), if_neg (fun h => h rfl), parseHexHash_hexText root _ _⟩
  · refine Fallible.bind_eq_ok.mpr ⟨formatTimestamp sampleIssued, requireString_str hts _ _, ?_⟩
    refine Fallible.bind_eq_ok.mpr ⟨sampleIssued, ?_, rfl⟩
    unfold orLogError
    rw [parseTimestamp_formatTimestamp]

/-- the inputs read off these documents -/
def docInputs (n i : Nat) (d : Hash256) (path : List Hash256) (root : Hash256) : InclusionInputs :=
  ⟨⟨digestSpec d, d, hex256_hexText d⟩, "log", n, i, path, root⟩

theorem inclusionInputs_docs (hprof : "ACTENON-JCS-STRICT-1" ∈ P.acceptedProfiles) {n i : Nat}
    (hi : i < n) (d : Hash256) (path : List Hash256) (root : Hash256) :
    inclusionInputs P (.obj (digestSpec d).toDict) (inclusionDoc n i d path) (checkpointDoc n root)
      = .ok (docInputs n i d path root) := by
  unfold inclusionInputs
  refine Fallible.bind_eq_ok.mpr ⟨_, parseDigest_digestSpec hprof d _, ?_⟩
  refine Fallible.bind_eq_ok.mpr ⟨_, rfl, ?_⟩
  refine Fallible.bind_eq_ok.mpr ⟨_, rfl, ?_⟩
  refine Fallible.bind_eq_ok.mpr ⟨(), if_neg (fun h => h rfl), ?_⟩
  refine Fallible.bind_eq_ok.mpr ⟨(), if_neg (fun h => h rfl), ?_⟩
  refine Fallible.bind_eq_ok.mpr ⟨_, parseDigest_digestSpec hprof d _, ?_⟩
  refine Fallible.bind_eq_ok.mpr ⟨(), if_neg (fun h => h rfl), ?_⟩
  refine Fallible.bind_eq_ok.mpr ⟨"log", requireString_str (by decide) _ _, ?_⟩
  refine Fallible.bind_eq_ok.mpr ⟨n, requireNonnegativeInt_nat n _ _, ?_⟩
  refine Fallible.bind_eq_ok.mpr ⟨i, requireNonnegativeInt_nat i _ _, ?_⟩
  refine Fallible.bind_eq_ok.mpr ⟨(), if_neg (by omega), ?_⟩
  refine Fallible.bind_eq_ok.mpr ⟨path, parseHashItems_hexText _ _ 0 path, ?_⟩
  refine Fallible.bind_eq_ok.mpr ⟨_, parseCheckpoint_signedCheckpoint n root (by decide), ?_⟩
  exact Fallible.bind_eq_ok.mpr ⟨(), if_neg (fun h => h ⟨rfl, rfl⟩), rfl⟩

/-- hashes of 32 bytes as the items of a path -/
theorem exists_path {p : List (List UInt8)} (hp : ∀ h ∈ p, h.length = 32) :
    ∃ path : List Hash256, path.map Subtype.val = p := by
  refine ⟨p.pmap Subtype.mk hp, ?_⟩
  rw [List.map_pmap, List.pmap_eq_map, List.map_id']

/-- the walk of a leaf that is not the last has a last sibling on the right -/
theorem walk_eq_last_false {n i : Nat} (hi : i + 1 < n) :
    ∃ u m, ∀ k, walk i (n - 1) k = u ++ false :: List.replicate (m + k) true := by
  obtain ⟨u, m, h⟩ := exists_last_false (false_mem_sides (show i < n - 1 by omega))
  refine ⟨u, m, fun k => ?_⟩
  unfold walk
  rw [h, List.append_assoc, List.cons_append, List.replicate_append_replicate]

/-- the documents for a path whose climb ends at the root are accepted -/
theorem accepts_docs (hprof : "ACTENON-JCS-STRICT-1" ∈ P.acceptedProfiles) {n i k : Nat} (hi : i < n)
    (d : Hash256) {path : List Hash256} {root : Hash256}
    (hk : path.length = (sides i (n - 1)).length + k)
    (hc : climb (nodeHash P) (leafHash P d.val) (walk i (n - 1) k) (path.map Subtype.val) = root.val) :
    AcceptsInclusion P (.obj (digestSpec d).toDict) (inclusionDoc n i d path) (checkpointDoc n root)
      (docInputs n i d path root) := by
  have hq := inclusionInputs_docs hprof hi d path root
  exact ⟨hq, (verifyInclusion_climb P hq).mpr ⟨k, hk, hc⟩⟩

/-- two leaves at one position, where the lengths leave room for two -/
theorem leaf_ambiguous (hlen : ∀ m, (P.sha256 m).length = 32)
    (hprof : "ACTENON-JCS-STRICT-1" ∈ P.acceptedProfiles) {n i k k' : Nat} (hi : i + 1 < n)
    (hkk : k < k') (d d' : Hash256) :
    ∃ root path path', path.length = (sides i (n - 1)).length + k ∧
      path'.length = (sides i (n - 1)).length + k' ∧
      AcceptsInclusion P (.obj (digestSpec d).toDict) (inclusionDoc n i d path) (checkpointDoc n root)
        (docInputs n i d path root) ∧
      AcceptsInclusion P (.obj (digestSpec d').toDict) (inclusionDoc n i d' path')
        (checkpointDoc n root) (docInputs n i d' path' root) := by
  obtain ⟨u, m, hw⟩ := walk_eq_last_false hi
  obtain ⟨p, p', hp, hp', hgp, hgp', hc⟩ := climb_ambiguous (nodeHash P)
    (G := fun h => h.length = 32) (fun _ _ => hlen _) (x := leafHash P d.val)
    (y := leafHash P d'.val) (hlen _) (hlen _) u (show m + k < m + k' by omega)
  rw [← hw, length_walk] at hp
  rw [← hw, length_walk] at hp'
  rw [← hw, ← hw] at hc
  obtain ⟨path, rfl⟩ := exists_path hgp
  obtain ⟨path', rfl⟩ := exists_path hgp'
  rw [List.length_map] at hp hp'
  have hroot : (climb (nodeHash P) (leafHash P d.val) (walk i (n - 1) k)
      (path.map Subtype.val)).length = 32 :=
    climb_good (nodeHash P) (G := fun h => h.length = 32) (fun _ _ => hlen _) (hlen _) _ _
  exact ⟨⟨_, hroot⟩, path, path', hp, hp', accepts_docs hprof (by omega) d hp rfl,
    accepts_docs hprof (by omega) d' hp' hc.symm⟩

/-- **Position binding holds exactly up to the lengths of the paths.**  Where the lengths of two
audit paths leave room for one leaf only, two accepted leaves at a position are one leaf; at all
other lengths any two digests are both accepted at the position under some checkpoint. -/
theorem verifyInclusion_binding (hlen : ∀ m, (P.sha256 m).length = 32)
    (hprof : "ACTENON-JCS-STRICT-1" ∈ P.acceptedProfiles) (n i l l' : Nat) (hi : i < n) :
    (OneLeaf n i l l' →
      ∀ (checkpoint : Dict) (digest proof digest' proof' : Json) (q q' : InclusionInputs),
        AcceptsInclusion P digest proof checkpoint q →
        AcceptsInclusion P digest' proof' checkpoint q' →
        q.treeSize = n → q.leafIndex = i → q'.leafIndex = i →
        q.auditPath.length = l → q'.auditPath.length = l' →
        CollisionFree P (inclusionMessages P q ++ inclusionMessages P q') →
        q.digest.bytes = q'.digest.bytes) ∧
    (¬ OneLeaf n i l l' →
      ∀ d d' : Hash256,
        ∃ (checkpoint : Dict) (digest proof digest' proof' : Json) (q q' : InclusionInputs),
          AcceptsInclusion P digest proof checkpoint q ∧
          AcceptsInclusion P digest' proof' checkpoint q' ∧
          q.treeSize = n ∧ q.leafIndex = i ∧ q'.leafIndex = i ∧
          q.auditPath.length = l ∧ q'.auditPath.length = l' ∧
          q.digest.bytes = d ∧ q'.digest.bytes = d') := by
  constructor
  · intro hone checkpoint digest proof digest' proof' q q' h h' hn hqi hqi' hl hl' hfree
    subst hn hqi hl hl'
    exact leaf_unique hlen h h' hqi'.symm hone hfree
  · intro hnot d d'
    unfold OneLeaf at hnot
    push Not at hnot
    obtain ⟨hne, h1, h2, h3⟩ := hnot
    obtain ⟨k, rfl⟩ := Nat.exists_eq_add_of_le h1
    obtain ⟨k', rfl⟩ := Nat.exists_eq_add_of_le h2
    rcases Nat.lt_or_ge k k' with hkk | hkk
    · obtain ⟨root, path, path', hp, hp', ha, ha'⟩ := leaf_ambiguous hlen hprof
        (show i + 1 < n by omega) hkk d d'
      exact ⟨_, _, _, _, _, _, _, ha, ha', rfl, rfl, rfl, hp, hp', rfl, rfl⟩
    · obtain ⟨root, path, path', hp, hp', ha, ha'⟩ := leaf_ambiguous hlen hprof
        (show i + 1 < n by omega) (show k' < k by omega) d' d
      exact ⟨_, _, _, _, _, _, _, ha', ha, rfl, rfl, rfl, hp', hp, rfl, rfl⟩

end

end

/-! ## a log of two leaves -/

/-- a hash given at some messages, 32 zero bytes elsewhere -/
def tableHash (table : List (List UInt8 × Hash256)) (m : List UInt8) : List UInt8 :=
  match table.find? fun e => e.1 = m with
  | some e => e.2.val
  | none => List.replicate 32 0

theorem length_tableHash (table : List (List UInt8 × Hash256)) (m : List UInt8) :
    (tableHash table m).length = 32 := by
  unfold tableHash
  split
  · rename_i e _
    exact e.2.2
  · rfl

def hashOfHex (s : String) : Hash256 := (hex256 s).getD ⟨List.replicate 32 0, rfl⟩

/-- 32 bytes of one value -/
def fill (b : UInt8) : Hash256 := ⟨List.replicate 32 b, rfl⟩

def leaf11 : Hash256 := hashOfHex "4635e1fa62a599a7880a8d14a56f720a1d40f6e5448ab5a5e39bedc8bd87fa8e"
def leaf22 : Hash256 := hashOfHex "bc6f27de60abf5319d16ff4c98fe3c42022c84f6a7a2b207c8df19b0ec3d8d58"

/-- the node over the second leaf and 32 bytes of 0x33 -/
def node2233 : Hash256 := hashOfHex "b403623f1a154b1eee1524857f1a281f17f934a286e1b2c7df27a0be237914d3"

/-- the node over the first leaf and `node2233` -/
def nodeNested : Hash256 := hashOfHex "71349b47d19eef29d71cc6fc48bc902985fdf0ad0f813e4ef6f4fb8b47f99fa2"

/-- the root of the tree of both leaves -/
def rootTwo : Hash256 := hashOfHex "cc15b132263fd4fd2748c0e7cb9e1c4ad0afe70fcf9382ee644c4da8af0286a5"

/-- SHA-256 at the messages of these nodes -/
def logPlatform : Platform := samplePlatform (tableHash [(leafMessage (fill 0x11).val, leaf11),
  (leafMessage (fill 0x22).val, leaf22), (nodeMessage leaf22.val (fill 0x33).val, node2233),
  (nodeMessage leaf11.val node2233.val, nodeNested), (nodeMessage leaf11.val leaf22.val, rootTwo)])

theorem length_logPlatform (m : List UInt8) : (logPlatform.sha256 m).length = 32 :=
  length_tableHash _ m

/-- the first leaf of the tree of two with its audit path -/
theorem verifyInclusion_iff_two :
    (∃ r, verifyInclusion logPlatform (.obj (digestSpec (fill 0x11)).toDict)
      (inclusionDoc 2 0 (fill 0x11) [leaf22]) (checkpointDoc 2 rootTwo) = .ok r) ∧
    rfcAuditPath logPlatform 0 [(fill 0x11).val, (fill 0x22).val] = [leaf22.val] := by
  have hq := inclusionInputs_docs (P := logPlatform) (by decide) (show 0 < 2 by decide) (fill 0x11)
    [leaf22] rootTwo
  have hpath : rfcAuditPath logPlatform 0 [(fill 0x11).val, (fill 0x22).val] = [leaf22.val] := by
    decide +kernel
  refine ⟨(verifyInclusion_iff length_logPlatform [(fill 0x11).val, (fill 0x22).val] hq rfl
    (by decide +kernel) (by decide +kernel)).mpr ⟨rfl, ?_⟩, hpath⟩
  exact hpath.symm

/-- two different digests accepted at leaf 0 of 2 under one checkpoint -/
theorem two_digests_accepted :
    ∃ q q', AcceptsInclusion logPlatform (.obj (digestSpec (fill 0x11)).toDict)
        (inclusionDoc 2 0 (fill 0x11) [node2233]) (checkpointDoc 2 nodeNested) q ∧
      AcceptsInclusion logPlatform (.obj (digestSpec (fill 0x22)).toDict)
        (inclusionDoc 2 0 (fill 0x22) [fill 0x33, leaf11]) (checkpointDoc 2 nodeNested) q' ∧
      q.leafIndex = 0 ∧ q'.leafIndex = 0 ∧
      CollisionFree logPlatform (inclusionMessages logPlatform q ++ inclusionMessages logPlatform q') ∧
      q.digest.bytes ≠ q'.digest.bytes := by
  have hq := inclusionInputs_docs (P := logPlatform) (by decide) (show 0 < 2 by decide) (fill 0x11)
    [node2233] nodeNested
  have hq' := inclusionInputs_docs (P := logPlatform) (by decide) (show 0 < 2 by decide) (fill 0x22)
    [fill 0x33, leaf11] nodeNested
  exact ⟨_, _, ⟨hq, (verifyInclusion_ok_iff logPlatform hq).mpr (by decide +kernel)⟩,
    ⟨hq', (verifyInclusion_ok_iff logPlatform hq').mpr (by decide +kernel)⟩, rfl, rfl,
    by decide +kernel, by decide⟩

/-- at leaf 0 of 2 paths of lengths 1 and 2 leave room for two leaves -/
theorem verifyInclusion_binding_two :
    ¬ OneLeaf 2 0 1 2 ∧ ∃ (checkpoint : Dict) (digest proof digest' proof' : Json)
      (q q' : InclusionInputs),
        AcceptsInclusion logPlatform digest proof checkpoint q ∧
        AcceptsInclusion logPlatform digest' proof' checkpoint q' ∧
        q.digest.bytes = fill 0x11 ∧ q'.digest.bytes = fill 0x22 := by
  have hnot : ¬ OneLeaf 2 0 1 2 := by decide +kernel
  obtain ⟨c, d, π, d', π', q, q', h1, h2, -, -, -, -, -, h3, h4⟩ :=
    (verifyInclusion_binding (P := logPlatform) length_logPlatform (by decide) 2 0 1 2
      (by decide)).2 hnot (fill 0x11) (fill 0x22)
  exact ⟨hnot, c, d, π, d', π', q, q', h1, h2, h3, h4⟩

end Actenon
