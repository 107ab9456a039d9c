import ActenonKernel.Verifier.Inclusion

/-!
# Consistency proofs and monitor updates

`verify_consistency` folds the path into two nodes: one climbs to the new root like the node of an
inclusion proof, the other takes the siblings on the left only and climbs to the old root.

* `consistencyLoop_ok`       what the loop computes, for every path;
* `checkConsistencyPath_eq`      which paths are accepted between different sizes;
* `verifyConsistency_exact`      against an honest new root: exactly the old root of the prefix with
                             its consistency proof, and what follows for a chain of monitor updates.
-/

set_option linter.unusedSectionVars false

namespace Actenon

open Merkle

section
variable (P : Platform)

/-- `PROOF` of RFC 6962 -/
def rfcConsistencyProof (m : Nat) (D : List (List UInt8)) : List (List UInt8) :=
  consistencyProof (P.sha256 []) (leafHash P) (nodeHash P) m D

/-! ## the loop -/

/-- **What the loop computes**: it ends at the root of the level with exactly the paths as long as
the walk, in the two climbs along it. -/
theorem consistencyLoop_ok (fn sn : Nat) (h : fn ≤ sn) (x y : List UInt8) (path : List Hash256)
    (r : List UInt8 × List UInt8 × Nat) :
    (consistencyLoop P fn sn x y path = .ok r ∧ r.2.2 = 0) ↔
      path.length = (sides fn sn).length ∧
        r = (climbOld (nodeHash P) x (sides fn sn) (path.map Subtype.val),
          climb (nodeHash P) y (sides fn sn) (path.map Subtype.val), 0) := by
  induction path generalizing fn sn x y with
  | nil =>
    rw [List.length_nil, eq_comm (a := 0), List.length_eq_zero_iff, sides_eq_nil]
    constructor
    · rintro ⟨hr, h0⟩
      cases hr
      subst h0
      exact ⟨rfl, by rw [sides_zero]; rfl⟩
    · rintro ⟨rfl, rfl⟩
      exact ⟨by rw [sides_zero]; rfl, rfl⟩
  | cons sib path ih =>
    by_cases h0 : sn = 0
    · subst h0
      rw [consistencyLoop, if_pos rfl, sides_zero]
      constructor
      · rintro ⟨hr, -⟩
        cases hr
      · rintro ⟨hl, -⟩
        cases hl
    · by_cases hc : fn % 2 = 1 ∨ fn = sn
      · have hs := ih (stepRight fn sn).1 (stepRight fn sn).2 (stepRight_le h)
          (nodeHash P sib.val x) (nodeHash P sib.val y)
        rw [consistencyLoop, if_neg h0, if_pos hc, sides_true h0 hc, List.length_cons,
          List.length_cons, Nat.succ_inj]
        exact hs
      · have hs := ih (fn / 2) (sn / 2) (Nat.div_le_div_right h) x (nodeHash P y sib.val)
        rw [consistencyLoop, if_neg h0, if_neg hc, sides_false h0 hc, List.length_cons,
          List.length_cons, Nat.succ_inj]
        exact hs

/-- where both climbs start, and the rest of the path -/
def consistencyStart (q : ConsistencyInputs) : Option (List UInt8 × List Hash256) :=
  if (dropOnes (q.oldSize - 1) (q.newSize - 1)).1 = 0 then some (q.oldRoot.val, q.path)
  else q.path.head?.map fun x => (x.val, q.path.tail)

theorem consistencyStart_pow {q : ConsistencyInputs} (h1 : 1 ≤ q.oldSize)
    (h : ∃ t, q.oldSize = 2 ^ t) : consistencyStart q = some (q.oldRoot.val, q.path) := by
  refine if_pos ((dropOnes_fst_eq_zero _ _).mpr ?_)
  rw [Nat.sub_add_cancel h1]
  exact h

theorem consistencyStart_not_pow {q : ConsistencyInputs} (h1 : 1 ≤ q.oldSize)
    (h : ¬ ∃ t, q.oldSize = 2 ^ t) :
    consistencyStart q = q.path.head?.map fun x => (x.val, q.path.tail) := by
  refine if_neg fun h0 => h ?_
  have h2 := (dropOnes_fst_eq_zero _ _).mp h0
  rw [Nat.sub_add_cancel h1] at h2
  exact h2

/-- the path check from its start -/
def consistencyRun (q : ConsistencyInputs) (x : List UInt8) (rest : List Hash256) : LogM Unit := do
  let r ← consistencyLoop P (dropOnes (q.oldSize - 1) (q.newSize - 1)).1
    (dropOnes (q.oldSize - 1) (q.newSize - 1)).2 x x rest
  raiseIf (r.2.2 ≠ 0 ∨ r.1 ≠ q.oldRoot.val ∨ r.2.1 ≠ q.newRoot.val) "CONSISTENCY_PROOF_INVALID"
    "checkpoints are not append-only consistent"

theorem checkConsistencyPath_eq (q : ConsistencyInputs) :
    checkConsistencyPath P q =
      match consistencyStart q with
      | some (x, rest) => consistencyRun P q x rest
      | none => logError "CONSISTENCY_PROOF_INVALID" "consistency proof path is incomplete" := by
  unfold checkConsistencyPath consistencyStart
  by_cases h0 : (dropOnes (q.oldSize - 1) (q.newSize - 1)).1 = 0
  · rw [if_pos h0]
    simp only [if_pos h0]
    rfl
  · rw [if_neg h0]
    simp only [if_neg h0]
    cases q.path <;> rfl

theorem consistencyRun_ok {q : ConsistencyInputs} (hle : q.oldSize ≤ q.newSize) (x : List UInt8)
    (rest : List Hash256) :
    consistencyRun P q x rest = .ok () ↔
      rest.length = (proofSides q.oldSize q.newSize).length ∧
        climbOld (nodeHash P) x (proofSides q.oldSize q.newSize) (rest.map Subtype.val)
          = q.oldRoot.val ∧
        climb (nodeHash P) x (proofSides q.oldSize q.newSize) (rest.map Subtype.val)
          = q.newRoot.val := by
  have hd : (dropOnes (q.oldSize - 1) (q.newSize - 1)).1
      ≤ (dropOnes (q.oldSize - 1) (q.newSize - 1)).2 := dropOnes_le (by omega)
  have hloop := consistencyLoop_ok P _ _ hd x x rest
  constructor
  · intro h
    obtain ⟨r, hr, hb⟩ := Fallible.bind_eq_ok.mp h
    obtain ⟨h0, h1, h2⟩ : r.2.2 = 0 ∧ r.1 = q.oldRoot.val ∧ r.2.1 = q.newRoot.val := by
      have hb := raiseIf_ok.mp hb
      tauto
    obtain ⟨hl, rfl⟩ := (hloop r).mp ⟨hr, h0⟩
    exact ⟨hl, h1, h2⟩
  · rintro ⟨hl, h1, h2⟩
    obtain ⟨hr, -⟩ := (hloop _).mpr ⟨hl, rfl⟩
    refine Fallible.bind_eq_ok.mpr ⟨_, hr, if_neg ?_⟩
    rintro (h | h | h)
    · exact h rfl
    · exact h h1
    · exact h h2

/-! ## the checks before the path -/

theorem consistencyInputs_ok {old new : Dict} {proof : Json} {q : ConsistencyInputs}
    (h : consistencyInputs old new proof = .ok q) :
    q.oldSize ≤ q.newSize ∧
      ∃ c c', parseCheckpoint old = .ok c ∧ parseCheckpoint new = .ok c' ∧
        q.oldSize = c.treeSize ∧ q.newSize = c'.treeSize ∧ q.oldRoot = c.rootHash ∧
        q.newRoot = c'.rootHash := by
  unfold consistencyInputs at h
  obtain ⟨c, hc, h⟩ := Fallible.bind_eq_ok.mp h
  obtain ⟨c', hc', h⟩ := Fallible.bind_eq_ok.mp h
  obtain ⟨_, _, h⟩ := Fallible.bind_eq_ok.mp h
  obtain ⟨_, hr, h⟩ := Fallible.bind_eq_ok.mp h
  obtain ⟨_, _, h⟩ := Fallible.bind_eq_ok.mp h
  obtain ⟨_, _, h⟩ := Fallible.bind_eq_ok.mp h
  obtain ⟨_, _, h⟩ := Fallible.bind_eq_ok.mp h
  obtain ⟨_, _, h⟩ := Fallible.bind_eq_ok.mp h
  obtain ⟨_, _, h⟩ := Fallible.bind_eq_ok.mp h
  obtain ⟨_, _, h⟩ := Fallible.bind_eq_ok.mp h
  obtain ⟨_, _, h⟩ := Fallible.bind_eq_ok.mp h
  obtain ⟨_, _, h⟩ := Fallible.bind_eq_ok.mp h
  obtain ⟨_, _, h⟩ := Fallible.bind_eq_ok.mp h
  have hle := raiseIf_ok.mp hr
  cases Fallible.pure_eq_ok.mp h
  exact ⟨by show c.treeSize ≤ c'.treeSize; omega, c, c', hc, hc', rfl, rfl, rfl, rfl⟩

/-- accepted means: the three cases of the old size -/
theorem verifyConsistency_ok_iff {old new : Dict} {proof : Json} {q : ConsistencyInputs}
    (hq : consistencyInputs old new proof = .ok q) :
    (∃ r, verifyConsistency P old new proof = .ok r) ↔
      if q.oldSize = 0 then q.path = []
      else if q.oldSize = q.newSize then q.path = [] ∧ q.oldRoot = q.newRoot
      else ∃ x rest, consistencyStart q = some (x, rest) ∧ consistencyRun P q x rest = .ok () := by
  unfold verifyConsistency
  rw [hq, Fallible.ok_bind]
  dsimp only
  by_cases h0 : q.oldSize = 0
  · rw [if_pos h0, if_pos h0, Fallible.check_ok, raiseIf_ok]
    exact not_not
  · rw [if_neg h0, if_neg h0]
    by_cases h1 : q.oldSize = q.newSize
    · rw [if_pos h1, if_pos h1, Fallible.check_ok, raiseIf_ok]
      tauto
    · rw [if_neg h1, if_neg h1, Fallible.check_ok, checkConsistencyPath_eq]
      constructor
      · intro h
        split at h
        · exact ⟨_, _, ‹_›, h⟩
        · cases h
      · rintro ⟨x, rest, hs, h⟩
        rw [hs]
        exact h

/-! ## messages -/

/-- the messages hashed by `verify_consistency` on the way to the new root -/
def consistencyMessages (q : ConsistencyInputs) : List (List UInt8) :=
  match consistencyStart q with
  | some (x, rest) =>
    (inclusionPairs P (dropOnes (q.oldSize - 1) (q.newSize - 1)).1
      (dropOnes (q.oldSize - 1) (q.newSize - 1)).2 x rest).map pairMessage
  | none => []

theorem length_start {q : ConsistencyInputs} {x : List UInt8} {rest : List Hash256}
    (h : consistencyStart q = some (x, rest)) : x.length = 32 := by
  unfold consistencyStart at h
  split at h
  · cases h
    exact q.oldRoot.2
  · cases hp : q.path with
    | nil =>
      rw [hp] at h
      cases h
    | cons y path =>
      rw [hp] at h
      cases h
      exact y.2

section
variable {P}

theorem consistencyPairs_hashed (hlen : ∀ m, (P.sha256 m).length = 32) {q : ConsistencyInputs}
    (hle : q.oldSize ≤ q.newSize) {x : List UInt8} {rest : List Hash256}
    (hs : consistencyStart q = some (x, rest))
    (hl : rest.length = (proofSides q.oldSize q.newSize).length) {M : List (List UInt8)}
    (hM : ∀ m ∈ consistencyMessages P q, m ∈ M) :
    ∀ e ∈ climbPairs (nodeHash P) x (proofSides q.oldSize q.newSize) (rest.map Subtype.val),
      e ∈ hashedPairs M := by
  intro e he
  refine ⟨hM _ ?_, length_climbPairs hlen x (length_start hs) _ _ (length_path rest) e he⟩
  have hw := inclusionPairs_walk P (k := 0)
    (dropOnes_le (show q.oldSize - 1 ≤ q.newSize - 1 by omega)) x hl
  unfold consistencyMessages
  rw [hs]
  refine List.mem_map_of_mem ?_
  rw [hw, walk_none]
  exact he

/-! ## exactness -/

/-- **Exactness**: against the root of the tree of `D`, exactly the root of the prefix with its
consistency proof is accepted. -/
theorem verifyConsistency_iff (hlen : ∀ m, (P.sha256 m).length = 32) (D : List (List UInt8))
    {old new : Dict} {proof : Json} {q : ConsistencyInputs}
    (hq : consistencyInputs old new proof = .ok q) (h1 : 1 ≤ q.oldSize)
    (hsize : D.length = q.newSize) (hroot : q.newRoot.val = mth P D)
    (hfree : CollisionFree P (consistencyMessages P q ++ treeMessages P D)) :
    (∃ r, verifyConsistency P old new proof = .ok r) ↔
      q.oldRoot.val = mth P (D.take q.oldSize) ∧
        q.path.map Subtype.val = rfcConsistencyProof P q.oldSize D := by
  have hle := (consistencyInputs_ok hq).1
  rw [verifyConsistency_ok_iff P hq, if_neg (by omega)]
  by_cases heq : q.oldSize = q.newSize
  · -- the same tree: the proof is empty
    have htake : D.take q.oldSize = D := List.take_of_length_le (by omega)
    have hempty : rfcConsistencyProof P q.oldSize D = [] :=
      subProof_base _ _ _ true (by omega)
    rw [if_pos heq, htake, hempty, ← hroot, List.map_eq_nil_iff, Subtype.ext_iff]
    exact and_comm
  · rw [if_neg heq]
    have hlt : q.oldSize < D.length := by omega
    have hS := injOn_hashedPairs hfree
    have hT := treePairs_hashed (M := consistencyMessages P q ++ treeMessages P D) hlen
      (fun m hm => List.mem_append_right _ hm)
    obtain ⟨x₀, rest₀, hsub, hl₀, hclimb₀, hold₀, hpairs₀⟩ := subProof_spec (P.sha256 [])
      (leafHash P) (nodeHash P) D q.oldSize h1 (Or.inl hlt)
    rw [hsize] at hl₀ hclimb₀ hold₀ hpairs₀
    -- the accepted start and rest are those of the proof
    have hacc : ∀ x rest, consistencyStart q = some (x, rest) →
        (consistencyRun P q x rest = .ok () ↔
          (x = x₀ ∧ rest.map Subtype.val = rest₀) ∧ q.oldRoot.val = mth P (D.take q.oldSize)) := by
      intro x rest hs
      rw [consistencyRun_ok P hle]
      constructor
      · rintro ⟨hl, hold, hnew⟩
        obtain ⟨rfl, rfl⟩ := climb_inj (nodeHash P) hS (proofSides q.oldSize q.newSize) x x₀
          (rest.map Subtype.val) rest₀ (by rw [List.length_map, hl]) hl₀
          (consistencyPairs_hashed hlen hle hs hl fun m hm => List.mem_append_left _ hm)
          (fun e he => hT e (hpairs₀ e he)) (hnew.trans (hroot.trans hclimb₀.symm))
        exact ⟨⟨rfl, rfl⟩, hold.symm.trans hold₀⟩
      · rintro ⟨⟨rfl, rfl⟩, hold⟩
        exact ⟨by rw [← hl₀, List.length_map], hold₀.trans hold.symm, hclimb₀.trans hroot.symm⟩
    by_cases hpow : ∃ t, q.oldSize = 2 ^ t
    · -- both climbs start at the old root
      have hcons := consistencyProof_pow (P.sha256 []) (leafHash P) (nodeHash P) D q.oldSize h1
        (by omega) hpow
      rw [hsub] at hcons
      obtain ⟨hx, hrest⟩ := List.cons.inj hcons
      have hs := consistencyStart_pow h1 hpow
      constructor
      · rintro ⟨x, rest, hs', hrun⟩
        cases hs.symm.trans hs'
        obtain ⟨⟨-, hr⟩, ho⟩ := (hacc _ _ hs).mp hrun
        exact ⟨ho, hr.trans hrest⟩
      · rintro ⟨ho, hr⟩
        exact ⟨_, _, hs, (hacc _ _ hs).mpr ⟨⟨ho.trans hx.symm, hr.trans hrest.symm⟩, ho⟩⟩
    · -- both climbs start at the first hash of the path
      have hcons := consistencyProof_not_pow (P.sha256 []) (leafHash P) (nodeHash P) D q.oldSize h1
        hlt hpow
      rw [hsub] at hcons
      have hs := consistencyStart_not_pow h1 hpow
      cases hp : q.path with
      | nil =>
        rw [hp] at hs
        constructor
        · rintro ⟨x, rest, hs', -⟩
          cases hs.symm.trans hs'
        · rintro ⟨-, hr⟩
          cases hr.trans hcons
      | cons y path =>
        rw [hp] at hs
        constructor
        · rintro ⟨x, rest, hs', hrun⟩
          cases hs.symm.trans hs'
          obtain ⟨⟨hx, hr⟩, ho⟩ := (hacc _ _ hs).mp hrun
          refine ⟨ho, ?_⟩
          rw [List.map_cons]
          exact (congrArg₂ List.cons hx hr).trans hcons.symm
        · rintro ⟨ho, hr⟩
          obtain ⟨hx, hr⟩ := List.cons.inj (hr.trans hcons)
          exact ⟨_, _, hs, (hacc _ _ hs).mpr ⟨⟨hx, hr⟩, ho⟩⟩

/-! ## chains of monitor updates -/

/-- the messages hashed for one update -/
def updateMessages (P : Platform) (old new : Dict) (proof : Json) : List (List UInt8) :=
  match consistencyInputs old new proof with
  | .ok q => consistencyMessages P q
  | .error _ => []

/-- the messages hashed for `k` updates, and for the trees of all prefixes of `D` -/
def chainMessages (P : Platform) (checkpoint : Nat → Dict) (proof : Nat → Json) (k : Nat)
    (D : List (List UInt8)) : List (List UInt8) :=
  (List.range k).flatMap (fun i => updateMessages P (checkpoint i) (checkpoint (i + 1)) (proof i))
    ++ (List.range (D.length + 1)).flatMap fun n => treeMessages P (D.take n)

/-- the checkpoint is the one of a prefix of `D` (the root of an empty tree is not looked at) -/
def OfPrefix (P : Platform) (D : List (List UInt8)) (c : Checkpoint) : Prop :=
  c.treeSize ≤ D.length ∧ (1 ≤ c.treeSize → c.rootHash.val = mth P (D.take c.treeSize))

theorem verifyMonitorUpdate_ok {old new trustedKeys : Dict} {proof : Json} {u : VerifiedMonitorUpdate}
    (h : verifyMonitorUpdate P old new proof trustedKeys = .ok u) :
    ∃ q r, consistencyInputs old new proof = .ok q ∧ verifyConsistency P old new proof = .ok r := by
  unfold verifyMonitorUpdate at h
  obtain ⟨_, _, h⟩ := Fallible.bind_eq_ok.mp h
  obtain ⟨_, _, h⟩ := Fallible.bind_eq_ok.mp h
  obtain ⟨r, hr, -⟩ := Fallible.bind_eq_ok.mp h
  have hv := hr
  unfold verifyConsistency at hv
  obtain ⟨q, hq, -⟩ := Fallible.bind_eq_ok.mp hv
  exact ⟨q, r, hq, hr⟩

/-- one update: from the checkpoint of a prefix back to the checkpoint of a shorter one -/
theorem ofPrefix_step (hlen : ∀ m, (P.sha256 m).length = 32) {D : List (List UInt8)}
    {old new trustedKeys : Dict} {proof : Json} {c c' : Checkpoint}
    (h : ∃ u, verifyMonitorUpdate P old new proof trustedKeys = .ok u)
    (hc : parseCheckpoint old = .ok c) (hc' : parseCheckpoint new = .ok c')
    (hfree : CollisionFree P (updateMessages P old new proof ++ treeMessages P (D.take c'.treeSize)))
    (hnew : OfPrefix P D c') : c.treeSize ≤ c'.treeSize ∧ OfPrefix P D c := by
  obtain ⟨u, hu⟩ := h
  obtain ⟨q, r, hq, hr⟩ := verifyMonitorUpdate_ok hu
  obtain ⟨hle, d, d', hd, hd', hold, hsize, holdRoot, hnewRoot⟩ := consistencyInputs_ok hq
  cases hd.symm.trans hc
  cases hd'.symm.trans hc'
  have hmono : c.treeSize ≤ c'.treeSize := by omega
  refine ⟨hmono, Nat.le_trans hmono hnew.1, fun h1 => ?_⟩
  unfold updateMessages at hfree
  rw [hq] at hfree
  have hlen' : (D.take c'.treeSize).length = q.newSize := by
    rw [List.length_take, Nat.min_eq_left hnew.1, hsize]
  obtain ⟨hroot, -⟩ := (verifyConsistency_iff hlen (D.take c'.treeSize) hq (by omega) hlen'
    (by rw [hnewRoot]; exact hnew.2 (by omega)) hfree).mp ⟨r, hr⟩
  rw [← holdRoot, hroot, hold, List.take_take, Nat.min_eq_left hmono]

/-- all checkpoints of a chain whose last one is honest -/
theorem ofPrefix_chain (hlen : ∀ m, (P.sha256 m).length = 32) {D : List (List UInt8)}
    {checkpoint trustedKeys : Nat → Dict} {proof : Nat → Json} {k : Nat} {c : Nat → Checkpoint}
    (h : ∀ i < k, ∃ u, verifyMonitorUpdate P (checkpoint i) (checkpoint (i + 1)) (proof i)
      (trustedKeys i) = .ok u)
    (hc : ∀ i ≤ k, parseCheckpoint (checkpoint i) = .ok (c i))
    (hfree : CollisionFree P (chainMessages P checkpoint proof k D))
    (hlast : OfPrefix P D (c k)) (i j : Nat) (hij : i ≤ j) (hj : j ≤ k) :
    (c i).treeSize ≤ (c j).treeSize ∧ OfPrefix P D (c i) ∧ OfPrefix P D (c j) := by
  have hstep : ∀ i < k, OfPrefix P D (c (i + 1)) →
      (c i).treeSize ≤ (c (i + 1)).treeSize ∧ OfPrefix P D (c i) := by
    intro i hi hnext
    refine ofPrefix_step hlen (h i hi) (hc i (by omega)) (hc (i + 1) hi) ?_ hnext
    have hsub : ∀ m ∈ updateMessages P (checkpoint i) (checkpoint (i + 1)) (proof i)
        ++ treeMessages P (D.take (c (i + 1)).treeSize), m ∈ chainMessages P checkpoint proof k D := by
      intro m hm
      rcases List.mem_append.mp hm with hm | hm
      · exact List.mem_append_left _ (List.mem_flatMap.mpr ⟨i, List.mem_range.mpr hi, hm⟩)
      · exact List.mem_append_right _ (List.mem_flatMap.mpr
          ⟨_, List.mem_range.mpr (Nat.lt_succ_of_le hnext.1), hm⟩)
    exact fun m hm m' hm' => hfree m (hsub m hm) m' (hsub m' hm')
  -- backwards from the honest end, then forwards along the sizes
  have hall : ∀ d i, i + d = k → OfPrefix P D (c i) := by
    intro d
    induction d with
    | zero =>
      rintro i rfl
      exact hlast
    | succ d ih =>
      intro i hi
      exact (hstep i (by omega) (ih (i + 1) (by omega))).2
  have hmono : ∀ d, i + d ≤ k → (c i).treeSize ≤ (c (i + d)).treeSize := by
    intro d
    induction d with
    | zero => exact fun _ => Nat.le_refl _
    | succ d ih =>
      intro hd
      exact Nat.le_trans (ih (by omega))
        (hstep (i + d) (by omega) (hall (k - (i + d + 1)) _ (by omega))).1
  obtain ⟨d, rfl⟩ := Nat.exists_eq_add_of_le hij
  exact ⟨hmono d hj, hall (k - i) i (by omega), hall (k - (i + d)) (i + d) (by omega)⟩

/-- **Consistency proofs are exact, and chains of monitor updates that end at the root of a tree
only ever saw prefixes of it.** -/
theorem verifyConsistency_exact (hlen : ∀ m, (P.sha256 m).length = 32) (D : List (List UInt8)) :
    (∀ (old new : Dict) (proof : Json) (q : ConsistencyInputs),
      consistencyInputs old new proof = .ok q → 1 ≤ q.oldSize → D.length = q.newSize →
      q.newRoot.val = mth P D → CollisionFree P (consistencyMessages P q ++ treeMessages P D) →
      ((∃ r, verifyConsistency P old new proof = .ok r) ↔
        q.oldRoot.val = mth P (D.take q.oldSize) ∧
          q.path.map Subtype.val = rfcConsistencyProof P q.oldSize D)) ∧
    (∀ (checkpoint trustedKeys : Nat → Dict) (proof : Nat → Json) (k : Nat) (c : Nat → Checkpoint),
      (∀ i < k, ∃ u, verifyMonitorUpdate P (checkpoint i) (checkpoint (i + 1)) (proof i)
        (trustedKeys i) = .ok u) →
      (∀ i ≤ k, parseCheckpoint (checkpoint i) = .ok (c i)) →
      D.length = (c k).treeSize → (c k).rootHash.val = mth P D →
      CollisionFree P (chainMessages P checkpoint proof k D) →
      ∃ tree : Nat → List (List UInt8), tree k = D ∧
        ∀ i j, i ≤ j → j ≤ k → (tree i).length = (c i).treeSize ∧
          (1 ≤ (c i).treeSize → (c i).rootHash.val = mth P (tree i)) ∧ tree i <+: tree j) := by
  refine ⟨fun old new proof q hq h1 hsize hroot hfree =>
    verifyConsistency_iff hlen D hq h1 hsize hroot hfree, ?_⟩
  intro checkpoint trustedKeys proof k c h hc hsize hroot hfree
  have htake : D.take (c k).treeSize = D := List.take_of_length_le (by omega)
  have hlast : OfPrefix P D (c k) := ⟨by omega, fun _ => by rw [htake]; exact hroot⟩
  refine ⟨fun i => D.take (c i).treeSize, htake, fun i j hij hj => ?_⟩
  obtain ⟨hmono, hi, -⟩ := ofPrefix_chain hlen h hc hfree hlast i j hij hj
  exact ⟨by rw [List.length_take, Nat.min_eq_left hi.1], hi.2,
    (List.take_prefix_take_left hmono)⟩

end

end

/-! ## from one leaf to two -/

/-- a consistency proof for the log of `checkpointDoc` -/
def consistencyDoc (m n : Nat) (path : List Hash256) : Json :=
  .obj (members [
    ("contract", .obj (members [("name", .str "transparency_consistency_proof"), ("version", .str "v1")])),
    ("hash_algorithm", .str "sha-256"), ("log_id", .str "log"), ("old_tree_size", .int m),
    ("new_tree_size", .int n), ("consistency_path", .arr (path.map fun h => .str (hexText h)))])

/-- the key set of that log -/
def logKeys : Dict :=
  members [("contract", .obj (members [("name", .str "key_discovery"), ("version", .str "v1")])),
    ("issuer", .obj (members [("type", .str "log"), ("id", .str "log")])),
    ("keys", .arr [.obj (members [("key_id", .str "k1"), ("algorithm", .str "EdDSA"),
      ("use", .str "transparency_checkpoint"), ("status", .str "active"),
      ("public_key_jwk", .obj (members [("kty", .str "OKP"), ("crv", .str "Ed25519"),
        ("x", .str "iojj3XQJ8ZX9UtstPLpdcspnCb8dlBIb83SIAbQPb1w")]))])])]

/-- the signatures of its two checkpoints -/
def logSignature : Nat → String
  | 0 => "mXcnm-jcD8pV7jKfGjW_aNMP-iXF3LHqc4ftxB1qo8U5XNciNGcAmUc9idAgHKBbwIsDY9BjI_jic6a5TzljAA"
  | _ => "y1ojSDXwu8aQQ68qWIKSk5shskCnC6XAlYHXdMlivjcIpm3lQEbRkXtm9jGxkoG6S47132oz0CEJr4ByukHcAw"

/-- their sizes and roots -/
def logRoot : Nat → Nat × Hash256
  | 0 => (1, leaf11)
  | _ => (2, rootTwo)

def logCheckpoint (i : Nat) : Dict := signedCheckpoint (logRoot i).1 (logRoot i).2 (logSignature i)

theorem parseCheckpoint_logCheckpoint (i : Nat) :
    parseCheckpoint (logCheckpoint i)
      = .ok (checkpointOf (logRoot i).1 (logRoot i).2 (logSignature i)) := by
  refine parseCheckpoint_signedCheckpoint _ _ ?_
  match i with
  | 0 => decide
  | _ + 1 => exact (show logSignature 1 ≠ "" by decide)

/-- the inputs of the update from one leaf to two -/
def updateInputs : ConsistencyInputs := ⟨"log", 1, 2, leaf11, rootTwo, [leaf22]⟩

theorem consistencyInputs_update :
    consistencyInputs (logCheckpoint 0) (logCheckpoint 1) (consistencyDoc 1 2 [leaf22])
      = .ok updateInputs := by
  unfold consistencyInputs
  refine Fallible.bind_eq_ok.mpr ⟨_, parseCheckpoint_logCheckpoint 0, ?_⟩
  refine Fallible.bind_eq_ok.mpr ⟨_, parseCheckpoint_logCheckpoint 1, ?_⟩
  refine Fallible.bind_eq_ok.mpr ⟨(), if_neg (fun h => h ⟨rfl, rfl⟩), ?_⟩
  refine Fallible.bind_eq_ok.mpr ⟨(), if_neg (show ¬ (2 < 1) by omega), ?_⟩
  refine Fallible.bind_eq_ok.mpr ⟨_, rfl, ?_⟩
  refine Fallible.bind_eq_ok.mpr ⟨_, rfl, ?_⟩
  refine Fallible.bind_eq_ok.mpr ⟨(), if_neg (fun h => h rfl), ?_⟩
  refine Fallible.bind_eq_ok.mpr ⟨(), if_neg (fun h => h rfl), ?_⟩
  refine Fallible.bind_eq_ok.mpr ⟨"log", requireString_str (by decide) _ _, ?_⟩
  refine Fallible.bind_eq_ok.mpr ⟨1, requireNonnegativeInt_nat 1 _ _, ?_⟩
  refine Fallible.bind_eq_ok.mpr ⟨2, requireNonnegativeInt_nat 2 _ _, ?_⟩
  refine Fallible.bind_eq_ok.mpr ⟨(), if_neg (fun h => h ⟨rfl, rfl, rfl⟩), ?_⟩
  exact Fallible.bind_eq_ok.mpr ⟨_, parseHashItems_hexText _ _ 0 [leaf22], rfl⟩

/-- a monitor that saw one leaf and then two -/
theorem verifyConsistency_exact_two :
    rfcConsistencyProof logPlatform 1 [(fill 0x11).val, (fill 0x22).val] = [leaf22.val] ∧
    (∃ r, verifyConsistency logPlatform (logCheckpoint 0) (logCheckpoint 1)
      (consistencyDoc 1 2 [leaf22]) = .ok r) ∧
    (∃ u, verifyMonitorUpdate logPlatform (logCheckpoint 0) (logCheckpoint 1)
      (consistencyDoc 1 2 [leaf22]) logKeys = .ok u) ∧
    ∃ tree : Nat → List (List UInt8), tree 1 = [(fill 0x11).val, (fill 0x22).val] ∧
      (tree 0).length = 1 ∧ leaf11.val = mth logPlatform (tree 0) ∧ tree 0 <+: tree 1 := by
  have hpath : rfcConsistencyProof logPlatform 1 [(fill 0x11).val, (fill 0x22).val]
      = [leaf22.val] := by decide +kernel
  have hupdate : ∃ u, verifyMonitorUpdate logPlatform (logCheckpoint 0) (logCheckpoint 1)
      (consistencyDoc 1 2 [leaf22]) logKeys = .ok u := Fallible.exists_ok (by decide +kernel)
  obtain ⟨hexact, hchain⟩ := verifyConsistency_exact (P := logPlatform) length_logPlatform
    [(fill 0x11).val, (fill 0x22).val]
  refine ⟨hpath, (hexact _ _ _ updateInputs consistencyInputs_update (by decide) rfl
    (by decide +kernel) (by decide +kernel)).mpr ⟨by decide +kernel, hpath.symm⟩, hupdate, ?_⟩
  obtain ⟨tree, hk, htree⟩ := hchain logCheckpoint (fun _ => logKeys)
    (fun _ => consistencyDoc 1 2 [leaf22]) 1
    (fun i => checkpointOf (logRoot i).1 (logRoot i).2 (logSignature i))
    (fun i hi => by
      obtain rfl : i = 0 := by omega
      exact hupdate)
    (fun i _ => parseCheckpoint_logCheckpoint i) rfl (by decide +kernel) (by decide +kernel)
  obtain ⟨hl, hr, hp⟩ := htree 0 1 (by decide) (by decide)
  exact ⟨tree, hk, hl, hr (by decide), hp⟩

end Actenon
