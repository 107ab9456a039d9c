import ActenonKernel.Replay.Store

/-!
# What a transaction does to the row of a key

Every transaction keeps a row, moves one that is not consumed, or inserts one where there was none:
a consumed row stays as it is, and a row once there is never gone.  A transaction may also fail in
the driver, before or after its commit.

* `run_find`        what a transaction can do to the row of a key, said once;
* `consume_ok`, `claim_ok`, `inspect_found`    what the answers tell;
* `StoreStep`       a transaction as a caller sees it; `StoreStep.find`, `StoreStep.monotone`.
-/

set_option linter.unusedSectionVars false

namespace Actenon

/-! ## statements -/

@[simp] theorem find_observe (db : ReplayDb) (inst counter : Nat) (k : String) :
    (db.observe inst counter).find k = db.find k := rfl

theorem rowIs_iff {k : String} {status : ActionConsumptionStatus} {row : ActionConsumptionState} :
    rowIs k status row = true ↔ row.replayKey = k ∧ row.status = status := by
  unfold rowIs
  rw [Bool.and_eq_true, decide_eq_true_iff, decide_eq_true_iff]

theorem find_key {db : ReplayDb} {k : String} {row : ActionConsumptionState}
    (h : db.find k = some row) : row.replayKey = k := Table.key_of_find h

theorem find_expireRow (table : Table ActionConsumptionState.replayKey) (key : String) (now : Datetime)
    (k : String) :
    (expireRow table key now).find k = (table.find k).map fun row =>
      if rowIs key .claimed row && row.textExpired now then row.become .expired now else row :=
  Table.find_update ..

/-- after the first two statements of a claim, other rows are as before, and a row of the key that
is left was not touched -/
theorem find_claimable (table : Table ActionConsumptionState.replayKey) (key : String) (now : Datetime)
    (k : String) :
    (deleteEnded (expireRow table key now) key).find k = table.find k ∨
      k = key ∧ (deleteEnded (expireRow table key now) key).find k = none ∧
        ∃ row, table.find k = some row ∧ row.status ≠ .consumed := by
  unfold deleteEnded
  rw [Table.find_delete, find_expireRow]
  cases hf : table.find k with
  | none => exact Or.inl rfl
  | some row =>
    have hk : row.replayKey = k := Table.key_of_find hf
    rw [Option.map_some]
    by_cases hkey : k = key
    · subst hkey
      by_cases hc : row.status = .consumed
      · left
        have h1 : (rowIs k .claimed row && row.textExpired now) = false := by
          simp [rowIs, hc]
        rw [h1]
        simp [Option.filter_some, rowIs, hc]
      · by_cases hl : row.status = .claimed ∧ row.textExpired now = true
        · right
          have h1 : (rowIs k .claimed row && row.textExpired now) = true := by
            rw [Bool.and_eq_true, rowIs_iff]
            exact ⟨⟨hk, hl.1⟩, hl.2⟩
          rw [h1]
          exact ⟨rfl, by simp [Option.filter_some, rowIs, ActionConsumptionState.become, hk], row, rfl,
            hc⟩
        · have h1 : (rowIs k .claimed row && row.textExpired now) = false := by
            rw [Bool.eq_false_iff]
            intro h
            rw [Bool.and_eq_true, rowIs_iff] at h
            exact hl ⟨h.1.2, h.2⟩
          rw [h1]
          cases hs : row.status with
          | consumed => exact absurd hs hc
          | claimed => exact Or.inl (by simp [Option.filter_some, rowIs, hs])
          | released => exact Or.inr ⟨rfl, by simp [Option.filter_some, rowIs, hs, hk], row, rfl, by simp [hs]⟩
          | expired => exact Or.inr ⟨rfl, by simp [Option.filter_some, rowIs, hs, hk], row, rfl, by simp [hs]⟩
    · left
      have hne : row.replayKey ≠ key := by rw [hk]; exact hkey
      simp [Option.filter_some, rowIs, hne]

/-! ## what a transaction can do -/

/-- a row is kept, or one that is not consumed is replaced, or one appears -/
def RowStep (before after : Option ActionConsumptionState) : Prop :=
  after = before ∨ ∃ row, after = some row ∧ ∀ old, before = some old → old.status ≠ .consumed

theorem RowStep.consumed {before after : Option ActionConsumptionState} (h : RowStep before after)
    {row : ActionConsumptionState} (hb : before = some row) (hc : row.status = .consumed) :
    after = some row := by
  rcases h with h | ⟨row', -, hold⟩
  · exact h.trans hb
  · exact absurd hc (hold row hb)

theorem RowStep.present {before after : Option ActionConsumptionState} (h : RowStep before after)
    (hb : before.isSome) : after.isSome := by
  rcases h with h | ⟨row', h, -⟩
  · rw [h]
    exact hb
  · rw [h]
    rfl

theorem transaction_snd {α : Type} {db : ReplayDb} {inst : Nat} {body : ReplayDb → PyM α × ReplayDb}
    {I : ReplayDb → Prop} (h : I db) (hb : I (body (db.observe inst db.counter)).2) :
    I (transaction db inst body).2 := by
  unfold transaction
  split
  · exact h
  · exact hb

theorem commitTable_find {α : Type} (db : ReplayDb) (inst : Nat)
    (table : Table ActionConsumptionState.replayKey) (result : α) (k : String) :
    (commitTable db inst table result).2.find k = db.find k ∨
      (commitTable db inst table result).2.find k = table.find k := by
  unfold commitTable
  split
  · exact Or.inl rfl
  · exact Or.inr rfl

/-- an update of claimed rows -/
theorem rowStep_commit_update {α : Type} (db : ReplayDb) (inst : Nat)
    (p : ActionConsumptionState → Bool) (f : ActionConsumptionState → ActionConsumptionState)
    (hf : ∀ r, (f r).replayKey = r.replayKey) (hp : ∀ r, p r = true → r.status = .claimed) (result : α)
    (k : String) :
    RowStep (db.find k) ((commitTable db inst (db.table.update p f hf) result).2.find k) := by
  rcases commitTable_find db inst (db.table.update p f hf) result k with h | h
  · exact Or.inl h
  · rw [h, Table.find_update]
    show RowStep (db.table.find k) _
    cases db.table.find k with
    | none => exact Or.inl rfl
    | some row =>
      rw [Option.map_some]
      split
      · rename_i hpr
        refine Or.inr ⟨_, rfl, ?_⟩
        intro old hold
        cases hold
        rw [hp row hpr]
        simp
      · exact Or.inl rfl

theorem rowStep_claim (db : ReplayDb) (inst : Nat) (claim : ActionConsumptionClaim) (now : Datetime)
    (k : String) : RowStep (db.find k) ((claimTx db inst claim now).2.find k) := by
  unfold claimTx
  dsimp only
  split
  · exact Or.inl rfl
  · rename_i hnone
    rcases commitTable_find db inst ((deleteEnded (expireRow db.table claim.replayKey now)
      claim.replayKey).insert (claim.row now)) true k with h | h
    · exact Or.inl h
    · rw [h, Table.find_insert_of_none (r := claim.row now) hnone]
      by_cases hk : claim.replayKey = k
      · subst hk
        rw [if_pos (show (claim.row now).replayKey = claim.replayKey from rfl)]
        refine Or.inr ⟨_, rfl, ?_⟩
        intro old hold
        rcases find_claimable db.table claim.replayKey now claim.replayKey with hc | ⟨-, -, row, hr, hs⟩
        · rw [hnone] at hc
          cases hc.trans hold
        · cases hr.symm.trans hold
          exact hs
      · rw [if_neg (show ¬ (claim.row now).replayKey = k from hk)]
        rcases find_claimable db.table claim.replayKey now k with hc | ⟨hc, -⟩
        · exact Or.inl hc
        · exact absurd hc.symm hk

/-- **What a transaction can do to the row of a key.** -/
theorem run_find (tx : StoreTx) (inst : Nat) (db : ReplayDb) (k : String) :
    RowStep (db.find k) ((tx.run inst db).2.find k) := by
  cases tx with
  | claim claim now =>
    refine transaction_snd (I := fun db' => RowStep (db.find k) (db'.find k)) (Or.inl rfl) ?_
    exact rowStep_claim (db.observe inst db.counter) inst claim now k
  | consume replayKey now =>
    refine transaction_snd (I := fun db' => RowStep (db.find k) (db'.find k)) (Or.inl rfl) ?_
    unfold consumeTx
    split
    · exact Or.inl rfl
    · exact rowStep_commit_update (db.observe inst db.counter) inst _ _ _
        (fun r hr => (rowIs_iff.mp hr).2) _ k
  | release replayKey now reason =>
    refine transaction_snd (I := fun db' => RowStep (db.find k) (db'.find k)) (Or.inl rfl) ?_
    unfold releaseTx
    split
    · exact Or.inl rfl
    · split
      · exact Or.inl rfl
      · split
        · exact Or.inl rfl
        · exact rowStep_commit_update (db.observe inst db.counter) inst _ _ _
            (fun r hr => (rowIs_iff.mp hr).2) _ k
  | inspect replayKey now =>
    refine transaction_snd (I := fun db' => RowStep (db.find k) (db'.find k)) (Or.inl rfl) ?_
    unfold inspectTx
    split
    · exact Or.inl rfl
    · split
      · exact rowStep_commit_update (db.observe inst db.counter) inst _ _ _
          (fun r hr => (rowIs_iff.mp hr).2) _ k
      · exact Or.inl rfl
  | purge now =>
    refine transaction_snd (I := fun db' => RowStep (db.find k) (db'.find k)) (Or.inl rfl) ?_
    unfold purgeTx
    dsimp only
    split
    · exact Or.inl rfl
    · refine rowStep_commit_update (db.observe inst db.counter) inst _ _ _ (fun r hr => ?_) _ k
      rw [Bool.and_eq_true] at hr
      exact of_decide_eq_true hr.1

/-! ## what the answers tell -/

/-- a transaction that answers passed the check of the counter -/
theorem transaction_ok {α : Type} {db db' : ReplayDb} {inst : Nat}
    {b : ReplayDb → PyM α × ReplayDb} {a : α} (h : transaction db inst b = (.ok a, db')) :
    b (db.observe inst db.counter) = (.ok a, db') := by
  unfold transaction at h
  split at h
  · cases h
  · exact h

theorem commitTable_ok {α : Type} {db db' : ReplayDb} {inst : Nat}
    {table : Table ActionConsumptionState.replayKey} {result a : α}
    (h : commitTable db inst table result = (.ok a, db')) : a = result ∧ db'.table = table := by
  unfold commitTable at h
  split at h
  · cases h
  · cases h
    exact ⟨rfl, rfl⟩

/-- the row of an update that was committed -/
theorem find_commit_update {α : Type} {db db' : ReplayDb} {inst : Nat}
    {p : ActionConsumptionState → Bool} {f : ActionConsumptionState → ActionConsumptionState}
    {hf : ∀ r, (f r).replayKey = r.replayKey} {result a : α} {k : String} {row : ActionConsumptionState}
    (h : commitTable db inst (db.table.update p f hf) result = (.ok a, db'))
    (hrow : db.find k = some row) (hp : p row = true) : db'.find k = some (f row) := by
  have hfind := Table.find_update db.table p f hf k
  rw [show db.table.find k = some row from hrow, Option.map_some, if_pos hp] at hfind
  unfold ReplayDb.find
  rw [(commitTable_ok h).2, hfind]

theorem count_claimed (db : ReplayDb) (k : String) :
    db.table.count (rowIs k .claimed) ≠ 1 ↔
      ∀ row, db.find k = some row → row.status ≠ .claimed := by
  have hc : db.table.count (rowIs k .claimed)
      = if (db.table.find k).any (fun row => row.status = .claimed) then 1 else 0 :=
    db.table.count_eq k fun row => row.status = .claimed
  rw [hc]
  unfold ReplayDb.find
  cases db.table.find k with
  | none => simp
  | some row => simp

theorem consume_ok {db db' : ReplayDb} {inst : Nat} {k : String} {now : Datetime}
    (h : (StoreTx.consume k now).run inst db = (.ok true, db')) :
    (∃ row, db.find k = some row ∧ row.status = .claimed) ∧
      ∃ row, db'.find k = some row ∧ row.status = .consumed := by
  have hb := transaction_ok (b := fun db => consumeTx db inst k now) h
  unfold consumeTx at hb
  split at hb
  · cases hb
  · rename_i hcount
    rw [count_claimed] at hcount
    push Not at hcount
    obtain ⟨row, hrow, hstatus⟩ := hcount
    refine ⟨⟨row, hrow, hstatus⟩, ?_⟩
    exact ⟨_, find_commit_update hb hrow (rowIs_iff.mpr ⟨find_key hrow, hstatus⟩), rfl⟩

theorem claim_ok {db db' : ReplayDb} {inst : Nat} {claim : ActionConsumptionClaim} {now : Datetime}
    (h : (StoreTx.claim claim now).run inst db = (.ok true, db')) :
    db'.find claim.replayKey = some (claim.row now) := by
  have hb := transaction_ok (b := fun db => claimTx db inst claim now) h
  unfold claimTx at hb
  dsimp only at hb
  split at hb
  · cases hb
  · rename_i hnone
    have ht := (commitTable_ok hb).2
    unfold ReplayDb.find
    rw [ht, Table.find_insert_of_none (r := claim.row now) hnone]
    exact if_pos rfl

theorem inspect_missing {db db' : ReplayDb} {inst : Nat} {k : String} {now : Datetime}
    (h : (StoreTx.inspect k now).run inst db = (.ok .missing, db')) : db.find k = none := by
  have hb := transaction_ok (b := fun db => inspectTx db inst k now) h
  unfold inspectTx at hb
  split at hb
  · assumption
  · split at hb
    · cases (commitTable_ok hb).1
    · cases hb

theorem inspect_found {db db' : ReplayDb} {inst : Nat} {k : String} {now : Datetime}
    {row : ActionConsumptionState}
    (h : (StoreTx.inspect k now).run inst db = (.ok (.found row), db')) :
    db.find k = some row := by
  have hb := transaction_ok (b := fun db => inspectTx db inst k now) h
  unfold inspectTx at hb
  split at hb
  · cases hb
  · split at hb
    · cases (commitTable_ok hb).1
    · cases hb
      assumption

theorem inspect_expired {db db' : ReplayDb} {inst : Nat} {k : String} {now : Datetime}
    (h : (StoreTx.inspect k now).run inst db = (.ok .expired, db')) :
    ∃ row, db.find k = some row ∧ row.status = .claimed := by
  have hb := transaction_ok (b := fun db => inspectTx db inst k now) h
  unfold inspectTx at hb
  split at hb
  · cases hb
  · rename_i row hrow
    split at hb
    · rename_i hdue
      exact ⟨row, hrow, hdue.1⟩
    · cases hb

/-- a `mark_consumed` that answers says whether the row was claimed -/
theorem consume_answer {db db' : ReplayDb} {inst : Nat} {k : String} {now : Datetime} {changed : Bool}
    {row : ActionConsumptionState} (h : (StoreTx.consume k now).run inst db = (.ok changed, db'))
    (hrow : db.find k = some row) (hc : row.status = .claimed) : changed = true := by
  have hb := transaction_ok (b := fun db => consumeTx db inst k now) h
  unfold consumeTx at hb
  split at hb
  · rename_i hcount
    exact absurd hc ((count_claimed (db.observe inst db.counter) k).mp hcount row hrow)
  · exact (commitTable_ok hb).1

/-! ## the counter -/

/-- no store object has seen a counter the database does not have -/
def ReplayDb.Monotone (db : ReplayDb) : Prop := ∀ inst, db.observed inst ≤ db.counter

theorem observe_monotone {db : ReplayDb} (h : db.Monotone) (inst : Nat) :
    (db.observe inst db.counter).Monotone := by
  intro i
  show (if i = inst then db.counter else db.observed i) ≤ db.counter
  split
  · exact Nat.le_refl _
  · exact h i

theorem transaction_monotone {α : Type} {db : ReplayDb} (h : db.Monotone) (inst : Nat)
    (body : ReplayDb → PyM α × ReplayDb) :
    transaction db inst body = body (db.observe inst db.counter) :=
  if_neg (Nat.not_lt.mpr (h inst))

/-- the database after a commit of the store object -/
def ReplayDb.commit (db : ReplayDb) (inst : Nat) (table : Table ActionConsumptionState.replayKey) :
    ReplayDb where
  table := table
  counter := db.counter + 1
  observed := fun i => if i = inst then db.counter + 1 else (db.observe inst db.counter).observed i

/-- the commit of a transaction whose counter was checked -/
theorem commitTable_observe {α : Type} (db : ReplayDb) (inst : Nat)
    (table : Table ActionConsumptionState.replayKey) (result : α) :
    commitTable (db.observe inst db.counter) inst table result = (.ok result, db.commit inst table) := by
  refine if_neg ?_
  show ¬ (db.counter + 1 ≤ if inst = inst then db.counter else db.observed inst)
  rw [if_pos rfl]
  omega

/-- the answer tells that rows were changed and committed -/
def StoreTx.commits : (tx : StoreTx) → tx.Result → Bool
  | .claim _ _, inserted => inserted
  | .consume _ _, changed => changed
  | .release _ _ _, .released => true
  | .release _ _ _, _ => false
  | .inspect _ _, .expired => true
  | .inspect _ _, _ => false
  | .purge _, count => decide ((show Nat from count) ≠ 0)

/-- what a transaction that passed the check does: it changes nothing, or commits once -/
def Moves (tx : StoreTx) (inst : Nat) (db : ReplayDb) (r : PyM tx.Result × ReplayDb) : Prop :=
  (∃ a, tx.commits a = false ∧ r = (.ok a, db.observe inst db.counter)) ∨
    ∃ a table, tx.commits a = true ∧ r = (.ok a, db.commit inst table)

theorem transaction_moves (tx : StoreTx) {inst : Nat} {db : ReplayDb}
    (body : ReplayDb → PyM tx.Result × ReplayDb) (hlt : ¬ db.counter < db.observed inst)
    (h : Moves tx inst db (body (db.observe inst db.counter))) :
    Moves tx inst db (transaction db inst body) := by
  unfold transaction
  rw [if_neg hlt]
  exact h

theorem claimTx_moves (db : ReplayDb) (inst : Nat) (claim : ActionConsumptionClaim) (now : Datetime) :
    Moves (.claim claim now) inst db (claimTx (db.observe inst db.counter) inst claim now) := by
  unfold claimTx
  dsimp only
  split
  · exact Or.inl ⟨false, rfl, rfl⟩
  · exact Or.inr ⟨true, _, rfl, commitTable_observe db inst _ _⟩

theorem consumeTx_moves (db : ReplayDb) (inst : Nat) (k : String) (now : Datetime) :
    Moves (.consume k now) inst db (consumeTx (db.observe inst db.counter) inst k now) := by
  unfold consumeTx
  split
  · exact Or.inl ⟨false, rfl, rfl⟩
  · exact Or.inr ⟨true, _, rfl, commitTable_observe db inst _ _⟩

theorem releaseTx_moves (db : ReplayDb) (inst : Nat) (k : String) (now : Datetime) (reason : String) :
    Moves (.release k now reason) inst db (releaseTx (db.observe inst db.counter) inst k now reason) := by
  unfold releaseTx
  split
  · exact Or.inl ⟨.missing, rfl, rfl⟩
  · rename_i current _
    split
    · exact Or.inl ⟨.alreadyConsumed current, rfl, rfl⟩
    · split
      · exact Or.inl ⟨.notClaimed current.status, rfl, rfl⟩
      · exact Or.inr ⟨.released, _, rfl, commitTable_observe db inst _ _⟩

theorem inspectTx_moves (db : ReplayDb) (inst : Nat) (k : String) (now : Datetime) :
    Moves (.inspect k now) inst db (inspectTx (db.observe inst db.counter) inst k now) := by
  unfold inspectTx
  split
  · exact Or.inl ⟨.missing, rfl, rfl⟩
  · rename_i row _
    split
    · exact Or.inr ⟨.expired, _, rfl, commitTable_observe db inst _ _⟩
    · exact Or.inl ⟨.found row, rfl, rfl⟩

theorem purgeTx_moves (db : ReplayDb) (inst : Nat) (now : Datetime) :
    Moves (.purge now) inst db (purgeTx (db.observe inst db.counter) inst now) := by
  unfold purgeTx
  dsimp only
  split
  · exact Or.inl ⟨(0 : Nat), rfl, rfl⟩
  · rename_i hcount
    exact Or.inr ⟨_, _, decide_eq_true hcount, commitTable_observe db inst _ _⟩

/-- **What a transaction can do to the counters**: it finds that the store went back and changes
nothing, or it passes the check. -/
theorem run_cases (tx : StoreTx) (inst : Nat) (db : ReplayDb) :
    (db.counter < db.observed inst ∧
      tx.run inst db = (.error (rollbackDetected
        "Replay store state regressed behind a previously observed mutation." db inst db.counter), db)) ∨
    (db.observed inst ≤ db.counter ∧ Moves tx inst db (tx.run inst db)) := by
  by_cases hlt : db.counter < db.observed inst
  · refine Or.inl ⟨hlt, ?_⟩
    cases tx <;> exact if_pos hlt
  · refine Or.inr ⟨Nat.not_lt.mp hlt, ?_⟩
    cases tx with
    | claim claim now =>
      exact transaction_moves (.claim claim now) (fun db => claimTx db inst claim now) hlt
        (claimTx_moves db inst claim now)
    | consume k now =>
      exact transaction_moves (.consume k now) (fun db => consumeTx db inst k now) hlt
        (consumeTx_moves db inst k now)
    | release k now reason =>
      exact transaction_moves (.release k now reason) (fun db => releaseTx db inst k now reason) hlt
        (releaseTx_moves db inst k now reason)
    | inspect k now =>
      exact transaction_moves (.inspect k now) (fun db => inspectTx db inst k now) hlt
        (inspectTx_moves db inst k now)
    | purge now =>
      exact transaction_moves (.purge now) (fun db => purgeTx db inst now) hlt (purgeTx_moves db inst now)

theorem commit_monotone {db : ReplayDb} (h : db.Monotone) (inst : Nat)
    (table : Table ActionConsumptionState.replayKey) : (db.commit inst table).Monotone := by
  intro i
  show (if i = inst then db.counter + 1 else _) ≤ db.counter + 1
  split
  · exact Nat.le_refl _
  · exact Nat.le_succ_of_le (observe_monotone h inst i)

/-- how a transaction moves the counters -/
theorem run_counter (tx : StoreTx) (inst : Nat) {db : ReplayDb} (h : db.Monotone) :
    (tx.run inst db).2.Monotone ∧ db.counter ≤ (tx.run inst db).2.counter := by
  rcases run_cases tx inst db with ⟨-, hrun⟩ | ⟨-, ⟨a, -, hrun⟩ | ⟨a, table, -, hrun⟩⟩
  · rw [hrun]
    exact ⟨h, Nat.le_refl _⟩
  · rw [hrun]
    exact ⟨observe_monotone h inst, Nat.le_refl _⟩
  · rw [hrun]
    exact ⟨commit_monotone h inst table, Nat.le_succ _⟩

/-! ## what a transaction answers -/

/-- a claim of the key goes in: no row is left after the first two statements -/
def ReplayDb.Claimable (db : ReplayDb) (key : String) (now : Datetime) : Prop :=
  (deleteEnded (expireRow db.table key now) key).find key = none

/-- the row of the key decides -/
theorem claimable_congr {db db' : ReplayDb} {key : String} {now : Datetime}
    (h : db.find key = db'.find key) : db.Claimable key now ↔ db'.Claimable key now := by
  unfold ReplayDb.Claimable deleteEnded
  rw [Table.find_delete, find_expireRow, Table.find_delete, find_expireRow]
  rw [show db.table.find key = db'.table.find key from h]

theorem claimable_of_none {db : ReplayDb} {key : String} (now : Datetime) (h : db.find key = none) :
    db.Claimable key now := by
  rcases find_claimable db.table key now key with hf | ⟨-, hf, -⟩
  · exact hf.trans h
  · exact hf

theorem claimable_of_released {db : ReplayDb} {key : String} (now : Datetime)
    {row : ActionConsumptionState} (h : db.find key = some row) (hs : row.status = .released) :
    db.Claimable key now := by
  unfold ReplayDb.Claimable deleteEnded
  rw [Table.find_delete, find_expireRow, show db.table.find key = some row from h, Option.map_some]
  have hr : (rowIs key .claimed row && row.textExpired now) = false := by
    simp [rowIs, hs]
  rw [hr]
  have hk := find_key h
  simp [Option.filter_some, rowIs, hs, hk]

/-- a row in the way of a claim is not one whose claim has expired by its text -/
theorem row_of_not_claimable {db : ReplayDb} {key : String} {now : Datetime}
    (h : ¬ db.Claimable key now) :
    ∃ row, db.find key = some row ∧ ¬ (row.status = .claimed ∧ row.textExpired now = true) := by
  cases hf : db.find key with
  | none => exact absurd (claimable_of_none now hf) h
  | some row =>
    refine ⟨row, rfl, ?_⟩
    rintro ⟨hc, ht⟩
    refine h ?_
    have hr : (rowIs key .claimed row && row.textExpired now) = true := by
      rw [Bool.and_eq_true]
      exact ⟨rowIs_iff.mpr ⟨find_key hf, hc⟩, ht⟩
    unfold ReplayDb.Claimable deleteEnded
    rw [Table.find_delete, find_expireRow, show db.table.find key = some row from hf, Option.map_some, hr]
    have hk := find_key hf
    simp [Option.filter_some, rowIs, ActionConsumptionState.become, hk]

theorem claim_free {db : ReplayDb} (hm : db.Monotone) (inst : Nat) (claim : ActionConsumptionClaim)
    {now : Datetime} (h : db.Claimable claim.replayKey now) :
    ∃ db', (StoreTx.claim claim now).run inst db = (.ok true, db') := by
  have hbody : claimTx (db.observe inst db.counter) inst claim now
      = commitTable (db.observe inst db.counter) inst ((deleteEnded (expireRow db.table
          claim.replayKey now) claim.replayKey).insert (claim.row now)) true := by
    have hfind : (deleteEnded (expireRow (db.observe inst db.counter).table claim.replayKey now)
        claim.replayKey).find claim.replayKey = none := h
    unfold claimTx
    dsimp only
    rw [hfind]
    rfl
  exact ⟨_, ((transaction_monotone hm inst fun db => claimTx db inst claim now).trans hbody).trans
    (commitTable_observe db inst _ true)⟩

theorem claim_taken {db : ReplayDb} (hm : db.Monotone) (inst : Nat) (claim : ActionConsumptionClaim)
    {now : Datetime} (h : ¬ db.Claimable claim.replayKey now) :
    (StoreTx.claim claim now).run inst db = (.ok false, db.observe inst db.counter) := by
  obtain ⟨row, hrow⟩ := Option.ne_none_iff_exists'.mp h
  have hbody : claimTx (db.observe inst db.counter) inst claim now
      = (.ok false, db.observe inst db.counter) := by
    have hfind : (deleteEnded (expireRow (db.observe inst db.counter).table claim.replayKey now)
        claim.replayKey).find claim.replayKey = some row := hrow
    unfold claimTx
    dsimp only
    rw [hfind]
  exact (transaction_monotone hm inst fun db => claimTx db inst claim now).trans hbody

theorem inspect_live {db : ReplayDb} (hm : db.Monotone) (inst : Nat) {k : String} {now : Datetime}
    {row : ActionConsumptionState} (h : db.find k = some row)
    (hlive : ¬ (row.status = .claimed ∧ row.expiresAt ≤ now)) :
    (StoreTx.inspect k now).run inst db = (.ok (.found row), db.observe inst db.counter) := by
  refine (transaction_monotone hm inst fun db => inspectTx db inst k now).trans ?_
  unfold inspectTx
  rw [find_observe, h]
  exact if_neg hlive

theorem inspect_due {db : ReplayDb} (hm : db.Monotone) (inst : Nat) {k : String} {now : Datetime}
    {row : ActionConsumptionState} (h : db.find k = some row) (hc : row.status = .claimed)
    (hdue : row.expiresAt ≤ now) :
    ∃ db', (StoreTx.inspect k now).run inst db = (.ok .expired, db') ∧
      db'.find k = some (row.become .expired now) := by
  have hrun : inspectTx (db.observe inst db.counter) inst k now
      = commitTable (db.observe inst db.counter) inst (db.table.update (rowIs k .claimed)
          (fun row => row.become .expired now) fun _ => rfl) .expired := by
    unfold inspectTx
    rw [find_observe, h]
    exact if_pos ⟨hc, hdue⟩
  have hcommit := commitTable_observe db inst (db.table.update (rowIs k .claimed)
    (fun row => row.become .expired now) fun _ => rfl) InspectResult.expired
  refine ⟨_, ((transaction_monotone hm inst fun db => inspectTx db inst k now).trans hrun).trans hcommit, ?_⟩
  exact find_commit_update hcommit h (rowIs_iff.mpr ⟨find_key h, hc⟩)

theorem consume_claimed {db : ReplayDb} (hm : db.Monotone) (inst : Nat) {k : String} (now : Datetime)
    {row : ActionConsumptionState} (h : db.find k = some row) (hc : row.status = .claimed) :
    ∃ db', (StoreTx.consume k now).run inst db = (.ok true, db') := by
  have hbody : consumeTx (db.observe inst db.counter) inst k now
      = commitTable (db.observe inst db.counter) inst (db.table.update (rowIs k .claimed)
          (fun row => row.becomeConsumed now) fun _ => rfl) true := by
    refine if_neg ?_
    intro hcount
    exact (count_claimed (db.observe inst db.counter) k).mp hcount row h hc
  exact ⟨_, ((transaction_monotone hm inst fun db => consumeTx db inst k now).trans hbody).trans
    (commitTable_observe db inst _ true)⟩

theorem consume_refused {db : ReplayDb} (hm : db.Monotone) (inst : Nat) {k : String} {now : Datetime}
    (h : ∀ row, db.find k = some row → row.status ≠ .claimed) :
    (StoreTx.consume k now).run inst db = (.ok false, db.observe inst db.counter) := by
  refine (transaction_monotone hm inst fun db => consumeTx db inst k now).trans ?_
  unfold consumeTx
  exact if_pos ((count_claimed (db.observe inst db.counter) k).mpr h)

/-- a claimed row is released -/
theorem release_claimed {db : ReplayDb} (hm : db.Monotone) (inst : Nat) {k : String} (now : Datetime)
    (reason : String) {row : ActionConsumptionState} (h : db.find k = some row)
    (hc : row.status = .claimed) :
    ∃ db', (StoreTx.release k now reason).run inst db = (.ok .released, db') ∧
      ∃ row', db'.find k = some row' ∧ row'.status = .released := by
  have hbody : releaseTx (db.observe inst db.counter) inst k now reason
      = commitTable (db.observe inst db.counter) inst (db.table.update (rowIs k .claimed)
          (fun r => r.becomeReleased now
            (Dict.set row.metadata (.str "release_reason") (.str reason))) fun _ => rfl) .released := by
    unfold releaseTx
    rw [find_observe, h]
    dsimp only
    rw [if_neg (by rw [hc]; simp), if_neg]
    · rfl
    · intro hcount
      exact (count_claimed (db.observe inst db.counter) k).mp hcount row h hc
  have hcommit := commitTable_observe db inst (db.table.update (rowIs k .claimed)
    (fun r => r.becomeReleased now (Dict.set row.metadata (.str "release_reason") (.str reason)))
    fun _ => rfl) ReleaseResult.released
  refine ⟨_, ((transaction_monotone hm inst fun db => releaseTx db inst k now reason).trans hbody).trans
    hcommit, _, find_commit_update hcommit h (rowIs_iff.mpr ⟨find_key h, hc⟩), rfl⟩

/-! ## a transaction as its caller sees it -/

/-- a transaction answers, or the driver raises before or after the commit -/
def StoreStep (inst : Nat) (tx : StoreTx) (answer : PyM tx.Result) (db db' : ReplayDb) : Prop :=
  tx.run inst db = (answer, db') ∨
    ∃ e, answer = .error (.other e) ∧
      (db' = db ∨ db' = { (tx.run inst db).2 with observed := db.observed })

theorem StoreStep.find {inst : Nat} {tx : StoreTx} {answer : PyM tx.Result} {db db' : ReplayDb}
    (h : StoreStep inst tx answer db db') (k : String) : RowStep (db.find k) (db'.find k) := by
  have hrun := run_find tx inst db k
  rcases h with h | ⟨e, -, rfl | rfl⟩
  · rw [h] at hrun
    exact hrun
  · exact Or.inl rfl
  · exact hrun

theorem StoreStep.monotone {inst : Nat} {tx : StoreTx} {answer : PyM tx.Result} {db db' : ReplayDb}
    (h : StoreStep inst tx answer db db') (hm : db.Monotone) : db'.Monotone := by
  obtain ⟨h1, h2⟩ := run_counter tx inst hm
  rcases h with h | ⟨e, -, rfl | rfl⟩
  · rw [h] at h1
    exact h1
  · exact hm
  · exact fun i => Nat.le_trans (hm i) h2

end Actenon
