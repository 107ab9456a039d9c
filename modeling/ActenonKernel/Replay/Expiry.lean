import ActenonKernel.Models.TimestampOrder
import ActenonKernel.Models.Contracts
import ActenonKernel.Replay.History

/-!
# When a claim has expired

`claim_once` and `purge_expired` compare the text of `expires_at` with the text of now; `inspect` reads
the instant back and compares instants.

* `claim_true_iff`, `purge_expires_iff`, `inspect_expired_iff`    the three decisions;
* `ExpiresAlike`        they agree on the row of a key;
* `expires_alike_iff`   exactly when the instants are whole seconds alike.
-/

set_option linter.unusedSectionVars false

namespace Actenon

section
variable {db : ReplayDb} {now : Datetime} {row : ActionConsumptionState}

/-- a claim of the key of a claimed row goes in when the text of the row is not after that of now -/
theorem claimable_iff {k : String} (hfind : db.find k = some row) (hc : row.status = .claimed) :
    db.Claimable k now ↔ row.textExpired now = true := by
  constructor
  · intro hfree
    by_contra ht
    have hr : (rowIs k .claimed row && row.textExpired now) = false := by
      rw [Bool.eq_false_of_not_eq_true ht, Bool.and_false]
    unfold ReplayDb.Claimable deleteEnded at hfree
    rw [Table.find_delete, find_expireRow, show db.table.find k = some row from hfind, Option.map_some, hr] at hfree
    simp [Option.filter_some, rowIs, hc] at hfree
  · intro ht
    by_contra hfree
    obtain ⟨row', hfind', hlive⟩ := row_of_not_claimable hfree
    rw [hfind] at hfind'
    cases hfind'
    exact hlive ⟨hc, ht⟩

theorem claim_true_iff (hm : db.Monotone) (inst : Nat) {claim : ActionConsumptionClaim}
    (hfind : db.find claim.replayKey = some row) (hc : row.status = .claimed) :
    ((StoreTx.claim claim now).run inst db).1 = .ok true ↔ row.textExpired now = true := by
  rw [← claimable_iff hfind hc]
  by_cases hfree : db.Claimable claim.replayKey now
  · obtain ⟨db', hrun⟩ := claim_free hm inst claim hfree
    rw [hrun]
    exact iff_of_true rfl hfree
  · rw [claim_taken hm inst claim hfree]
    exact iff_of_false (fun h => nomatch h) hfree

theorem inspect_expired_iff (hm : db.Monotone) (inst : Nat) {k : String} (hfind : db.find k = some row)
    (hc : row.status = .claimed) :
    ((StoreTx.inspect k now).run inst db).1 = .ok .expired ↔ row.expiresAt ≤ now := by
  by_cases hdue : row.expiresAt ≤ now
  · obtain ⟨db', hrun, -⟩ := inspect_due hm inst hfind hc hdue
    rw [hrun]
    exact iff_of_true rfl hdue
  · rw [inspect_live hm inst hfind fun h => hdue h.2]
    exact iff_of_false (fun h => nomatch h) hdue

/-- the row of a key is marked as expired -/
def ReplayDb.Expired (db : ReplayDb) (k : String) : Prop := ∃ row, db.find k = some row ∧ row.status = .expired

/-- a purge marks a claimed row when its text is not after that of now -/
theorem purge_expires_iff (hm : db.Monotone) (inst : Nat) {k : String} (hfind : db.find k = some row)
    (hc : row.status = .claimed) :
    ((StoreTx.purge now).run inst db).2.Expired k ↔ row.textExpired now = true := by
  have hrun : (StoreTx.purge now).run inst db = purgeTx (db.observe inst db.counter) inst now :=
    transaction_monotone hm inst fun db => purgeTx db inst now
  rw [hrun]
  unfold purgeTx
  dsimp only
  by_cases hcount : (db.observe inst db.counter).table.count
      (fun row => decide (row.status = .claimed) && row.textExpired now) = 0
  · rw [if_pos hcount]
    have hlive : (decide (row.status = .claimed) && row.textExpired now) = false := by
      have hnone := List.countP_eq_zero.mp hcount row (List.mem_of_find?_eq_some hfind)
      exact Bool.eq_false_of_not_eq_true hnone
    rw [hc, decide_eq_true rfl, Bool.true_and] at hlive
    refine iff_of_false ?_ (by simp [hlive])
    rintro ⟨row', hfind', hexp⟩
    rw [find_observe, hfind] at hfind'
    cases hfind'
    rw [hc] at hexp
    cases hexp
  · rw [if_neg hcount]
    have hcommit := commitTable_observe db inst (db.table.update
      (fun row => decide (row.status = .claimed) && row.textExpired now)
      (fun row => row.become .expired now) fun _ => rfl)
      (db.table.count fun row => decide (row.status = .claimed) && row.textExpired now)
    have hafter : (commitTable (db.observe inst db.counter) inst ((db.observe inst db.counter).table.update
        (fun row => decide (row.status = .claimed) && row.textExpired now)
        (fun row => row.become .expired now) fun _ => rfl) ((db.observe inst db.counter).table.count
        fun row => decide (row.status = .claimed) && row.textExpired now)).2.find k
        = some (if row.textExpired now then row.become .expired now else row) := by
      refine (congrArg (fun r => r.2.find k) hcommit).trans ?_
      refine (Table.find_update db.table _ (fun row => row.become .expired now) (fun _ => rfl) k).trans ?_
      rw [show db.table.find k = some row from hfind, Option.map_some, hc, decide_eq_true rfl, Bool.true_and]
    unfold ReplayDb.Expired
    rw [hafter]
    cases ht : row.textExpired now with
    | true => exact iff_of_true ⟨_, rfl, rfl⟩ rfl
    | false =>
      refine iff_of_false ?_ (by decide)
      rintro ⟨row', hfind', hexp⟩
      cases hfind'
      rw [if_neg (by decide), hc] at hexp
      cases hexp

/-- `claim_once` and `purge_expired` take the row of a key for expired exactly when `inspect` does -/
structure ExpiresAlike (db : ReplayDb) (inst : Nat) (claim : ActionConsumptionClaim) (now : Datetime) : Prop where
  claimed : ((StoreTx.claim claim now).run inst db).1 = .ok true ↔
    ((StoreTx.inspect claim.replayKey now).run inst db).1 = .ok .expired
  purged : ((StoreTx.purge now).run inst db).2.Expired claim.replayKey ↔
    ((StoreTx.inspect claim.replayKey now).run inst db).1 = .ok .expired

/-- **The texts decide as the instants exactly when these are whole seconds alike**, for every claimed
row of a store that was not rolled back. -/
theorem expires_alike_iff (hm : db.Monotone) (inst : Nat) (claim : ActionConsumptionClaim)
    (hfind : db.find claim.replayKey = some row) (hc : row.status = .claimed) :
    ((formatTimestamp row.expiresAt ≤ formatTimestamp now ↔ row.expiresAt ≤ now) ↔ WholeAlike row.expiresAt now) ∧
      (ExpiresAlike db inst claim now ↔ WholeAlike row.expiresAt now) := by
  refine ⟨text_order_iff _ _, ?_⟩
  have htext : row.textExpired now = true ↔ formatTimestamp row.expiresAt ≤ formatTimestamp now := decide_eq_true_iff
  constructor
  · intro h
    rw [← text_order_iff, ← htext, ← claim_true_iff hm inst hfind hc, h.claimed,
      inspect_expired_iff hm inst hfind hc]
  · intro h
    rw [← text_order_iff, ← htext] at h
    exact ⟨by rw [claim_true_iff hm inst hfind hc, inspect_expired_iff hm inst hfind hc, h],
      by rw [purge_expires_iff hm inst hfind hc, inspect_expired_iff hm inst hfind hc, h]⟩

end

/-! ## a sample -/

/-- a claim that ends at 2025-01-01T01:00:00Z -/
def sampleExpiringClaim : ActionConsumptionClaim where
  replayKey := "key_1"
  intentId := some "int_1"
  pccbId := "pccb_1"
  nonce := "n1"
  actionHash := "hash_1"
  audience := "service:aud"
  capability := "repo.read"
  tenantId := some "t1"
  subjectId := some "svc"
  expiresAt := sampleExpiry

/-- the store after that claim at 2025-01-01T00:00:00Z -/
def sampleClaimedDb : ReplayDb where
  table := ⟨[sampleExpiringClaim.row sampleIssued], List.nodup_singleton _⟩
  counter := 1
  observed _ := 1

/-- half a second after 2025-01-01T01:00:00Z -/
def sampleHalfSecond : Datetime := ⟨63871290000500000, by decide⟩

/-- at the whole second itself all three agree -/
theorem expires_alike_at_expiry :
    ((formatTimestamp sampleExpiry ≤ formatTimestamp sampleExpiry ↔ sampleExpiry ≤ sampleExpiry) ↔
      WholeAlike sampleExpiry sampleExpiry) ∧
    (ExpiresAlike sampleClaimedDb 0 sampleExpiringClaim sampleExpiry ↔ WholeAlike sampleExpiry sampleExpiry) :=
  @expires_alike_iff sampleClaimedDb sampleExpiry (sampleExpiringClaim.row sampleIssued)
    (fun _ => Nat.le_refl _) 0 sampleExpiringClaim rfl rfl

/-- half a second after the whole second of `expires_at` a claim is refused, and `inspect` finds the row
expired -/
theorem expired_but_not_claimable :
    ¬ (formatTimestamp sampleExpiry ≤ formatTimestamp sampleHalfSecond ↔ sampleExpiry ≤ sampleHalfSecond) ∧
      ((StoreTx.claim sampleExpiringClaim sampleHalfSecond).run 0 sampleClaimedDb).1 = .ok false ∧
      ((StoreTx.inspect "key_1" sampleHalfSecond).run 0 sampleClaimedDb).1 = .ok .expired := by
  have hm : sampleClaimedDb.Monotone := fun _ => Nat.le_refl _
  have hfind : sampleClaimedDb.find "key_1" = some (sampleExpiringClaim.row sampleIssued) := rfl
  have htext : ¬ formatTimestamp sampleExpiry ≤ formatTimestamp sampleHalfSecond := by
    rw [formatTimestamp_le_iff]
    decide
  refine ⟨fun h => htext (h.mpr (by decide)), ?_, ?_⟩
  · rw [claim_taken hm 0 sampleExpiringClaim fun hfree =>
      htext (decide_eq_true_iff.mp ((claimable_iff hfind rfl).mp hfree))]
  · exact (inspect_expired_iff hm 0 hfind rfl).mpr (by decide)

end Actenon
