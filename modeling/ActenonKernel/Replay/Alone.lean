import ActenonKernel.Replay.Client

/-!
# The replay store with one caller

What `inspect`, `claim_once` and `mark_consumed` do when no other transaction comes in between.
The row of a claim is read back as `readAt` says: claimed before it expires, expired from then on.
-/

set_option linter.unusedSectionVars false

namespace Actenon

open Program

/-- what a call that runs alone has done: the world, and whether it called the handler -/
structure Alone where
  world : World
  handled : Bool := false

def alone (P : Platform) (answers : (op : Op) → Res op) : Monitor Res Alone where
  allow _ _ := True
  possible g op r := r = (World.env P answers op g.world).1
  next g op _ := ⟨(World.env P answers op g.world).2, op.isHandler || g.handled⟩

/-- the store is in order and has this row of the key -/
structure Alone.Has (g : Alone) (key : String) (row : ActionConsumptionState) : Prop where
  monotone : g.world.replay.Monotone
  find : g.world.replay.find key = some row

/-- the row as `inspect` returns it -/
def ActionConsumptionState.readAt (row : ActionConsumptionState) (now : Datetime) :
    ActionConsumptionState :=
  if row.status = .claimed ∧ row.expiresAt ≤ now then row.become .expired now else row

theorem readAt_of_ne {row : ActionConsumptionState} (now : Datetime) (h : row.status ≠ .claimed) :
    row.readAt now = row := if_neg fun hc => h hc.1

section
variable {P : Platform} {answers : (op : Op) → Res op} {S β : Type} {g : Alone}

/-- a transaction that answers -/
theorem wp_store {inst : Nat} {tx : StoreTx} {a : tx.Result} {db' : ReplayDb}
    {f : tx.Result → Kernel S β} {s : S} {Q : Except Raised β × S → Alone → Prop}
    (hrun : tx.run inst g.world.replay = (.ok a, db'))
    (hf : wp (alone P answers) (f a s) Q ⟨{ g.world with replay := db' }, g.handled⟩) :
    wp (alone P answers) ((Act.perform (.store inst tx) rfl >>= f) s) Q g := by
  have hnext : ∀ r, (alone P answers).next g (.store inst tx) r
      = ⟨{ g.world with replay := db' }, g.handled⟩ := by
    intro r
    show (⟨{ g.world with replay := (tx.run inst g.world.replay).2 }, _⟩ : Alone) = _
    rw [hrun]
    rfl
  refine wp_perform trivial ?_ ?_
  · intro a' hp
    have ha : (Except.ok a' : PyM tx.Result) = (tx.run inst g.world.replay).1 := hp
    rw [hrun] at ha
    cases ha
    rw [hnext]
    exact hf
  · intro e hp
    have ha : (Except.error e : PyM tx.Result) = (tx.run inst g.world.replay).1 := hp
    rw [hrun] at ha
    cases ha

/-- the row is found, or it is expired and found at the second reading -/
theorem wp_inspect_alone (inst : Nat) {key : String} (now : Datetime) (depth : Nat) (v : S)
    {row : ActionConsumptionState} (h : g.Has key row) :
    wp (alone P answers) (inspectUpTo inst key now (depth + 2) v)
      (fun r g' => r = (.ok (some (row.readAt now)), v) ∧ g'.Has key (row.readAt now) ∧
        g'.handled = g.handled ∧ g'.world.records = g.world.records) g := by
  have hfound : ∀ (d : Nat) (row' : ActionConsumptionState) (g' : Alone), g'.Has key row' →
      ¬ (row'.status = .claimed ∧ row'.expiresAt ≤ now) →
      wp (alone P answers) (inspectUpTo inst key now (d + 1) v)
        (fun r g'' => r = (.ok (some row'), v) ∧ g''.Has key row' ∧ g''.handled = g'.handled ∧
          g''.world.records = g'.world.records) g' := by
    intro d row' g' h' hlive
    refine wp_store (inspect_live h'.monotone inst h'.find hlive) ?_
    exact ⟨rfl, ⟨observe_monotone h'.monotone inst, h'.find⟩, rfl, rfl⟩
  unfold ActionConsumptionState.readAt
  split
  · rename_i hdue
    obtain ⟨db', hrun, hrow⟩ := inspect_due h.monotone inst h.find hdue.1 hdue.2
    have hm := (run_counter (.inspect key now) inst h.monotone).1
    rw [hrun] at hm
    refine wp_store hrun ?_
    exact hfound depth (row.become .expired now) ⟨{ g.world with replay := db' }, g.handled⟩
      ⟨hm, hrow⟩ fun hc => nomatch hc.1
  · rename_i hlive
    exact hfound (depth + 1) row g h hlive

theorem wp_claimOnce_alone (inst : Nat) (claim : ActionConsumptionClaim) (now : Datetime) (v : S)
    (hm : g.world.replay.Monotone) (hfree : g.world.replay.Claimable claim.replayKey now) :
    wp (alone P answers) (claimOnce inst claim now v)
      (fun r g' => r = (.ok (some ((claim.row now).readAt now)), v) ∧
        g'.Has claim.replayKey ((claim.row now).readAt now) ∧
        g'.handled = g.handled ∧ g'.world.records = g.world.records) g := by
  obtain ⟨db', hrun⟩ := claim_free hm inst claim hfree
  have hm' := (run_counter (.claim claim now) inst hm).1
  rw [hrun] at hm'
  refine wp_store hrun ?_
  have hhas : (⟨{ g.world with replay := db' }, g.handled⟩ : Alone).Has claim.replayKey (claim.row now) :=
    ⟨hm', claim_ok hrun⟩
  refine wp_seq _ (wp_inspect_alone inst now 998 v hhas) ?_ ?_
  · rintro state v' g' ⟨hr, hrest⟩
    cases hr
    exact ⟨rfl, hrest⟩
  · rintro e v' g' ⟨hr, -⟩
    cases hr

/-- a claim that does not go in leaves the row as it is read back -/
theorem wp_claimOnce_taken (inst : Nat) (claim : ActionConsumptionClaim) (now : Datetime) (v : S)
    {row : ActionConsumptionState} (h : g.Has claim.replayKey row)
    (htaken : ¬ g.world.replay.Claimable claim.replayKey now) :
    wp (alone P answers) (claimOnce inst claim now v)
      (fun r g' => r = (.error (duplicateReplay claim (some (row.readAt now))), v) ∧
        g'.Has claim.replayKey (row.readAt now) ∧
        g'.handled = g.handled ∧ g'.world.records = g.world.records) g := by
  refine wp_store (claim_taken h.monotone inst claim htaken) ?_
  have hhas : (⟨{ g.world with replay := g.world.replay.observe inst g.world.replay.counter },
      g.handled⟩ : Alone).Has claim.replayKey row := ⟨observe_monotone h.monotone inst, h.find⟩
  refine wp_seq _ (wp_inspect_alone inst now 998 v hhas) ?_ ?_
  · rintro state v' g' ⟨hr, hrest⟩
    cases hr
    exact ⟨rfl, hrest⟩
  · rintro e v' g' ⟨hr, -⟩
    cases hr

/-- a claimed row is released -/
theorem wp_releaseClaim_alone (inst : Nat) {key : String} (now : Datetime) (reason : String) (v : S)
    {row : ActionConsumptionState} (h : g.Has key row) (hc : row.status = .claimed) :
    wp (alone P answers) (releaseClaim inst key now reason v)
      (fun r g' => r.2 = v ∧ (∃ row', g'.Has key row' ∧ row'.status = .released) ∧
        g'.handled = g.handled ∧ g'.world.records = g.world.records) g := by
  obtain ⟨db', hrun, row', hrow', hs⟩ := release_claimed h.monotone inst now reason h.find hc
  have hm' := (run_counter (.release key now reason) inst h.monotone).1
  rw [hrun] at hm'
  refine wp_store hrun ?_
  have hread : row'.readAt now = row' := readAt_of_ne now (by rw [hs]; simp)
  have hhas : (⟨{ g.world with replay := db' }, g.handled⟩ : Alone).Has key row' := ⟨hm', hrow'⟩
  refine wp_mono (wp_inspect_alone inst now 998 v hhas) ?_
  rintro r g' ⟨hr, hhas', hrest⟩
  rw [hread] at hhas'
  exact ⟨by rw [hr], ⟨row', hhas', hs⟩, hrest⟩

/-- a claimed row is consumed -/
theorem wp_markConsumed_alone (inst : Nat) {key : String} (now : Datetime) (v : S)
    {row : ActionConsumptionState} (h : g.Has key row) (hc : row.status = .claimed) :
    wp (alone P answers) (markConsumed inst key now v)
      (fun r g' => (∃ row', r = (.ok (some row'), v) ∧ g'.Has key row' ∧ row'.status = .consumed) ∧
        g'.handled = g.handled ∧ g'.world.records = g.world.records) g := by
  obtain ⟨db', hrun⟩ := consume_claimed h.monotone inst now h.find hc
  have hm' := (run_counter (.consume key now) inst h.monotone).1
  rw [hrun] at hm'
  obtain ⟨-, row', hrow', hc'⟩ := consume_ok hrun
  refine wp_store hrun ?_
  have hread : row'.readAt now = row' := readAt_of_ne now (by rw [hc']; simp)
  have hhas : (⟨{ g.world with replay := db' }, g.handled⟩ : Alone).Has key row' := ⟨hm', hrow'⟩
  refine wp_seq _ (wp_inspect_alone inst now 998 v hhas) ?_ ?_
  · rintro state v' g' ⟨hr, hhas', hrest⟩
    cases hr
    rw [hread] at hhas' ⊢
    exact ⟨⟨row', rfl, hhas', hc'⟩, hrest⟩
  · rintro e v' g' ⟨hr, -⟩
    cases hr

/-- another row is left as it is, and the call is refused -/
theorem wp_markConsumed_refused (inst : Nat) {key : String} (now : Datetime) (v : S)
    {row : ActionConsumptionState} (h : g.Has key row) (hc : row.status ≠ .claimed) :
    wp (alone P answers) (markConsumed inst key now v)
      (fun r g' => r = (.error (replayStateInvalid key (some row)), v) ∧ g'.Has key row ∧
        g'.handled = g.handled ∧ g'.world.records = g.world.records) g := by
  have hrun : (StoreTx.consume key now).run inst g.world.replay
      = (.ok false, g.world.replay.observe inst g.world.replay.counter) := by
    refine consume_refused h.monotone inst ?_
    intro row' hrow'
    cases h.find.symm.trans hrow'
    exact hc
  refine wp_store hrun ?_
  have hread : row.readAt now = row := readAt_of_ne now hc
  have hhas : (⟨{ g.world with replay := g.world.replay.observe inst g.world.replay.counter },
      g.handled⟩ : Alone).Has key row := ⟨observe_monotone h.monotone inst, h.find⟩
  refine wp_seq _ (wp_inspect_alone inst now 998 v hhas) ?_ ?_
  · rintro state v' g' ⟨hr, hhas', hrest⟩
    cases hr
    rw [hread] at hhas' ⊢
    exact ⟨rfl, hhas', hrest⟩
  · rintro e v' g' ⟨hr, -⟩
    cases hr

end

end Actenon
