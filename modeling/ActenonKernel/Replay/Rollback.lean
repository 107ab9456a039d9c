import ActenonKernel.Replay.Client

/-!
# A replay store that goes back

Every store object checks in each transaction that the mutation counter is not below the last one it
saw.  Here any number of store objects work on one database, their operations are cut into
transactions and interleaved in any way, a driver may fail, and the database may be replaced by a
snapshot.

* `StoreEvent.Step`        what can happen to the database;
* `step_commits`           how one event moves the counter and the rows;
* `observed_le`            what an object has seen it does not forget;
* `wp_operation`           an operation ends with the first exception of its transactions;
* `rollback_detection`     no false alarm without a snapshot, and no operation after one.
-/

set_option linter.unusedSectionVars false

namespace Actenon

open Program

/-! ## events -/

/-- how a transaction ended for its operation: it answered, its answer was lost after the commit, or
the driver raised before, with or without the check of the counter -/
inductive TxOutcome (tx : StoreTx) where
  | answered (answer : PyM tx.Result)
  | lost (result : tx.Result) (e : PyError)
  | failed (checked : Bool) (e : PyError)

/-- what the operation is told -/
def TxOutcome.answer {tx : StoreTx} : TxOutcome tx → PyM tx.Result
  | .answered a => a
  | .lost _ e => .error (.other e)
  | .failed _ e => .error (.other e)

/-- a mutation was committed -/
def TxOutcome.commits {tx : StoreTx} : TxOutcome tx → Bool
  | .answered (.ok a) => tx.commits a
  | .lost a _ => tx.commits a
  | _ => false

def TxOutcome.Step {tx : StoreTx} (inst : Nat) (db : ReplayDb) : TxOutcome tx → ReplayDb → Prop
  | .answered a, db' => tx.run inst db = (a, db')
  | .lost a _, db' => ∃ d, tx.run inst db = (.ok a, d) ∧
      db' = { d with observed := (db.observe inst db.counter).observed }
  | .failed false _, db' => db' = db
  | .failed true _, db' => db.observed inst ≤ db.counter ∧ db' = db.observe inst db.counter

/-- the counter that the store object saw last in the transaction -/
def TxOutcome.reads {tx : StoreTx} (db db' : ReplayDb) : TxOutcome tx → Option Nat
  | .answered _ => some db'.counter
  | .lost _ _ => some db.counter
  | .failed checked _ => if checked then some db.counter else none

/-- what happens to a database that the operations `ι` share -/
inductive StoreEvent (ι : Type) where
  /-- a store object is made: `__init__` reads the counter -/
  | opened (inst : Nat)
  /-- a transaction of an operation -/
  | ran (i : ι) (inst : Nat) (tx : StoreTx) (outcome : TxOutcome tx)
  /-- the database is replaced by a snapshot -/
  | restored (table : Table ActionConsumptionState.replayKey) (counter : Nat)

section
variable {ι : Type}

def StoreEvent.Step (db : ReplayDb) : StoreEvent ι → ReplayDb → Prop
  | .opened inst, db' => db' = db.observe inst db.counter
  | .ran _ inst _ o, db' => o.Step inst db db'
  | .restored table counter, db' => db' = { db with table := table, counter := counter }

def StoreEvent.isRestored : StoreEvent ι → Bool
  | .restored _ _ => true
  | _ => false

/-- the event commits a mutation -/
def StoreEvent.commits : StoreEvent ι → Bool
  | .ran _ _ _ o => o.commits
  | _ => false

/-- the counter that the event lets a store object see -/
def StoreEvent.observes (inst : Nat) (db db' : ReplayDb) : StoreEvent ι → Option Nat
  | .opened j => if j = inst then some db.counter else none
  | .ran _ j _ o => if j = inst then o.reads db db' else none
  | .restored _ _ => none

/-- the event makes the store object anew -/
def StoreEvent.opens (inst : Nat) : StoreEvent ι → Bool
  | .opened j => j = inst
  | _ => false

/-! ## one event -/

/-- a transaction that answers commits one mutation and counts it, or changes no row -/
theorem run_commits {tx : StoreTx} {inst : Nat} {db d : ReplayDb} {a : tx.Result}
    (h : tx.run inst db = (.ok a, d)) :
    d.counter = db.counter + (if tx.commits a then 1 else 0) ∧
      (tx.commits a = false → d.table = db.table) := by
  rcases run_cases tx inst db with ⟨-, hrun⟩ | ⟨-, ⟨x, hx, hrun⟩ | ⟨x, table, hx, hrun⟩⟩
  · cases hrun.symm.trans h
  · cases hrun.symm.trans h
    rw [hx]
    exact ⟨rfl, fun _ => rfl⟩
  · cases hrun.symm.trans h
    rw [hx]
    exact ⟨rfl, fun hf => nomatch hf⟩

/-- one that raises finds that the store went back -/
theorem run_error {tx : StoreTx} {inst : Nat} {db d : ReplayDb} {e : Raised}
    (h : tx.run inst db = (.error e, d)) : db.counter < db.observed inst ∧ d = db := by
  rcases run_cases tx inst db with ⟨hlt, hrun⟩ | ⟨-, ⟨x, hx, hrun⟩ | ⟨x, table, hx, hrun⟩⟩
  · cases hrun.symm.trans h
    exact ⟨hlt, rfl⟩
  · cases hrun.symm.trans h
  · cases hrun.symm.trans h

/-- an event other than a snapshot commits one mutation and counts it, or leaves rows and counter as
they are -/
theorem step_commits {db db' : ReplayDb} {e : StoreEvent ι} (h : e.Step db db')
    (hr : e.isRestored = false) :
    db'.counter = db.counter + (if e.commits then 1 else 0) ∧
      (e.commits = false → db'.table = db.table) := by
  cases e with
  | opened inst =>
    cases h
    exact ⟨rfl, fun _ => rfl⟩
  | restored table counter => cases hr
  | ran i inst tx o =>
    cases o with
    | answered answer =>
      cases answer with
      | ok a => exact run_commits h
      | error e =>
        rw [(run_error h).2]
        exact ⟨rfl, fun _ => rfl⟩
    | lost a e =>
      obtain ⟨d, hd, rfl⟩ := h
      obtain ⟨hcounter, htable⟩ := run_commits hd
      exact ⟨hcounter, htable⟩
    | failed checked e =>
      cases checked with
      | false =>
        cases h
        exact ⟨rfl, fun _ => rfl⟩
      | true =>
        obtain ⟨-, rfl⟩ := h
        exact ⟨rfl, fun _ => rfl⟩

/-- reading the counter does not lower what an object has seen -/
theorem observed_observe_le {db : ReplayDb} {inst : Nat} (h : db.observed inst ≤ db.counter) (i : Nat) :
    db.observed i ≤ (db.observe inst db.counter).observed i := by
  show _ ≤ if i = inst then db.counter else db.observed i
  split
  · rename_i hi
    rw [hi]
    exact h
  · exact Nat.le_refl _

theorem observed_observe (db : ReplayDb) (inst : Nat) :
    (db.observe inst db.counter).observed inst = db.counter := if_pos rfl

/-- an object sees the counter of each of its transactions, and forgets nothing -/
theorem run_observed (tx : StoreTx) (inst : Nat) (db : ReplayDb) (i : Nat) :
    (tx.run inst db).2.counter ≤ (tx.run inst db).2.observed inst ∧
      db.observed i ≤ (tx.run inst db).2.observed i := by
  rcases run_cases tx inst db with ⟨hlt, hrun⟩ | ⟨hle, ⟨x, hx, hrun⟩ | ⟨x, table, hx, hrun⟩⟩
  · rw [hrun]
    exact ⟨Nat.le_of_lt hlt, Nat.le_refl _⟩
  · rw [hrun]
    exact ⟨Nat.le_of_eq (observed_observe db inst).symm, observed_observe_le hle i⟩
  · rw [hrun]
    refine ⟨Nat.le_of_eq (if_pos rfl).symm, ?_⟩
    show _ ≤ if i = inst then db.counter + 1 else (db.observe inst db.counter).observed i
    split
    · rename_i hi
      rw [hi]
      exact Nat.le_succ_of_le hle
    · exact observed_observe_le hle i

/-- an event does not lower what an object has seen, unless it makes the object anew -/
theorem step_observed_le {db db' : ReplayDb} {e : StoreEvent ι} (h : e.Step db db') {inst : Nat}
    (ho : e.opens inst = false) : db.observed inst ≤ db'.observed inst := by
  cases e with
  | opened j =>
    cases h
    have hj : ¬ j = inst := of_decide_eq_false ho
    show _ ≤ if inst = j then db.counter else db.observed inst
    rw [if_neg fun hi => hj hi.symm]
  | restored table counter =>
    cases h
    exact Nat.le_refl _
  | ran i j tx o =>
    cases o with
    | answered a =>
      have hrun := (run_observed tx j db inst).2
      rw [show tx.run j db = (a, db') from h] at hrun
      exact hrun
    | lost a e =>
      obtain ⟨d, hd, rfl⟩ := h
      rcases run_cases tx j db with ⟨-, hrun⟩ | ⟨hle, -⟩
      · cases hrun.symm.trans hd
      · exact observed_observe_le hle inst
    | failed checked e =>
      cases checked with
      | false =>
        cases h
        exact Nat.le_refl _
      | true =>
        obtain ⟨hle, rfl⟩ := h
        exact observed_observe_le hle inst

/-- what an event lets an object see it has seen -/
theorem step_observes {db db' : ReplayDb} {e : StoreEvent ι} (h : e.Step db db') {inst c : Nat}
    (ho : e.observes inst db db' = some c) : c ≤ db'.observed inst := by
  cases e with
  | opened j =>
    cases h
    obtain ⟨rfl, hc⟩ := Option.ite_none_right_eq_some.mp ho
    cases hc
    exact Nat.le_of_eq (observed_observe db _).symm
  | restored table counter => cases ho
  | ran i j tx o =>
    obtain ⟨rfl, hc⟩ := Option.ite_none_right_eq_some.mp ho
    cases o with
    | answered a =>
      cases hc
      have hrun := (run_observed tx j db 0).1
      rw [show tx.run j db = (a, db') from h] at hrun
      exact hrun
    | lost a e =>
      cases hc
      obtain ⟨d, hd, rfl⟩ := h
      exact Nat.le_of_eq (observed_observe db _).symm
    | failed checked e =>
      cases checked with
      | false => cases hc
      | true =>
        cases hc
        obtain ⟨-, rfl⟩ := h
        exact Nat.le_of_eq (observed_observe db _).symm

/-! ## many events -/

/-- without a snapshot no object has seen a counter the database does not have -/
theorem step_monotone {db db' : ReplayDb} {e : StoreEvent ι} (h : e.Step db db')
    (hr : e.isRestored = false) (hm : db.Monotone) : db'.Monotone := by
  cases e with
  | opened inst =>
    cases h
    exact observe_monotone hm inst
  | restored table counter => cases hr
  | ran i inst tx o =>
    obtain ⟨hm', hle⟩ := run_counter tx inst hm
    cases o with
    | answered a =>
      rw [show tx.run inst db = (a, db') from h] at hm'
      exact hm'
    | lost a e =>
      obtain ⟨d, hd, rfl⟩ := h
      rw [hd] at hle
      exact fun i => Nat.le_trans (observe_monotone hm inst i) hle
    | failed checked e =>
      cases checked with
      | false =>
        cases h
        exact hm
      | true =>
        obtain ⟨-, rfl⟩ := h
        exact observe_monotone hm inst

/-- the counter counts the mutations -/
theorem counter_eq {db db' : ReplayDb} {h : List (StoreEvent ι)}
    (hf : Follows StoreEvent.Step db h db') (hr : ∀ e ∈ h, e.isRestored = false) :
    db'.counter = db.counter + h.countP StoreEvent.commits := by
  induction h generalizing db with
  | nil =>
    cases hf
    rfl
  | cons e h ih =>
    obtain ⟨d, hd, hf⟩ := hf
    rw [ih hf fun e he => hr e (List.mem_cons_of_mem _ he), (step_commits hd (hr e List.mem_cons_self)).1,
      List.countP_cons]
    omega

/-- what an object has seen it does not forget -/
theorem observed_le {db db' : ReplayDb} {h : List (StoreEvent ι)} {inst : Nat}
    (hf : Follows StoreEvent.Step db h db') (ho : ∀ e ∈ h, e.opens inst = false) :
    db.observed inst ≤ db'.observed inst := by
  induction h generalizing db with
  | nil =>
    cases hf
    exact Nat.le_refl _
  | cons e h ih =>
    obtain ⟨d, hd, hf⟩ := hf
    exact Nat.le_trans (step_observed_le hd (ho e List.mem_cons_self))
      (ih hf fun e he => ho e (List.mem_cons_of_mem _ he))

end

/-! ## operations -/

def purgeExpired {S : Type} (inst : Nat) (now : Datetime) : Kernel S Nat :=
  Act.perform (.store inst (.purge now)) rfl

inductive StoreOp where
  | claimOnce (claim : ActionConsumptionClaim) (now : Datetime)
  | markConsumed (replayKey : String) (now : Datetime)
  | releaseClaim (replayKey : String) (now : Datetime) (reason : String)
  | inspect (replayKey : String) (now : Datetime)
  | purgeExpired (now : Datetime)

/-- an operation of a store object -/
structure StoreCall where
  inst : Nat
  op : StoreOp

/-- the operation, without what it returns -/
def StoreCall.act (c : StoreCall) : Kernel Unit Unit :=
  match c.op with
  | .claimOnce claim now => do
    let _ ← claimOnce c.inst claim now
    pure ()
  | .markConsumed replayKey now => do
    let _ ← markConsumed c.inst replayKey now
    pure ()
  | .releaseClaim replayKey now reason => do
    let _ ← releaseClaim c.inst replayKey now reason
    pure ()
  | .inspect replayKey now => do
    let _ ← inspect c.inst replayKey now
    pure ()
  | .purgeExpired now => do
    let _ ← purgeExpired c.inst now
    pure ()

def StoreCall.program (c : StoreCall) : Prog Op Res (Except Raised Unit × Unit) := c.act ()

section
variable {ι : Type} [DecidableEq ι]

/-- the calls that an operation made in a history, with what it was told -/
def own (i : ι) (h : List (StoreEvent ι)) : List KernelEvent :=
  h.filterMap fun
    | .ran j inst tx o => if j = i then some ⟨.store inst tx, o.answer⟩ else none
    | _ => none

theorem own_append (i : ι) (h h' : List (StoreEvent ι)) : own i (h ++ h') = own i h ++ own i h' :=
  List.filterMap_append

theorem own_cons_self (i : ι) (inst : Nat) (tx : StoreTx) (o : TxOutcome tx) (h : List (StoreEvent ι)) :
    own i (.ran i inst tx o :: h) = ⟨.store inst tx, o.answer⟩ :: own i h :=
  List.filterMap_cons_some (if_pos rfl)

theorem own_split (i : ι) (inst : Nat) (tx : StoreTx) (o : TxOutcome tx) (e : StoreEvent ι)
    (before mid after : List (StoreEvent ι)) :
    own i (before ++ e :: (mid ++ .ran i inst tx o :: after))
      = own i (before ++ e :: mid) ++ ⟨.store inst tx, o.answer⟩ :: own i after := by
  rw [← List.cons_append, ← List.append_assoc, own_append, own_cons_self]

/-- a history of operations: it follows the steps from an empty database, and every operation has
made the calls of its program -/
structure StoreHistory (calls : ι → StoreCall) (h : List (StoreEvent ι)) (db : ReplayDb) : Prop where
  follows : Follows StoreEvent.Step emptyDb h db
  reached : ∀ i, ∃ p, Reaches (calls i).program (own i h) p

end

/-- `REPLAY_STORE_ROLLBACK_DETECTED` is raised -/
def RollbackDetected {α : Type} (r : PyM α) : Prop :=
  ∃ e, r = .error (.refusal e) ∧ e.refusalCode = "REPLAY_STORE_ROLLBACK_DETECTED"

def fault {α : Type} : PyM α → Option Raised
  | .ok _ => none
  | .error e => some e

theorem fault_eq_some {α : Type} {r : PyM α} {e : Raised} (h : fault r = some e) : r = .error e := by
  cases r with
  | ok a => cases h
  | error e' =>
    cases h
    rfl

/-- the first exception of a transaction; nothing is called after it -/
def faults : Monitor Res (Option Raised) where
  allow g _ := g = none
  possible _ _ _ := True
  next g op r := g.or (fault (show PyM (Value op) from r))

/-- an operation raises the first exception of its transactions, and no rollback of its own -/
def EndsWith {α S : Type} (r : Except Raised α × S) (g : Option Raised) : Prop :=
  (∀ e, g = some e → r.1 = .error e) ∧ (g = none → ¬ RollbackDetected r.1)

section
variable {S β : Type}

theorem endsWith_ok {α : Type} (a : α) (s : S) : EndsWith ((.ok a, s) : Except Raised α × S) none :=
  ⟨fun _ h => (nomatch h), fun _ ⟨_, h, _⟩ => (nomatch h)⟩

theorem endsWith_raise {α : Type} (e : RefusalException) (s : S)
    (h : e.refusalCode ≠ "REPLAY_STORE_ROLLBACK_DETECTED") :
    EndsWith ((.error (.refusal e), s) : Except Raised α × S) none := by
  refine ⟨fun _ h => (nomatch h), ?_⟩
  rintro - ⟨e', he, hcode⟩
  cases he
  exact h hcode

/-- one transaction, and what follows it when it answers -/
theorem wp_faults {inst : Nat} {tx : StoreTx} {f : tx.Result → Kernel S β} {s : S}
    (hf : ∀ a, wp faults (f a s) EndsWith none) :
    wp faults ((Act.perform (.store inst tx) rfl >>= f) s) EndsWith none := by
  refine wp_perform rfl (fun a _ => hf a) ?_
  intro e _
  refine ⟨fun e' he => ?_, fun h => nomatch h⟩
  cases he
  rfl

/-- one operation after the other -/
theorem wp_faults_seq {α : Type} {m : Kernel S α} {f : α → Kernel S β} {s : S}
    (hm : wp faults (m s) EndsWith none) (hf : ∀ a s', wp faults (f a s') EndsWith none) :
    wp faults ((m >>= f) s) EndsWith none := by
  refine wp_seq _ hm ?_ ?_
  · rintro a s' g ⟨h, -⟩
    cases g with
    | none => exact hf a s'
    | some e => cases h e rfl
  · rintro e s' g ⟨h, h'⟩
    refine ⟨fun e' he => ?_, fun hg => ?_⟩
    · cases h e' he
      rfl
    · rintro ⟨e', he, hcode⟩
      cases he
      exact h' hg ⟨e', rfl, hcode⟩

theorem wp_faults_inspect (inst : Nat) (key : String) (now : Datetime) (depth : Nat) (s : S) :
    wp faults (inspectUpTo inst key now depth s) EndsWith none := by
  induction depth with
  | zero =>
    refine ⟨fun _ h => (nomatch h), ?_⟩
    rintro - ⟨e, he, -⟩
    cases he
  | succ depth ih =>
    refine wp_faults fun answer => ?_
    cases answer with
    | missing => exact endsWith_ok _ s
    | expired => exact ih
    | found row => exact endsWith_ok _ s

theorem wp_faults_claimOnce (inst : Nat) (claim : ActionConsumptionClaim) (now : Datetime) (s : S) :
    wp faults (claimOnce inst claim now s) EndsWith none := by
  refine wp_faults fun inserted => wp_faults_seq (wp_faults_inspect inst _ now _ s) fun state s' => ?_
  cases inserted with
  | false => exact endsWith_raise _ s' (by simp [replayValidationError])
  | true => exact endsWith_ok _ s'

theorem wp_faults_markConsumed (inst : Nat) (key : String) (now : Datetime) (s : S) :
    wp faults (markConsumed inst key now s) EndsWith none := by
  refine wp_faults fun changed => wp_faults_seq (wp_faults_inspect inst _ now _ s) fun state s' => ?_
  cases changed with
  | false => exact endsWith_raise _ s' (by simp [replayValidationError])
  | true => exact endsWith_ok _ s'

theorem wp_faults_releaseClaim (inst : Nat) (key : String) (now : Datetime) (reason : String) (s : S) :
    wp faults (releaseClaim inst key now reason s) EndsWith none := by
  refine wp_faults fun answer => ?_
  cases answer with
  | missing => exact endsWith_raise _ s (by simp [replayValidationError])
  | alreadyConsumed row => exact endsWith_ok _ s
  | notClaimed status => exact endsWith_raise _ s (by simp [replayValidationError])
  | released => exact wp_faults_inspect inst key now _ s

/-- **An operation ends with the first exception of its transactions**, and raises no rollback of
its own. -/
theorem wp_operation (c : StoreCall) : wp faults c.program EndsWith none := by
  have hpure : ∀ {α : Type} (_ : α) (s : Unit), wp faults ((pure () : Kernel Unit Unit) s) EndsWith none :=
    fun _ s => endsWith_ok () s
  obtain ⟨inst, op⟩ := c
  cases op with
  | claimOnce claim now => exact wp_faults_seq (wp_faults_claimOnce inst claim now ()) hpure
  | markConsumed key now => exact wp_faults_seq (wp_faults_markConsumed inst key now ()) hpure
  | releaseClaim key now reason => exact wp_faults_seq (wp_faults_releaseClaim inst key now reason ()) hpure
  | inspect key now => exact wp_faults_seq (wp_faults_inspect inst key now _ ()) hpure
  | purgeExpired now => exact wp_faults fun a => hpure a ()

/-- the first exception stands in the run -/
theorem run_faults {g : Option Raised} {t : List KernelEvent} {e : Raised}
    (h : faults.run g t = some e) :
    g = some e ∨ ∃ x ∈ t, (show PyM (Value x.1) from x.2) = .error e := by
  induction t generalizing g with
  | nil => exact Or.inl h
  | cons x t ih =>
    rcases ih h with hx | ⟨y, hy, hye⟩
    · cases g with
      | some e' => exact Or.inl hx
      | none =>
        exact Or.inr ⟨x, List.mem_cons_self, fault_eq_some hx⟩
    · exact Or.inr ⟨y, List.mem_cons_of_mem _ hy, hye⟩

/-- an exception of a transaction is the first one -/
theorem run_faults_error {t : List KernelEvent} {g : Option Raised} {op : Op} {e : Raised}
    (h : faults.Allowed g (t ++ [⟨op, (.error e : PyM (Value op))⟩])) :
    faults.run g (t ++ [⟨op, (.error e : PyM (Value op))⟩]) = some e := by
  induction t generalizing g with
  | nil =>
    have hg : g = none := h.1
    subst hg
    rfl
  | cons x t ih => exact ih h.2

/-- where an exception has been raised, the operation has ended with it -/
theorem reaches_error {c : StoreCall} {t t' : List KernelEvent} {op : Op} {e : Raised}
    {p : Prog Op Res (Except Raised Unit × Unit)}
    (h : Reaches c.program (t ++ ⟨op, (.error e : PyM (Value op))⟩ :: t') p) :
    t' = [] ∧ ∃ s, p = .ret (.error e, s) := by
  rw [List.append_cons] at h
  obtain ⟨m, hm, hp⟩ := h.split
  obtain ⟨hallowed, hw⟩ := wp_reaches (wp_operation c) hm (faults.possible_of_all (fun _ _ _ => trivial) _ _)
  rw [run_faults_error hallowed] at hw
  cases m with
  | call op' k => cases hw.1
  | ret a =>
    obtain ⟨r, s⟩ := a
    obtain ⟨rfl, rfl⟩ := hp.of_ret
    cases hw.1 e rfl
    exact ⟨rfl, s, rfl⟩

end

/-! ## detection -/

section
variable {ι : Type} [DecidableEq ι] {calls : ι → StoreCall} {h : List (StoreEvent ι)} {db : ReplayDb}

/-- without a snapshot no transaction raises a rollback -/
theorem answer_not_rollback {d d' : ReplayDb} {inst : Nat} {tx : StoreTx} {o : TxOutcome tx}
    (hs : o.Step inst d d') (hm : d.Monotone) : ¬ RollbackDetected o.answer := by
  rintro ⟨e, he, -⟩
  cases o with
  | answered a =>
    cases he
    exact absurd (run_error hs).1 (Nat.not_lt.mpr (hm inst))
  | lost a e' => cases he
  | failed checked e' => cases he

/-- the events before and after one event of a history -/
theorem follows_split {before after : List (StoreEvent ι)} {e : StoreEvent ι} {db' : ReplayDb}
    (hf : Follows StoreEvent.Step db (before ++ e :: after) db') :
    ∃ d d', Follows StoreEvent.Step db before d ∧ e.Step d d' ∧ Follows StoreEvent.Step d' after db' := by
  obtain ⟨d, hbefore, d', hstep, hafter⟩ := follows_append.mp hf
  exact ⟨d, d', hbefore, hstep, hafter⟩

theorem follows_monotone {d : ReplayDb} (hf : Follows StoreEvent.Step emptyDb h d)
    (hr : ∀ e ∈ h, e.isRestored = false) : d.Monotone := by
  have key : ∀ {d0 : ReplayDb}, Follows StoreEvent.Step d0 h d → d0.Monotone → d.Monotone := by
    clear hf
    induction h with
    | nil =>
      rintro d0 hf hm
      cases hf
      exact hm
    | cons e h ih =>
      rintro d0 ⟨d1, hd, hf⟩ hm
      exact ih (fun e he => hr e (List.mem_cons_of_mem _ he)) hf
        (step_monotone hd (hr e List.mem_cons_self) hm)
  exact key hf fun _ => Nat.le_refl _

/-- the calls of an operation are transactions of the history -/
theorem mem_own {i : ι} {x : KernelEvent} (hx : x ∈ own i h) :
    ∃ inst tx o, StoreEvent.ran i inst tx o ∈ h ∧ x = ⟨.store inst tx, o.answer⟩ := by
  obtain ⟨e, he, hex⟩ := List.mem_filterMap.mp hx
  cases e with
  | opened inst => cases hex
  | restored table counter => cases hex
  | ran j inst tx o =>
    obtain ⟨rfl, hc⟩ := Option.ite_none_right_eq_some.mp hex
    cases hc
    exact ⟨inst, tx, o, he, rfl⟩

/-- an operation of a history without a snapshot raises no rollback -/
theorem result_not_rollback (H : StoreHistory calls h db) (hr : ∀ e ∈ h, e.isRestored = false) {i : ι}
    {r : Except Raised Unit × Unit} (hret : Reaches (calls i).program (own i h) (.ret r)) :
    ¬ RollbackDetected r.1 := by
  obtain ⟨hsome, hnone⟩ := (wp_reaches (wp_operation (calls i)) hret
    (faults.possible_of_all (fun _ _ _ => trivial) _ _)).2
  cases hg : faults.run none (own i h) with
  | none => exact hnone hg
  | some e =>
    rw [hsome e hg]
    obtain hnone' | ⟨x, hx, hxe⟩ := run_faults hg
    · cases hnone'
    · obtain ⟨inst, tx, o, ho, rfl⟩ := mem_own hx
      obtain ⟨before, after, rfl⟩ := List.append_of_mem ho
      obtain ⟨d, d', hbefore, hstep, -⟩ := follows_split H.follows
      have hm := follows_monotone hbefore fun e he => hr e (List.mem_append_left _ he)
      rintro ⟨e', he, hcode⟩
      cases he
      exact answer_not_rollback hstep hm ⟨e', hxe, hcode⟩

/-- **Rollback detection.**  Without a snapshot the counter is the number of committed mutations, an
event that commits none changes no row, and no operation raises a rollback.  When the counter is below
one that a store object has seen, as after a snapshot, a transaction of this object raises a rollback,
its operation ends with it, and the database stays as it is. -/
theorem rollback_detection (H : StoreHistory calls h db) :
    ((∀ e ∈ h, e.isRestored = false) →
      db.counter = h.countP StoreEvent.commits ∧
      (∀ before e after d d', h = before ++ e :: after → Follows StoreEvent.Step emptyDb before d →
        e.Step d d' → e.commits = false → d'.table = d.table) ∧
      ∀ i r, Reaches (calls i).program (own i h) (.ret r) → ¬ RollbackDetected r.1) ∧
    ∀ before e mid i inst tx answer after d d' d₁ d₂ c,
      h = before ++ e :: (mid ++ .ran i inst tx (.answered answer) :: after) →
      Follows StoreEvent.Step emptyDb before d → e.Step d d' → e.observes inst d d' = some c →
      Follows StoreEvent.Step d' mid d₁ → (∀ x ∈ mid, x.opens inst = false) → d₁.counter < c →
      tx.run inst d₁ = (answer, d₂) →
      RollbackDetected answer ∧ d₂ = d₁ ∧
        ∃ r, Reaches (calls i).program (own i h) (.ret r) ∧ RollbackDetected r.1 := by
  refine ⟨fun hr => ⟨?_, ?_, fun i r hret => result_not_rollback H hr hret⟩, ?_⟩
  · rw [counter_eq H.follows hr]
    exact Nat.zero_add _
  · rintro before e after d d' rfl - hstep hc
    exact (step_commits hstep (hr e (List.mem_append_right _ List.mem_cons_self))).2 hc
  · rintro before e mid i inst tx answer after d d' d₁ d₂ c rfl - hstep hsees hmid hopens hlt hrun
    have hobserved : d₁.counter < d₁.observed inst :=
      Nat.lt_of_lt_of_le hlt (Nat.le_trans (step_observes hstep hsees) (observed_le hmid hopens))
    rcases run_cases tx inst d₁ with ⟨-, hraise⟩ | ⟨hle, -⟩
    · cases hraise.symm.trans hrun
      refine ⟨⟨_, rfl, rfl⟩, rfl, ?_⟩
      obtain ⟨p, hp⟩ := H.reached i
      rw [own_split] at hp ⊢
      obtain ⟨-, s, rfl⟩ := reaches_error hp
      exact ⟨_, hp, _, rfl, rfl⟩
    · exact absurd hobserved (Nat.not_lt.mpr hle)

end

/-! ## a claim that a snapshot takes back -/

def takenBack : ActionConsumptionClaim where
  replayKey := "rpk_1"
  intentId := some "int_1"
  pccbId := "pccb_1"
  nonce := "n1"
  actionHash := "00"
  audience := "service:aud"
  capability := "repo.read"
  tenantId := none
  subjectId := none
  expiresAt := ⟨2, by decide⟩

/-- a claim, and a purge after the snapshot -/
def takenBackCalls : Bool → StoreCall
  | true => ⟨0, .claimOnce takenBack ⟨1, by decide⟩⟩
  | false => ⟨0, .purgeExpired ⟨1, by decide⟩⟩

/-- the object that made the claim raises a rollback after the snapshot of the empty database -/
theorem rollback_detection_sample :
    ∃ h db, StoreHistory takenBackCalls h db ∧ (∃ e ∈ h, e.isRestored = true) ∧
      ∃ r, Reaches (takenBackCalls false).program (own false h) (.ret r) ∧ RollbackDetected r.1 := by
  have hm : emptyDb.Monotone := fun _ => Nat.le_refl _
  obtain ⟨d1, hclaim⟩ := claim_free hm 0 takenBack (claimable_of_none ⟨1, by decide⟩ rfl)
  have hm1 := (run_counter (.claim takenBack ⟨1, by decide⟩) 0 hm).1
  rw [hclaim] at hm1
  have hcounter : d1.counter = 1 := (run_commits hclaim).1
  have hinspect : (StoreTx.inspect "rpk_1" ⟨1, by decide⟩).run 0 d1
      = (.ok (.found (takenBack.row ⟨1, by decide⟩)), d1.observe 0 d1.counter) :=
    inspect_live hm1 0 (claim_ok hclaim) fun hdue => absurd hdue.2 (by decide)
  have hpurge : ∃ answer d, (StoreTx.purge ⟨1, by decide⟩).run 0
      { d1.observe 0 d1.counter with table := emptyDb.table, counter := 0 } = (answer, d) := ⟨_, _, rfl⟩
  obtain ⟨answer, d, hpurge⟩ := hpurge
  have hback : (0 : Nat) < (d1.observe 0 d1.counter).observed 0 := by
    rw [observed_observe, hcounter]
    exact Nat.one_pos
  have hanswer : ∃ e, answer = .error e := by
    rcases run_cases (.purge ⟨1, by decide⟩) 0
      { d1.observe 0 d1.counter with table := emptyDb.table, counter := 0 } with ⟨-, hrun⟩ | ⟨hle, -⟩
    · cases hrun.symm.trans hpurge
      exact ⟨_, rfl⟩
    · exact absurd hback (Nat.not_lt.mpr hle)
  obtain ⟨e, rfl⟩ := hanswer
  have H : StoreHistory takenBackCalls
      [.ran true 0 (.claim takenBack ⟨1, by decide⟩) (.answered (.ok true)),
        .ran true 0 (.inspect "rpk_1" ⟨1, by decide⟩) (.answered (.ok (.found (takenBack.row ⟨1, by decide⟩)))),
        .restored emptyDb.table 0, .ran false 0 (.purge ⟨1, by decide⟩) (.answered (.error e))] d := by
    refine ⟨⟨d1, hclaim, _, hinspect, _, rfl, d, hpurge, rfl⟩, ?_⟩
    intro i
    cases i with
    | true => exact ⟨_, .cons _ (.cons _ (.nil _))⟩
    | false => exact ⟨_, .cons _ (.nil _)⟩
  refine ⟨_, d, H, ⟨_, List.mem_cons_of_mem _ (List.mem_cons_of_mem _ List.mem_cons_self), rfl⟩, ?_⟩
  refine ((rollback_detection H).2 [] _ [.ran true 0 (.inspect "rpk_1" ⟨1, by decide⟩)
    (.answered (.ok (.found (takenBack.row ⟨1, by decide⟩)))), .restored emptyDb.table 0] false 0 _ _ [] _ d1 _ d
    1 rfl rfl hclaim ?_ ⟨_, hinspect, _, rfl, rfl⟩ ?_ ?_ hpurge).2.2
  · exact congrArg some hcounter
  · intro x hx
    simp only [List.mem_cons, List.not_mem_nil, or_false] at hx
    rcases hx with rfl | rfl
    · rfl
    · rfl
  · exact Nat.one_pos

end Actenon
