import ActenonKernel.Models.Timestamp
import ActenonKernel.Core.Errors
import ActenonKernel.Lib.Table

/-!
# The transactions of the replay store (`actenon/replay/dbapi.py`, `actenon/replay/base.py`)

The database is the table `action_consumption` and the mutation counter; every store object
remembers the last counter it saw.  A transaction is a function of the database, with its SQL
statements in the source's order; what it raises rolls the tables back.

* `ReplayDb`       the database and the counters seen by the store objects;
* `StoreTx.run`    one transaction of `claim_once`, `mark_consumed`, `release_claim`, `inspect` or
                   `purge_expired`.

A time column holds the text `format_timestamp` makes of an instant, and `parse_timestamp` reads it
back (`parseTimestamp_formatTimestamp`); a row keeps the instant, and the conditions on `expires_at`
compare the texts.  The column `metadata_json` is kept as the dictionary it encodes.
-/

set_option linter.unusedSectionVars false

namespace Actenon

/-! ## claims and rows -/

structure ActionConsumptionClaim where
  replayKey : String
  intentId : Option String
  pccbId : String
  nonce : String
  actionHash : String
  audience : String
  capability : String
  tenantId : Option String
  subjectId : Option String
  expiresAt : Datetime
  metadata : Dict := []

inductive ActionConsumptionStatus where
  | claimed
  | consumed
  | released
  | expired
deriving DecidableEq, Repr

def ActionConsumptionStatus.text : ActionConsumptionStatus → String
  | .claimed => "claimed"
  | .consumed => "consumed"
  | .released => "released"
  | .expired => "expired"

/-- a row of `action_consumption`, and the state that is read from it -/
structure ActionConsumptionState where
  replayKey : String
  intentId : Option String
  pccbId : String
  nonce : String
  actionHash : String
  audience : String
  capability : String
  tenantId : Option String
  subjectId : Option String
  status : ActionConsumptionStatus
  createdAt : Datetime
  updatedAt : Datetime
  expiresAt : Datetime
  consumedAt : Option Datetime := none
  metadata : Dict := []

/-- the row that a claim inserts -/
def ActionConsumptionClaim.row (claim : ActionConsumptionClaim) (now : Datetime) :
    ActionConsumptionState where
  replayKey := claim.replayKey
  intentId := claim.intentId
  pccbId := claim.pccbId
  nonce := claim.nonce
  actionHash := claim.actionHash
  audience := claim.audience
  capability := claim.capability
  tenantId := claim.tenantId
  subjectId := claim.subjectId
  status := .claimed
  createdAt := now
  updatedAt := now
  expiresAt := claim.expiresAt
  metadata := claim.metadata

/-! ## the database -/

structure ReplayDb where
  table : Table ActionConsumptionState.replayKey
  /-- `replay_store_metadata.mutation_counter` -/
  counter : Nat
  /-- `_last_observed_counter` of each store object -/
  observed : Nat → Nat

def emptyDb : ReplayDb := ⟨⟨[], List.nodup_nil⟩, 0, fun _ => 0⟩

def ReplayDb.find (db : ReplayDb) (replayKey : String) : Option ActionConsumptionState :=
  db.table.find replayKey

def ReplayDb.observe (db : ReplayDb) (inst : Nat) (counter : Nat) : ReplayDb :=
  { db with observed := fun i => if i = inst then counter else db.observed i }

def rollbackDetected (message : String) (db : ReplayDb) (inst counter : Nat) : Raised :=
  .refusal (replayValidationError "REPLAY_STORE_ROLLBACK_DETECTED" message
    (members [("observed_counter", .int counter), ("last_observed_counter", .int (db.observed inst))]))

/-- `_assert_store_monotonic` before the statements of a transaction -/
def transaction {α : Type} (db : ReplayDb) (inst : Nat) (body : ReplayDb → PyM α × ReplayDb) :
    PyM α × ReplayDb :=
  if db.counter < db.observed inst then
    (.error (rollbackDetected
      "Replay store state regressed behind a previously observed mutation." db inst db.counter), db)
  else body (db.observe inst db.counter)

/-- `_advance_mutation_counter` and the commit; `db` is what a rollback goes back to -/
def commitTable {α : Type} (db : ReplayDb) (inst : Nat) (table : Table ActionConsumptionState.replayKey)
    (result : α) : PyM α × ReplayDb :=
  if db.counter + 1 ≤ db.observed inst then
    (.error (rollbackDetected
      "Replay store mutation order regressed behind a previously observed mutation." db inst
      (db.counter + 1)), db)
  else
    (.ok result, { table := table
                   counter := db.counter + 1
                   observed := fun i => if i = inst then db.counter + 1 else db.observed i })

/-! ## statements -/

/-- `SET status, updated_at` -/
def ActionConsumptionState.become (row : ActionConsumptionState) (status : ActionConsumptionStatus)
    (now : Datetime) : ActionConsumptionState := { row with status := status, updatedAt := now }

/-- `SET status, updated_at, consumed_at` -/
def ActionConsumptionState.becomeConsumed (row : ActionConsumptionState) (now : Datetime) :
    ActionConsumptionState := { row with status := .consumed, updatedAt := now, consumedAt := some now }

/-- `SET status, updated_at, metadata_json` -/
def ActionConsumptionState.becomeReleased (row : ActionConsumptionState) (now : Datetime)
    (metadata : Dict) : ActionConsumptionState :=
  { row with status := .released, updatedAt := now, metadata := metadata }

/-- `replay_key = ? AND status = ?` -/
def rowIs (replayKey : String) (status : ActionConsumptionStatus) (row : ActionConsumptionState) :
    Bool := row.replayKey = replayKey && row.status = status

/-- `expires_at <= ?`, between texts -/
def ActionConsumptionState.textExpired (row : ActionConsumptionState) (now : Datetime) : Bool :=
  formatTimestamp row.expiresAt ≤ formatTimestamp now

def expireRow (table : Table ActionConsumptionState.replayKey) (replayKey : String) (now : Datetime) :
    Table ActionConsumptionState.replayKey :=
  table.update (fun row => rowIs replayKey .claimed row && row.textExpired now)
    (fun row => row.become .expired now) fun _ => rfl

def deleteEnded (table : Table ActionConsumptionState.replayKey) (replayKey : String) :
    Table ActionConsumptionState.replayKey :=
  table.delete fun row => rowIs replayKey .released row || rowIs replayKey .expired row

/-! ## transactions -/

/-- what the transaction of `release_claim` found -/
inductive ReleaseResult where
  | missing
  | alreadyConsumed (row : ActionConsumptionState)
  | notClaimed (status : ActionConsumptionStatus)
  | released

/-- what the transaction of `inspect` found; after `expired` the row is read again -/
inductive InspectResult where
  | missing
  | expired
  | found (row : ActionConsumptionState)

inductive StoreTx where
  | claim (claim : ActionConsumptionClaim) (now : Datetime)
  | consume (replayKey : String) (now : Datetime)
  | release (replayKey : String) (now : Datetime) (reason : String)
  | inspect (replayKey : String) (now : Datetime)
  | purge (now : Datetime)

/-- what a transaction answers: for `claim` and `consume` whether one row changed -/
def StoreTx.Result : StoreTx → Type
  | .claim _ _ => Bool
  | .consume _ _ => Bool
  | .release _ _ _ => ReleaseResult
  | .inspect _ _ => InspectResult
  | .purge _ => Nat

def claimTx (db : ReplayDb) (inst : Nat) (claim : ActionConsumptionClaim) (now : Datetime) :
    PyM Bool × ReplayDb :=
  let table := deleteEnded (expireRow db.table claim.replayKey now) claim.replayKey
  match table.find claim.replayKey with
  | some _ => (.ok false, db)
  | none => commitTable db inst (table.insert (claim.row now)) true

def consumeTx (db : ReplayDb) (inst : Nat) (replayKey : String) (now : Datetime) :
    PyM Bool × ReplayDb :=
  if db.table.count (rowIs replayKey .claimed) ≠ 1 then (.ok false, db)
  else
    commitTable db inst (db.table.update (rowIs replayKey .claimed)
      (fun row => row.becomeConsumed now) fun _ => rfl) true

def releaseTx (db : ReplayDb) (inst : Nat) (replayKey : String) (now : Datetime) (reason : String) :
    PyM ReleaseResult × ReplayDb :=
  match db.find replayKey with
  | none => (.ok .missing, db)
  | some current =>
    if current.status = .consumed then (.ok (.alreadyConsumed current), db)
    else if db.table.count (rowIs replayKey .claimed) ≠ 1 then (.ok (.notClaimed current.status), db)
    else
      commitTable db inst (db.table.update (rowIs replayKey .claimed)
        (fun row => row.becomeReleased now
          (Dict.set current.metadata (.str "release_reason") (.str reason)))
        fun _ => rfl) .released

def inspectTx (db : ReplayDb) (inst : Nat) (replayKey : String) (now : Datetime) :
    PyM InspectResult × ReplayDb :=
  match db.find replayKey with
  | none => (.ok .missing, db)
  | some row =>
    if row.status = .claimed ∧ row.expiresAt ≤ now then
      commitTable db inst (db.table.update (rowIs replayKey .claimed)
        (fun row => row.become .expired now) fun _ => rfl) .expired
    else (.ok (.found row), db)

def purgeTx (db : ReplayDb) (inst : Nat) (now : Datetime) : PyM Nat × ReplayDb :=
  let due (row : ActionConsumptionState) : Bool := row.status = .claimed && row.textExpired now
  let count := db.table.count due
  if count = 0 then (.ok 0, db)
  else
    commitTable db inst (db.table.update due (fun row => row.become .expired now) fun _ => rfl) count

/-- one transaction of the store object `inst` -/
def StoreTx.run (tx : StoreTx) (inst : Nat) (db : ReplayDb) : PyM tx.Result × ReplayDb :=
  match tx with
  | .claim c now => transaction db inst fun db => claimTx db inst c now
  | .consume replayKey now => transaction db inst fun db => consumeTx db inst replayKey now
  | .release replayKey now reason => transaction db inst fun db => releaseTx db inst replayKey now reason
  | .inspect replayKey now => transaction db inst fun db => inspectTx db inst replayKey now
  | .purge now => transaction db inst fun db => purgeTx db inst now

end Actenon
