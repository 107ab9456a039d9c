import ActenonKernel.Execution.World

/-!
# The capability escrow (`actenon/escrow/sqlite.py`, `actenon/escrow/base.py`)

The table `capability_escrow` and `SqliteCapabilityEscrow.consume`.  One call of `consume` is one
transaction; what it raises rolls the table back, except that a record found past its end is first
committed as expired.

* `consume`           one call;
* `consume_live`      before the end of the record the table changes in one way only;
* `Stores.env`        a world with one caller and this escrow.
-/

set_option linter.unusedSectionVars false

namespace Actenon

inductive EscrowState where
  | issued
  | consumed
  | revoked
  | expired
deriving DecidableEq, Repr

structure EscrowRecord where
  escrowId : String
  pccbId : String
  capability : String
  expiresAt : Datetime
  state : EscrowState := .issued
  consumedAt : Option Datetime := none
  metadata : Dict := []

abbrev EscrowTable := Table EscrowRecord.escrowId

def escrowValidationError (refusalCode message : String) : RefusalException where
  category := "escrow"
  refusalCode := refusalCode
  message := message

/-- the text that a bound value is compared as: the column `escrow_id` has text affinity, and `NULL`
equals nothing.  How a float is written is the database's; an integer has to fit into 64 bits. -/
def boundText (realText : PyFloat → String) : Json → Except PyError (Option String)
  | .str s => .ok (some s)
  | .int n =>
    if -2 ^ 63 ≤ n ∧ n < 2 ^ 63 then .ok (some (toString n))
    else .error ⟨.overflowError, "Python int too large to convert to SQLite INTEGER"⟩
  | .bool b => .ok (some (if b then "1" else "0"))
  | .float f => .ok (some (realText f))
  | .null => .ok none
  | .arr _ => .error ⟨.other "ProgrammingError", "Error binding parameter 1: type 'list' is not supported"⟩
  | .tup _ => .error ⟨.other "ProgrammingError", "Error binding parameter 1: type 'tuple' is not supported"⟩
  | .obj _ => .error ⟨.other "ProgrammingError", "Error binding parameter 1: type 'dict' is not supported"⟩

/-- `escrow_id = ? AND state = 'issued'` -/
def isIssued (escrowId : String) (record : EscrowRecord) : Bool :=
  record.escrowId = escrowId && record.state = .issued

/-- `SET state = 'expired'` -/
def EscrowRecord.expire (record : EscrowRecord) : EscrowRecord := { record with state := .expired }

/-- `SET state = 'consumed', consumed_at` -/
def EscrowRecord.consume (record : EscrowRecord) (now : Datetime) : EscrowRecord :=
  { record with state := .consumed, consumedAt := some now }

def expireRecord (table : EscrowTable) (escrowId : String) : EscrowTable :=
  table.update (isIssued escrowId) EscrowRecord.expire fun _ => rfl

def consumeRecord (table : EscrowTable) (escrowId : String) (now : Datetime) : EscrowTable :=
  table.update (isIssued escrowId) (fun record => record.consume now) fun _ => rfl

/-- the record after a guarded update that changed no row, as `inspect` reads it -/
def consumeFailed (current : Option EscrowRecord) : RefusalException :=
  match current with
  | some record =>
    if record.state = .consumed then
      escrowValidationError "ESCROW_ALREADY_CONSUMED" "The escrow record has already been consumed."
    else
      escrowValidationError "ESCROW_STATE_INVALID" "The escrow record could not transition to consumed."
  | none => escrowValidationError "ESCROW_STATE_INVALID" "The escrow record could not transition to consumed."

def escrowNotFound : RefusalException :=
  escrowValidationError "ESCROW_NOT_FOUND" "The escrow record does not exist."

/-- `consume`, for an identifier that can be bound -/
def consumeRow (table : EscrowTable) (escrowId pccbId capability : String) (now : Datetime) :
    PyM Unit × EscrowTable :=
  match table.find escrowId with
  | none => (raiseRefusal escrowNotFound, table)
  | some record =>
    match record.state with
    | .revoked =>
      (raiseRefusal (escrowValidationError "ESCROW_REVOKED" "The escrow record has been revoked."), table)
    | .consumed =>
      (raiseRefusal (escrowValidationError "ESCROW_ALREADY_CONSUMED"
        "The escrow record has already been consumed."), table)
    | .expired =>
      (raiseRefusal (escrowValidationError "ESCROW_EXPIRED" "The escrow record has expired."), table)
    | .issued =>
      if record.expiresAt < now then
        (raiseRefusal (escrowValidationError "ESCROW_EXPIRED" "The escrow record has expired."),
          expireRecord table escrowId)
      else if record.pccbId ≠ pccbId then
        (raiseRefusal (escrowValidationError "ESCROW_PCCB_MISMATCH"
          "The escrow record does not match the proof."), table)
      else if record.capability ≠ capability then
        (raiseRefusal (escrowValidationError "ESCROW_CAPABILITY_MISMATCH"
          "The escrow record does not match the requested capability."), table)
      else if table.count (isIssued escrowId) ≠ 1 then
        (raiseRefusal (consumeFailed (table.find escrowId)), table)
      else (.ok (), consumeRecord table escrowId now)

def consume (realText : PyFloat → String) (table : EscrowTable) (escrowId : Json)
    (pccbId capability : String) (now : Datetime) : PyM Unit × EscrowTable :=
  match boundText realText escrowId with
  | .error e => (.error (.other e), table)
  | .ok none => (raiseRefusal escrowNotFound, table)
  | .ok (some id) => consumeRow table id pccbId capability now

/-- before its end no record expires, so the table changes only when an issued record is consumed -/
theorem consume_live {realText : PyFloat → String} {table : EscrowTable} {escrowId : Json}
    (pccbId capability : String) {now : Datetime}
    (hlive : ∀ id record, boundText realText escrowId = .ok (some id) → table.find id = some record →
      now < record.expiresAt) :
    (∃ e, consume realText table escrowId pccbId capability now = (.error e, table)) ∨
      ∃ id record, boundText realText escrowId = .ok (some id) ∧ table.find id = some record ∧
        record.state = .issued ∧
        consume realText table escrowId pccbId capability now = (.ok (), consumeRecord table id now) := by
  unfold consume
  split
  · exact Or.inl ⟨_, rfl⟩
  · exact Or.inl ⟨_, rfl⟩
  · rename_i id hid
    unfold consumeRow
    split
    · exact Or.inl ⟨_, rfl⟩
    · rename_i record hrecord
      cases hs : record.state with
      | revoked => exact Or.inl ⟨_, rfl⟩
      | consumed => exact Or.inl ⟨_, rfl⟩
      | expired => exact Or.inl ⟨_, rfl⟩
      | issued =>
        have hnot : ¬ record.expiresAt < now := fun h =>
          Nat.lt_asymm (show record.expiresAt.us < now.us from h) (hlive id record hid hrecord)
        dsimp only
        rw [if_neg hnot]
        split
        · exact Or.inl ⟨_, rfl⟩
        · split
          · exact Or.inl ⟨_, rfl⟩
          · split
            · exact Or.inl ⟨_, rfl⟩
            · exact Or.inr ⟨id, record, hid, hrecord, hs, rfl⟩

/-! ## the world with this escrow -/

structure Stores where
  world : World
  escrow : EscrowTable

/-- a world with one caller: the stores and the escrow answer by their state, everything else as it
is told -/
def Stores.env (P : Platform) (realText : PyFloat → String) (answers : (op : Op) → Res op) :
    (op : Op) → Stores → Res op × Stores
  | .escrowConsume escrowId pccbId capability now, w =>
    ((consume realText w.escrow escrowId pccbId capability now).1,
      { w with escrow := (consume realText w.escrow escrowId pccbId capability now).2 })
  | op, w => ((World.env P answers op w.world).1, { w with world := (World.env P answers op w.world).2 })

end Actenon
