import ActenonKernel.Core.Equal
import ActenonKernel.Escrow.Calls

/-!
# The two escrows (`actenon/escrow/memory.py`, `actenon/escrow/sqlite.py`)

`InMemoryCapabilityEscrow` keeps the records that it makes of its arguments in a dictionary;
`SqliteCapabilityEscrow` keeps what the driver, `json` and `astimezone` make of them, and each of these may
refuse.  The calls come one after the other, and their arguments are any that the annotations allow: texts
that cannot be encoded, clocks with and without a time zone, dictionaries that `json` cannot write or read.

* `Clock`, `Host`     the arguments, and what converts them;
* `Call.runInMemory`, `Call.runSqlite`    a call of either escrow;
* `runMemory`, `runSqlite`                what a run gives, call by call;
* `runAlone_rows`     where every argument can be converted, the calls are those of `Escrow.Calls`.
-/

set_option linter.unusedSectionVars false

namespace Actenon

namespace Backends

open Program

/-! ## arguments -/

/-- a `datetime`: with a time zone, its wall clock and the microsecond it is in UTC, or without one -/
inductive Clock (Z : Type) where
  | aware (zone : Z) (wall : Datetime) (moment : Int)
  | naive (wall : Datetime)

def Clock.moment? {Z : Type} : Clock Z → Option Int
  | .aware _ _ moment => some moment
  | .naive _ => none

/-- `x > y`; in one time zone the wall clocks are compared -/
def Clock.gt {Z : Type} [DecidableEq Z] : Clock Z → Clock Z → Except PyError Bool
  | .aware zone wall moment, .aware zone' wall' moment' =>
    .ok (if zone = zone' then wall' < wall else moment' < moment)
  | .naive wall, .naive wall' => .ok (wall' < wall)
  | _, _ => typeError "can't compare offset-naive and offset-aware datetimes"

/-- why a local time has no moment between the years 1 and 9999 -/
inductive RangeError where
  | overflow
  | value

/-- what the escrows take from the interpreter, the local time zone and the driver: `T` are the texts, `M`
the dictionaries, `J` the JSON texts and `Z` the time zones -/
structure Host (T M J Z : Type) where
  /-- a text as a parameter of a statement; a lone surrogate, for one, cannot be encoded -/
  bind : T → Except PyError Unit
  localMoment : Datetime → Except RangeError Datetime
  /-- `timezone.utc` -/
  utcZone : Z
  /-- `json.dumps(x, sort_keys=True)`, as a parameter -/
  dumps : M → Except PyError J
  /-- `json.loads(x)` -/
  loads : J → Except PyError M
  noMetadata : M
  /-- `{**x, "revocation_reason": reason}` -/
  withReason : M → T → M
  /-- `x == y` -/
  equal : M → M → Bool
  /-- `repr(x)` -/
  repr : T → String

section
variable {T M J Z : Type} [DecidableEq T] [DecidableEq Z] (H : Host T M J Z)

/-- `value.astimezone(timezone.utc)` -/
def Host.utc : Clock Z → Except PyError Datetime
  | .aware _ _ moment => Datetime.ofInt moment
  | .naive wall =>
    match H.localMoment wall with
    | .ok moment => .ok moment
    | .error .overflow => .error dateOutOfRange
    | .error .value => valueError "year is out of range"

/-- an `EscrowRecord` with what it was given -/
structure Record (T M Z : Type) where
  escrowId : T
  pccbId : T
  capability : T
  expiresAt : Clock Z
  state : EscrowState := .issued
  consumedAt : Option (Clock Z) := none
  metadata : M

abbrev Records (T M Z : Type) [DecidableEq T] := Table (Record.escrowId (T := T) (M := M) (Z := Z))

/-- a row of `capability_escrow` -/
structure Row (T J : Type) where
  escrowId : T
  pccbId : T
  capability : T
  expiresAt : Datetime
  state : EscrowState := .issued
  consumedAt : Option Datetime := none
  metadataJson : J

abbrev Rows (T J : Type) [DecidableEq T] := Table (Row.escrowId (T := T) (J := J))

/-- what a call gives: the record, or what it raises -/
abbrev Answer (T M Z : Type) := PyM (Option (Record T M Z))

/-! ## `InMemoryCapabilityEscrow` -/

section
variable (records : Records T M Z)

def memoryIssue (escrowId pccbId capability : T) (expiresAt : Clock Z) (metadata : Option M) :
    Answer T M Z × Records T M Z :=
  if (records.find escrowId).isSome then (raiseRefusal escrowAlreadyExists, records)
  else
    let record : Record T M Z := {
      escrowId := escrowId, pccbId := pccbId, capability := capability, expiresAt := expiresAt,
      metadata := metadata.getD H.noMetadata }
    (.ok (some record), records.put record)

def memoryConsume (escrowId pccbId capability : T) (now : Clock Z) : Answer T M Z × Records T M Z :=
  match records.find escrowId with
  | none => (raiseRefusal escrowNotFound, records)
  | some record =>
    if record.state = .revoked then
      (raiseRefusal (escrowValidationError "ESCROW_REVOKED" "The escrow record has been revoked."), records)
    else if record.state = .consumed then
      (raiseRefusal (escrowValidationError "ESCROW_ALREADY_CONSUMED"
        "The escrow record has already been consumed."), records)
    else
      match now.gt record.expiresAt with
      | .error e => (.error (.other e), records)
      | .ok true =>
        (raiseRefusal (escrowValidationError "ESCROW_EXPIRED" "The escrow record has expired."),
          records.put { record with state := .expired })
      | .ok false =>
        if record.pccbId ≠ pccbId then
          (raiseRefusal (escrowValidationError "ESCROW_PCCB_MISMATCH"
            "The escrow record does not match the proof."), records)
        else if record.capability ≠ capability then
          (raiseRefusal (escrowValidationError "ESCROW_CAPABILITY_MISMATCH"
            "The escrow record does not match the requested capability."), records)
        else
          let consumed := { record with state := .consumed, consumedAt := some now }
          (.ok (some consumed), records.put consumed)

def memoryRevoke (escrowId reason : T) : Answer T M Z × Records T M Z :=
  match records.find escrowId with
  | none => (raiseRefusal escrowNotFound, records)
  | some record =>
    let revoked := { record with state := .revoked, metadata := H.withReason record.metadata reason }
    (.ok (some revoked), records.put revoked)

end

/-! ## `SqliteCapabilityEscrow` -/

section
variable (rows : Rows T J)

/-- `_row_to_record`, with the metadata of the row -/
def Host.recordOf (row : Row T J) (metadata : M) : Record T M Z where
  escrowId := row.escrowId
  pccbId := row.pccbId
  capability := row.capability
  expiresAt := .aware H.utcZone row.expiresAt row.expiresAt.us
  state := row.state
  consumedAt := row.consumedAt.map fun consumedAt => .aware H.utcZone consumedAt consumedAt.us
  metadata := metadata

/-- `_select_row` and the metadata of the row -/
def Host.select (escrowId : T) : Except PyError (Option (Row T J × M)) := do
  let _ ← H.bind escrowId
  match rows.find escrowId with
  | none => return none
  | some row => do
    let metadata ← H.loads row.metadataJson
    return some (row, metadata)

def sqliteInspect (escrowId : T) : Answer T M Z :=
  match H.select rows escrowId with
  | .error e => .error (.other e)
  | .ok found => .ok (found.map fun p => H.recordOf p.1 p.2)

/-- `written = self.inspect(escrow_id)` -/
def sqliteReload (escrowId : T) (written : String) : Answer T M Z :=
  match sqliteInspect H rows escrowId with
  | .ok none =>
    let name := H.repr escrowId
    .error (.other ⟨.other "RuntimeError", s!"escrow record {name} was {written} but could not be reloaded"⟩)
  | answer => answer

/-- the parameters of the `INSERT` that are converted -/
def Host.issueParameters (escrowId pccbId capability : T) (expiresAt : Clock Z) (metadata : Option M) :
    Except PyError (Datetime × J) := do
  let moment ← H.utc expiresAt
  let text ← H.dumps (metadata.getD H.noMetadata)
  let _ ← H.bind escrowId
  let _ ← H.bind pccbId
  let _ ← H.bind capability
  return (moment, text)

def sqliteIssue (escrowId pccbId capability : T) (expiresAt : Clock Z) (metadata : Option M) :
    Answer T M Z × Rows T J :=
  match H.issueParameters escrowId pccbId capability expiresAt metadata with
  | .error e => (.error (.other e), rows)
  | .ok (moment, text) =>
    if (rows.find escrowId).isSome then (raiseRefusal escrowAlreadyExists, rows)
    else
      let rows' := rows.insert {
        escrowId := escrowId, pccbId := pccbId, capability := capability, expiresAt := moment, metadataJson := text }
      (sqliteReload H rows' escrowId "written", rows')

/-- `WHERE escrow_id = ? AND state = 'issued'` -/
def Row.isIssued (escrowId : T) (row : Row T J) : Bool := row.escrowId = escrowId && row.state = .issued

def sqliteExpire (escrowId : T) : Rows T J :=
  rows.update (Row.isIssued escrowId) (fun row => { row with state := .expired }) fun _ => rfl

def sqliteMark (escrowId : T) (now : Datetime) : Rows T J :=
  rows.update (Row.isIssued escrowId) (fun row => { row with state := .consumed, consumedAt := some now }) fun _ => rfl

/-- the end of `consume`, after the checks -/
def sqliteTake (escrowId : T) (now : Datetime) : Answer T M Z × Rows T J :=
  if rows.count (Row.isIssued escrowId) ≠ 1 then
    match sqliteInspect H rows escrowId with
    | .error e => (.error e, rows)
    | .ok current =>
      if current.any fun record => record.state = .consumed then
        (raiseRefusal (escrowValidationError "ESCROW_ALREADY_CONSUMED"
          "The escrow record has already been consumed."), rows)
      else
        (raiseRefusal (escrowValidationError "ESCROW_STATE_INVALID"
          "The escrow record could not transition to consumed."), rows)
  else (sqliteReload H (sqliteMark rows escrowId now) escrowId "consumed", sqliteMark rows escrowId now)

def sqliteConsume (escrowId pccbId capability : T) (now : Clock Z) : Answer T M Z × Rows T J :=
  match H.utc now with
  | .error e => (.error (.other e), rows)
  | .ok now =>
    match H.select rows escrowId with
    | .error e => (.error (.other e), rows)
    | .ok none => (raiseRefusal escrowNotFound, rows)
    | .ok (some (row, _)) =>
      match row.state with
      | .revoked =>
        (raiseRefusal (escrowValidationError "ESCROW_REVOKED" "The escrow record has been revoked."), rows)
      | .consumed =>
        (raiseRefusal (escrowValidationError "ESCROW_ALREADY_CONSUMED"
          "The escrow record has already been consumed."), rows)
      | .expired =>
        (raiseRefusal (escrowValidationError "ESCROW_EXPIRED" "The escrow record has expired."), rows)
      | .issued =>
        if row.expiresAt < now then
          (raiseRefusal (escrowValidationError "ESCROW_EXPIRED" "The escrow record has expired."),
            sqliteExpire rows escrowId)
        else if row.pccbId ≠ pccbId then
          (raiseRefusal (escrowValidationError "ESCROW_PCCB_MISMATCH"
            "The escrow record does not match the proof."), rows)
        else if row.capability ≠ capability then
          (raiseRefusal (escrowValidationError "ESCROW_CAPABILITY_MISMATCH"
            "The escrow record does not match the requested capability."), rows)
        else sqliteTake H rows escrowId now

/-- `UPDATE .. SET state = 'revoked', metadata_json` -/
def sqliteRewrite (escrowId : T) (text : J) : Rows T J :=
  rows.update (fun row => row.escrowId = escrowId)
    (fun row => { row with state := .revoked, metadataJson := text }) fun _ => rfl

def sqliteRevoke (escrowId reason : T) : Answer T M Z × Rows T J :=
  match H.select rows escrowId with
  | .error e => (.error (.other e), rows)
  | .ok none => (raiseRefusal escrowNotFound, rows)
  | .ok (some (_, metadata)) =>
    match H.dumps (H.withReason metadata reason) with
    | .error e => (.error (.other e), rows)
    | .ok text => (sqliteReload H (sqliteRewrite rows escrowId text) escrowId "revoked", sqliteRewrite rows escrowId text)

end

/-! ## runs -/

inductive Call (T M Z : Type) where
  | issue (escrowId pccbId capability : T) (expiresAt : Clock Z) (metadata : Option M)
  | inspect (escrowId : T)
  | consume (escrowId pccbId capability : T) (now : Clock Z)
  | revoke (escrowId reason : T)

/-- a call, and what the driver raises in it, if anything: the name of the exception, and whether the
transaction was committed before -/
structure Attempt (T M Z : Type) where
  call : Call T M Z
  failure : Option (String × Bool) := none

def Call.runInMemory (records : Records T M Z) : Call T M Z → Answer T M Z × Records T M Z
  | .issue escrowId pccbId capability expiresAt metadata =>
    memoryIssue H records escrowId pccbId capability expiresAt metadata
  | .inspect escrowId => (.ok (records.find escrowId), records)
  | .consume escrowId pccbId capability now => memoryConsume records escrowId pccbId capability now
  | .revoke escrowId reason => memoryRevoke H records escrowId reason

def Call.runSqlite (rows : Rows T J) : Call T M Z → Answer T M Z × Rows T J
  | .issue escrowId pccbId capability expiresAt metadata =>
    sqliteIssue H rows escrowId pccbId capability expiresAt metadata
  | .inspect escrowId => (sqliteInspect H rows escrowId, rows)
  | .consume escrowId pccbId capability now => sqliteConsume H rows escrowId pccbId capability now
  | .revoke escrowId reason => sqliteRevoke H rows escrowId reason

def Attempt.runSqlite (rows : Rows T J) (a : Attempt T M Z) : Answer T M Z × Rows T J :=
  match a.failure with
  | none => a.call.runSqlite H rows
  | some (name, committed) =>
    (.error (.other ⟨.other name, "the driver failed"⟩), if committed then (a.call.runSqlite H rows).2 else rows)

/-- call by call, what `SqliteCapabilityEscrow` gives -/
def runSqlite : List (Attempt T M Z) → Rows T J → List (Answer T M Z)
  | [], _ => []
  | a :: calls, rows => (a.runSqlite H rows).1 :: runSqlite calls (a.runSqlite H rows).2

/-- call by call, what `InMemoryCapabilityEscrow` gives -/
def runMemory : List (Attempt T M Z) → Records T M Z → List (Answer T M Z)
  | [], _ => []
  | a :: calls, records => (a.call.runInMemory H records).1 :: runMemory calls (a.call.runInMemory H records).2

end

/-! ## the calls of `Escrow.Calls` -/

/-- every text can be encoded, the time zone is UTC, and a JSON text is what it is read as -/
def plainHost (P : Platform) : Host String Dict Dict Unit where
  bind _ := .ok ()
  localMoment wall := .ok wall
  utcZone := ()
  dumps := reloadDict P
  loads := .ok
  noMetadata := []
  withReason metadata reason := metadata.set (.str "revocation_reason") (.str reason)
  equal d e := (Json.obj d).pyEq (.obj e)
  repr s := s

def utcClock (t : Datetime) : Clock Unit := .aware () t t.us

def callOf : EscrowCall → Call String Dict Unit
  | .issue escrowId pccbId capability expiresAt metadata =>
    .issue escrowId pccbId capability (utcClock expiresAt) metadata
  | .inspect escrowId => .inspect escrowId
  | .consume escrowId pccbId capability now => .consume escrowId pccbId capability (utcClock now)
  | .revoke escrowId reason => .revoke escrowId reason

def rowOf (record : EscrowRecord) : Row String Dict :=
  ⟨record.escrowId, record.pccbId, record.capability, record.expiresAt, record.state, record.consumedAt, record.metadata⟩

theorem rowOf_escrowId (record : EscrowRecord) : (rowOf record).escrowId = record.escrowId := rfl

def rowsOf (table : EscrowTable) : Rows String Dict := table.map rowOf rowOf_escrowId

/-- what a call gives, as a call of `Escrow.Calls` gives it -/
def answerOf (P : Platform) (result : PyM (Option EscrowRecord)) : Answer String Dict Unit :=
  result.map fun found => found.map fun record => (plainHost P).recordOf (rowOf record) record.metadata

section
variable {P : Platform} {table : EscrowTable} {escrowId : String}

theorem utc_utcClock (t : Datetime) : (plainHost P).utc (utcClock t) = .ok t := by
  unfold Host.utc utcClock Datetime.ofInt
  dsimp only
  rw [dif_pos ⟨Int.natCast_nonneg _, by have := t.lt; omega⟩]
  rfl

theorem find_rowsOf (id : String) : (rowsOf table).find id = (table.find id).map rowOf := Table.find_map ..

theorem select_rowsOf (id : String) :
    (plainHost P).select (rowsOf table) id = .ok ((table.find id).map fun record => (rowOf record, record.metadata)) := by
  unfold Host.select
  rw [find_rowsOf]
  cases table.find id <;> rfl

/-- a transaction that wrote a record, and then `inspect` -/
theorem exec_readBack {record : EscrowRecord} (message written : String) (hrecord : table.find escrowId = some record) :
    exec (fun tx w => tx.run P w) (thenReadBack escrowId message (.ok ())) table =
        (.ok (some record), table, [⟨.inspect escrowId, (.ok (some record) : PyM (Option EscrowRecord))⟩]) ∧
      sqliteReload (plainHost P) (rowsOf table) escrowId written = answerOf P (.ok (some record)) := by
  constructor
  · show exec _ (readBack escrowId message) table = _
    unfold readBack
    simp only [exec, EscrowTx.run, hrecord]
    rfl
  · unfold sqliteReload sqliteInspect
    rw [select_rowsOf, hrecord]
    rfl

theorem count_issued {record : EscrowRecord} (hr : table.find escrowId = some record) (hs : record.state = .issued) :
    table.count (isIssued escrowId) = 1 := by
  have hcount := Table.count_eq table escrowId (fun r => r.state = .issued)
  rw [hr] at hcount
  exact hcount.trans (if_pos (by simp [hs]))

/-- what a writing transaction of `Escrow.Calls` gives, after `inspect` -/
def writtenRows (P : Platform) (escrowId written : String) (result : PyM Unit × EscrowTable) :
    Answer String Dict Unit × Rows String Dict :=
  match result.1 with
  | .error e => (.error e, rowsOf result.2)
  | .ok () => (sqliteReload (plainHost P) (rowsOf result.2) escrowId written, rowsOf result.2)

theorem exec_written {result : PyM Unit × EscrowTable} (message written : String)
    (hfound : result.1 = .ok () → ∃ record, result.2.find escrowId = some record) :
    writtenRows P escrowId written result =
      (answerOf P (exec (fun tx w => tx.run P w) (thenReadBack escrowId message result.1) result.2).1,
        rowsOf (exec (fun tx w => tx.run P w) (thenReadBack escrowId message result.1) result.2).2.1) := by
  obtain ⟨outcome, table'⟩ := result
  cases outcome with
  | error e => rfl
  | ok u =>
    obtain ⟨record, hrecord⟩ := hfound rfl
    obtain ⟨hexec, hreload⟩ := exec_readBack (P := P) message written hrecord
    show (sqliteReload (plainHost P) (rowsOf table') escrowId written, rowsOf table') =
      (answerOf P (exec _ (thenReadBack escrowId message (.ok ())) table').1, _)
    rw [hexec, hreload]

theorem issueParameters_plain {clock : Clock Unit} {expiresAt : Datetime} (hclock : (plainHost P).utc clock = .ok expiresAt)
    (pccbId capability : String) (metadata : Option Dict) :
    (plainHost P).issueParameters escrowId pccbId capability clock metadata =
      (reloadDict P (metadata.getD [])).map fun loaded => (expiresAt, loaded) := by
  unfold Host.issueParameters
  rw [hclock]
  show (reloadDict P (metadata.getD []) >>= fun text => .ok (expiresAt, text)) = _
  cases reloadDict P (metadata.getD []) <;> rfl

theorem sqliteIssue_rows {clock : Clock Unit} {expiresAt : Datetime} (hclock : (plainHost P).utc clock = .ok expiresAt)
    (pccbId capability : String) (metadata : Option Dict) :
    sqliteIssue (plainHost P) (rowsOf table) escrowId pccbId capability clock metadata =
      writtenRows P escrowId "written" (issueRow P table escrowId pccbId capability expiresAt metadata) := by
  unfold sqliteIssue issueRow
  rw [issueParameters_plain hclock, find_rowsOf]
  cases reloadDict P (metadata.getD []) with
  | error e => rfl
  | ok loaded =>
    cases table.find escrowId with
    | some record => rfl
    | none =>
      have hinsert : (rowsOf table).insert (rowOf (issuedRecord escrowId pccbId capability expiresAt loaded)) =
          rowsOf (table.insert (issuedRecord escrowId pccbId capability expiresAt loaded)) := Table.insert_map ..
      unfold writtenRows
      simp only [Except.map, Option.map_none, Option.isSome_none, Bool.false_eq_true, if_false, ← hinsert]
      rfl

theorem sqliteRevoke_rows (reason : String) :
    sqliteRevoke (plainHost P) (rowsOf table) escrowId reason =
      writtenRows P escrowId "revoked" (revokeRow P table escrowId reason) := by
  unfold sqliteRevoke revokeRow
  rw [select_rowsOf]
  cases table.find escrowId with
  | none => rfl
  | some record =>
    have hdumps : (plainHost P).dumps ((plainHost P).withReason record.metadata reason) =
        reloadDict P (revocationMetadata record reason) := rfl
    dsimp only [Option.map_some]
    rw [hdumps]
    cases reloadDict P (revocationMetadata record reason) with
    | error e => rfl
    | ok metadata =>
      have hupdate : sqliteRewrite (rowsOf table) escrowId metadata = rowsOf (revokeRecord table escrowId metadata) :=
        Table.update_map rowOf rowOf_escrowId (fun _ => rfl) table _ _ fun _ => rfl
      dsimp only
      rw [hupdate]
      rfl

theorem sqliteConsume_rows {clock : Clock Unit} {now : Datetime} (hclock : (plainHost P).utc clock = .ok now)
    (pccbId capability : String) :
    sqliteConsume (plainHost P) (rowsOf table) escrowId pccbId capability clock =
      writtenRows P escrowId "consumed" (consumeRow table escrowId pccbId capability now) := by
  have hexpire : sqliteExpire (rowsOf table) escrowId = rowsOf (expireRecord table escrowId) :=
    Table.update_map rowOf rowOf_escrowId (fun _ => rfl) table _ _ fun _ => rfl
  have hmark : sqliteMark (rowsOf table) escrowId now = rowsOf (consumeRecord table escrowId now) :=
    Table.update_map rowOf rowOf_escrowId (fun _ => rfl) table _ _ fun _ => rfl
  have hcount : (rowsOf table).count (Row.isIssued escrowId) = table.count (isIssued escrowId) :=
    Table.count_map rowOf rowOf_escrowId (fun _ => rfl) table
  unfold sqliteConsume consumeRow
  rw [hclock, select_rowsOf]
  cases hfind : table.find escrowId with
  | none => rfl
  | some record =>
    dsimp only [Option.map_some]
    rw [show (rowOf record).state = record.state from rfl]
    cases hs : record.state with
    | revoked | consumed | expired => rfl
    | issued =>
      have hone : table.count (isIssued escrowId) = 1 := count_issued hfind hs
      have hcolumns : (rowOf record).expiresAt = record.expiresAt ∧ (rowOf record).pccbId = record.pccbId ∧
          (rowOf record).capability = record.capability := ⟨rfl, rfl, rfl⟩
      unfold sqliteTake
      rw [hcolumns.1, hcolumns.2.1, hcolumns.2.2, hexpire, hcount, hmark, hone]
      simp only [ne_eq, not_true_eq_false, if_false]
      split_ifs <;> rfl

theorem issueRow_found (P : Platform) (table : EscrowTable) (escrowId pccbId capability : String)
    (expiresAt : Datetime) (metadata : Option Dict)
    (hok : (issueRow P table escrowId pccbId capability expiresAt metadata).1 = .ok ()) :
    ∃ record, (issueRow P table escrowId pccbId capability expiresAt metadata).2.find escrowId = some record := by
  unfold issueRow at hok ⊢
  split
  · rename_i hload
    rw [hload] at hok
    cases hok
  · rename_i loaded hload
    rw [hload] at hok
    dsimp only at hok
    split_ifs at hok ⊢ with hfound
    · cases hok
    · have hnone : table.find escrowId = none := Option.not_isSome_iff_eq_none.mp hfound
      exact ⟨_, (Table.find_insert_of_none hnone escrowId).trans (if_pos rfl)⟩

/-- **With arguments that can all be converted the calls are those of `Escrow.Calls`.** -/
theorem runAlone_rows (P : Platform) (c : EscrowCall) (table : EscrowTable) :
    (callOf c).runSqlite (plainHost P) (rowsOf table) =
      (answerOf P (c.runAlone P table).1, rowsOf (c.runAlone P table).2.1) := by
  cases c with
  | inspect escrowId =>
    show (sqliteInspect (plainHost P) (rowsOf table) escrowId, rowsOf table) = _
    unfold sqliteInspect
    rw [select_rowsOf]
    show (_, _) = (answerOf P (.ok (table.find escrowId)), rowsOf table)
    cases table.find escrowId <;> rfl
  | issue escrowId pccbId capability expiresAt metadata =>
    show sqliteIssue (plainHost P) (rowsOf table) escrowId pccbId capability (utcClock expiresAt) metadata = _
    rw [sqliteIssue_rows (utc_utcClock expiresAt)]
    exact exec_written _ _ fun hok => issueRow_found _ _ _ _ _ _ _ hok
  | consume escrowId pccbId capability now =>
    show sqliteConsume (plainHost P) (rowsOf table) escrowId pccbId capability (utcClock now) = _
    rw [sqliteConsume_rows (utc_utcClock now)]
    refine exec_written _ _ fun hok => ?_
    have hstep : escrowStep P table ⟨.consume escrowId pccbId capability now, (.ok () : PyM Unit)⟩
        (consumeRow table escrowId pccbId capability now).2 := .inl (Prod.ext hok rfl)
    obtain ⟨record, -, -, -, -, -, hrecord⟩ := step_consume_ok hstep
    exact ⟨_, hrecord⟩
  | revoke escrowId reason =>
    show sqliteRevoke (plainHost P) (rowsOf table) escrowId reason = _
    rw [sqliteRevoke_rows]
    refine exec_written _ _ fun hok => ?_
    have hstep : escrowStep P table ⟨.revoke escrowId reason, (.ok () : PyM Unit)⟩
        (revokeRow P table escrowId reason).2 := .inl (Prod.ext hok rfl)
    obtain ⟨record, hrecord, -⟩ := step_revoke_ok hstep
    exact ⟨record, hrecord⟩

end

end Backends

end Actenon
