import ActenonKernel.Escrow.Sqlite

/-!
# Calls of the capability escrow (`actenon/escrow/sqlite.py`)

`issue`, `consume` and `revoke` are one writing transaction each and then `inspect`, which reads the
record in a transaction of its own; other callers' transactions come in between.  The column
`metadata_json` holds a text; here it is the value that `json.loads` makes of it.

* `reload`               `json.loads(json.dumps(x, sort_keys=True))`;
* `EscrowTx.run`         one transaction;
* `EscrowCall.program`   a call as a program over the transactions;
* `EscrowHistory`        any number of calls over one table;
* `find_run`             what a transaction can do to the record of an identifier, said once;
* `escrow_single_consumption`    one consumption, and only of an issued record.
-/

set_option linter.unusedSectionVars false

namespace Actenon

open Program

/-! ## the column `metadata_json` -/

/-- a key as the encoder writes it -/
def encodeKey (P : Platform) : Key → Except PyError String
  | .str s => .ok s
  | .none => .ok "null"
  | .num f => P.repr (Key.num f).toJson
  | .tup _ => typeError "keys must be str, int, float, bool or None, not tuple"

/-- `sorted(d.items())` can compare the keys -/
def sortableKeys (d : Dict) : Bool :=
  d.length ≤ 1 || (d.all fun p => p.1 matches .str _) || d.all fun p => p.1 matches .num _

mutual

/-- `json.loads(json.dumps(x, sort_keys=True))` -/
def reload (P : Platform) : Json → Except PyError Json
  | .null => .ok .null
  | .bool b => .ok (.bool b)
  | .int n => do
    let _ ← intRepr n
    return .int n
  | .float f => .ok (.float f)
  | .str s => .ok (.str s)
  | .arr xs => do
    let ys ← reloadItems P xs
    return .arr ys
  | .tup xs => do
    let ys ← reloadItems P xs
    return .arr ys
  | .obj kvs => do
    if !sortableKeys kvs then typeError "'<' not supported between instances of different types"
    let ms ← reloadMembers P kvs
    return .obj (members (sortMembers ms))

def reloadItems (P : Platform) : List Json → Except PyError (List Json)
  | [] => .ok []
  | x :: xs => do
    let y ← reload P x
    let ys ← reloadItems P xs
    return y :: ys

def reloadMembers (P : Platform) : Dict → Except PyError (List (String × Json))
  | [] => .ok []
  | (k, x) :: kvs => do
    let name ← encodeKey P k
    let y ← reload P x
    let ms ← reloadMembers P kvs
    return (name, y) :: ms

end

/-- the same for a dictionary -/
def reloadDict (P : Platform) (d : Dict) : Except PyError Dict := do
  if !sortableKeys d then typeError "'<' not supported between instances of different types"
  let ms ← reloadMembers P d
  return members (sortMembers ms)

/-! ## transactions -/

def escrowAlreadyExists : RefusalException :=
  escrowValidationError "ESCROW_ALREADY_EXISTS" "The escrow record already exists."

/-- the record that `issue` writes -/
def issuedRecord (escrowId pccbId capability : String) (expiresAt : Datetime) (metadata : Dict) :
    EscrowRecord where
  escrowId := escrowId
  pccbId := pccbId
  capability := capability
  expiresAt := expiresAt
  metadata := metadata

/-- the transaction of `issue`; `metadata or {}` -/
def issueRow (P : Platform) (table : EscrowTable) (escrowId pccbId capability : String)
    (expiresAt : Datetime) (metadata : Option Dict) : PyM Unit × EscrowTable :=
  match reloadDict P (metadata.getD []) with
  | .error e => (.error (.other e), table)
  | .ok loaded =>
    if (table.find escrowId).isSome then (raiseRefusal escrowAlreadyExists, table)
    else (.ok (), table.insert (issuedRecord escrowId pccbId capability expiresAt loaded))

/-- `SET state = 'revoked', metadata_json` -/
def EscrowRecord.revoke (metadata : Dict) (record : EscrowRecord) : EscrowRecord :=
  { record with state := .revoked, metadata := metadata }

def revokeRecord (table : EscrowTable) (escrowId : String) (metadata : Dict) : EscrowTable :=
  table.update (fun record => record.escrowId = escrowId) (EscrowRecord.revoke metadata) fun _ => rfl

/-- `{**record.metadata, "revocation_reason": reason}` -/
def revocationMetadata (record : EscrowRecord) (reason : String) : Dict :=
  record.metadata.set (.str "revocation_reason") (.str reason)

/-- the transaction of `revoke` -/
def revokeRow (P : Platform) (table : EscrowTable) (escrowId reason : String) : PyM Unit × EscrowTable :=
  match table.find escrowId with
  | none => (raiseRefusal escrowNotFound, table)
  | some record =>
    match reloadDict P (revocationMetadata record reason) with
    | .error e => (.error (.other e), table)
    | .ok metadata => (.ok (), revokeRecord table escrowId metadata)

inductive EscrowTx where
  | issue (escrowId pccbId capability : String) (expiresAt : Datetime) (metadata : Option Dict)
  | inspect (escrowId : String)
  | consume (escrowId pccbId capability : String) (now : Datetime)
  | revoke (escrowId reason : String)

def EscrowTx.Result : EscrowTx → Type
  | .inspect _ => Option EscrowRecord
  | _ => Unit

/-- what a transaction tells its caller -/
abbrev EscrowTx.Answer (tx : EscrowTx) : Type := PyM tx.Result

def EscrowTx.run (P : Platform) (table : EscrowTable) : (tx : EscrowTx) → tx.Answer × EscrowTable
  | .issue escrowId pccbId capability expiresAt metadata =>
    issueRow P table escrowId pccbId capability expiresAt metadata
  | .inspect escrowId => (.ok (table.find escrowId), table)
  | .consume escrowId pccbId capability now => consumeRow table escrowId pccbId capability now
  | .revoke escrowId reason => revokeRow P table escrowId reason

/-! ## calls -/

inductive EscrowCall where
  | issue (escrowId pccbId capability : String) (expiresAt : Datetime) (metadata : Option Dict)
  | inspect (escrowId : String)
  | consume (escrowId pccbId capability : String) (now : Datetime)
  | revoke (escrowId reason : String)

abbrev EscrowProg := Prog EscrowTx EscrowTx.Answer (PyM (Option EscrowRecord))

abbrev EscrowEvent := Event EscrowTx.Answer

/-- `written = self.inspect(escrow_id)` -/
def readBack (escrowId message : String) : EscrowProg :=
  .call (.inspect escrowId) fun (answer : PyM (Option EscrowRecord)) =>
    match answer with
    | .error e => .ret (.error e)
    | .ok none => .ret (.error (.other ⟨.other "RuntimeError", message⟩))
    | .ok (some record) => .ret (.ok (some record))

/-- a writing transaction that returns, then `inspect` -/
def thenReadBack (escrowId message : String) : PyM Unit → EscrowProg
  | .error e => .ret (.error e)
  | .ok () => readBack escrowId message

/-- a call of `SqliteCapabilityEscrow` -/
def EscrowCall.program : EscrowCall → EscrowProg
  | .issue escrowId pccbId capability expiresAt metadata =>
    .call (.issue escrowId pccbId capability expiresAt metadata)
      (thenReadBack escrowId s!"escrow record {escrowId} was written but could not be reloaded")
  | .inspect escrowId => .call (.inspect escrowId) fun answer => .ret answer
  | .consume escrowId pccbId capability now =>
    .call (.consume escrowId pccbId capability now)
      (thenReadBack escrowId s!"escrow record {escrowId} was consumed but could not be reloaded")
  | .revoke escrowId reason =>
    .call (.revoke escrowId reason)
      (thenReadBack escrowId s!"escrow record {escrowId} was revoked but could not be reloaded")

/-- one transaction in a history; one that fails in the driver, or in what reads the row, has committed or not -/
def escrowStep (P : Platform) (table : EscrowTable) (e : EscrowEvent) (table' : EscrowTable) : Prop :=
  e.1.run P table = (e.2, table') ∨
    ∃ error, e.2 = .error (.other error) ∧ (table' = table ∨ table' = (e.1.run P table).2)

/-- calls, each as far as it got, whose transactions come in any order -/
structure EscrowHistory (P : Platform) {ι : Type} [DecidableEq ι] (calls : ι → EscrowCall)
    (w : EscrowTable) (h : List (ι × EscrowEvent)) (w' : EscrowTable) : Prop where
  follows : Follows (escrowStep P) w (h.map Prod.snd) w'
  reached : ∀ i, ∃ p, Reaches (calls i).program (proj i h) p

/-! ## what a transaction does to a record -/

/-- what `consume` does, by the record it finds -/
theorem consumeRow_cases (table : EscrowTable) (escrowId pccbId capability : String) (now : Datetime) :
    (∃ e, consumeRow table escrowId pccbId capability now = (.error e, table)) ∨
      (∃ e record, table.find escrowId = some record ∧ record.state = .issued ∧ record.expiresAt < now ∧
        consumeRow table escrowId pccbId capability now = (.error e, expireRecord table escrowId)) ∨
      ∃ record, table.find escrowId = some record ∧ record.state = .issued ∧ now ≤ record.expiresAt ∧
        record.pccbId = pccbId ∧ record.capability = capability ∧
        consumeRow table escrowId pccbId capability now = (.ok (), consumeRecord table escrowId now) := by
  unfold consumeRow
  split
  · exact Or.inl ⟨_, rfl⟩
  · rename_i record hrecord
    cases hs : record.state with
    | revoked => exact Or.inl ⟨_, rfl⟩
    | consumed => exact Or.inl ⟨_, rfl⟩
    | expired => exact Or.inl ⟨_, rfl⟩
    | issued =>
      dsimp only
      by_cases hlate : record.expiresAt < now
      · rw [if_pos hlate]
        exact Or.inr (Or.inl ⟨_, record, hrecord, hs, hlate, rfl⟩)
      · rw [if_neg hlate]
        split
        · exact Or.inl ⟨_, rfl⟩
        · rename_i hpccb
          split
          · exact Or.inl ⟨_, rfl⟩
          · rename_i hcapability
            split
            · exact Or.inl ⟨_, rfl⟩
            · have hnow : now ≤ record.expiresAt := Nat.le_of_not_lt hlate
              exact Or.inr (Or.inr ⟨record, hrecord, hs, hnow, not_not.mp hpccb, not_not.mp hcapability, rfl⟩)

theorem find_guarded (table : EscrowTable) (escrowId : String) {f : EscrowRecord → EscrowRecord}
    (hf : ∀ r, (f r).escrowId = r.escrowId) (id : String) :
    (table.update (isIssued escrowId) f hf).find id = table.find id ∨
      id = escrowId ∧ ∃ record, table.find id = some record ∧ record.state = .issued ∧
        (table.update (isIssued escrowId) f hf).find id = some (f record) := by
  rw [Table.find_update]
  cases hr : table.find id with
  | none => exact Or.inl rfl
  | some record =>
    have hid : record.escrowId = id := Table.key_of_find hr
    by_cases hi : isIssued escrowId record = true
    · have hi' := hi
      unfold isIssued at hi'
      rw [Bool.and_eq_true, decide_eq_true_iff, decide_eq_true_iff] at hi'
      refine Or.inr ⟨hid.symm.trans hi'.1, record, rfl, hi'.2, ?_⟩
      rw [Option.map_some, if_pos hi]
    · left
      rw [Option.map_some, if_neg hi]

theorem find_revokeRecord (table : EscrowTable) (escrowId : String) (metadata : Dict) (id : String) :
    (revokeRecord table escrowId metadata).find id = (table.find id).map fun record =>
      if record.escrowId = escrowId then record.revoke metadata else record := by
  refine (Table.find_update ..).trans ?_
  simp only [decide_eq_true_eq]

/-- a record is kept, is written as issued where there was none, or ends up in another state -/
def RecordStep (before after : Option EscrowRecord) : Prop :=
  after = before ∨
    (before = none ∧ ∃ record, after = some record ∧ record.state = .issued) ∨
    ∃ record record', before = some record ∧ after = some record' ∧ record'.state ≠ .issued

/-- **What a transaction can do to the record of an identifier.** -/
theorem find_run (P : Platform) (table : EscrowTable) (tx : EscrowTx) (id : String) :
    RecordStep (table.find id) ((tx.run P table).2.find id) := by
  cases tx with
  | inspect escrowId => exact Or.inl rfl
  | issue escrowId pccbId capability expiresAt metadata =>
    show RecordStep _ ((issueRow P table escrowId pccbId capability expiresAt metadata).2.find id)
    unfold issueRow
    split
    · exact Or.inl rfl
    · rename_i loaded hloaded
      split
      · exact Or.inl rfl
      · rename_i hnone
        rw [Option.not_isSome_iff_eq_none] at hnone
        have hfind := Table.find_insert_of_none (r := issuedRecord escrowId pccbId capability expiresAt loaded)
          hnone id
        by_cases hid : escrowId = id
        · subst hid
          exact Or.inr (Or.inl ⟨hnone, _, hfind.trans (if_pos rfl), rfl⟩)
        · exact Or.inl (hfind.trans (if_neg hid))
  | consume escrowId pccbId capability now =>
    show RecordStep _ ((consumeRow table escrowId pccbId capability now).2.find id)
    rcases consumeRow_cases table escrowId pccbId capability now with
      ⟨e, h⟩ | ⟨e, record, -, -, -, h⟩ | ⟨record, -, -, -, -, -, h⟩
    · rw [h]
      exact Or.inl rfl
    · rw [h]
      rcases find_guarded table escrowId (f := EscrowRecord.expire) (fun _ => rfl) id with
        h | ⟨-, record, hr, -, h⟩
      · exact Or.inl h
      · exact Or.inr (Or.inr ⟨record, _, hr, h, by simp [EscrowRecord.expire]⟩)
    · rw [h]
      rcases find_guarded table escrowId (f := fun r => r.consume now) (fun _ => rfl) id with
        h | ⟨-, record, hr, -, h⟩
      · exact Or.inl h
      · exact Or.inr (Or.inr ⟨record, _, hr, h, by simp [EscrowRecord.consume]⟩)
  | revoke escrowId reason =>
    show RecordStep _ ((revokeRow P table escrowId reason).2.find id)
    unfold revokeRow
    split
    · exact Or.inl rfl
    · split
      · exact Or.inl rfl
      · rename_i metadata hmetadata
        dsimp only
        rw [find_revokeRecord]
        cases hr : table.find id with
        | none => exact Or.inl rfl
        | some record =>
          rw [Option.map_some]
          split
          · exact Or.inr (Or.inr ⟨record, _, rfl, rfl, by simp [EscrowRecord.revoke]⟩)
          · exact Or.inl rfl

/-- the record of an identifier is there and has left the state `issued` -/
def EscrowEnded (id : String) (table : EscrowTable) : Prop :=
  ∃ record, table.find id = some record ∧ record.state ≠ .issued

theorem RecordStep.present {before after : Option EscrowRecord} (h : RecordStep before after)
    (hb : before.isSome) : after.isSome := by
  rcases h with h | ⟨h, -⟩ | ⟨record, record', -, h, -⟩
  · rw [h]
    exact hb
  · rw [h] at hb
    cases hb
  · rw [h]
    rfl

section
variable {P : Platform} {w w' : EscrowTable} {e : EscrowEvent} {t : List EscrowEvent} {id : String}

theorem escrowStep_find (h : escrowStep P w e w') (id : String) : RecordStep (w.find id) (w'.find id) := by
  have hrun := find_run P w e.1 id
  rcases h with h | ⟨error, -, rfl | rfl⟩
  · rw [h] at hrun
    exact hrun
  · exact Or.inl rfl
  · exact hrun

/-- a transaction that answers has run to its end -/
theorem escrowStep_ok {tx : EscrowTx} {result : tx.Result} (h : escrowStep P w ⟨tx, .ok result⟩ w') :
    tx.run P w = (.ok result, w') := by
  rcases h with h | ⟨error, h, -⟩
  · exact h
  · cases h

/-- and so has one that refuses -/
theorem escrowStep_refusal {tx : EscrowTx} {exc : RefusalException}
    (h : escrowStep P w ⟨tx, .error (.refusal exc)⟩ w') : tx.run P w = (.error (.refusal exc), w') := by
  rcases h with h | ⟨error, h, -⟩
  · exact h
  · cases h

/-- a record never returns to the state `issued` -/
theorem step_ended (h : escrowStep P w e w') (hw : EscrowEnded id w) : EscrowEnded id w' := by
  obtain ⟨record, hr, hs⟩ := hw
  rcases escrowStep_find h id with hk | ⟨hk, -⟩ | ⟨-, record', -, hk, hs'⟩
  · exact ⟨record, hk.trans hr, hs⟩
  · cases hk.symm.trans hr
  · exact ⟨record', hk, hs'⟩

theorem follows_ended (h : Follows (escrowStep P) w t w') (hw : EscrowEnded id w) : EscrowEnded id w' :=
  follows_invariant (I := EscrowEnded id) (fun _ _ _ hs hv => step_ended hs hv) h hw

end

/-! ## what the answers tell -/

section
variable {P : Platform} {w w' : EscrowTable}

/-- the record of `id` went from issued to expired, past its end -/
def Expires (id : String) (now : Datetime) (w w' : EscrowTable) : Prop :=
  ∃ record, w.find id = some record ∧ record.state = .issued ∧ record.expiresAt < now ∧
    w'.find id = some record.expire

/-- the record of `id` was issued, matching and not past its end, and is consumed -/
def Consumes (id pccbId capability : String) (now : Datetime) (w w' : EscrowTable) : Prop :=
  ∃ record, w.find id = some record ∧ record.state = .issued ∧ record.pccbId = pccbId ∧
    record.capability = capability ∧ now ≤ record.expiresAt ∧ w'.find id = some (record.consume now)

theorem step_inspect {id : String} {found : Option EscrowRecord}
    (h : escrowStep P w ⟨.inspect id, (.ok found : PyM (Option EscrowRecord))⟩ w') : found = w.find id := by
  have hrun := escrowStep_ok h
  cases hrun
  rfl

/-- a reading transaction leaves the table -/
theorem step_inspect_table {id : String} {answer : PyM (Option EscrowRecord)}
    (h : escrowStep P w ⟨.inspect id, answer⟩ w') : w' = w := by
  rcases h with h | ⟨error, -, h | h⟩
  · exact (Prod.mk.inj h).2.symm
  · exact h
  · exact h

/-- a consumption that is reported found the record issued, matching and not past its end -/
theorem step_consume_ok {id pccbId capability : String} {now : Datetime}
    (h : escrowStep P w ⟨.consume id pccbId capability now, (.ok () : PyM Unit)⟩ w') :
    Consumes id pccbId capability now w w' := by
  have h' : consumeRow w id pccbId capability now = (.ok (), w') := escrowStep_ok h
  rcases consumeRow_cases w id pccbId capability now with
    ⟨e, hc⟩ | ⟨e, record, -, -, -, hc⟩ | ⟨record, hr, hs, hn, hp, hcap, hc⟩
  · cases (Prod.mk.inj (hc.symm.trans h')).1
  · cases (Prod.mk.inj (hc.symm.trans h')).1
  · obtain rfl := (Prod.mk.inj (hc.symm.trans h')).2
    refine ⟨record, hr, hs, hp, hcap, hn, ?_⟩
    have hi : isIssued id record = true := by
      have hid : record.escrowId = id := Table.key_of_find hr
      simp [isIssued, hid, hs]
    refine (Table.find_update ..).trans ?_
    rw [hr, Option.map_some, if_pos hi]

/-- what the transaction of `consume` does to the table -/
theorem consumeRow_find (w : EscrowTable) (id pccbId capability : String) (now : Datetime) (id' : String) :
    (consumeRow w id pccbId capability now).2.find id' = w.find id' ∨
      id' = id ∧ (Expires id now w (consumeRow w id pccbId capability now).2 ∨
        (consumeRow w id pccbId capability now).1 = .ok () ∧
          Consumes id pccbId capability now w (consumeRow w id pccbId capability now).2) := by
  rcases consumeRow_cases w id pccbId capability now with
    ⟨e, h⟩ | ⟨e, record, hr, hs, hlate, h⟩ | ⟨record, hr, hs, hn, hp, hcap, h⟩
  · rw [h]
    exact Or.inl rfl
  · rw [h]
    rcases find_guarded w id (f := EscrowRecord.expire) (fun _ => rfl) id' with hk | ⟨rfl, record', hr', -, hk⟩
    · exact Or.inl hk
    · cases hr.symm.trans hr'
      exact Or.inr ⟨rfl, Or.inl ⟨record, hr, hs, hlate, hk⟩⟩
  · rw [h]
    rcases find_guarded w id (f := fun r => r.consume now) (fun _ => rfl) id' with hk | ⟨rfl, record', hr', -, hk⟩
    · exact Or.inl hk
    · cases hr.symm.trans hr'
      exact Or.inr ⟨rfl, Or.inr ⟨rfl, record, hr, hs, hp, hcap, hn, hk⟩⟩

/-- one that is refused changes nothing but its own record, from issued to expired -/
theorem step_consume_refused {id pccbId capability : String} {now : Datetime} {exc : RefusalException}
    (h : escrowStep P w ⟨.consume id pccbId capability now, (.error (.refusal exc) : PyM Unit)⟩ w') (id' : String) :
    w'.find id' = w.find id' ∨ id' = id ∧ Expires id now w w' := by
  have h' : consumeRow w id pccbId capability now = (.error (.refusal exc), w') := escrowStep_refusal h
  have hfind := consumeRow_find w id pccbId capability now id'
  rw [h'] at hfind
  rcases hfind with hk | ⟨hid, hk | ⟨hok, -⟩⟩
  · exact Or.inl hk
  · exact Or.inr ⟨hid, hk⟩
  · cases hok

/-- whatever it answers, it changes nothing but its own record, from issued to expired or to consumed -/
theorem step_consume_find {id pccbId capability : String} {now : Datetime} {answer : PyM Unit}
    (h : escrowStep P w ⟨.consume id pccbId capability now, answer⟩ w') (id' : String) :
    w'.find id' = w.find id' ∨
      id' = id ∧ (Expires id now w w' ∨ Consumes id pccbId capability now w w') := by
  have hrun : w' = w ∨ w' = (consumeRow w id pccbId capability now).2 := by
    rcases h with h | ⟨error, -, h⟩
    · exact Or.inr (congrArg Prod.snd h).symm
    · exact h
  rcases hrun with rfl | rfl
  · exact Or.inl rfl
  · rcases consumeRow_find w id pccbId capability now id' with hk | ⟨hid, hk | ⟨-, hk⟩⟩
    · exact Or.inl hk
    · exact Or.inr ⟨hid, Or.inl hk⟩
    · exact Or.inr ⟨hid, Or.inr hk⟩

theorem step_revoke_ok {id reason : String}
    (h : escrowStep P w ⟨.revoke id reason, (.ok () : PyM Unit)⟩ w') : EscrowEnded id w' := by
  have h' : revokeRow P w id reason = (.ok (), w') := escrowStep_ok h
  unfold revokeRow at h'
  split at h'
  · cases (Prod.mk.inj h').1
  · rename_i record hr
    split at h'
    · cases (Prod.mk.inj h').1
    · rename_i metadata hmetadata
      obtain rfl := (Prod.mk.inj h').2
      have hid : record.escrowId = id := Table.key_of_find hr
      refine ⟨record.revoke metadata, ?_, by simp [EscrowRecord.revoke]⟩
      rw [find_revokeRecord, hr, Option.map_some, if_pos hid]

end

/-! ## what the calls do -/

/-- the call has returned a record, or nothing -/
def EscrowCall.Succeeds (c : EscrowCall) (t : List EscrowEvent) : Prop :=
  ∃ record, Reaches c.program t (.ret (.ok record))

/-- the call has raised -/
def EscrowCall.Fails (c : EscrowCall) (t : List EscrowEvent) : Prop :=
  ∃ e, Reaches c.program t (.ret (.error e))

/-- the call has raised a refusal -/
def EscrowCall.Refused (c : EscrowCall) (t : List EscrowEvent) : Prop :=
  ∃ exc, Reaches c.program t (.ret (.error (.refusal exc)))

/-- what comes after the writing transaction -/
theorem reaches_readBack {id message : String} {result : PyM (Option EscrowRecord)} {answer : PyM Unit}
    {t : List EscrowEvent} (h : Reaches (thenReadBack id message answer) t (.ret result)) :
    (∃ e, answer = .error e ∧ result = .error e ∧ t = []) ∨
      (answer = .ok () ∧ ∃ x : PyM (Option EscrowRecord), t = [⟨.inspect id, x⟩] ∧
        ∀ exc, result = .error (.refusal exc) → x = .error (.refusal exc)) := by
  cases answer with
  | error e =>
    obtain ⟨rfl, hret⟩ := h.of_ret
    cases hret
    exact Or.inl ⟨e, rfl, rfl, rfl⟩
  | ok u =>
    refine Or.inr ⟨rfl, ?_⟩
    cases h with
    | cons x h =>
      change PyM (Option EscrowRecord) at x
      match x with
      | .error e =>
        obtain ⟨rfl, hret⟩ := h.of_ret
        cases hret
        exact ⟨_, rfl, fun exc he => he⟩
      | .ok none =>
        obtain ⟨rfl, hret⟩ := h.of_ret
        cases hret
        exact ⟨_, rfl, fun exc he => nomatch he⟩
      | .ok (some record) =>
        obtain ⟨rfl, hret⟩ := h.of_ret
        cases hret
        exact ⟨_, rfl, fun exc he => nomatch he⟩

theorem only_thenReadBack {I : EscrowTx → Prop} {id message : String} (h : I (.inspect id)) (answer : PyM Unit) :
    Only I (fun _ => True) (thenReadBack id message answer) := by
  cases answer with
  | error e => trivial
  | ok u =>
    refine ⟨h, fun x => ?_⟩
    change PyM (Option EscrowRecord) at x
    match x with
    | .error e => trivial
    | .ok none => trivial
    | .ok (some record) => trivial

section
variable {P : Platform} {ι : Type} [DecidableEq ι] {calls : ι → EscrowCall} {w w' : EscrowTable}
  {h : List (ι × EscrowEvent)} {i : ι} {escrowId pccbId capability : String} {now : Datetime}

theorem consume_succeeded {t : List EscrowEvent}
    (hs : (EscrowCall.consume escrowId pccbId capability now).Succeeds t) :
    ∃ t', t = ⟨.consume escrowId pccbId capability now, (.ok () : PyM Unit)⟩ :: t' := by
  obtain ⟨record, hs⟩ := hs
  cases hs with
  | cons a hs =>
    rcases reaches_readBack hs with ⟨e, -, he, -⟩ | ⟨rfl, -⟩
    · cases he
    · exact ⟨_, rfl⟩

theorem revoke_succeeded {reason : String} {t : List EscrowEvent}
    (hs : (EscrowCall.revoke escrowId reason).Succeeds t) :
    ⟨.revoke escrowId reason, (.ok () : PyM Unit)⟩ ∈ t := by
  obtain ⟨record, hs⟩ := hs
  cases hs with
  | cons a hs =>
    rcases reaches_readBack hs with ⟨e, -, he, -⟩ | ⟨rfl, -⟩
    · cases he
    · exact List.mem_cons_self

/-- the table before and after an event of a history -/
theorem escrowHistory_split (H : EscrowHistory P calls w h w') {before after : List (ι × EscrowEvent)}
    {e : EscrowEvent} (hh : h = before ++ (i, e) :: after) :
    ∃ v v', Follows (escrowStep P) w (before.map Prod.snd) v ∧ escrowStep P v e v' ∧
      Follows (escrowStep P) v' (after.map Prod.snd) w' := by
  have hf := H.follows
  rw [hh, List.map_append, List.map_cons, follows_append] at hf
  obtain ⟨v, hb, v', he, ha⟩ := hf
  exact ⟨v, v', hb, he, ha⟩

/-- `inspect` does not refuse: a refused `consume` is its one transaction -/
theorem refused_alone (H : EscrowHistory P calls w h w')
    (hc : calls i = .consume escrowId pccbId capability now) (hs : (calls i).Refused (proj i h)) :
    ∃ exc, proj i h = [⟨.consume escrowId pccbId capability now, (.error (.refusal exc) : PyM Unit)⟩] := by
  obtain ⟨exc, hs⟩ := hs
  rw [hc] at hs
  generalize ht : proj i h = t at hs
  cases hs with
  | @cons _ _ a t' _ hs =>
    rcases reaches_readBack hs with ⟨e', rfl, he, rfl⟩ | ⟨rfl, x, rfl, hx⟩
    · cases he
      exact ⟨exc, rfl⟩
    · obtain ⟨before, rest, rfl, -, hrest⟩ := proj_eq_append_cons (t := []) ht
      obtain ⟨v, v', -, -, hafter⟩ := escrowHistory_split H rfl
      obtain ⟨mid, last, rfl, -, -⟩ := proj_eq_append_cons (t := []) hrest
      rw [List.map_append, List.map_cons, follows_append] at hafter
      obtain ⟨u, -, u', hu, -⟩ := hafter
      rw [hx exc rfl] at hu
      cases escrowStep_refusal hu

/-- the transactions of a `consume`: its own and the read of `inspect` -/
theorem consume_events {p : EscrowProg} {t : List EscrowEvent}
    (hs : Reaches (EscrowCall.consume escrowId pccbId capability now).program t p) :
    ∀ e ∈ t, e.1 = .consume escrowId pccbId capability now ∨ e.1 = .inspect escrowId := by
  have hprogram : Only (fun tx => tx = .consume escrowId pccbId capability now ∨ tx = .inspect escrowId)
      (fun _ => True) (EscrowCall.consume escrowId pccbId capability now).program :=
    ⟨Or.inl rfl, fun answer => only_thenReadBack (Or.inr rfl) answer⟩
  exact hprogram.mem hs

/-- before a consumption the record was issued wherever it was there -/
theorem issued_before {b : List EscrowEvent} {u v : EscrowTable} {record : EscrowRecord}
    (hb : Follows (escrowStep P) u b v) (hv : v.find escrowId = some record) (hs : record.state = .issued) :
    ¬ EscrowEnded escrowId u := by
  intro hu
  obtain ⟨record', hr, hs'⟩ := follows_ended hb hu
  cases hv.symm.trans hr
  exact hs' hs

/-- two consumptions of one record are one event -/
theorem consumptions_eq {before after before' after' : List (ι × EscrowEvent)} {j : ι}
    {pccbId' capability' : String} {now' : Datetime} (H : EscrowHistory P calls w h w')
    (hi : h = before ++ (i, ⟨.consume escrowId pccbId capability now, (.ok () : PyM Unit)⟩) :: after)
    (hj : h = before' ++ (j, ⟨.consume escrowId pccbId' capability' now', (.ok () : PyM Unit)⟩) :: after') :
    i = j := by
  -- the earlier one ends the record, the later one finds it issued
  have key : ∀ {a m c : List (ι × EscrowEvent)} {k l : ι} {p p' q q' : String} {n n' : Datetime},
      h = (a ++ (k, ⟨.consume escrowId p q n, (.ok () : PyM Unit)⟩) :: m) ++
        (l, ⟨.consume escrowId p' q' n', (.ok () : PyM Unit)⟩) :: c → False := by
    intro a m c k l p p' q q' n n' hh
    obtain ⟨v, v', hb, hv, -⟩ := escrowHistory_split H hh
    rw [List.map_append, List.map_cons, follows_append] at hb
    obtain ⟨u, -, u', hu, hm⟩ := hb
    obtain ⟨record, -, -, -, -, -, hend⟩ := step_consume_ok hu
    obtain ⟨record', hr', hs', -⟩ := step_consume_ok hv
    exact issued_before hm hr' hs' ⟨_, hend, by simp [EscrowRecord.consume]⟩
  rcases append_cons_cases (hi.symm.trans hj) with ⟨-, he⟩ | ⟨m, rfl⟩ | ⟨m, rfl⟩
  · exact (Prod.mk.inj he).1
  · exact (key hj).elim
  · exact (key hi).elim

/-- **Single consumption.**  In every history of calls on one table, driver failures included: at most one
`consume` of an identifier succeeds; where it does, the record was issued, matched and was not past its end,
had never been in another state and no `revoke` of it had succeeded; one that is refused changes no record but
its own, from issued to expired; and one that fails otherwise may also have consumed its own record, if that
was issued, matched and was not past its end. -/
theorem escrow_single_consumption (H : EscrowHistory P calls w h w') :
    (∀ escrowId i j pccbId pccbId' capability capability' now now',
      calls i = .consume escrowId pccbId capability now →
      calls j = .consume escrowId pccbId' capability' now' →
      (calls i).Succeeds (proj i h) → (calls j).Succeeds (proj j h) → i = j) ∧
    (∀ i escrowId pccbId capability now, calls i = .consume escrowId pccbId capability now →
      (calls i).Succeeds (proj i h) →
      ∃ before after v record,
        h = before ++ (i, ⟨.consume escrowId pccbId capability now, (.ok () : PyM Unit)⟩) :: after ∧
        Follows (escrowStep P) w (before.map Prod.snd) v ∧ v.find escrowId = some record ∧
        record.state = .issued ∧ record.pccbId = pccbId ∧ record.capability = capability ∧
        now ≤ record.expiresAt ∧
        (∀ b c u r, before = b ++ c → Follows (escrowStep P) w (b.map Prod.snd) u →
          Follows (escrowStep P) u (c.map Prod.snd) v → u.find escrowId = some r → r.state = .issued) ∧
        ∀ j reason, calls j = .revoke escrowId reason → ¬ (calls j).Succeeds (proj j before)) ∧
    ∀ i escrowId pccbId capability now, calls i = .consume escrowId pccbId capability now →
      ∀ before after e v v', h = before ++ (i, e) :: after →
        Follows (escrowStep P) w (before.map Prod.snd) v → escrowStep P v e v' → ∀ id,
          ((calls i).Refused (proj i h) → v'.find id = v.find id ∨ id = escrowId ∧ Expires escrowId now v v') ∧
          (v'.find id = v.find id ∨
            id = escrowId ∧ (Expires escrowId now v v' ∨ Consumes escrowId pccbId capability now v v')) := by
  refine ⟨?_, ?_, ?_⟩
  · intro escrowId i j pccbId pccbId' capability capability' now now' hi hj hsi hsj
    rw [hi] at hsi
    rw [hj] at hsj
    obtain ⟨t, ht⟩ := consume_succeeded hsi
    obtain ⟨t', ht'⟩ := consume_succeeded hsj
    obtain ⟨before, after, hh, -, -⟩ := proj_eq_append_cons (t := []) ht
    obtain ⟨before', after', hh', -, -⟩ := proj_eq_append_cons (t := []) ht'
    exact consumptions_eq H hh hh'
  · intro i escrowId pccbId capability now hi hs
    rw [hi] at hs
    obtain ⟨t, ht⟩ := consume_succeeded hs
    obtain ⟨before, after, hh, -, -⟩ := proj_eq_append_cons (t := []) ht
    obtain ⟨v, v', hb, hv, -⟩ := escrowHistory_split H hh
    obtain ⟨record, hr, hissued, hp, hc, hn, -⟩ := step_consume_ok hv
    refine ⟨before, after, v, record, hh, hb, hr, hissued, hp, hc, hn, ?_, ?_⟩
    · intro b c u r _ _ hcv hu
      by_contra hne
      exact issued_before hcv hr hissued ⟨r, hu, hne⟩
    · intro j reason hj hsj
      rw [hj] at hsj
      obtain ⟨b, c, rfl⟩ := List.append_of_mem (mem_proj.mp (revoke_succeeded hsj))
      rw [List.map_append, List.map_cons, follows_append] at hb
      obtain ⟨u, -, u', hu, hcv⟩ := hb
      exact issued_before hcv hr hissued (step_revoke_ok hu)
  · intro i escrowId pccbId capability now hi before after e v v' hh _ hstep id
    have he : e ∈ proj i h := mem_proj.mpr (by rw [hh]; simp)
    constructor
    · intro hs
      obtain ⟨exc, ht⟩ := refused_alone H hi hs
      rw [ht, List.mem_singleton] at he
      subst he
      exact step_consume_refused hstep id
    · obtain ⟨p, hp⟩ := H.reached i
      rw [hi] at hp
      obtain ⟨tx, answer⟩ := e
      rcases consume_events hp _ he with htx | htx
      · change tx = _ at htx
        subst htx
        exact step_consume_find hstep id
      · change tx = _ at htx
        subst htx
        rw [step_inspect_table hstep]
        exact Or.inl rfl

end

/-! ## one call after the other -/

/-- one call against a table that nobody else uses -/
def EscrowCall.runAlone (P : Platform) (c : EscrowCall) (table : EscrowTable) :
    PyM (Option EscrowRecord) × EscrowTable × List EscrowEvent :=
  exec (fun tx w => tx.run P w) c.program table

theorem EscrowCall.runAlone_reaches (P : Platform) (c : EscrowCall) (table : EscrowTable) :
    Reaches c.program (c.runAlone P table).2.2 (.ret (c.runAlone P table).1) := exec_reaches _ _ _

theorem EscrowCall.runAlone_follows (P : Platform) (c : EscrowCall) (table : EscrowTable) :
    Follows (escrowStep P) table (c.runAlone P table).2.2 (c.runAlone P table).2.1 :=
  exec_follows (fun _ _ => Or.inl rfl) _ _

/-- the first calls, one after the other -/
def inOrder (P : Platform) (calls : Nat → EscrowCall) (table : EscrowTable) :
    Nat → List (Nat × EscrowEvent) × EscrowTable
  | 0 => ([], table)
  | n + 1 =>
    let run := (calls n).runAlone P (inOrder P calls table n).2
    ((inOrder P calls table n).1 ++ run.2.2.map (Prod.mk n), run.2.1)

theorem proj_inOrder (P : Platform) (calls : Nat → EscrowCall) (table : EscrowTable) (n i : Nat) :
    proj i (inOrder P calls table n).1 =
      if i < n then ((calls i).runAlone P (inOrder P calls table i).2).2.2 else [] := by
  induction n with
  | zero => rfl
  | succ n ih =>
    show proj i ((inOrder P calls table n).1 ++ _) = _
    rw [proj_append, ih, proj_tagged]
    by_cases hi : n = i
    · subst hi
      simp
    · by_cases hlt : i < n
      · simp [hi, hlt, Nat.lt_succ_of_lt hlt]
      · have hge : ¬ i < n + 1 := by omega
        simp [hi, hlt, hge]

theorem history_inOrder (P : Platform) (calls : Nat → EscrowCall) (table : EscrowTable) (n : Nat) :
    EscrowHistory P calls table (inOrder P calls table n).1 (inOrder P calls table n).2 where
  follows := by
    induction n with
    | zero => rfl
    | succ n ih =>
      show Follows _ _ (((inOrder P calls table n).1 ++ _).map Prod.snd) _
      rw [List.map_append, List.map_map, follows_append]
      exact ⟨_, ih, (List.map_id _).symm ▸ EscrowCall.runAlone_follows P (calls n) _⟩
  reached := by
    intro i
    rw [proj_inOrder]
    split
    · exact ⟨_, EscrowCall.runAlone_reaches P (calls i) _⟩
    · exact ⟨_, .nil _⟩

def noEscrow : EscrowTable := ⟨[], List.nodup_nil⟩

/-- a capability is issued and consumed twice, the second time with an earlier clock -/
def sampleEscrowCalls : Nat → EscrowCall
  | 0 => .issue "esc_1" "pccb_1" "payment.refund" ⟨10, by decide⟩ none
  | 1 => .consume "esc_1" "pccb_1" "payment.refund" ⟨9, by decide⟩
  | _ => .consume "esc_1" "pccb_1" "payment.refund" ⟨8, by decide⟩

def sampleEscrowHistory : List (Nat × EscrowEvent) :=
  (inOrder (samplePlatform id) sampleEscrowCalls noEscrow 3).1

theorem escrow_single_consumption_sample :
    (sampleEscrowCalls 1).Succeeds (proj 1 sampleEscrowHistory) ∧
      ¬ (sampleEscrowCalls 2).Succeeds (proj 2 sampleEscrowHistory) := by
  have H := history_inOrder (samplePlatform id) sampleEscrowCalls noEscrow 3
  have hfirst : (sampleEscrowCalls 1).Succeeds (proj 1 sampleEscrowHistory) := by
    have hok : ((sampleEscrowCalls 1).runAlone (samplePlatform id)
        (inOrder (samplePlatform id) sampleEscrowCalls noEscrow 1).2).1.toBool = true := by
      decide +kernel
    obtain ⟨record, hrecord⟩ := Fallible.exists_ok hok
    refine ⟨record, ?_⟩
    unfold sampleEscrowHistory
    rw [proj_inOrder, if_pos (by decide), ← hrecord]
    exact EscrowCall.runAlone_reaches _ _ _
  refine ⟨hfirst, fun hsecond => ?_⟩
  have h := (escrow_single_consumption H).1 "esc_1" 1 2 _ _ _ _ _ _ rfl rfl hfirst hsecond
  exact absurd h (by decide)

/-- the consumption is committed, and `inspect` raises -/
def interruptedConsume : List EscrowEvent :=
  [⟨.consume "esc_1" "pccb_1" "payment.refund" ⟨9, by decide⟩, (.ok () : PyM Unit)⟩,
    ⟨.inspect "esc_1", (.error (.other ⟨.other "OperationalError", "disk I/O error"⟩) : PyM (Option EscrowRecord))⟩]

/-- the capability is issued and consumed so -/
def interruptedHistory : List (Nat × EscrowEvent) :=
  (inOrder (samplePlatform id) sampleEscrowCalls noEscrow 1).1 ++ interruptedConsume.map (Prod.mk 1)

/-- a `consume` that fails has consumed its record -/
theorem failed_consume_consumes :
    ∃ h w', EscrowHistory (samplePlatform id) sampleEscrowCalls noEscrow h w' ∧
      (sampleEscrowCalls 1).Fails (proj 1 h) ∧
      ∃ before after e v v', h = before ++ (1, e) :: after ∧
        Follows (escrowStep (samplePlatform id)) noEscrow (before.map Prod.snd) v ∧
        escrowStep (samplePlatform id) v e v' ∧
        Consumes "esc_1" "pccb_1" "payment.refund" ⟨9, by decide⟩ v v' := by
  have hissue := history_inOrder (samplePlatform id) sampleEscrowCalls noEscrow 1
  have hok : (consumeRow (inOrder (samplePlatform id) sampleEscrowCalls noEscrow 1).2 "esc_1" "pccb_1"
      "payment.refund" ⟨9, by decide⟩).1.toBool = true := by
    decide +kernel
  rcases consumeRow_cases (inOrder (samplePlatform id) sampleEscrowCalls noEscrow 1).2 "esc_1" "pccb_1"
    "payment.refund" ⟨9, by decide⟩ with ⟨e, hc⟩ | ⟨e, record, -, -, -, hc⟩ | ⟨record, -, -, -, -, -, hc⟩
  · rw [hc] at hok
    cases hok
  · rw [hc] at hok
    cases hok
  have hfirst : proj 1 interruptedHistory = interruptedConsume := by
    unfold interruptedHistory
    rw [proj_append, proj_inOrder, if_neg (by decide)]
    rfl
  have hstep : escrowStep (samplePlatform id) (inOrder (samplePlatform id) sampleEscrowCalls noEscrow 1).2
      ⟨.consume "esc_1" "pccb_1" "payment.refund" ⟨9, by decide⟩, (.ok () : PyM Unit)⟩
      (consumeRecord (inOrder (samplePlatform id) sampleEscrowCalls noEscrow 1).2 "esc_1" ⟨9, by decide⟩) := Or.inl hc
  have hconsume : Reaches (sampleEscrowCalls 1).program (proj 1 interruptedHistory)
      (.ret (.error (.other ⟨.other "OperationalError", "disk I/O error"⟩))) := by
    rw [hfirst]
    exact .cons _ (.cons _ (.nil _))
  have hfollows : Follows (escrowStep (samplePlatform id)) noEscrow (interruptedHistory.map Prod.snd)
      (consumeRecord (inOrder (samplePlatform id) sampleEscrowCalls noEscrow 1).2 "esc_1" ⟨9, by decide⟩) := by
    unfold interruptedHistory
    rw [List.map_append, follows_append]
    exact ⟨_, hissue.follows, _, hstep, _, Or.inr ⟨_, rfl, Or.inl rfl⟩, rfl⟩
  refine ⟨interruptedHistory, _, ⟨hfollows, ?_⟩, ⟨_, hconsume⟩, _, _, _, _, _, rfl, hissue.follows, hstep, step_consume_ok hstep⟩
  intro i
  match i with
  | 0 =>
    unfold interruptedHistory
    rw [proj_append]
    obtain ⟨p, hp⟩ := hissue.reached 0
    exact ⟨p, (List.append_nil _).symm ▸ hp⟩
  | 1 => exact ⟨_, hconsume⟩
  | i + 2 =>
    unfold interruptedHistory
    rw [proj_append, proj_inOrder, if_neg (by omega)]
    exact ⟨_, .nil _⟩

end Actenon
