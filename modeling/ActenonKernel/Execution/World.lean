import ActenonKernel.Receipts.Factory
import ActenonKernel.Replay.History
import ActenonKernel.Lib.Program

/-!
# What an execution calls

The kernel reaches the outside world through the replay store, the idempotency store, the escrow,
the effect ledger, the credential broker, the handler and the outcome writer.  Each call is an
operation with an answer; the stores keep their state in the world, the others answer as they like.

* `Op`, `Res`        the operations and their answers;
* `World.step`       which answers an operation can have, and the world after it;
* `Kernel`           programs of the kernel: local variables, exceptions, operations.
-/

set_option linter.unusedSectionVars false

namespace Actenon

open Program

/-! ## credentials and effects -/

structure BrokeredCredential where
  credentialId : String
  issuedAt : Datetime
  expiresAt : Datetime
  scope : List String
  metadata : Dict := []
  secretReference : Option String := none

def BrokeredCredential.toPublicDict (c : BrokeredCredential) : Dict :=
  members [("credential_id", .str c.credentialId), ("issued_at", .str (formatTimestamp c.issuedAt)),
    ("expires_at", .str (formatTimestamp c.expiresAt)), ("scope", strings c.scope),
    ("metadata", .obj c.metadata)] ++
  match c.secretReference with
  | some r => members [("secret_reference", .str r)]
  | none => []

structure EffectReference where
  profile : String
  effectId : String
  reservationId : String
  ownerAttemptId : String
deriving DecidableEq, Repr

def EffectReference.toDict (r : EffectReference) : Dict :=
  members [("profile", .str r.profile), ("effect_id", .str r.effectId),
    ("reservation_id", .str r.reservationId), ("owner_attempt_id", .str r.ownerAttemptId)]

/-! ## operations -/

/-- what the idempotency store has recorded for an operation -/
structure Prior where
  actionHash : String
  result : Json

inductive Op where
  /-- a transaction of the replay store object `inst` -/
  | store (inst : Nat) (tx : StoreTx)
  | lookup (store : Nat) (operationId : Json)
  | record (store : Nat) (operationId : Json) (actionHash : String) (result : Json)
  | escrowConsume (escrowId : Json) (pccbId capability : String) (now : Datetime)
  /-- the `claim` of an effect protector -/
  | effectClaim (reference : EffectReference) (request : ProtectedExecutionRequest)
  | acquire (request : ProtectedExecutionRequest)
  | release (credential : BrokeredCredential) (outcome : Dict)
  | handler (request : ProtectedExecutionRequest) (credential : Option BrokeredCredential)
  | receiptId
  | refusalId
  | writeReceipt (receipt : Receipt)
  | writeRefusal (refusal : Refusal)

def Op.isStore : Op → Bool
  | .store _ _ => true
  | _ => false

def Op.isHandler : Op → Bool
  | .handler _ _ => true
  | _ => false

def NotHandler : Op → Prop
  | .handler _ _ => False
  | _ => True

def Value : Op → Type
  | .store _ tx => tx.Result
  | .lookup _ _ => Option Prior
  | .effectClaim _ _ => Bool
  | .acquire _ => BrokeredCredential
  | .handler _ _ => Json
  | .receiptId | .refusalId => String
  | .record _ _ _ _ | .escrowConsume _ _ _ _ | .release _ _ | .writeReceipt _ | .writeRefusal _ => Unit

/-- the answer of an operation: it returns or raises -/
def Res (op : Op) : Type := PyM (Value op)

abbrev KernelEvent := Event Res

/-- the programs of the kernel, with local variables `S` -/
abbrev Kernel (S : Type) := Act Op Res S Raised

/-! ## the world -/

abbrev Records := List (Key × Prior)

structure World where
  replay : ReplayDb
  records : Nat → Records

/-- `IdempotencyStore.lookup` -/
def Records.find (rs : Records) (operationId : Json) : PyM (Option Prior) := do
  let key ← orRaise operationId.toKey
  return rs.lookup key

def take12 (s : String) : String := String.ofList (s.toList.take 12)

def idempotencyConflict (operationId : Json) (message expectedHash actualHash : String) :
    RefusalException where
  category := "idempotency"
  refusalCode := "IDEMPOTENCY_CONFLICT"
  message := message
  details := members [("operation_id", operationId), ("expected_action_hash", .str expectedHash),
    ("actual_action_hash", .str actualHash)]

/-- what `record` raises on another hash -/
def recordConflict (P : Platform) (operationId : Json) (expectedHash actualHash : String) :
    PyM Unit := do
  let name ← orRaise (P.repr operationId)
  raiseRefusal (idempotencyConflict operationId
    s!"Operation {name} was already executed with a different action_hash. Expected {take12 expectedHash}..., got {take12 actualHash}...."
    expectedHash actualHash)

def Records.record (P : Platform) (rs : Records) (operationId : Json) (actionHash : String)
    (result : Json) : PyM Unit × Records :=
  match operationId.toKey with
  | .error e => (.error (.other e), rs)
  | .ok key =>
    match rs.lookup key with
    | some prior =>
      if prior.actionHash ≠ actionHash then
        (recordConflict P operationId prior.actionHash actionHash, rs)
      else (.ok (), rs)
    | none => (.ok (), rs ++ [(key, ⟨actionHash, result⟩)])

/-- the idempotency stores after one of them changed -/
def World.setRecords (w : World) (store : Nat) (rs : Records) : World :=
  { w with records := fun i => if i = store then rs else w.records i }

/-- an operation with its answer takes one world to the other -/
def World.step (P : Platform) (w : World) (e : KernelEvent) (w' : World) : Prop :=
  match e with
  | ⟨.store inst tx, answer⟩ => StoreStep inst tx answer w.replay w'.replay ∧ w'.records = w.records
  | ⟨.lookup store operationId, answer⟩ =>
    answer = (w.records store).find operationId ∧ w' = w
  | ⟨.record store operationId actionHash result, answer⟩ =>
    answer = ((w.records store).record P operationId actionHash result).1 ∧
      w' = w.setRecords store ((w.records store).record P operationId actionHash result).2
  | ⟨_, _⟩ => w' = w

theorem step_find {P : Platform} {w w' : World} {e : KernelEvent} (h : World.step P w e w') (key : String) :
    RowStep (w.replay.find key) (w'.replay.find key) := by
  obtain ⟨op, answer⟩ := e
  cases op with
  | store inst tx => exact h.1.find key
  | record store operationId actionHash result =>
    rw [h.2]
    exact Or.inl rfl
  | lookup store operationId =>
    rw [h.2]
    exact Or.inl rfl
  | _ =>
    rw [h]
    exact Or.inl rfl

/-- a world with one caller: the stores answer by their state, everything else as it is told -/
def World.env (P : Platform) (answers : (op : Op) → Res op) : (op : Op) → World → Res op × World
  | .store inst tx, w => ((tx.run inst w.replay).1, { w with replay := (tx.run inst w.replay).2 })
  | .lookup store operationId, w => ((w.records store).find operationId, w)
  | .record store operationId actionHash result, w =>
    (((w.records store).record P operationId actionHash result).1,
      w.setRecords store ((w.records store).record P operationId actionHash result).2)
  | op, w => (answers op, w)

theorem World.env_step (P : Platform) (answers : (op : Op) → Res op) (op : Op) (w : World) :
    World.step P w ⟨op, (World.env P answers op w).1⟩ (World.env P answers op w).2 := by
  cases op with
  | store inst tx => exact ⟨Or.inl rfl, rfl⟩
  | lookup store operationId => exact ⟨rfl, rfl⟩
  | record store operationId actionHash result => exact ⟨rfl, rfl⟩
  | _ => rfl

def emptyWorld : World := ⟨emptyDb, fun _ => []⟩

end Actenon
