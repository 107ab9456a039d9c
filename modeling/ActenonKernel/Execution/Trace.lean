import ActenonKernel.Execution.Executor
import ActenonKernel.Lib.Fallible

/-!
# What a run shows

What the artifacts of a call are judged by: what the handler answered, and whether an operation
after it failed.
-/

set_option linter.unusedSectionVars false

namespace Actenon

open Program

/-- the operation raised -/
def failed (e : KernelEvent) : Bool :=
  match (show PyM (Value e.1) from e.2) with
  | .ok _ => false
  | .error _ => true

structure Seen where
  /-- the credential that the handler was called with, and its answer -/
  handler : Option (Option BrokeredCredential × PyM Json) := none
  /-- an operation after the handler failed -/
  failedAfter : Bool := false

def Seen.next (g : Seen) (e : KernelEvent) : Seen :=
  match g.handler with
  | some _ => { g with failedAfter := g.failedAfter || failed e }
  | none =>
    match e with
    | ⟨.handler _ credential, answer⟩ => { g with handler := some (credential, answer) }
    | _ => g

/-- what a run shows -/
def seen (t : List KernelEvent) : Seen := t.foldl Seen.next {}

section
variable {g : Seen}

theorem next_of_handler {x : Option BrokeredCredential × PyM Json} (h : g.handler = some x)
    (e : KernelEvent) : g.next e = { g with failedAfter := g.failedAfter || failed e } := by
  unfold Seen.next
  rw [h]

theorem next_handler {x : Option BrokeredCredential × PyM Json} (h : g.handler = some x)
    (e : KernelEvent) : (g.next e).handler = some x := by
  rw [next_of_handler h]
  exact h

theorem next_notHandler {op : Op} (hop : NotHandler op) (h : g.handler = none) (r : Res op) :
    g.next ⟨op, r⟩ = g := by
  unfold Seen.next
  rw [h]
  cases op with
  | handler r c => cases hop
  | _ => rfl

/-- nothing but the handler changes what the handler answered -/
theorem handler_next_notHandler {op : Op} (hop : NotHandler op) (r : Res op) :
    (g.next ⟨op, r⟩).handler = g.handler := by
  cases h : g.handler with
  | none => rw [next_notHandler hop h, h]
  | some x => exact next_handler h _

/-- a failure is not forgotten -/
theorem failedAfter_next (h : g.failedAfter = true) (e : KernelEvent) :
    (g.next e).failedAfter = true := by
  unfold Seen.next
  split
  · show (g.failedAfter || _) = true
    rw [h]
    rfl
  · split
    · exact h
    · exact h

/-- a failure after the handler -/
theorem failedAfter_of_error {x : Option BrokeredCredential × PyM Json} (h : g.handler = some x) (op : Op)
    (e : Raised) : (g.next ⟨op, (.error e : PyM (Value op))⟩).failedAfter = true := by
  rw [next_of_handler h]
  exact Bool.or_true _

/-- an operation that goes through -/
theorem next_of_ok {x : Option BrokeredCredential × PyM Json} (h : g.handler = some x) (op : Op)
    (a : Value op) : g.next ⟨op, (.ok a : PyM (Value op))⟩ = g := by
  rw [next_of_handler h]
  show ({ g with failedAfter := g.failedAfter || false } : Seen) = g
  rw [Bool.or_false]

/-- an operation other than the handler that goes through -/
theorem next_ok_notHandler (op : Op) (hop : NotHandler op) (a : Value op) :
    g.next ⟨op, (.ok a : PyM (Value op))⟩ = g := by
  cases h : g.handler with
  | none => exact next_notHandler hop h _
  | some x => exact next_of_ok h op a

end

section
variable (P : Platform) (request : ProtectedExecutionRequest)

/-- the receipt of the handler's answer can be built, as a check -/
def buildsReceipt (s : Seen) : Bool :=
  match s.handler with
  | some (some credential, .ok payload) =>
    match payloadDict payload with
    | .ok given => (executionReceipt P request (.obj (Dict.merge given (brokerPayload credential)))).toBool
    | .error _ => false
  | _ => false

variable {P request}

theorem receiptBuilds_of_check {s : Seen} (hb : buildsReceipt P request s = true)
    {credential : BrokeredCredential} {payload : Json}
    (hh : s.handler = some (some credential, .ok payload)) : ReceiptBuilds P request credential payload := by
  unfold buildsReceipt at hb
  rw [hh] at hb
  dsimp only at hb
  split at hb
  · rename_i given hgiven
    obtain ⟨make, hmake⟩ := Fallible.exists_ok hb
    exact ⟨given, make, hgiven, hmake⟩
  · cases hb

end

end Actenon
