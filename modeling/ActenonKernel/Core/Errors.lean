import ActenonKernel.Core.Json

/-!
# Refusals as exceptions (`actenon/core/errors.py`, `actenon/core/redaction.py`)

An exception of the kernel is a `RefusalException` or any other `Exception`; the `except` clauses of
the executors tell these two apart.  What is no `Exception` (`SystemExit`, `KeyboardInterrupt`,
`asyncio.CancelledError`) is in none of their clauses: it ends the run of a program where it is raised
(`Program.End.escaped`).

* `Raised`       what a computation can raise;
* `proofVerificationError`, `replayValidationError`    the refusals of one category;
* `redactedHandlerExceptionDetails`    all that is kept of an exception that is not a refusal.
-/

set_option linter.unusedSectionVars false

namespace Actenon

structure Violation where
  code : String
  message : String
  fieldPath : Json := .null
  expected : Json := .null
  observed : Json := .null

structure RefusalException where
  category : String
  refusalCode : String
  message : String
  retryable : Bool := false
  ruleRefs : List String := []
  violations : List Violation := []
  details : Dict := []

/-- what `except Exception` catches: a refusal or any other exception -/
inductive Raised where
  | refusal (e : RefusalException)
  | other (e : PyError)

/-- a computation without effects that can raise -/
abbrev PyM := Except Raised

def raiseRefusal {α : Type} (e : RefusalException) : PyM α := .error (.refusal e)

/-- an exception of the interpreter that no clause catches -/
def orRaise {α : Type} : Except PyError α → PyM α
  | .ok a => .ok a
  | .error e => .error (.other e)

def keyError {α : Type} (name : String) : Except PyError α := .error ⟨.keyError, name⟩

def attributeError {α : Type} (message : String) : Except PyError α := .error ⟨.attributeError, message⟩

/-! ## categories -/

def proofVerificationError (refusalCode message : String) : RefusalException where
  category := "proof"
  refusalCode := refusalCode
  message := message

def replayValidationError (refusalCode message : String) (details : Dict) : RefusalException where
  category := "replay"
  refusalCode := refusalCode
  message := message
  details := details

/-! ## redaction -/

def safeHandlerExceptionCode : String := "EXECUTION_FAILED"

def safeHandlerExceptionMessage : String :=
  "Execution failed after verification; sensitive exception details were redacted from the artifact."

/-- `type(exc).__name__` -/
def ErrKind.typeName : ErrKind → String
  | .valueError => "ValueError"
  | .typeError => "TypeError"
  | .keyError => "KeyError"
  | .attributeError => "AttributeError"
  | .overflowError => "OverflowError"
  | .other typeName => typeName

def redactedHandlerExceptionDetails (e : PyError) (requestId : String) : Dict :=
  members [("exception_type", .str e.kind.typeName), ("phase", .str "execution"),
    ("safe_error_code", .str safeHandlerExceptionCode), ("sensitive_details_redacted", .bool true),
    ("request_id", .str requestId)]

theorem orRaise_ok {α : Type} {x : Except PyError α} {a : α} (h : orRaise x = .ok a) : x = .ok a := by
  cases x with
  | ok b => exact congrArg _ (Except.ok.inj h)
  | error e => cases h

end Actenon
