import ActenonKernel.Core.Json
import ActenonKernel.Lib.PyString
import Mathlib.Data.List.Chain
import Mathlib.Data.List.Sort

/-!
# The lifecycle of a managed key (`actenon/proof/signers/key_lifecycle.py`)

The machine keeps no state: it says which transitions and which operations a state allows.

* `KeyLifecycleState`, `allowedTransitions`
* `assertCanTransition`, `assertCanSign`, `assertCanVerify`
* `never_again`           what is revoked stays revoked;
* `back_by_suspension`    a key that was retired is active again only after it was suspended.
-/

set_option linter.unusedSectionVars false

namespace Actenon

namespace Signers

inductive KeyLifecycleState where
  | active
  | retired
  | suspended
  | revoked
  | hardRevoked
deriving DecidableEq, Repr

namespace KeyLifecycleState

def value : KeyLifecycleState → String
  | active => "active"
  | retired => "retired"
  | suspended => "suspended"
  | revoked => "revoked"
  | hardRevoked => "hard_revoked"

def all : List KeyLifecycleState := [active, retired, suspended, revoked, hardRevoked]

end KeyLifecycleState

open KeyLifecycleState

/-- `value.lower()`, as far as the words it is compared with can tell: of the letters that are not ASCII,
one becomes a letter of theirs -/
def lower (value : String) : String :=
  String.ofList (value.toList.map fun c => if c = '\u212a' then 'k' else PyString.lowerChar c)

/-- `repr` of a list of plain words -/
def wordsText (words : List String) : String := "[" ++ ", ".intercalate (words.map fun w => "'" ++ w ++ "'") ++ "]"

structure KeyLifecycleError where
  message : String
deriving DecidableEq, Repr

def KeyLifecycleState.fromString (repr : String → String) (value : String) :
    Except KeyLifecycleError KeyLifecycleState :=
  match all.find? fun s => s.value = lower value with
  | some s => .ok s
  | none =>
    let quoted := repr value
    let words := wordsText (all.map KeyLifecycleState.value)
    .error ⟨s!"unknown key lifecycle state {quoted}; expected one of {words}"⟩

def allowedTransitions : KeyLifecycleState → List KeyLifecycleState
  | active => [retired, suspended, revoked, hardRevoked]
  | retired => [suspended, revoked, hardRevoked]
  | suspended => [active, retired, revoked, hardRevoked]
  | revoked => [hardRevoked]
  | hardRevoked => []

def signAllowedStates : List KeyLifecycleState := [active]

def verifyAllowedStates : List KeyLifecycleState := [active, retired, suspended, revoked]

/-- `sorted(s.value for s in states)` -/
def sortedValues (states : List KeyLifecycleState) : List String :=
  (states.map KeyLifecycleState.value).insertionSort (· ≤ ·)

def assertCanTransition (current target : KeyLifecycleState) : Except KeyLifecycleError Unit :=
  if (allowedTransitions current).contains target then .ok ()
  else
    let fromValue := current.value
    let toValue := target.value
    let allowed := if (allowedTransitions current).isEmpty then "(none — terminal state)"
      else wordsText (sortedValues (allowedTransitions current))
    .error ⟨s!"invalid key lifecycle transition: {fromValue} -> {toValue}. " ++
      s!"Allowed transitions from {fromValue}: {allowed}."⟩

def canTransition (current target : KeyLifecycleState) : Bool := (assertCanTransition current target).toBool

def assertCanSign (current : KeyLifecycleState) : Except KeyLifecycleError Unit :=
  if signAllowedStates.contains current then .ok ()
  else
    let word := current.value
    let words := wordsText (sortedValues signAllowedStates)
    .error ⟨s!"key in state '{word}' cannot sign; signing requires one of {words}."⟩

def assertCanVerify (current : KeyLifecycleState) : Except KeyLifecycleError Unit :=
  if verifyAllowedStates.contains current then .ok ()
  else
    let word := current.value
    let words := wordsText (sortedValues verifyAllowedStates)
    .error ⟨s!"key in state '{word}' cannot verify; verification requires one of {words}. " ++
      "Hard-revocation deliberately breaks historical verifiability."⟩

theorem assertCanSign_ok {s : KeyLifecycleState} : assertCanSign s = .ok () ↔ s = active := by
  cases s <;> decide +kernel

theorem assertCanVerify_ok {s : KeyLifecycleState} : assertCanVerify s = .ok () ↔ s ≠ hardRevoked := by
  cases s <;> decide +kernel

theorem canTransition_iff {s t : KeyLifecycleState} : canTransition s t = true ↔ t ∈ allowedTransitions s := by
  unfold canTransition assertCanTransition
  rw [← List.contains_iff_mem]
  by_cases h : (allowedTransitions s).contains t = true
  · rw [if_pos h]
    exact iff_of_true rfl h
  · rw [if_neg h]
    exact iff_of_false (fun h => nomatch h) h

theorem fromString_ok {repr : String → String} {value : String} {s : KeyLifecycleState} :
    fromString repr value = .ok s ↔ lower value = s.value := by
  have hfind : all.find? (fun s => s.value = lower value) = some s ↔ lower value = s.value := by
    constructor
    · intro h
      have hvalue := List.find?_some h
      exact (of_decide_eq_true hvalue).symm
    · intro h
      rw [h]
      cases s <;> decide
  rw [← hfind]
  unfold fromString
  cases all.find? fun s => s.value = lower value with
  | none => exact iff_of_false (fun h => nomatch h) (fun h => nomatch h)
  | some t => rw [Except.ok.injEq, Option.some.injEq]

theorem lower_value (s : KeyLifecycleState) : lower s.value = s.value := by
  cases s <;> decide +kernel

/-- a state is read back from its value -/
theorem fromString_value {repr : String → String} (s : KeyLifecycleState) : fromString repr s.value = .ok s :=
  fromString_ok.mpr (lower_value s)

/-! ## histories -/

/-- the states a key was in, the latest first: each follows the one before it by an allowed transition -/
def KeyHistory (states : List KeyLifecycleState) : Prop := states.IsChain fun later earlier => later ∈ allowedTransitions earlier

/-- blocked from signing for good -/
def blocked (s : KeyLifecycleState) : Prop := s = revoked ∨ s = hardRevoked

theorem blocked_next {s t : KeyLifecycleState} (h : t ∈ allowedTransitions s) (hs : blocked s) : blocked t := by
  rcases hs with rfl | rfl
  · exact .inr (List.mem_singleton.mp h)
  · cases h

/-- **What is revoked stays revoked.** -/
theorem never_again {s : KeyLifecycleState} {earlier : List KeyLifecycleState} (h : KeyHistory (s :: earlier))
    {t : KeyLifecycleState} (ht : t ∈ earlier) (hb : blocked t) : blocked s := by
  induction earlier generalizing s with
  | nil => cases ht
  | cons e earlier ih =>
    obtain ⟨hstep, hrest⟩ := List.isChain_cons_cons.mp h
    rcases List.mem_cons.mp ht with rfl | ht
    · exact blocked_next hstep hb
    · exact blocked_next hstep (ih hrest ht)

/-- a state that is left by suspension only -/
def setAside (s : KeyLifecycleState) : Prop := s = retired ∨ blocked s

theorem setAside_next {s t : KeyLifecycleState} (h : t ∈ allowedTransitions s) (hs : setAside s) (ht : t ≠ suspended) :
    setAside t := by
  rcases hs with rfl | hb
  · revert h ht
    cases t <;> simp [allowedTransitions, setAside, blocked]
  · exact .inr (blocked_next h hb)

theorem setAside_since {s : KeyLifecycleState} {recent earlier : List KeyLifecycleState}
    (h : KeyHistory (s :: recent ++ retired :: earlier)) (hno : suspended ∉ s :: recent) : setAside s := by
  induction recent generalizing s with
  | nil => exact setAside_next (List.isChain_cons_cons.mp h).1 (.inl rfl) (List.ne_of_not_mem_cons hno).symm
  | cons e recent ih =>
    obtain ⟨hstep, hrest⟩ := List.isChain_cons_cons.mp h
    exact setAside_next hstep (ih hrest (List.not_mem_of_not_mem_cons hno)) (List.ne_of_not_mem_cons hno).symm

/-- **A key that was retired is active again only after it was suspended.** -/
theorem back_by_suspension {recent earlier : List KeyLifecycleState}
    (h : KeyHistory (active :: recent ++ retired :: earlier)) : suspended ∈ recent := by
  by_contra hno
  have haside := setAside_since h (List.not_mem_cons_of_ne_of_not_mem (by decide) hno)
  revert haside
  simp [setAside, blocked]

end Signers

end Actenon
