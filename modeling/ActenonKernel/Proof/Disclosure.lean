import ActenonKernel.Lib.Noninterference
import ActenonKernel.Proof.Binding

/-!
# What the refusals of a verifier disclose (`actenon/proof/service.py`)

Two runs of one verifier on two requests. In `PUBLIC_GENERIC` mode no refusal tells them apart; in
`TRUSTED_DETAILED` mode none does that is raised before the signature has been verified.

* `proofInvalid`           the one refusal that every collapsed failure becomes;
* `discloses`              what a caller sees of an exception: the code and the message of a refusal;
* `verify_generic`         every refusal of a public verifier is `proofInvalid`;
* `authenticate_generic`   every failure of steps 1 to 5 is, outside `LOCAL_DEBUG`;
* `refusals_noninterfering`    the statement about two requests.
-/

set_option linter.unusedSectionVars false

namespace Actenon

open Fallible

/-- `ProofVerificationError("PROOF_INVALID", …)` -/
def proofInvalid : RefusalException := proofVerificationError "PROOF_INVALID" "The proof could not be verified."

/-- what a caller sees of a refusal: its code and its message -/
def discloses : Raised → Option (String × String)
  | .refusal e => some (e.refusalCode, e.message)
  | .other _ => none

/-- an exception that is no refusal, or `proofInvalid` itself -/
def Generic (r : Raised) : Prop := ∀ e, r = .refusal e → e = proofInvalid

theorem generic_other (e : PyError) : Generic (.other e) := fun _ h => nomatch h

theorem generic_proofInvalid : Generic (.refusal proofInvalid) := fun _ h => (Raised.refusal.inj h).symm

/-- the caller sees one pair of a generic exception -/
theorem discloses_of_generic {r : Raised} (h : Generic r) {seen : String × String} (hs : discloses r = some seen) :
    seen = (proofInvalid.refusalCode, proofInvalid.message) := by
  cases r with
  | refusal e =>
    rw [h e rfl] at hs
    exact (Option.some.inj hs).symm
  | other e => cases hs

section
variable {P : Platform} {V : PCCBVerifier}

/-! ## the two helpers -/

theorem preAuthFailure_collapses (hmode : V.disclosureMode ≠ .localDebug) (internalCode : String) :
    V.preAuthFailure internalCode = .refusal proofInvalid := by
  unfold PCCBVerifier.preAuthFailure
  cases h : V.disclosureMode with
  | localDebug => exact absurd h hmode
  | publicGeneric => rfl
  | trustedDetailed => rfl

theorem postAuthFailureWith_collapses (hmode : V.disclosureMode = .publicGeneric) (detailedCode : String)
    (message : Except PyError String) : V.postAuthFailureWith detailedCode message = .refusal proofInvalid := by
  unfold PCCBVerifier.postAuthFailureWith
  rw [hmode]
  rfl

theorem postAuthFailure_collapses (hmode : V.disclosureMode = .publicGeneric) (detailedCode : String) :
    V.postAuthFailure detailedCode = .refusal proofInvalid := postAuthFailureWith_collapses hmode _ _

theorem edgeFailure_collapses (hmode : V.disclosureMode = .publicGeneric) (detailedCode : String) :
    V.edgeFailure detailedCode = .refusal proofInvalid := postAuthFailureWith_collapses hmode _ _

/-! ## the exceptions of a check -/

theorem raises_raiseWhen {p : Raised → Prop} {bad : Prop} [Decidable bad] {e : Raised} (h : p e) :
    Raises p (raiseWhen bad e) := by
  unfold raiseWhen
  split
  · exact Raises.error h
  · exact Raises.ok ()

theorem raises_orRaise {α : Type} {p : Raised → Prop} (h : ∀ e, p (.other e)) (x : Except PyError α) :
    Raises p (orRaise x) := by
  cases x with
  | ok a => exact Raises.ok a
  | error e => exact Raises.error (h e)

/-- a check that refuses with `proofInvalid` -/
theorem generic_raiseWhen {bad : Prop} [Decidable bad] {e : Raised} (h : e = .refusal proofInvalid) :
    Raises Generic (raiseWhen bad e) := raises_raiseWhen (by rw [h]; exact generic_proofInvalid)

/-- a source that says "revoked" and one that fails are both refused -/
theorem raises_answer {p : Raised → Prop} {revoked unknown : Raised} (hrevoked : p revoked) (hunknown : p unknown)
    (answer : PyM Bool) :
    Raises p (match answer with
      | .ok true => .ok ()
      | .ok false => .error revoked
      | .error _ => .error unknown : PyM Unit) := by
  rcases answer with e | _ | _
  · exact Raises.error hunknown
  · exact Raises.error hrevoked
  · exact Raises.ok ()

/-! ## before the signature -/

/-- steps 1 to 5 raise `proofInvalid`, or what the signer itself raises -/
theorem authenticate_raises {p : Raised → Prop} (hmode : V.disclosureMode ≠ .localDebug)
    (hp : p (.refusal proofInvalid)) (pccb : PCCB)
    (hsigner : ∀ payload, Raises p (V.signer payload pccb.signature pccb.issuer pccb.issuedAt)) :
    Raises p (V.authenticate P pccb) := by
  have hpre : ∀ code, p (V.preAuthFailure code) := fun code => by
    rw [preAuthFailure_collapses hmode]
    exact hp
  unfold PCCBVerifier.authenticate
  refine (raises_raiseWhen (hpre _)).bind fun _ _ => ?_
  refine (raises_raiseWhen (hpre _)).bind fun _ _ => ?_
  refine (Raises.mapError fun _ => hpre _).bind fun payload _ => ?_
  exact (hsigner payload).bind fun _ _ => raises_raiseWhen (hpre _)

/-- **With a signer that answers, steps 1 to 5 fail with `proofInvalid` alone.** -/
theorem authenticate_generic (hmode : V.disclosureMode ≠ .localDebug) (pccb : PCCB)
    (hsigner : ∀ payload, ∃ b, V.signer payload pccb.signature pccb.issuer pccb.issuedAt = .ok b) :
    Raises (fun r => r = .refusal proofInvalid) (V.authenticate P pccb) := by
  refine authenticate_raises (p := fun r => r = .refusal proofInvalid) hmode rfl pccb fun payload => ?_
  obtain ⟨b, hb⟩ := hsigner payload
  rw [hb]
  exact Raises.ok b

/-- a request that fails at steps 1 to 5 is not looked at further -/
theorem verify_of_authenticate {intent : ActionIntent} {pccb : PCCB} {context : DynamicContextInput} {r : Raised}
    (h : V.authenticate P pccb = .error r) : V.verify P intent pccb context = .error r := by
  unfold PCCBVerifier.verify
  exact bind_eq_error.mpr (Or.inl h)

/-! ## after the signature, in public -/

section
variable (hmode : V.disclosureMode = .publicGeneric)
include hmode

theorem checkWindow_generic (pccb : PCCB) (now : Datetime) : Raises Generic (V.checkWindow pccb now) := by
  unfold PCCBVerifier.checkWindow
  refine (raises_orRaise generic_other _).bind fun _ _ => ?_
  refine (generic_raiseWhen (postAuthFailure_collapses hmode _)).bind fun _ _ => ?_
  refine (raises_orRaise generic_other _).bind fun _ _ => ?_
  exact generic_raiseWhen (postAuthFailure_collapses hmode _)

theorem checkBinding_generic (intent : ActionIntent) (pccb : PCCB) (context : DynamicContextInput) :
    Raises Generic (V.checkBinding P intent pccb context) := by
  have hcheck : ∀ (bad : Prop) [Decidable bad] (code : String),
      Raises Generic (raiseWhen bad (V.postAuthFailure code)) :=
    fun _ _ code => generic_raiseWhen (postAuthFailure_collapses hmode code)
  unfold PCCBVerifier.checkBinding
  refine (hcheck _ _).bind fun _ _ => ?_
  refine (hcheck _ _).bind fun _ _ => ?_
  refine (hcheck _ _).bind fun _ _ => ?_
  refine (hcheck _ _).bind fun _ _ => ?_
  refine (hcheck _ _).bind fun _ _ => ?_
  refine (generic_raiseWhen (edgeFailure_collapses hmode _)).bind fun _ _ => ?_
  refine (hcheck _ _).bind fun _ _ => ?_
  refine (hcheck _ _).bind fun _ _ => ?_
  refine (hcheck _ _).bind fun _ _ => ?_
  exact hcheck _ _

theorem checkActionHash_generic (intent : ActionIntent) (pccb : PCCB) :
    Raises Generic (V.checkActionHash P intent pccb) := by
  unfold PCCBVerifier.checkActionHash
  have hpost : ∀ code, Generic (V.postAuthFailure code) := fun code => by
    rw [postAuthFailure_collapses hmode]
    exact generic_proofInvalid
  refine (Raises.mapError fun _ => hpost _).bind fun _ _ => ?_
  refine (raises_raiseWhen (hpost _)).bind fun _ _ => ?_
  exact raises_raiseWhen (hpost _)

theorem checkEdge_generic (pccb : PCCB) (context : DynamicContextInput) :
    Raises Generic (V.checkEdge P pccb context) := by
  unfold PCCBVerifier.checkEdge
  refine (generic_raiseWhen (edgeFailure_collapses hmode _)).bind fun _ _ => ?_
  exact generic_raiseWhen (edgeFailure_collapses hmode _)

/-- whatever the revocation source answers or raises -/
theorem checkRevocation_generic (pccb : PCCB) (context : DynamicContextInput) :
    Raises Generic (V.checkRevocation P pccb context) := by
  have hunknown : V.postAuthFailureWith "AUTHORITY_REVOKED" (.ok authorityStatusUnknownMessage)
      = .refusal proofInvalid := postAuthFailureWith_collapses hmode _ _
  have hrevoked := postAuthFailure_collapses hmode "AUTHORITY_REVOKED"
  unfold PCCBVerifier.checkRevocation
  dsimp only
  rw [hunknown, hrevoked]
  cases V.revocationChecker with
  | none =>
    have hlast : ∀ b : Bool, Raises Generic (raiseWhen (b = true) (.refusal proofInvalid)) :=
      fun _ => generic_raiseWhen rfl
    split
    · split
      · exact (Raises.error generic_proofInvalid).bind fun b _ => hlast b
      · exact (raises_orRaise generic_other _).bind fun b _ => hlast b
    · exact (Raises.ok false).bind fun b _ => hlast b
  | some checker =>
    have hlast := raises_answer generic_proofInvalid generic_proofInvalid (checker pccb context)
    split
    · split
      · exact (Raises.error generic_proofInvalid).bind fun _ _ => hlast
      · exact (raises_orRaise generic_other _).bind fun _ _ => hlast
    · exact (Raises.ok false).bind fun _ _ => hlast

/-- **Every refusal of a public verifier is `proofInvalid`.** -/
theorem verify_generic (hsigner : ∀ payload signature issuer issuedAt,
      Raises Generic (V.signer payload signature issuer issuedAt))
    (intent : ActionIntent) (pccb : PCCB) (context : DynamicContextInput) :
    Raises Generic (V.verify P intent pccb context) := by
  have hdebug : V.disclosureMode ≠ .localDebug := by
    rw [hmode]
    decide
  unfold PCCBVerifier.verify
  refine (authenticate_raises hdebug generic_proofInvalid pccb fun _ => hsigner _ _ _ _).bind fun _ _ => ?_
  refine (checkWindow_generic hmode pccb context.now).bind fun _ _ => ?_
  refine (checkBinding_generic hmode intent pccb context).bind fun _ _ => ?_
  refine (checkActionHash_generic hmode intent pccb).bind fun _ _ => ?_
  refine (checkEdge_generic hmode pccb context).bind fun _ _ => ?_
  exact checkRevocation_generic hmode pccb context

/-- a public verifier is blind: a caller who varies the whole request learns nothing from its refusals -/
theorem verify_blind (hsigner : ∀ payload signature issuer issuedAt,
      Raises Generic (V.signer payload signature issuer issuedAt)) :
    Blind discloses (fun r : ActionIntent × PCCB × DynamicContextInput => V.verify P r.1 r.2.1 r.2.2) :=
  Blind.of_raises (proofInvalid.refusalCode, proofInvalid.message) fun r =>
    (verify_generic hmode hsigner r.1 r.2.1 r.2.2).mono fun _ hr _ hs => discloses_of_generic hr hs

end

/-! ## two requests -/

/-- **The refusals of a verifier do not tell two requests apart: in public none does, and in trusted detail
none that comes before or from the signature.** -/
theorem refusals_noninterfering (P : Platform) (V : PCCBVerifier)
    (hsigner : ∀ payload signature issuer issuedAt, ∃ b, V.signer payload signature issuer issuedAt = .ok b)
    (intent intent' : ActionIntent) (pccb pccb' : PCCB) (context context' : DynamicContextInput) :
    (V.disclosureMode = .publicGeneric → ∀ e e',
        V.verify P intent pccb context = .error (.refusal e) →
        V.verify P intent' pccb' context' = .error (.refusal e') →
        e.refusalCode = e'.refusalCode ∧ e.message = e'.message) ∧
      (V.disclosureMode = .trustedDetailed → ∀ r r',
        V.authenticate P pccb = .error r → V.authenticate P pccb' = .error r' →
        V.verify P intent pccb context = .error (.refusal proofInvalid) ∧
          V.verify P intent' pccb' context' = .error (.refusal proofInvalid)) := by
  refine ⟨fun hmode e e' he he' => ?_, fun hmode r r' hr hr' => ?_⟩
  · have hgeneric : ∀ payload signature issuer issuedAt,
        Raises Generic (V.signer payload signature issuer issuedAt) := fun payload signature issuer issuedAt => by
      obtain ⟨b, hb⟩ := hsigner payload signature issuer issuedAt
      rw [hb]
      exact Raises.ok b
    have hsame := verify_blind (P := P) hmode hgeneric (intent, pccb, context) (intent', pccb', context')
      _ _ _ _ he he' rfl rfl
    exact Prod.mk.injEq _ _ _ _ ▸ hsame
  · have hdebug : V.disclosureMode ≠ .localDebug := by
      rw [hmode]
      decide
    have hinvalid : ∀ {p : PCCB} {x : Raised}, V.authenticate P p = .error x → x = .refusal proofInvalid :=
      fun {p x} hx => authenticate_generic hdebug p (fun payload => hsigner payload _ _ _) x hx
    rw [hinvalid hr] at hr
    rw [hinvalid hr'] at hr'
    exact ⟨verify_of_authenticate hr, verify_of_authenticate hr'⟩

end

/-- a verifier whose signer accepts one signature only -/
def sampleVerifierIn (mode : VerifierDisclosureMode) : PCCBVerifier :=
  { sampleVerifier with
    signer := fun _ signature _ _ => .ok (signature.value = samplePccb.signature.value)
    disclosureMode := mode }

/-- the sample with another signature value -/
def samplePccbSigned (value : String) : PCCB :=
  { samplePccb with signature := { samplePccb.signature with value := value } }

/-- the last datetime there is -/
def lastInstant : Datetime := ⟨315537897599999999, by decide⟩

/-- the computation raised a refusal -/
def isRefused {α : Type} : PyM α → Bool
  | .error (.refusal _) => true
  | _ => false

theorem exists_refusal {α : Type} {x : PyM α} (h : isRefused x = true) : ∃ e, x = .error (.refusal e) := by
  rcases x with (e | e) | a
  · exact ⟨e, rfl⟩
  · cases h
  · cases h

/-- a forged proof and a signed one after its window, then a forged proof and one without a signature -/
theorem refusals_noninterfering_sample :
    (∃ e e', (sampleVerifierIn .publicGeneric).verify kernelPlatform sampleIntent (samplePccbSigned "forged")
          sampleContext = .error (.refusal e) ∧
        (sampleVerifierIn .publicGeneric).verify kernelPlatform sampleIntent samplePccb
          { sampleContext with now := lastInstant } = .error (.refusal e') ∧
        e.refusalCode = e'.refusalCode ∧ e.message = e'.message) ∧
      (sampleVerifierIn .trustedDetailed).verify kernelPlatform sampleIntent (samplePccbSigned "forged")
          sampleContext = .error (.refusal proofInvalid) ∧
        (sampleVerifierIn .trustedDetailed).verify kernelPlatform sampleIntentNoted (samplePccbSigned "")
          { sampleContext with requestId := "req_2" } = .error (.refusal proofInvalid) := by
  have hsigner : ∀ mode payload signature issuer issuedAt,
      ∃ b, (sampleVerifierIn mode).signer payload signature issuer issuedAt = .ok b :=
    fun _ _ _ _ _ => ⟨_, rfl⟩
  refine ⟨?_, ?_⟩
  · obtain ⟨e, he⟩ := exists_refusal
      (show isRefused ((sampleVerifierIn .publicGeneric).verify kernelPlatform sampleIntent
        (samplePccbSigned "forged") sampleContext) = true by decide +kernel)
    obtain ⟨e', he'⟩ := exists_refusal
      (show isRefused ((sampleVerifierIn .publicGeneric).verify kernelPlatform sampleIntent samplePccb
        { sampleContext with now := lastInstant }) = true by decide +kernel)
    exact ⟨e, e', he, he', (refusals_noninterfering kernelPlatform _ (hsigner .publicGeneric) _ _ _ _ _ _).1 rfl
      e e' he he'⟩
  · obtain ⟨e, he⟩ := exists_refusal
      (show isRefused ((sampleVerifierIn .trustedDetailed).authenticate kernelPlatform
        (samplePccbSigned "forged")) = true by decide +kernel)
    obtain ⟨e', he'⟩ := exists_refusal
      (show isRefused ((sampleVerifierIn .trustedDetailed).authenticate kernelPlatform
        (samplePccbSigned "")) = true by decide +kernel)
    exact (refusals_noninterfering kernelPlatform _ (hsigner .trustedDetailed) _ _ _ _ _ _).2 rfl _ _ he he'

end Actenon
