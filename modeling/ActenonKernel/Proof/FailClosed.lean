import ActenonKernel.Proof.CanonicalSize
import ActenonKernel.Proof.Resolution

/-!
# Verifiers that fail closed (`actenon/proof/signers/well_known.py`, `actenon/proof/service.py`)

What a `PCCBVerifier` raises is a `ProofVerificationError`, unless its signer raises something else
or its clock leaves the calendar. With the well-known verifier as its signer, that is when the
replies are contained.

* `verify_raises_iff`            the exceptions of a verifier, for any signer;
* `verifyWithMetadata_returns_iff`    the well-known verifier answers exactly when the replies are contained;
* `resolution_contained_iff`     the two together;
* `plain_origin_escapes`         a document that names an origin without TLS.
-/

set_option linter.unusedSectionVars false

namespace Actenon

open Fallible FirstFault

/-! ## what a verifier raises -/

/-- the exception is a `ProofVerificationError` -/
def IsProofError (r : Raised) : Prop := ∃ code message, r = .refusal (proofVerificationError code message)

theorem isProofError_other (e : PyError) : ¬ IsProofError (.other e) := by
  rintro ⟨code, message, h⟩
  cases h

/-- an exception of the interpreter is none -/
theorem raises_orRaise_iff {α : Type} {x : Except PyError α} :
    Raises IsProofError (orRaise x) ↔ ∃ a, x = .ok a := by
  cases x with
  | ok a => exact iff_of_true (Raises.ok a) ⟨a, rfl⟩
  | error e =>
    refine iff_of_false (fun h => isProofError_other e (h _ rfl)) ?_
    rintro ⟨a, h⟩
    cases h

/-- the code has a message -/
def hasMessage (code : String) : Bool := (publicProofRefusalMessages.lookup code).isSome

theorem publicMessage_ok {code : String} (h : hasMessage code = true) :
    ∃ message, publicProofRefusalMessage code = .ok message := by
  obtain ⟨message, hmessage⟩ := Option.isSome_iff_exists.mp h
  exact ⟨message, by unfold publicProofRefusalMessage; rw [hmessage]⟩

/-- a code with a message is refused with it -/
theorem proofRefusal_isProofError {code : String} (h : hasMessage code = true) :
    IsProofError (proofRefusal code (publicProofRefusalMessage code)) := by
  obtain ⟨message, hmessage⟩ := publicMessage_ok h
  rw [hmessage]
  exact ⟨code, message, rfl⟩

section
variable {P : Platform} (V : PCCBVerifier)

theorem preAuthFailure_isProofError {code : String} (h : hasMessage code = true) :
    IsProofError (V.preAuthFailure code) := by
  unfold PCCBVerifier.preAuthFailure
  split
  · exact proofRefusal_isProofError h
  · exact proofRefusal_isProofError (by decide +kernel)

theorem postAuthFailureWith_isProofError {code message : String} :
    IsProofError (V.postAuthFailureWith code (.ok message)) := by
  unfold PCCBVerifier.postAuthFailureWith
  split
  · exact proofRefusal_isProofError (by decide +kernel)
  · exact ⟨code, message, rfl⟩

theorem postAuthFailure_isProofError {code : String} (h : hasMessage code = true) :
    IsProofError (V.postAuthFailure code) := by
  obtain ⟨message, hmessage⟩ := publicMessage_ok h
  unfold PCCBVerifier.postAuthFailure
  rw [hmessage]
  exact postAuthFailureWith_isProofError V

/-- an edge refusal has a message in a table of its own -/
theorem edgeFailure_isProofError {code : String} (h : (edgeBindingRefusalMessages.lookup code).isSome = true) :
    IsProofError (V.edgeFailure code) := by
  obtain ⟨message, hmessage⟩ := Option.isSome_iff_exists.mp h
  unfold PCCBVerifier.edgeFailure
  rw [hmessage]
  exact postAuthFailureWith_isProofError V

/-- the checks before the signature have passed, and its payload has a canonical form -/
structure PCCBVerifier.ReachesSignature (V : PCCBVerifier) (P : Platform) (pccb : PCCB) (payload : List UInt8) :
    Prop where
  declared : declares (payloadContract pccb.unsignedPayload) "pccb" "v1" = true
  signed : ¬ (pccb.signature.value = "" ∨ pccb.signature.encoding ≠ "base64url")
  canonical : canonicalizeBytes P (.obj pccb.unsignedPayload) = .ok payload

/-- `now` with the skew stays in the calendar, where it is compared -/
def PCCBVerifier.ClockFits (V : PCCBVerifier) (pccb : PCCB) (now : Datetime) : Prop :=
  now.us + V.clockSkewTolerance < 315537897600000000 ∧
    (pccb.notBefore.us ≤ now.us + V.clockSkewTolerance → V.clockSkewTolerance ≤ now.us)

theorem authenticate_raises_iff (pccb : PCCB) :
    Raises IsProofError (V.authenticate P pccb) ↔ ∀ payload, V.ReachesSignature P pccb payload →
      Raises IsProofError (V.signer payload pccb.signature pccb.issuer pccb.issuedAt) := by
  have hdeclared : Raises IsProofError (raiseWhen (¬ declares (payloadContract pccb.unsignedPayload) "pccb" "v1")
      (V.preAuthFailure "UNSUPPORTED_PROTOCOL_VERSION")) :=
    raises_raiseWhen (preAuthFailure_isProofError V (by decide +kernel))
  have hinvalid : ∀ (bad : Prop) [Decidable bad], Raises IsProofError (raiseWhen bad (V.preAuthFailure "SIGNATURE_INVALID")) :=
    fun bad _ => raises_raiseWhen (preAuthFailure_isProofError V (by decide +kernel))
  have hpayload : Raises IsProofError ((canonicalizeBytes P (.obj pccb.unsignedPayload)).mapError
      fun _ => V.preAuthFailure "PROOF_PAYLOAD_INVALID") :=
    Raises.mapError fun _ => preAuthFailure_isProofError V (by decide +kernel)
  unfold PCCBVerifier.authenticate
  rw [Raises.bind_iff, and_iff_right hdeclared]
  constructor
  · intro h payload hreach
    have h := (Raises.bind_iff.mp (h () (raiseWhen_ok.mpr (not_not.mpr hreach.declared)))).2 ()
      (raiseWhen_ok.mpr hreach.signed)
    have h := (Raises.bind_iff.mp h).2 payload (mapError_eq_ok.mpr hreach.canonical)
    exact (Raises.bind_iff.mp h).1
  · intro h _ hd
    refine (hinvalid _).bind fun _ hs => ?_
    refine hpayload.bind fun payload hp => ?_
    have hreach : V.ReachesSignature P pccb payload :=
      ⟨not_not.mp (raiseWhen_ok.mp hd), raiseWhen_ok.mp hs, mapError_eq_ok.mp hp⟩
    exact (h payload hreach).bind fun _ _ => hinvalid _

theorem authenticate_of_signer {pccb : PCCB} {payload : List UInt8} (hreach : V.ReachesSignature P pccb payload) {r : Raised}
    (h : V.signer payload pccb.signature pccb.issuer pccb.issuedAt = .error r) : V.authenticate P pccb = .error r := by
  unfold PCCBVerifier.authenticate
  rw [raiseWhen_ok (u := ()).mpr (not_not.mpr hreach.declared), Fallible.ok_bind,
    raiseWhen_ok (u := ()).mpr hreach.signed, Fallible.ok_bind, hreach.canonical]
  show (V.signer payload pccb.signature pccb.issuer pccb.issuedAt >>= _) = _
  rw [h]
  rfl

/-- the window is checked with no other exception exactly when the clock fits -/
theorem checkWindow_raises_iff (pccb : PCCB) (now : Datetime) :
    Raises IsProofError (V.checkWindow pccb now) ↔ V.ClockFits pccb now := by
  have hlt := now.lt
  have hearly : ∀ latest : Datetime, Raises IsProofError
      (raiseWhen (latest < pccb.notBefore) (V.postAuthFailure "PROOF_NOT_YET_VALID")) :=
    fun latest => raises_raiseWhen (postAuthFailure_isProofError V (by decide +kernel))
  have hlate : ∀ earliest : Datetime, Raises IsProofError
      (raiseWhen (pccb.expiresAt < earliest) (V.postAuthFailure "PROOF_EXPIRED")) :=
    fun earliest => raises_raiseWhen (postAuthFailure_isProofError V (by decide +kernel))
  unfold PCCBVerifier.checkWindow PCCBVerifier.ClockFits
  rw [Raises.bind_iff, raises_orRaise_iff, Datetime.shift, ofInt_returns]
  have hnotBefore : ∀ latest, orRaise (Datetime.ofInt (now.us + V.clockSkewTolerance)) = .ok latest →
      (¬ latest < pccb.notBefore ↔ pccb.notBefore.us ≤ now.us + V.clockSkewTolerance) := by
    intro latest hlatest
    have hus := ofInt_us (orRaise_ok hlatest)
    show ¬ latest.us < pccb.notBefore.us ↔ _
    omega
  constructor
  · rintro ⟨⟨-, hfits⟩, h⟩
    refine ⟨by omega, fun hstarted => ?_⟩
    obtain ⟨latest, hlatest⟩ : ∃ t, Datetime.ofInt (now.us + V.clockSkewTolerance) = .ok t :=
      ofInt_returns.mpr ⟨by omega, hfits⟩
    have hok : orRaise (Datetime.ofInt (now.us + V.clockSkewTolerance)) = .ok latest := by rw [hlatest]; rfl
    have h := (Raises.bind_iff.mp (h latest hok)).2 () (raiseWhen_ok.mpr ((hnotBefore latest hok).mpr hstarted))
    have h := ofInt_returns.mp (raises_orRaise_iff.mp (Raises.bind_iff.mp h).1)
    omega
  · rintro ⟨hfits, hstarted⟩
    refine ⟨⟨by omega, by omega⟩, fun latest hlatest => ?_⟩
    refine (hearly latest).bind fun _ hpassed => ?_
    have hskew := hstarted ((hnotBefore latest hlatest).mp (raiseWhen_ok.mp hpassed))
    refine Raises.bind (raises_orRaise_iff.mpr (ofInt_returns.mpr ⟨by omega, by omega⟩)) fun earliest _ => ?_
    exact hlate earliest

/-- everything after the window is refused with a `ProofVerificationError` -/
theorem checkRest_raises (hauthority : ∀ extensions authority, P.parseAuthorityExtension extensions = some authority →
      (Dict.find authority (.str "revocable")).isSome = true)
    (intent : ActionIntent) (pccb : PCCB) (context : DynamicContextInput) :
    Raises IsProofError (do
      V.checkBinding P intent pccb context
      V.checkActionHash P intent pccb
      V.checkEdge P pccb context
      V.checkRevocation P pccb context) := by
  have hpost : ∀ (bad : Prop) [Decidable bad] {code : String}, hasMessage code = true →
      Raises IsProofError (raiseWhen bad (V.postAuthFailure code)) :=
    fun bad _ _ h => raises_raiseWhen (postAuthFailure_isProofError V h)
  have hedge : ∀ (bad : Prop) [Decidable bad] {code : String},
      (edgeBindingRefusalMessages.lookup code).isSome = true → Raises IsProofError (raiseWhen bad (V.edgeFailure code)) :=
    fun bad _ _ h => raises_raiseWhen (edgeFailure_isProofError V h)
  have hbinding : Raises IsProofError (V.checkBinding P intent pccb context) := by
    unfold PCCBVerifier.checkBinding
    refine (hpost _ (by decide +kernel)).bind fun _ _ => ?_
    refine (hpost _ (by decide +kernel)).bind fun _ _ => ?_
    refine (hpost _ (by decide +kernel)).bind fun _ _ => ?_
    refine (hpost _ (by decide +kernel)).bind fun _ _ => ?_
    refine (hpost _ (by decide +kernel)).bind fun _ _ => ?_
    refine (hedge _ (by decide +kernel)).bind fun _ _ => ?_
    refine (hpost _ (by decide +kernel)).bind fun _ _ => ?_
    refine (hpost _ (by decide +kernel)).bind fun _ _ => ?_
    refine (hpost _ (by decide +kernel)).bind fun _ _ => ?_
    exact hpost _ (by decide +kernel)
  have hhash : Raises IsProofError (V.checkActionHash P intent pccb) := by
    unfold PCCBVerifier.checkActionHash
    refine (Raises.mapError fun _ => postAuthFailure_isProofError V (by decide +kernel)).bind fun _ _ => ?_
    refine (hpost _ (by decide +kernel)).bind fun _ _ => ?_
    exact hpost _ (by decide +kernel)
  have hdeclared : Raises IsProofError (V.checkEdge P pccb context) := by
    unfold PCCBVerifier.checkEdge
    refine (hedge _ (by decide +kernel)).bind fun _ _ => ?_
    exact hedge _ (by decide +kernel)
  refine hbinding.bind fun _ _ => hhash.bind fun _ _ => hdeclared.bind fun _ _ => ?_
  have hunknown : IsProofError (V.postAuthFailureWith "AUTHORITY_REVOKED" (.ok authorityStatusUnknownMessage)) :=
    postAuthFailureWith_isProofError V
  have hrevocable : ∀ authority, P.parseAuthorityExtension pccb.extensions = some authority →
      Raises IsProofError (orRaise (isRevocable authority)) := by
    intro authority hparsed
    obtain ⟨value, hvalue⟩ := Option.isSome_iff_exists.mp (hauthority _ _ hparsed)
    refine raises_orRaise_iff.mpr ?_
    unfold isRevocable
    rw [hvalue]
    cases value <;> exact ⟨_, rfl⟩
  unfold PCCBVerifier.checkRevocation
  dsimp only
  cases V.revocationChecker with
  | none =>
    have hlast : ∀ b : Bool, Raises IsProofError (raiseWhen (b = true)
        (V.postAuthFailureWith "AUTHORITY_REVOKED" (.ok authorityStatusUnknownMessage))) :=
      fun _ => raises_raiseWhen hunknown
    split
    · split
      · exact (Raises.error hunknown).bind fun b _ => hlast b
      · rename_i authority hparsed
        exact (hrevocable authority hparsed).bind fun b _ => hlast b
    · exact (Raises.ok false).bind fun b _ => hlast b
  | some checker =>
    have hrevoked : IsProofError (V.postAuthFailure "AUTHORITY_REVOKED") :=
      postAuthFailure_isProofError V (by decide +kernel)
    have hlast := raises_answer hrevoked hunknown (checker pccb context)
    split
    · split
      · exact (Raises.error hunknown).bind fun _ _ => hlast
      · rename_i authority hparsed
        exact (hrevocable authority hparsed).bind fun _ _ => hlast
    · exact (Raises.ok false).bind fun _ _ => hlast

/-- **What a verifier raises is a `ProofVerificationError`, except for what its signer raises and for a clock that
leaves the calendar.** -/
theorem verify_raises_iff (hauthority : ∀ extensions authority, P.parseAuthorityExtension extensions = some authority →
      (Dict.find authority (.str "revocable")).isSome = true)
    (intent : ActionIntent) (pccb : PCCB) (context : DynamicContextInput) :
    Raises IsProofError (V.verify P intent pccb context) ↔
      (∀ payload, V.ReachesSignature P pccb payload →
        Raises IsProofError (V.signer payload pccb.signature pccb.issuer pccb.issuedAt)) ∧
      (V.authenticate P pccb = .ok () → V.ClockFits pccb context.now) := by
  unfold PCCBVerifier.verify
  rw [Raises.bind_iff, authenticate_raises_iff]
  refine and_congr_right fun _ => ⟨fun h hauthentic => ?_, fun h _ hauthentic => ?_⟩
  · exact (checkWindow_raises_iff V pccb context.now).mp (Raises.bind_iff.mp (h () hauthentic)).1
  · refine ((checkWindow_raises_iff V pccb context.now).mpr (h hauthentic)).bind fun _ _ => ?_
    exact checkRest_raises V hauthority intent pccb context

end

namespace WellKnown

/-! ## with the well-known verifier -/

section
variable {N : Network}

/-- a body that is the canonical text of a document is read as the document -/
theorem Network.loads_canonText (hI : N.interpreter.RoomFor StrictLoads.defaultMaxJsonDepth) {j : Json} {t : List Char}
    (hl : j.lawful = true) (h : canonText j = .ok t) (hsize : (Text.utf8 t).length ≤ StrictLoads.defaultMaxJsonBytes)
    (hdepth : j.depth ≤ StrictLoads.defaultMaxJsonDepth) : N.loads (Text.utf8 t) = .ok j.asRead := by
  have hraw : StrictLoads.Raw.bytes (Text.utf8 t) ∈ inputsOf (t ++ []) := by
    rw [List.append_nil]
    exact List.mem_cons_of_mem _ List.mem_cons_self
  rw [← List.append_nil t] at hsize
  have hread := (loadsValue_canonText hI hl h (g := []) (List.forall_mem_nil _) hraw j.asRead).mpr ⟨rfl, hsize, hdepth⟩
  unfold loadsValue at hread
  obtain ⟨loaded, hloaded, hvalue⟩ := Fallible.bind_eq_ok.mp hread
  unfold Network.loads
  rw [hloaded, Fallible.ok_bind]
  cases ho : ofLoaded loaded with
  | none =>
    rw [ho] at hvalue
    cases hvalue
  | some value =>
    rw [ho] at hvalue
    exact congrArg Except.ok (Except.ok.inj hvalue)

theorem documentChecks_loads {R : WellKnownKeyResolver} {x : Exchange} {raw : Json} (h : N.loads x.body = .ok raw) :
    documentChecks N R x =
      urlShape N R :: objectChecks raw fun data => memberChecks N R data ++ [lifetimeShape N R x data] := by
  unfold documentChecks
  rw [h]

theorem failClosed_returns {y : ResolverM Bool} : (∃ b, failClosed y = .ok b) ↔ OnlyCaught y := by
  cases y with
  | ok b => exact iff_of_true ⟨b, rfl⟩ (Raises.ok b)
  | error e =>
    rw [onlyCaught_error]
    cases e with
    | resolver kind message => exact iff_of_true ⟨false, rfl⟩ rfl
    | other e =>
      refine iff_of_false ?_ (fun h => nomatch h)
      rintro ⟨b, hb⟩
      cases hb

/-- without a cached document, what the fetch lets through is let through -/
theorem verifyWithMetadata_of_fetch {W : WellKnownVerifier} {first : Exchange} {e : PyError}
    (h : fetchDocument N W.resolver first = .error (.other e)) (second : Exchange) (payload : List UInt8)
    (signature : SignatureSpec) (issuer : Option PartyRef) (issuedAt : Datetime) (anchored : Option Bool)
    (anchorTime : Option Datetime) :
    (W.verifyWithMetadata N none first second payload signature issuer (some issuedAt) anchored anchorTime).1 =
      .error e := by
  have hdocument : getDocument N W.resolver none false first = (.error (.other e), none) := by
    unfold getDocument
    rw [h]
    rfl
  unfold WellKnownVerifier.verifyWithMetadata resolveKey
  dsimp only
  rw [hdocument]
  rfl

/-- **`verify_with_metadata` answers exactly when the replies are contained.** -/
theorem verifyWithMetadata_returns_iff (hN : N.Documented) (W : WellKnownVerifier)
    (cache : Option CachedDiscoveryDocument) (first second : Exchange) (payload : List UInt8)
    (signature : SignatureSpec) (issuer : Option PartyRef) (issuedAt : Option Datetime) (anchored : Option Bool)
    (anchorTime : Option Datetime) :
    (∃ b, (W.verifyWithMetadata N cache first second payload signature issuer issuedAt anchored anchorTime).1 = .ok b)
      ↔ ∀ t, issuedAt = some t →
        RepliesContained N W.resolver cache first second (W.request signature issuer t anchored anchorTime) := by
  cases issuedAt with
  | none => exact iff_of_true ⟨false, rfl⟩ (fun t h => nomatch h)
  | some issuedAt =>
    have hiff : (∀ t, some issuedAt = some t →
        RepliesContained N W.resolver cache first second (W.request signature issuer t anchored anchorTime)) ↔
        RepliesContained N W.resolver cache first second (W.request signature issuer issuedAt anchored anchorTime) := by
      refine ⟨fun h => h issuedAt rfl, fun h t ht => ?_⟩
      cases ht
      exact h
    rw [hiff, ← resolveKey_raises hN]
    refine failClosed_returns.trans (Raises.bind_iff.trans ?_)
    exact and_iff_left fun resolved _ => verifySignature_raises payload signature resolved

/-- as a signer, it raises nothing exactly then -/
theorem asSigner_raises_iff (hN : N.Documented) (W : WellKnownVerifier) (cache : Option CachedDiscoveryDocument)
    (first second : Exchange) (payload : List UInt8) (signature : SignatureSpec) (issuer : PartyRef)
    (issuedAt : Datetime) :
    Raises IsProofError (W.asSigner N cache first second payload signature issuer issuedAt) ↔
      RepliesContained N W.resolver cache first second (W.request signature (some issuer) issuedAt none none) := by
  refine raises_orRaise_iff.trans ((verifyWithMetadata_returns_iff hN W cache first second payload signature
    (some issuer) (some issuedAt) none none).trans ⟨fun h => h issuedAt rfl, fun h t ht => ?_⟩)
  cases ht
  exact h

/-- **Key resolution fails closed exactly when the replies are contained: the well-known verifier answers, and a
`PCCBVerifier` with it raises nothing but `ProofVerificationError`, while its clock stays in the calendar.** -/
theorem resolution_contained_iff (hN : N.Documented) (W : WellKnownVerifier) (cache : Option CachedDiscoveryDocument)
    (first second : Exchange) :
    (∀ payload signature issuer issuedAt anchored anchorTime,
      (∃ b, (W.verifyWithMetadata N cache first second payload signature issuer issuedAt anchored anchorTime).1 = .ok b)
        ↔ ∀ t, issuedAt = some t →
          RepliesContained N W.resolver cache first second (W.request signature issuer t anchored anchorTime)) ∧
      ∀ (P : Platform) (V : PCCBVerifier),
        (∀ extensions authority, P.parseAuthorityExtension extensions = some authority →
          (Dict.find authority (.str "revocable")).isSome = true) →
        V.signer = W.asSigner N cache first second →
        ∀ (intent : ActionIntent) (pccb : PCCB) (context : DynamicContextInput),
          Raises IsProofError (V.verify P intent pccb context) ↔
            ((∃ payload, V.ReachesSignature P pccb payload) → RepliesContained N W.resolver cache first second
              (W.request pccb.signature (some pccb.issuer) pccb.issuedAt none none)) ∧
            (V.authenticate P pccb = .ok () → V.ClockFits pccb context.now) := by
  refine ⟨verifyWithMetadata_returns_iff hN W cache first second, fun P V hauthority hsigner intent pccb context => ?_⟩
  rw [verify_raises_iff V hauthority intent pccb context, hsigner]
  refine and_congr_left fun _ => ⟨fun h hreach => ?_, fun h payload hreach => ?_⟩
  · obtain ⟨payload, hreach⟩ := hreach
    exact (asSigner_raises_iff hN W cache first second payload _ _ _).mp (h payload hreach)
  · exact (asSigner_raises_iff hN W cache first second payload _ _ _).mpr (h ⟨payload, hreach⟩)

end

/-! ## the sample -/

/-- a URL of plain parts -/
def plainUrl (scheme path : String) : SplitResult where
  scheme := scheme
  netloc := "issuer.example"
  path := path
  query := ""
  fragment := ""
  username := none
  password := none
  hostname := some "issuer.example"
  port := .ok none

/-- a document of `issuer.example` that names an origin -/
def sampleDocument (origin : String) : Json :=
  .obj (members [("contract", .obj (members [("name", .str "key_discovery"), ("version", .str "v1")])),
    ("issuer", .obj (members [("id", .str "iss"), ("type", .str "issuer")])),
    ("keys", .arr [.obj (members [("algorithm", .str "HS256"), ("key_id", .str "k1"), ("public_key_jwk", .obj []),
      ("status", .str "active"), ("use", .str "verify")])]),
    ("origin", .str origin), ("published_at", .str "2025-01-01T00:00:00Z")])

/-- the members as they are read -/
def documentMembers (origin : String) : Dict :=
  match (sampleDocument origin).asRead with
  | .obj d => d
  | .null | .bool _ | .int _ | .float _ | .str _ | .arr _ | .tup _ => []

/-- the document as its server writes it -/
def sampleBody (origin : String) : List UInt8 :=
  match canonText (sampleDocument origin) with
  | .ok t => Text.utf8 t
  | .error _ => []

/-- the libraries at the URLs of the sample -/
def sampleNetwork : Network where
  interpreter := roomyInterpreter
  unpaired _ := .null
  urlsplit url :=
    if url = "https://issuer.example" then .ok (plainUrl "https" "")
    else if url = "https://issuer.example" ++ wellKnownKeysPath then .ok (plainUrl "https" wellKnownKeysPath)
    else .ok (plainUrl "http" "")
  lower s := String.ofList (s.toList.map PyString.lowerChar)
  repr s := "'" ++ s ++ "'"
  ipAddress _ := none
  getaddrinfo _ := .ok []
  hasCrypto := true
  ed25519Verify _ _ _ := false
  rsaPublicNumbers _ _ := true
  rsaVerify _ _ _ _ := false
  intOfStr _ := valueError "invalid literal for int() with base 10"

theorem sampleNetwork_documented : sampleNetwork.Documented where
  int_only _ := Raises.error rfl

def sampleResolver : WellKnownVerifier where
  resolver := { issuerOrigin := "https://issuer.example" }

def sampleExchange (origin : String) : Exchange := ⟨sampleIssued, [], sampleBody origin⟩

theorem loads_sampleBody (origin : String) (hsize : (sampleDocument origin).bytes ≤ StrictLoads.defaultMaxJsonBytes)
    (hdepth : (sampleDocument origin).depth ≤ StrictLoads.defaultMaxJsonDepth) :
    sampleNetwork.loads (sampleBody origin) = .ok (sampleDocument origin).asRead := by
  obtain ⟨t, ht⟩ := (canonText_exists (sampleDocument origin)).mpr rfl
  have hbody : sampleBody origin = Text.utf8 t := by
    unfold sampleBody
    rw [ht]
  rw [hbody]
  exact Network.loads_canonText (N := sampleNetwork) roomyInterpreter_room rfl ht (Json.bytes_of_text ht ▸ hsize) hdepth

/-- the sample verifier with the well-known verifier as its signer -/
def wellKnownSample (origin : String) : PCCBVerifier where
  signer := sampleResolver.asSigner sampleNetwork none (sampleExchange origin) (sampleExchange origin)

theorem wellKnownSample_signer (origin : String) : (wellKnownSample origin).signer =
    sampleResolver.asSigner sampleNetwork none (sampleExchange origin) (sampleExchange origin) := by
  simp only [wellKnownSample]

theorem kernelPlatform_authority (extensions authority : Dict)
    (h : kernelPlatform.parseAuthorityExtension extensions = some authority) :
    (Dict.find authority (.str "revocable")).isSome = true := nomatch h

/-- with TLS in the document's origin the sample is answered and refused -/
theorem resolution_contained_sample :
    (∃ b, (sampleResolver.verifyWithMetadata sampleNetwork none (sampleExchange "https://issuer.example")
        (sampleExchange "https://issuer.example") [] samplePccb.signature (some samplePccb.issuer)
        (some samplePccb.issuedAt) none none).1 = .ok b) ∧
      Raises IsProofError
        ((wellKnownSample "https://issuer.example").verify kernelPlatform sampleIntent samplePccb sampleContext) := by
  have hcontained : (sampleExchange "https://issuer.example").Contained sampleNetwork sampleResolver.resolver := by
    have hloads := loads_sampleBody "https://issuer.example" (by decide +kernel) (by decide +kernel)
    unfold Exchange.Contained
    rw [documentChecks_loads (x := sampleExchange "https://issuer.example") hloads]
    decide +kernel
  have hreplies : ∀ q, RepliesContained sampleNetwork sampleResolver.resolver none
      (sampleExchange "https://issuer.example") (sampleExchange "https://issuer.example") q :=
    fun q => ⟨fun _ => hcontained, fun _ _ _ => hcontained⟩
  have h := resolution_contained_iff sampleNetwork_documented sampleResolver none
    (sampleExchange "https://issuer.example") (sampleExchange "https://issuer.example")
  have hclock : (wellKnownSample "https://issuer.example").ClockFits samplePccb sampleContext.now :=
    ⟨by decide +kernel, fun _ => Nat.zero_le _⟩
  have hanswers := (h.1 [] samplePccb.signature (some samplePccb.issuer) (some samplePccb.issuedAt) none none).mpr
    fun t _ => hreplies _
  have hraises := (h.2 kernelPlatform _ kernelPlatform_authority (wellKnownSample_signer "https://issuer.example")
    sampleIntent samplePccb sampleContext).mpr ⟨fun _ => hreplies _, fun _ => hclock⟩
  exact ⟨hanswers, hraises⟩

/-- the document without TLS is fetched, and its origin is not taken -/
theorem fetch_plain_origin : fetchDocument sampleNetwork sampleResolver.resolver (sampleExchange "http://issuer.example") =
    .error (.other ⟨.valueError, "issuer_origin must use https"⟩) := by
  have hvalid : validateWellKnownFetchUrl sampleNetwork sampleResolver.resolver.discoveryUrl
      sampleResolver.resolver.issuerOrigin sampleResolver.resolver.fetchIsDefault = .ok () := by decide +kernel
  have hloads := loads_sampleBody "http://issuer.example" (by decide +kernel) (by decide +kernel)
  have hcontract : parseContract (Dict.get (documentMembers "http://issuer.example") "contract") = .ok () := by
    decide +kernel
  have horigin : parseOrigin sampleNetwork (Dict.get (documentMembers "http://issuer.example") "origin")
      sampleResolver.resolver.issuerOrigin sampleResolver.resolver.discoveryUrl =
        .error (.other ⟨.valueError, "issuer_origin must use https"⟩) := by decide +kernel
  unfold fetchDocument parseDiscoveryDocument sampleExchange
  rw [hvalid, Fallible.ok_bind, hloads]
  show (parseDiscoveryPayload sampleNetwork (documentMembers "http://issuer.example")
    sampleResolver.resolver.issuerOrigin sampleResolver.resolver.discoveryUrl >>= _) = _
  unfold parseDiscoveryPayload
  rw [hcontract, Fallible.ok_bind, horigin]
  rfl

/-- **A document that names its origin without TLS makes both raise a `ValueError`.** -/
theorem plain_origin_escapes :
    (∃ e, (sampleResolver.verifyWithMetadata sampleNetwork none (sampleExchange "http://issuer.example")
        (sampleExchange "http://issuer.example") [] samplePccb.signature (some samplePccb.issuer)
        (some samplePccb.issuedAt) none none).1 = .error e ∧ e = ⟨.valueError, "issuer_origin must use https"⟩) ∧
      ∃ e, (wellKnownSample "http://issuer.example").verify kernelPlatform sampleIntent samplePccb sampleContext =
        .error (.other e) := by
  refine ⟨⟨_, verifyWithMetadata_of_fetch fetch_plain_origin _ _ _ _ _ _ _, rfl⟩, ⟨.valueError, "issuer_origin must use https"⟩, ?_⟩
  refine verify_of_authenticate ?_
  obtain ⟨payload, hpayload⟩ :=
    Fallible.exists_ok (x := canonicalizeBytes kernelPlatform (.obj samplePccb.unsignedPayload)) (by decide +kernel)
  refine authenticate_of_signer _ ⟨by decide +kernel, by decide +kernel, hpayload⟩ ?_
  rw [wellKnownSample_signer]
  unfold WellKnownVerifier.asSigner
  rw [verifyWithMetadata_of_fetch fetch_plain_origin]
  rfl

end WellKnown

end Actenon
