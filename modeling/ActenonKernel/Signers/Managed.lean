import ActenonKernel.Lib.Program
import ActenonKernel.Signers.KeyLifecycle
import ActenonKernel.Signers.Local

/-!
# Managed signing keys (`actenon/proof/signers/external_managed.py`, `aws_kms.py`)

A signer holds a reference to a key of a key service and never the key.  Whether the key may sign is
looked up twice, by the signer and by the backend, and the key service can change in between.

* `getKeyStatus`, `signCanonicalBytes`, `verifyCanonicalBytes`    the backend, as programs that call the service;
* `ExternalManagedSigner.sign`, `ExternalManagedSigner.verify`    the signer on top of it;
* `wp_sign`                 every call of the signer, and what it returns;
* `managed_sign_exact`, `managed_verify_exact`    which runs return a signature, or accept one.
-/

set_option linter.unusedSectionVars false

namespace Actenon

namespace Signers

open Program

/-! ## the key service -/

structure ManagedKeyReference where
  provider : String
  providerKeyRef : String
  keyId : String
  algorithm : String
  purpose : String
  publicKeyRef : Option String := none
  status : String := "active"

/-- the calls of the client of the key service -/
inductive KmsOp where
  | describeKey (keyId : String)
  | sign (keyId : String) (message : List UInt8) (signingAlgorithm : String)
  | verify (keyId : String) (message signature : List UInt8) (signingAlgorithm : String)

/-- their answers, or the text of an exception: a `KeyState`, a `Signature`, a `SignatureValid` -/
abbrev KmsRes : KmsOp → Type
  | .describeKey _ => Except String String
  | .sign _ _ _ => Except String (List UInt8)
  | .verify _ _ _ _ => Except String Bool

inductive SigningError where
  /-- `ExternalManagedSigningError` -/
  | external (message : String)
  | lifecycle (e : KeyLifecycleError)

abbrev Kms (α : Type) := Act KmsOp KmsRes Unit SigningError α

def describeKey (keyId : String) : Kms (Except String String) := Act.ask (KmsOp.describeKey keyId)

def kmsSign (keyId : String) (message : List UInt8) (signingAlgorithm : String) : Kms (Except String (List UInt8)) :=
  Act.ask (KmsOp.sign keyId message signingAlgorithm)

def kmsVerify (keyId : String) (message signature : List UInt8) (signingAlgorithm : String) : Kms (Except String Bool) :=
  Act.ask (KmsOp.verify keyId message signature signingAlgorithm)

/-! ## the backend -/

def awsKmsAlgorithms : List String :=
  ["RS256", "RS384", "RS512", "PS256", "PS384", "PS512", "ES256", "ES384", "ES512", "EdDSA"]

/-- `AWS_KMS_KEY_STATE_MAP` -/
def awsKmsKeyState (state : String) : Option KeyLifecycleState :=
  if state = "Enabled" then some .active
  else if state = "Disabled" ∨ state = "PendingImport" ∨ state = "Updating" then some .suspended
  else if state = "PendingDeletion" ∨ state = "Unavailable" then some .revoked
  else none

def restrictiveness : KeyLifecycleState → Nat
  | .active => 0
  | .retired => 1
  | .suspended => 2
  | .revoked => 3
  | .hardRevoked => 4

section
variable (repr : String → String) (P : Platform) (key : ManagedKeyReference)

/-- the more restrictive of the operator's state and the one the service answers -/
def combinedStatus (operatorState : KeyLifecycleState) (answer : Except String String) : Except SigningError String :=
  let keyRef := repr key.providerKeyRef
  match answer with
  | .error e => .error (.external s!"failed to describe KMS key {keyRef}: {e}")
  | .ok awsState =>
    match awsKmsKeyState awsState with
    | none =>
      let state := repr awsState
      .error (.external s!"unknown AWS KMS key state {state} for key {keyRef}; failing closed.")
    | some kmsState =>
      if restrictiveness kmsState > restrictiveness operatorState then .ok kmsState.value else .ok operatorState.value

def getKeyStatus : Kms String := do
  let operatorState ← Act.lift ((KeyLifecycleState.fromString repr key.status).mapError .lifecycle)
  if operatorState = .hardRevoked then pure operatorState.value
  else do
    let answer ← describeKey key.providerKeyRef
    Act.lift (combinedStatus repr key operatorState answer)

structure ManagedSigningResult where
  algorithm : String
  keyId : String
  signature : List UInt8
  publicKeyRef : String
  providerOperationId : Option String

/-- `key.public_key_ref or f"aws-kms://..."` -/
def publicKeyRefOf : String :=
  match key.publicKeyRef.filter (· ≠ "") with
  | some ref => ref
  | none => "aws-kms://" ++ key.providerKeyRef

/-- from the first digits of the signature's digest -/
def operationId (signature : List UInt8) : String :=
  "aws-kms-sign-" ++ String.ofList ((Hex.toHex (P.sha256 signature)).take 16)

def cannotSign (e : KeyLifecycleError) : SigningError :=
  let id := repr key.keyId
  let text := e.message
  .external s!"AWS KMS key {id} cannot sign: {text}"

/-- the check of the lifecycle before a signature -/
def requireSignable (status : String) : Except SigningError Unit :=
  (KeyLifecycleState.fromString repr status >>= fun state => assertCanSign state).mapError (cannotSign repr key)

def requireAlgorithm : Except SigningError Unit :=
  if awsKmsAlgorithms.contains key.algorithm then .ok ()
  else
    let algorithm := repr key.algorithm
    let supported := wordsText (awsKmsAlgorithms.insertionSort (· ≤ ·))
    .error (.external s!"AWS KMS backend does not support algorithm {algorithm}; supported: {supported}.")

/-- what the answer of the service to a signing request gives -/
def signingResult (answer : Except String (List UInt8)) : Except SigningError ManagedSigningResult :=
  match answer with
  | .error e =>
    let id := repr key.keyId
    .error (.external s!"AWS KMS Sign failed for key {id}: {e}")
  | .ok signature =>
    .ok ⟨key.algorithm, key.keyId, signature, publicKeyRefOf key, some (operationId P signature)⟩

def signCanonicalBytes (payload : List UInt8) : Kms ManagedSigningResult := do
  let status ← getKeyStatus repr key
  Act.lift (requireSignable repr key status)
  Act.lift (requireAlgorithm repr key)
  let answer ← kmsSign key.providerKeyRef payload key.algorithm
  Act.lift (signingResult repr P key answer)

def verifyCanonicalBytes (payload signature : List UInt8) : Kms Bool := do
  let status ← getKeyStatus repr key
  match KeyLifecycleState.fromString repr status >>= fun state => assertCanVerify state with
  | .error _ => pure false
  | .ok () =>
    if awsKmsAlgorithms.contains key.algorithm then do
      let answer ← kmsVerify key.providerKeyRef payload signature key.algorithm
      match answer with
      | .error _ => pure false
      | .ok valid => pure valid
    else pure false

end

/-! ## the signer -/

structure ExternalManagedSigner where
  key : ManagedKeyReference
  requiredPurpose : String := "proof_issuance"

def allowedKeyPurposes : List String := ["proof_issuance", "outcome_attestation"]

def blockedKeyStatuses : List String := ["suspended", "revoked", "hard_revoked", "disabled", "deleted", "unknown"]

/-- `status.strip().lower()` -/
def normalizedStatus (status : String) : String := lower (String.ofList (PyString.strip status.toList))

section
variable (repr : String → String) (P : Platform) (S : ExternalManagedSigner)

def ExternalManagedSigner.requirePurpose : Except SigningError Unit :=
  let purpose := S.key.purpose
  let required := S.requiredPurpose
  if ¬ allowedKeyPurposes.contains purpose then
    .error (.external s!"unsupported managed signing key purpose: {purpose}")
  else if purpose ≠ required then
    .error (.external s!"managed signing key purpose mismatch: required {required}, got {purpose}")
  else .ok ()

def ExternalManagedSigner.requireActive (providerStatus : String) : Except SigningError Unit :=
  let status := S.key.status
  if normalizedStatus status ≠ "active" then .error (.external s!"managed signing key is not active: {status}")
  else if providerStatus ≠ "active" then
    .error (.external s!"managed signing provider reports non-active key status: {providerStatus}")
  else if blockedKeyStatuses.contains (normalizedStatus status) || blockedKeyStatuses.contains providerStatus then
    .error (.external "managed signing key is suspended, revoked, or unavailable")
  else .ok ()

def ExternalManagedSigner.ensureKeyCanSign : Kms Unit := do
  Act.lift S.requirePurpose
  let status ← getKeyStatus repr S.key
  Act.lift (S.requireActive (normalizedStatus status))

/-- the checks of a result -/
def ExternalManagedSigner.requireResult (result : ManagedSigningResult) : Except SigningError ManagedSigningResult :=
  if result.algorithm ≠ S.key.algorithm ∨ result.keyId ≠ S.key.keyId then
    .error (.external "managed signing backend returned mismatched algorithm or key id")
  else if result.signature = [] then .error (.external "managed signing backend returned an empty signature")
  else if result.publicKeyRef = "" then
    .error (.external "managed signing backend did not return a public key reference")
  else .ok result

def ExternalManagedSigner.signManaged (payload : List UInt8) : Kms ManagedSigningResult := do
  S.ensureKeyCanSign repr
  let result ← signCanonicalBytes repr P S.key payload
  Act.lift (S.requireResult result)

def ManagedSigningResult.toSignatureSpec (result : ManagedSigningResult) : SignatureSpec :=
  ⟨result.algorithm, result.keyId, "base64url", b64urlEncode result.signature⟩

def ExternalManagedSigner.sign (payload : List UInt8) : Kms SignatureSpec := do
  let result ← S.signManaged repr P payload
  return result.toSignatureSpec

def ExternalManagedSigner.verify (payload : List UInt8) (signature : SignatureSpec) : Kms Bool :=
  if signature.algorithm ≠ S.key.algorithm ∨ signature.keyId ≠ S.key.keyId ∨ signature.encoding ≠ "base64url" then
    pure false
  else
    match b64urlDecode signature.value with
    | .error _ => pure false
    | .ok raw => verifyCanonicalBytes repr S.key payload raw

end

/-! ## every call of a signer -/

/-- the reference lets the signer use the key -/
structure ExternalManagedSigner.Usable (S : ExternalManagedSigner) : Prop where
  allowed : S.key.purpose ∈ allowedKeyPurposes
  required : S.key.purpose = S.requiredPurpose
  status : lower S.key.status = "active"
  stripped : normalizedStatus S.key.status = "active"
  algorithm : S.key.algorithm ∈ awsKmsAlgorithms

/-- a look at a key that was found enabled -/
def enabledLook (ref : String) : Event KmsRes := ⟨.describeKey ref, .ok "Enabled"⟩

/-- **The signer's calls**: it looks at its own key, and asks for a signature of its own payload after two
looks that found the key enabled, and not otherwise. -/
def signMonitor (S : ExternalManagedSigner) (payload : List UInt8) : Monitor KmsRes (List (Event KmsRes)) where
  allow looks op :=
    match op with
    | .describeKey ref => ref = S.key.providerKeyRef
    | .sign ref message algorithm =>
      looks = [enabledLook ref, enabledLook ref] ∧ ref = S.key.providerKeyRef ∧ message = payload ∧
        algorithm = S.key.algorithm ∧ S.Usable
    | .verify _ _ _ _ => False
  possible _ _ _ := True
  next looks op r := looks ++ [⟨op, r⟩]

section
variable {repr : String → String} {P : Platform} {S : ExternalManagedSigner} {key : ManagedKeyReference}

theorem signMonitor_run {payload : List UInt8} (g t : List (Event KmsRes)) : (signMonitor S payload).run g t = g ++ t := by
  induction t generalizing g with
  | nil => exact g.append_nil.symm
  | cons e t ih =>
    show (signMonitor S payload).run (g ++ [e]) t = _
    rw [ih, List.append_assoc]
    rfl

theorem awsKmsKeyState_active {state : String} : awsKmsKeyState state = some .active ↔ state = "Enabled" := by
  unfold awsKmsKeyState
  split_ifs with h1 h2 h3
  · exact iff_of_true rfl h1
  · exact iff_of_false (by decide) h1
  · exact iff_of_false (by decide) h1
  · exact iff_of_false (by decide) h1

theorem value_injective {s t : KeyLifecycleState} (h : s.value = t.value) : s = t := by
  have hs := @fromString_value id s
  rw [h, fromString_value] at hs
  exact (Except.ok.inj hs).symm

theorem normalizedStatus_value (s : KeyLifecycleState) : normalizedStatus s.value = s.value := by
  cases s <;> decide +kernel

/-- the status is a state's, and active only if both sources say so -/
theorem combinedStatus_ok {s : KeyLifecycleState} {answer : Except String String} {v : String}
    (h : combinedStatus repr key s answer = .ok v) :
    ∃ t : KeyLifecycleState, v = t.value ∧ (t = .active → s = .active ∧ answer = .ok "Enabled") := by
  unfold combinedStatus at h
  cases answer with
  | error e => cases h
  | ok state =>
    cases hstate : awsKmsKeyState state with
    | none =>
      simp only [hstate] at h
      cases h
    | some kmsState =>
      simp only [hstate] at h
      split_ifs at h with hmore
      · cases h
        refine ⟨kmsState, rfl, ?_⟩
        rintro rfl
        exact absurd hmore (Nat.not_lt_zero _)
      · cases h
        refine ⟨s, rfl, ?_⟩
        rintro rfl
        refine ⟨rfl, congrArg Except.ok (awsKmsKeyState_active.mp ?_)⟩
        rw [hstate]
        cases kmsState <;> first | rfl | exact absurd (by decide) hmore

/-- a look-up either makes no call, and finds the key revoked for good, or asks the service once -/
theorem wp_getKeyStatus {G : Type} {M : Monitor KmsRes G} {g : G} {Q : Except SigningError String × Unit → G → Prop}
    (hallow : M.allow g (.describeKey key.providerKeyRef))
    (hnone : ∀ r, (∀ v, r = .ok v → v = "hard_revoked") → Q (r, ()) g)
    (hask : ∀ answer r, (∀ v, r = .ok v → ∃ s : KeyLifecycleState, v = s.value ∧
      (s = .active → lower key.status = "active" ∧ answer = .ok "Enabled")) →
        Q (r, ()) (M.next g (.describeKey key.providerKeyRef) answer)) :
    wp M (getKeyStatus repr key ()) Q g := by
  refine wp_lift (fun s hs => ?_) (fun e _ => hnone _ fun v h => nomatch h)
  have hstatus : lower key.status = s.value := fromString_ok.mp (Fallible.mapError_eq_ok.mp hs)
  split_ifs with hhard
  · refine hnone _ fun v hv => ?_
    rw [hhard] at hv
    exact (Except.ok.inj hv).symm
  · refine ⟨hallow, fun answer _ => hask answer _ fun v hv => ?_⟩
    obtain ⟨t, ht, hactive⟩ := combinedStatus_ok hv
    refine ⟨t, ht, fun h => ?_⟩
    obtain ⟨rfl, hanswer⟩ := hactive h
    exact ⟨hstatus, hanswer⟩

theorem requirePurpose_ok {u : Unit} (h : S.requirePurpose = .ok u) :
    S.key.purpose ∈ allowedKeyPurposes ∧ S.key.purpose = S.requiredPurpose := by
  unfold ExternalManagedSigner.requirePurpose at h
  dsimp only at h
  split_ifs at h with hallowed hrequired
  exact ⟨List.contains_iff_mem.mp hallowed, not_not.mp hrequired⟩

theorem requireActive_ok {status : String} {u : Unit} (h : S.requireActive status = .ok u) :
    normalizedStatus S.key.status = "active" ∧ status = "active" := by
  unfold ExternalManagedSigner.requireActive at h
  dsimp only at h
  split_ifs at h with hlocal hprovider hblocked
  exact ⟨not_not.mp hlocal, not_not.mp hprovider⟩

theorem requireSignable_ok {s : KeyLifecycleState} {u : Unit} (h : requireSignable repr key s.value = .ok u) :
    s = .active := by
  obtain ⟨t, ht, hsign⟩ := Fallible.bind_eq_ok.mp (Fallible.mapError_eq_ok.mp h)
  rw [fromString_value] at ht
  cases ht
  exact assertCanSign_ok.mp hsign

theorem requireAlgorithm_ok {u : Unit} (h : requireAlgorithm repr key = .ok u) : key.algorithm ∈ awsKmsAlgorithms := by
  unfold requireAlgorithm at h
  split_ifs at h with hknown
  exact List.contains_iff_mem.mp hknown

theorem signingResult_ok {answer : Except String (List UInt8)} {result : ManagedSigningResult}
    (h : signingResult repr P key answer = .ok result) :
    answer = .ok result.signature ∧ result.algorithm = key.algorithm ∧ result.keyId = key.keyId := by
  unfold signingResult at h
  cases answer with
  | error e => cases h
  | ok signature =>
    cases h
    exact ⟨rfl, rfl, rfl⟩

theorem requireResult_ok {result final : ManagedSigningResult} (h : S.requireResult result = .ok final) :
    final = result ∧ result.signature ≠ [] := by
  unfold ExternalManagedSigner.requireResult at h
  split_ifs at h with hmismatch hempty href
  cases h
  exact ⟨rfl, hempty⟩

/-- the signer's own look at the key -/
theorem wp_ensureKeyCanSign (payload : List UInt8) :
    wp (signMonitor S payload) (S.ensureKeyCanSign repr ()) (fun r looks => ∀ u, r.1 = .ok u →
      looks = [enabledLook S.key.providerKeyRef] ∧ lower S.key.status = "active" ∧
        normalizedStatus S.key.status = "active" ∧ S.key.purpose ∈ allowedKeyPurposes ∧
        S.key.purpose = S.requiredPurpose) [] := by
  refine wp_lift (fun u hpurpose => ?_) (fun e _ u h => nomatch h)
  obtain ⟨hallowed, hrequired⟩ := requirePurpose_ok hpurpose
  refine wp_seq (fun r looks => ∀ v, r.1 = .ok v → S.requireActive (normalizedStatus v) = .ok () →
    looks = [enabledLook S.key.providerKeyRef] ∧ lower S.key.status = "active") ?_ ?_ fun e s' g' _ u h => nomatch h
  · refine wp_getKeyStatus rfl (fun r hr v hv hactive => ?_) fun answer r hr v hv hactive => ?_
    · rw [hr v hv] at hactive
      exact absurd (requireActive_ok hactive).2 (by decide +kernel)
    · obtain ⟨s, rfl, hs⟩ := hr v hv
      have hvalue := (requireActive_ok hactive).2
      rw [normalizedStatus_value] at hvalue
      obtain ⟨hstatus, hanswer⟩ := hs (value_injective hvalue)
      refine ⟨?_, hstatus⟩
      show [] ++ [_] = _
      rw [hanswer]
      rfl
  · intro v _ looks hlooks u hu
    dsimp only at hu
    obtain ⟨heq, hstatus⟩ := hlooks v rfl hu
    exact ⟨heq, hstatus, (requireActive_ok hu).1, hallowed, hrequired⟩

/-- the backend's look at the key, and its request -/
theorem wp_signCanonicalBytes {payload : List UInt8} (hstatus : lower S.key.status = "active")
    (hstripped : normalizedStatus S.key.status = "active") (hallowed : S.key.purpose ∈ allowedKeyPurposes)
    (hrequired : S.key.purpose = S.requiredPurpose) :
    wp (signMonitor S payload) (signCanonicalBytes repr P S.key payload ()) (fun r looks => ∀ result, r.1 = .ok result →
      S.Usable ∧ result.algorithm = S.key.algorithm ∧ result.keyId = S.key.keyId ∧
        looks = [enabledLook S.key.providerKeyRef, enabledLook S.key.providerKeyRef,
          ⟨.sign S.key.providerKeyRef payload S.key.algorithm, .ok result.signature⟩])
      [enabledLook S.key.providerKeyRef] := by
  refine wp_seq (fun r looks => ∀ v, r.1 = .ok v → requireSignable repr S.key v = .ok () →
    looks = [enabledLook S.key.providerKeyRef, enabledLook S.key.providerKeyRef]) ?_ ?_
    fun e s' g' _ result h => nomatch h
  · refine wp_getKeyStatus rfl (fun r hr v hv hsignable => ?_) fun answer r hr v hv hsignable => ?_
    · rw [hr v hv] at hsignable
      cases requireSignable_ok (s := .hardRevoked) hsignable
    · obtain ⟨s, rfl, hs⟩ := hr v hv
      show [_] ++ [_] = _
      rw [(hs (requireSignable_ok hsignable)).2]
      rfl
  · rintro v ⟨⟩ looks hlooks
    refine wp_lift (fun u hsignable => ?_) (fun e _ result h => nomatch h)
    obtain rfl := hlooks v rfl hsignable
    refine wp_lift (fun u halgorithm => ?_) (fun e _ result h => nomatch h)
    have husable : S.Usable := ⟨hallowed, hrequired, hstatus, hstripped, requireAlgorithm_ok halgorithm⟩
    refine ⟨⟨rfl, rfl, rfl, rfl, husable⟩, fun answer _ result hresult => ?_⟩
    obtain ⟨hanswer, halg, hid⟩ := signingResult_ok hresult
    refine ⟨husable, halg, hid, ?_⟩
    show [_, _] ++ [_] = _
    rw [hanswer]
    rfl

/-- **Every call of a signer is one it may make**, and it returns a signature only after the service has
made it. -/
theorem wp_sign (payload : List UInt8) :
    wp (signMonitor S payload) (S.sign repr P payload ()) (fun r looks => ∀ spec, r.1 = .ok spec →
      ∃ signature, signature ≠ [] ∧ S.Usable ∧
        looks = [enabledLook S.key.providerKeyRef, enabledLook S.key.providerKeyRef,
          ⟨.sign S.key.providerKeyRef payload S.key.algorithm, .ok signature⟩] ∧
        spec = ⟨S.key.algorithm, S.key.keyId, "base64url", b64urlEncode signature⟩) [] := by
  refine wp_seq (fun r looks => ∀ result, r.1 = .ok result → result.signature ≠ [] ∧ S.Usable ∧
    result.algorithm = S.key.algorithm ∧ result.keyId = S.key.keyId ∧
      looks = [enabledLook S.key.providerKeyRef, enabledLook S.key.providerKeyRef,
        ⟨.sign S.key.providerKeyRef payload S.key.algorithm, .ok result.signature⟩]) ?_ ?_
    fun e s' g' _ spec h => nomatch h
  · refine wp_seq _ (wp_ensureKeyCanSign payload) ?_ fun e s' g' _ result h => nomatch h
    rintro u ⟨⟩ looks hlooks
    obtain ⟨rfl, hstatus, hstripped, hallowed, hrequired⟩ := hlooks u rfl
    refine wp_seq _ (wp_signCanonicalBytes hstatus hstripped hallowed hrequired) ?_ fun e s' g' _ result h => nomatch h
    rintro result ⟨⟩ looks hresult final hfinal
    obtain ⟨husable, halg, hid, hlooks⟩ := hresult result rfl
    obtain ⟨rfl, hne⟩ := requireResult_ok hfinal
    exact ⟨hne, husable, halg, hid, hlooks⟩
  · rintro result ⟨⟩ looks hresult spec hspec
    obtain ⟨hne, husable, halg, hid, hlooks⟩ := hresult result rfl
    cases hspec
    refine ⟨result.signature, hne, husable, hlooks, ?_⟩
    rw [ManagedSigningResult.toSignatureSpec, halg, hid]

/-! ## which runs sign -/

theorem describeKey_reaches (keyId : String) (answer : Except String String) :
    Reaches (describeKey keyId ()) [⟨.describeKey keyId, answer⟩] (.ret (.ok answer, ())) :=
  @Reaches.ask KmsOp KmsRes Unit SigningError (.describeKey keyId) answer ()

theorem kmsSign_reaches (keyId : String) (message : List UInt8) (algorithm : String)
    (answer : Except String (List UInt8)) :
    Reaches (kmsSign keyId message algorithm ()) [⟨.sign keyId message algorithm, answer⟩] (.ret (.ok answer, ())) :=
  @Reaches.ask KmsOp KmsRes Unit SigningError (.sign keyId message algorithm) answer ()

theorem operatorState_ok {s : KeyLifecycleState} (hstatus : lower key.status = s.value) :
    (KeyLifecycleState.fromString repr key.status).mapError SigningError.lifecycle = .ok s :=
  Fallible.mapError_eq_ok.mpr (fromString_ok.mpr hstatus)

/-- the run of a look-up that asks the service -/
theorem getKeyStatus_reaches {s : KeyLifecycleState} (hstatus : lower key.status = s.value) (hs : s ≠ .hardRevoked)
    {answer : Except String String} {v : String} (hv : combinedStatus repr key s answer = .ok v) :
    Reaches (getKeyStatus repr key ()) [⟨.describeKey key.providerKeyRef, answer⟩] (.ret (.ok v, ())) := by
  refine Reaches.seq (Reaches.lift (operatorState_ok hstatus) ()) ?_
  rw [if_neg hs]
  show Reaches _ ([_] ++ []) _
  exact Reaches.seq (describeKey_reaches key.providerKeyRef answer) (Reaches.lift hv ())

theorem requirePurpose_usable (hU : S.Usable) : S.requirePurpose = .ok () := by
  unfold ExternalManagedSigner.requirePurpose
  dsimp only
  rw [if_neg (not_not.mpr (List.contains_iff_mem.mpr hU.allowed)), if_neg (not_not.mpr hU.required)]

theorem requireActive_usable (hU : S.Usable) : S.requireActive "active" = .ok () := by
  unfold ExternalManagedSigner.requireActive
  dsimp only
  rw [hU.stripped, if_neg (not_not.mpr rfl), if_neg (not_not.mpr rfl), if_neg (by decide)]

theorem ensureKeyCanSign_enabled (hU : S.Usable) :
    Reaches (S.ensureKeyCanSign repr ()) [enabledLook S.key.providerKeyRef] (.ret (.ok (), ())) := by
  have hactive : S.requireActive (normalizedStatus "active") = .ok () :=
    (congrArg S.requireActive (normalizedStatus_value .active)).trans (requireActive_usable hU)
  exact (Reaches.lift (requirePurpose_usable hU) ()).seq
    ((getKeyStatus_reaches (s := .active) hU.status (by decide) rfl).seq (Reaches.lift hactive ()))

theorem publicKeyRefOf_ne : publicKeyRefOf key ≠ "" := by
  unfold publicKeyRefOf
  cases href : key.publicKeyRef.filter (· ≠ "") with
  | none =>
    intro h
    have hlength := congrArg String.length h
    rw [String.length_append] at hlength
    exact Nat.succ_ne_zero _ (Nat.eq_zero_of_add_eq_zero_right hlength)
  | some ref => exact of_decide_eq_true (Option.filter_eq_some_iff.mp href).2

theorem requireResult_signed {signature : List UInt8} (hne : signature ≠ []) (operation : Option String) :
    S.requireResult ⟨S.key.algorithm, S.key.keyId, signature, publicKeyRefOf S.key, operation⟩ =
      .ok ⟨S.key.algorithm, S.key.keyId, signature, publicKeyRefOf S.key, operation⟩ := by
  unfold ExternalManagedSigner.requireResult
  rw [if_neg (by simp), if_neg hne, if_neg publicKeyRefOf_ne]

/-- the run of the backend that signs -/
theorem signCanonicalBytes_reaches (hU : S.Usable) (payload signature : List UInt8) :
    Reaches (signCanonicalBytes repr P S.key payload ())
      [enabledLook S.key.providerKeyRef, ⟨.sign S.key.providerKeyRef payload S.key.algorithm, .ok signature⟩]
      (.ret (.ok ⟨S.key.algorithm, S.key.keyId, signature, publicKeyRefOf S.key, some (operationId P signature)⟩, ())) := by
  have halgorithm : requireAlgorithm repr S.key = .ok () := if_pos (List.contains_iff_mem.mpr hU.algorithm)
  show Reaches _ ([enabledLook S.key.providerKeyRef] ++ ([] ++ ([] ++ ([_] ++ [])))) _
  refine Reaches.seq (getKeyStatus_reaches (s := .active) hU.status (by decide) rfl) ?_
  refine Reaches.seq (Reaches.lift (x := requireSignable repr S.key "active") rfl ()) ?_
  refine Reaches.seq (Reaches.lift halgorithm ()) ?_
  exact Reaches.seq (kmsSign_reaches S.key.providerKeyRef payload S.key.algorithm (.ok signature)) (Reaches.lift rfl ())

/-- the run of a signer that signs -/
theorem sign_reaches (hU : S.Usable) {signature : List UInt8} (hne : signature ≠ []) (payload : List UInt8) :
    Reaches (S.sign repr P payload ())
      [enabledLook S.key.providerKeyRef, enabledLook S.key.providerKeyRef,
        ⟨.sign S.key.providerKeyRef payload S.key.algorithm, .ok signature⟩]
      (.ret (.ok ⟨S.key.algorithm, S.key.keyId, "base64url", b64urlEncode signature⟩, ())) := by
  have hmanaged : Reaches (S.signManaged repr P payload ()) _ _ :=
    (ensureKeyCanSign_enabled hU).seq ((signCanonicalBytes_reaches hU payload signature).seq
      (Reaches.lift (requireResult_signed hne _) ()))
  exact hmanaged.seq (.nil _)

/-- **A signer returns a signature exactly when** the reference lets it use the key, the service says "Enabled"
twice, and makes the signature: these are then all its calls. -/
theorem managed_sign_exact (payload : List UInt8) (t : List (Event KmsRes)) (spec : SignatureSpec) :
    Reaches (S.sign repr P payload ()) t (.ret (.ok spec, ())) ↔
      ∃ signature, signature ≠ [] ∧ S.Usable ∧
        t = [enabledLook S.key.providerKeyRef, enabledLook S.key.providerKeyRef,
          ⟨.sign S.key.providerKeyRef payload S.key.algorithm, .ok signature⟩] ∧
        spec = ⟨S.key.algorithm, S.key.keyId, "base64url", b64urlEncode signature⟩ := by
  constructor
  · intro h
    have hpossible := (signMonitor S payload).possible_of_all (fun _ _ _ => trivial) [] t
    obtain ⟨signature, hne, husable, hlooks, hspec⟩ := (wp_reaches (wp_sign payload) h hpossible).2 spec rfl
    rw [signMonitor_run] at hlooks
    exact ⟨signature, hne, husable, hlooks, hspec⟩
  · rintro ⟨signature, hne, hU, rfl, rfl⟩
    exact sign_reaches hU hne payload

/-! ## which runs verify -/

theorem awsKmsKeyState_ne {state : String} : awsKmsKeyState state ≠ some .hardRevoked := by
  unfold awsKmsKeyState
  split_ifs <;> decide

/-- a look-up gives a state that can verify exactly when the operator's can and the service's is a known one -/
theorem combinedStatus_canVerify {s : KeyLifecycleState} (hs : s ≠ .hardRevoked) {answer : Except String String} {v : String}
    (h : combinedStatus repr key s answer = .ok v) :
    (∃ state, answer = .ok state ∧ (awsKmsKeyState state).isSome) ∧ ∃ t : KeyLifecycleState, v = t.value ∧ t ≠ .hardRevoked := by
  unfold combinedStatus at h
  cases answer with
  | error e => cases h
  | ok state =>
    cases hstate : awsKmsKeyState state with
    | none =>
      simp only [hstate] at h
      cases h
    | some kmsState =>
      simp only [hstate] at h
      refine ⟨⟨state, rfl, by rw [hstate]; rfl⟩, ?_⟩
      split_ifs at h with hmore
      · cases h
        exact ⟨kmsState, rfl, fun hk => awsKmsKeyState_ne (hk ▸ hstate)⟩
      · cases h
        exact ⟨s, rfl, hs⟩

theorem combinedStatus_known {s : KeyLifecycleState} {state : String} (h : (awsKmsKeyState state).isSome) :
    ∃ v, combinedStatus repr key s (.ok state) = .ok v := by
  obtain ⟨kmsState, hstate⟩ := Option.isSome_iff_exists.mp h
  unfold combinedStatus
  simp only [hstate]
  split_ifs
  · exact ⟨_, rfl⟩
  · exact ⟨_, rfl⟩

/-- a look-up that finds a state that can verify has asked the service once -/
theorem getKeyStatus_canVerify {t : List (Event KmsRes)} {v : String}
    (h : Reaches (getKeyStatus repr key ()) t (.ret (.ok v, ())))
    (hv : (KeyLifecycleState.fromString repr v >>= fun state => assertCanVerify state) = .ok ()) :
    ∃ s : KeyLifecycleState, ∃ state, lower key.status = s.value ∧ s ≠ .hardRevoked ∧ (awsKmsKeyState state).isSome ∧
      t = [⟨.describeKey key.providerKeyRef, .ok state⟩] := by
  obtain ⟨s, ⟨⟩, u, w, rfl, hlift, hrest⟩ := h.of_seq
  obtain ⟨rfl, hs⟩ := hlift.of_lift
  have hstatus : lower key.status = s.value := fromString_ok.mp (Fallible.mapError_eq_ok.mp hs)
  by_cases hhard : s = .hardRevoked
  · rw [if_pos hhard] at hrest
    cases hrest
    obtain ⟨t, ht, hverify⟩ := Fallible.bind_eq_ok.mp hv
    rw [fromString_value] at ht
    cases ht
    exact absurd hhard (assertCanVerify_ok.mp hverify)
  · rw [if_neg hhard] at hrest
    obtain ⟨answer, ⟨⟩, u, w, rfl, hask, hlift⟩ := hrest.of_seq
    obtain rfl := Reaches.of_ask hask
    obtain ⟨rfl, hcombined⟩ := Reaches.of_lift hlift
    obtain ⟨⟨state, rfl, hknown⟩, -⟩ := combinedStatus_canVerify hhard hcombined
    exact ⟨s, state, hstatus, hhard, hknown, rfl⟩

theorem kmsVerify_reaches (keyId : String) (message signature : List UInt8) (algorithm : String)
    (answer : Except String Bool) :
    Reaches (kmsVerify keyId message signature algorithm ()) [⟨.verify keyId message signature algorithm, answer⟩]
      (.ret (.ok answer, ())) :=
  @Reaches.ask KmsOp KmsRes Unit SigningError (.verify keyId message signature algorithm) answer ()

/-- the backend says that a signature is valid exactly when the key is not revoked for good and the service,
asked for the key and then for the signature, says so -/
theorem verifyCanonicalBytes_iff (payload signature : List UInt8) (t : List (Event KmsRes)) :
    Reaches (verifyCanonicalBytes repr key payload signature ()) t (.ret (.ok true, ())) ↔
      key.algorithm ∈ awsKmsAlgorithms ∧ ∃ s : KeyLifecycleState, ∃ state,
        lower key.status = s.value ∧ s ≠ .hardRevoked ∧ (awsKmsKeyState state).isSome ∧
        t = [⟨.describeKey key.providerKeyRef, .ok state⟩,
          ⟨.verify key.providerKeyRef payload signature key.algorithm, .ok true⟩] := by
  constructor
  · intro h
    obtain ⟨v, ⟨⟩, u, w, rfl, hlook, hrest⟩ := h.of_seq
    cases hv : KeyLifecycleState.fromString repr v >>= fun state => assertCanVerify state with
    | error e =>
      simp only [hv] at hrest
      cases hrest
    | ok done =>
      simp only [hv] at hrest
      obtain ⟨s, state, hstatus, hs, hknown, rfl⟩ := getKeyStatus_canVerify hlook hv
      split_ifs at hrest with halgorithm
      · obtain ⟨answer, ⟨⟩, u, w, rfl, hask, hanswer⟩ := hrest.of_seq
        obtain rfl := Reaches.of_ask hask
        cases answer with
        | error e => cases hanswer
        | ok valid =>
          cases hanswer
          exact ⟨List.contains_iff_mem.mp halgorithm, s, state, hstatus, hs, hknown, rfl⟩
      · cases hrest
  · rintro ⟨halgorithm, s, state, hstatus, hs, hknown, rfl⟩
    obtain ⟨v, hv⟩ : ∃ v, combinedStatus repr key s (.ok state) = .ok v := combinedStatus_known hknown
    obtain ⟨-, u, rfl, hu⟩ := combinedStatus_canVerify hs hv
    have hcan : (KeyLifecycleState.fromString repr u.value >>= fun state => assertCanVerify state) = .ok () := by
      rw [fromString_value]
      exact assertCanVerify_ok.mpr hu
    show Reaches _ ([_] ++ ([_] ++ [])) _
    refine Reaches.seq (getKeyStatus_reaches hstatus hs hv) ?_
    simp only [hcan, if_pos (List.contains_iff_mem.mpr halgorithm)]
    exact Reaches.seq (kmsVerify_reaches key.providerKeyRef payload signature key.algorithm (.ok true)) (.nil _)

/-- **A signer accepts a signature exactly when** it names the signer's key and algorithm, its value is a base64url
text, the key is not revoked for good, and the service says that its bytes are valid: one look and one question. -/
theorem managed_verify_exact (payload : List UInt8) (spec : SignatureSpec) (t : List (Event KmsRes)) :
    Reaches (S.verify repr payload spec ()) t (.ret (.ok true, ())) ↔
      (spec.algorithm = S.key.algorithm ∧ spec.keyId = S.key.keyId ∧ spec.encoding = "base64url") ∧
      S.key.algorithm ∈ awsKmsAlgorithms ∧
      ∃ raw, b64urlDecode spec.value = .ok raw ∧ ∃ s : KeyLifecycleState, ∃ state,
        lower S.key.status = s.value ∧ s ≠ .hardRevoked ∧ (awsKmsKeyState state).isSome ∧
        t = [⟨.describeKey S.key.providerKeyRef, .ok state⟩,
          ⟨.verify S.key.providerKeyRef payload raw S.key.algorithm, .ok true⟩] := by
  unfold ExternalManagedSigner.verify
  by_cases hnames : spec.algorithm ≠ S.key.algorithm ∨ spec.keyId ≠ S.key.keyId ∨ spec.encoding ≠ "base64url"
  · rw [if_pos hnames]
    refine iff_of_false (fun h => nomatch h) fun h => ?_
    obtain ⟨⟨halg, hid, henc⟩, -⟩ := h
    rcases hnames with h | h | h
    · exact h halg
    · exact h hid
    · exact h henc
  · rw [if_neg hnames]
    push Not at hnames
    cases hraw : b64urlDecode spec.value with
    | error e => exact iff_of_false (fun h => nomatch h) fun ⟨_, _, _, h, _⟩ => nomatch h
    | ok raw =>
      simp only [verifyCanonicalBytes_iff, Except.ok.injEq, exists_eq_left']
      exact (and_iff_right hnames).symm

end

end Signers

end Actenon
