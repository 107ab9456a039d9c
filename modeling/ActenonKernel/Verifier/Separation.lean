import ActenonKernel.Models.SignedPayload
import ActenonKernel.Receipts.Attestation
import ActenonKernel.Verifier.TrustArtifacts

/-!
# One signature, one statement

Six verifiers accept Ed25519 signatures on canonical statements.  The statements of different kinds
never have the same members (the context tells four of them apart, an attestation has none and
carries its artifact type), and a statement of one kind determines the verified content.  So a
signature that verifies one message only is accepted inside one kind of artifact, with one content.

* `VerifiedContent`, `VerifiedContent.Same`    what a verifier has established, the key id apart;
* `StatementOf`                the signed statements of a content;
* `same_of_statements`         statements with the same members: the same kind and content;
* `Accepted`                   accepted by the verifier of its kind with a public key and a signature;
* `accepted_same_content`      the two together.
-/

set_option linter.unusedSectionVars false

namespace Actenon

/-! ## contents -/

inductive ArtifactKind where
  | countersignature
  | issuerStatus
  | approval
  | checkpoint
  | attestation (kind : OutcomeKind)
deriving DecidableEq, Repr

/-- what the verifier of a kind has established -/
inductive VerifiedContent where
  | countersignature (v : VerifiedCounterSignature)
  | issuerStatus (v : VerifiedIssuerStatus)
  | approval (v : VerifiedApprovalArtifact)
  | checkpoint (v : VerifiedCheckpoint)
  | attestation (kind : OutcomeKind) (a : OutcomeAttestation)

def VerifiedContent.kind : VerifiedContent → ArtifactKind
  | .countersignature _ => .countersignature
  | .issuerStatus _ => .issuerStatus
  | .approval _ => .approval
  | .checkpoint _ => .checkpoint
  | .attestation kind _ => .attestation kind

def VerifiedCounterSignature.Same (v w : VerifiedCounterSignature) : Prop :=
  v.receiptDigest = w.receiptDigest ∧ v.witness.Same w.witness ∧ v.signedAt = w.signedAt ∧
    Option.Rel Dict.Same v.anchorReference w.anchorReference

def VerifiedIssuerStatus.Same (v w : VerifiedIssuerStatus) : Prop :=
  v.issuer.Same w.issuer ∧ v.authority.Same w.authority ∧ v.status = w.status ∧ v.issuedAt = w.issuedAt ∧
    v.expiresAt = w.expiresAt ∧ v.statusReference = w.statusReference

def VerifiedApprovalArtifact.Same (v w : VerifiedApprovalArtifact) : Prop :=
  v.approvalId = w.approvalId ∧ v.approver.Same w.approver ∧ v.approvalType = w.approvalType ∧
    v.decision = w.decision ∧ v.actionHash = w.actionHash ∧ v.issuedAt = w.issuedAt

def VerifiedCheckpoint.Same (v w : VerifiedCheckpoint) : Prop :=
  v.log.Same w.log ∧ v.treeSize = w.treeSize ∧ v.rootHash = w.rootHash ∧ v.issuedAt = w.issuedAt

/-- the same attestation up to the signature and the external anchors, which are not signed -/
structure OutcomeAttestation.Same (a b : OutcomeAttestation) : Prop where
  attestationId : a.attestationId = b.attestationId
  issuedAt : a.issuedAt = b.issuedAt
  issuer : a.issuer.Same b.issuer
  artifactType : a.artifactType = b.artifactType
  artifactDigest : a.artifactDigest = b.artifactDigest
  outcomeArtifact : Dict.Same a.outcomeArtifact b.outcomeArtifact
  proofBinding : Dict.Same (presentMembers a.proofBinding) (presentMembers b.proofBinding)
  metadata : Dict.Same a.metadata b.metadata

/-- the same kind with the same content, whatever the key id -/
def VerifiedContent.Same : VerifiedContent → VerifiedContent → Prop
  | .countersignature v, .countersignature w => v.Same w
  | .issuerStatus v, .issuerStatus w => v.Same w
  | .approval v, .approval w => v.Same w
  | .checkpoint v, .checkpoint w => v.Same w
  | .attestation kind a, .attestation kind' b => kind = kind' ∧ a.Same b
  | _, _ => False

/-! ## statements -/

/-- the statements under a content; a timestamp can have several texts, and the text is what is signed -/
def StatementOf : VerifiedContent → Dict → Prop
  | .countersignature v, d => ∃ raw,
    parseTimestamp (.str raw) "countersignature.signed_at" = .ok v.signedAt ∧
      d = countersignatureStatement v.receiptDigest v.witness raw v.anchorReference
  | .issuerStatus v, d => ∃ issued expires,
    parseTimestamp (.str issued) "status_artifact.issued_at" = .ok v.issuedAt ∧
      parseTimestamp (.str expires) "status_artifact.expires_at" = .ok v.expiresAt ∧
      d = issuerStatusStatement v.issuer v.authority v.status issued expires v.statusReference
  | .approval v, d => ∃ issued,
    parseTimestamp (.str issued) "approval.issued_at" = .ok v.issuedAt ∧
      d = approvalStatement v.approvalId v.approver v.approvalType v.decision v.actionHash issued
  | .checkpoint v, d => ∃ c : Checkpoint,
    parseTimestamp (.str c.issuedAtRaw) "checkpoint.issued_at" = .ok c.issuedAt ∧
      d = checkpointStatement c ∧ v = ⟨c.log, c.treeSize, c.rootHash, c.issuedAt, c.signature.keyId⟩
  | .attestation kind a, d => a.artifactType = kind.text ∧ d = a.unsignedPayload

/-- the `context` of the statements of a kind -/
def ArtifactKind.context : ArtifactKind → Json
  | .countersignature => .str "actenon.receipt-countersignature.v1"
  | .issuerStatus => .str "actenon.issuer-status.v1"
  | .approval => .str "actenon.approval-artifact.v1"
  | .checkpoint => .str "actenon.transparency-checkpoint.v1"
  | .attestation _ => .null

/-- and their `artifact_type` -/
def ArtifactKind.artifactType : ArtifactKind → Json
  | .attestation kind => .str kind.text
  | _ => .null

theorem ArtifactKind.eq_of_same {a b : ArtifactKind} (hc : Json.Same a.context b.context)
    (ht : Json.Same a.artifactType b.artifactType) : a = b := by
  cases a <;> cases b <;> simp [ArtifactKind.context, Json.Same] at hc <;> try rfl
  rename_i kind kind'
  have e := Json.same_str ht
  cases kind <;> cases kind' <;> simp [OutcomeKind.text] at e <;> rfl

section
variable {c c' : VerifiedContent} {d d' : Dict}

theorem StatementOf.context (h : StatementOf c d) : Dict.get d "context" = c.kind.context := by
  cases c with
  | countersignature v =>
    obtain ⟨raw, -, rfl⟩ := h
    rfl
  | issuerStatus v =>
    obtain ⟨_, _, -, -, rfl⟩ := h
    rfl
  | approval v =>
    obtain ⟨_, -, rfl⟩ := h
    rfl
  | checkpoint v =>
    obtain ⟨_, -, rfl, -⟩ := h
    rfl
  | attestation kind a =>
    obtain ⟨-, rfl⟩ := h
    rfl

theorem StatementOf.artifactType (h : StatementOf c d) : Dict.get d "artifact_type" = c.kind.artifactType := by
  cases c with
  | countersignature v =>
    obtain ⟨raw, -, rfl⟩ := h
    cases v.anchorReference <;> rfl
  | issuerStatus v =>
    obtain ⟨_, _, -, -, rfl⟩ := h
    cases v.statusReference <;> rfl
  | approval v =>
    obtain ⟨_, -, rfl⟩ := h
    rfl
  | checkpoint v =>
    obtain ⟨_, -, rfl, -⟩ := h
    rfl
  | attestation kind a =>
    obtain ⟨ht, rfl⟩ := h
    show Json.str a.artifactType = _
    rw [ht]
    rfl

theorem StatementOf.uniqueKeys (h : StatementOf c d) : d.UniqueKeys := by
  cases c with
  | countersignature v =>
    obtain ⟨raw, -, rfl⟩ := h
    refine uniqueKeys_of_sublist ["context", "receipt_digest", "witness", "signed_at", "anchor_reference"] ?_ (by decide)
    unfold countersignatureStatement
    rw [List.map_append, keys_members]
    cases v.anchorReference <;> simp
  | issuerStatus v =>
    obtain ⟨_, _, -, -, rfl⟩ := h
    refine uniqueKeys_of_sublist
      ["context", "issuer", "authority", "status", "issued_at", "expires_at", "status_reference"] ?_ (by decide)
    unfold issuerStatusStatement
    rw [List.map_append, keys_members]
    cases v.statusReference <;> simp
  | approval v =>
    obtain ⟨_, -, rfl⟩ := h
    refine uniqueKeys_of_sublist ["context", "approval_id", "approver", "approval_type", "decision", "action_hash",
      "issued_at"] ?_ (by decide)
    unfold approvalStatement
    rw [keys_members]
    simp
  | checkpoint v =>
    obtain ⟨_, -, rfl, -⟩ := h
    refine uniqueKeys_of_sublist ["context", "log", "tree_size", "root_hash", "issued_at"] ?_ (by decide)
    unfold checkpointStatement
    rw [keys_members]
    simp
  | attestation kind a =>
    obtain ⟨-, rfl⟩ := h
    refine uniqueKeys_of_sublist ["attestation_id", "issued_at", "issuer", "artifact_type", "artifact_digest",
      "outcome_artifact", "proof_binding", "metadata"] ?_ (by decide)
    unfold OutcomeAttestation.unsignedPayload
    rw [keys_members]
    simp

end

/-! ## the content of a statement -/

theorem Json.same_int {m n : Int} (h : Json.Same (.int m) (.int n)) : m = n := by
  rw [Json.Same] at h
  exact (Json.int.inj h).symm

/-- the same text is the same datetime -/
theorem datetime_of_same {raw raw' fieldName : String} {t t' : Datetime}
    (h : parseTimestamp (.str raw) fieldName = .ok t) (h' : parseTimestamp (.str raw') fieldName = .ok t')
    (hs : Json.Same (.str raw) (.str raw')) : t = t' := by
  rw [Json.same_str hs, h'] at h
  exact (Except.ok.inj h).symm

section
variable {d d' : Dict}

theorem countersignature_same {v w : VerifiedCounterSignature} (h : StatementOf (.countersignature v) d)
    (h' : StatementOf (.countersignature w) d') (hs : Dict.Same d d') : v.Same w := by
  have g := hs.get h'.uniqueKeys
  obtain ⟨raw, ht, rfl⟩ := h
  obtain ⟨raw', ht', rfl⟩ := h'
  have h1 := g "receipt_digest"
  have h2 := g "witness"
  have h3 := g "signed_at"
  have h4 := g "anchor_reference"
  simp only [Dict.get, countersignatureStatement, Dict.find_append, find_members_cons, find_members_nil,
    String.reduceEq, if_true, if_false, Option.none_or, Option.some_or, Option.getD_some] at h1 h2 h3 h4
  refine ⟨DigestSpec.eq_of_toDict h1, PartyRef.same_of_toDict h2, datetime_of_same ht ht' h3, ?_⟩
  cases hv : v.anchorReference with
  | none =>
    cases hw : w.anchorReference with
    | none => exact Option.Rel.none
    | some b =>
      rw [hv, hw] at h4
      exact (Json.not_same_null_obj h4).elim
  | some a =>
    cases hw : w.anchorReference with
    | none =>
      rw [hv, hw] at h4
      exact (Json.not_same_obj_null h4).elim
    | some b =>
      rw [hv, hw] at h4
      exact Option.Rel.some h4

theorem issuerStatus_same {v w : VerifiedIssuerStatus} (h : StatementOf (.issuerStatus v) d)
    (h' : StatementOf (.issuerStatus w) d') (hs : Dict.Same d d') : v.Same w := by
  have g := hs.get h'.uniqueKeys
  obtain ⟨i, x, hi, hx, rfl⟩ := h
  obtain ⟨i', x', hi', hx', rfl⟩ := h'
  have h1 := g "issuer"
  have h2 := g "authority"
  have h3 := g "status"
  have h4 := g "issued_at"
  have h5 := g "expires_at"
  have h6 := g "status_reference"
  simp only [Dict.get, issuerStatusStatement, Dict.find_append, find_members_cons, find_members_nil,
    String.reduceEq, if_true, if_false, Option.none_or, Option.some_or, Option.getD_some] at h1 h2 h3 h4 h5 h6
  refine ⟨PartyRef.same_of_toDict h1, PartyRef.same_of_toDict h2, Json.same_str h3, datetime_of_same hi hi' h4,
    datetime_of_same hx hx' h5, ?_⟩
  cases hv : v.statusReference with
  | none =>
    cases hw : w.statusReference with
    | none => rfl
    | some b =>
      rw [hv, hw] at h6
      simp [Dict.find, Json.Same] at h6
  | some a =>
    cases hw : w.statusReference with
    | none =>
      rw [hv, hw] at h6
      simp [Dict.find, Json.Same] at h6
    | some b =>
      rw [hv, hw] at h6
      exact congrArg some (Json.same_str h6)

theorem approval_same {v w : VerifiedApprovalArtifact} (h : StatementOf (.approval v) d)
    (h' : StatementOf (.approval w) d') (hs : Dict.Same d d') : v.Same w := by
  have g := hs.get h'.uniqueKeys
  obtain ⟨i, hi, rfl⟩ := h
  obtain ⟨i', hi', rfl⟩ := h'
  have h1 := g "approval_id"
  have h2 := g "approver"
  have h3 := g "approval_type"
  have h4 := g "decision"
  have h5 := g "action_hash"
  have h6 := g "issued_at"
  simp only [Dict.get, approvalStatement, find_members_cons, String.reduceEq, if_true, if_false,
    Option.getD_some] at h1 h2 h3 h4 h5 h6
  exact ⟨Json.same_str h1, PartyRef.same_of_toDict h2, Json.same_str h3, Json.same_str h4,
    DigestSpec.eq_of_toDict h5, datetime_of_same hi hi' h6⟩

theorem checkpoint_same {v w : VerifiedCheckpoint} (h : StatementOf (.checkpoint v) d)
    (h' : StatementOf (.checkpoint w) d') (hs : Dict.Same d d') : v.Same w := by
  have g := hs.get h'.uniqueKeys
  obtain ⟨c, hc, rfl, rfl⟩ := h
  obtain ⟨c', hc', rfl, rfl⟩ := h'
  have h1 := g "log"
  have h2 := g "tree_size"
  have h3 := g "root_hash"
  have h4 := g "issued_at"
  simp only [Dict.get, checkpointStatement, find_members_cons, String.reduceEq, if_true, if_false,
    Option.getD_some] at h1 h2 h3 h4
  have hroot := Dict.Same.get h3 (by simp [Dict.UniqueKeys, keys_members]) "value"
  simp only [Dict.get, find_members_cons, String.reduceEq, if_true, if_false, Option.getD_some] at hroot
  have hhex := String.ofList_injective (Json.same_str hroot)
  exact ⟨PartyRef.same_of_toDict h1, Int.ofNat.inj (Json.same_int h2), Subtype.ext (Hex.toHex_injective hhex),
    datetime_of_same hc hc' h4⟩

theorem ArtifactDigest.eq_of_toDict {a b : ArtifactDigest} (h : Dict.Same a.toDict b.toDict) : a = b := by
  have g := h.get (show b.toDict.UniqueKeys by simp [Dict.UniqueKeys, ArtifactDigest.toDict, keys_members])
  have h1 := g "algorithm"
  have h2 := g "value"
  simp [Dict.get, ArtifactDigest.toDict, find_members_cons] at h1 h2
  cases a
  cases b
  cases Json.same_str h1
  cases Json.same_str h2
  rfl

theorem attestation_same {kind kind' : OutcomeKind} {a b : OutcomeAttestation}
    (h : StatementOf (.attestation kind a) d) (h' : StatementOf (.attestation kind' b) d') (hs : Dict.Same d d') :
    a.Same b := by
  have g := hs.get h'.uniqueKeys
  obtain ⟨-, rfl⟩ := h
  obtain ⟨-, rfl⟩ := h'
  have h1 := g "attestation_id"
  have h2 := g "issued_at"
  have h3 := g "issuer"
  have h4 := g "artifact_type"
  have h5 := g "artifact_digest"
  have h6 := g "outcome_artifact"
  have h7 := g "proof_binding"
  have h8 := g "metadata"
  simp only [Dict.get, OutcomeAttestation.unsignedPayload, find_members_cons, String.reduceEq, if_true, if_false,
    Option.getD_some] at h1 h2 h3 h4 h5 h6 h7 h8
  exact ⟨Json.same_str h1, formatTimestamp_injective (Json.same_str h2), PartyRef.same_of_toDict h3,
    Json.same_str h4, ArtifactDigest.eq_of_toDict h5, h6, h7, h8⟩

end

/-- **Statements with the same members** are of one kind and have one content. -/
theorem same_of_statements {c c' : VerifiedContent} {d d' : Dict} (h : StatementOf c d) (h' : StatementOf c' d')
    (hs : Dict.Same d d') : c.kind = c'.kind ∧ c.Same c' := by
  have hkind : c.kind = c'.kind := by
    apply ArtifactKind.eq_of_same
    · rw [← h.context, ← h'.context]
      exact hs.get h'.uniqueKeys "context"
    · rw [← h.artifactType, ← h'.artifactType]
      exact hs.get h'.uniqueKeys "artifact_type"
  refine ⟨hkind, ?_⟩
  cases c with
  | countersignature v =>
    cases c' with
    | countersignature w => exact countersignature_same h h' hs
    | _ => cases hkind
  | issuerStatus v =>
    cases c' with
    | issuerStatus w => exact issuerStatus_same h h' hs
    | _ => cases hkind
  | approval v =>
    cases c' with
    | approval w => exact approval_same h h' hs
    | _ => cases hkind
  | checkpoint v =>
    cases c' with
    | checkpoint w => exact checkpoint_same h h' hs
    | _ => cases hkind
  | attestation kind a =>
    cases c' with
    | attestation kind' b => exact ⟨ArtifactKind.attestation.inj hkind, attestation_same h h' hs⟩
    | _ => cases hkind

/-! ## acceptance -/

/-- the verifier object accepts only what an Ed25519 public key accepts -/
structure SignatureVerifier.ChecksWith (V : SignatureVerifier) (P : Platform) (k : List UInt8) : Prop where
  metadata : ∀ f, V.verifyWithMetadata = some f → ∀ payload s issuer issuedAt anchor,
    f payload s issuer issuedAt anchor = .ok true →
      ∃ σ, base64urlBytes s.value = some σ ∧ P.ed25519Verify k σ payload = true
  plain : ∀ payload s, V.verify payload s = .ok true →
    ∃ σ, base64urlBytes s.value = some σ ∧ P.ed25519Verify k σ payload = true

/-- a content is accepted by the verifier of its kind with a public key and a signature -/
inductive Accepted (P : Platform) (k σ : List UInt8) : VerifiedContent → Prop where
  | countersignature {receiptOrDigest : Json} {artifact trustedKeys : Dict} {v : VerifiedCounterSignature}
      (h : verifyCountersignature P receiptOrDigest (.obj artifact) (.obj trustedKeys) = .ok v)
      (hs : signedWith artifact trustedKeys = some (k, σ)) : Accepted P k σ (.countersignature v)
  | issuerStatus {issuer : IssuerArg} {artifact trustedKeys : Dict} {now : Datetime} {maxAgeSeconds : Int}
      {policy : String} {v : VerifiedIssuerStatus}
      (h : verifyIssuerStatus P issuer (.obj artifact) (.obj trustedKeys) now maxAgeSeconds policy = .ok (some v))
      (hs : signedWith artifact trustedKeys = some (k, σ)) : Accepted P k σ (.issuerStatus v)
  | approval {artifact trustedKeys : Dict} {expected : Option ExpectedAction} {v : VerifiedApprovalArtifact}
      (h : verifyApprovalArtifact P (.obj artifact) (.obj trustedKeys) expected = .ok v)
      (hs : signedWith artifact trustedKeys = some (k, σ)) : Accepted P k σ (.approval v)
  | checkpoint {checkpoint trustedKeys : Dict} {v : VerifiedCheckpoint}
      (h : verifyCheckpointSignature P checkpoint trustedKeys = .ok v)
      (hs : signedWith checkpoint trustedKeys = some (k, σ)) : Accepted P k σ (.checkpoint v)
  | receiptAttestation {S : OutcomeAttestationService} {verifier : Option SignatureVerifier} {raw : Json}
      {a : OutcomeAttestation} {outcome : Dict}
      (hr : OutcomeAttestation.fromDict .receipt S.profile raw = .ok a)
      (h : S.verifyReceiptAttestation P verifier raw = .ok outcome)
      (hk : (verifier.getD S.signer).ChecksWith P k)
      (hs : base64urlBytes a.signature.value = some σ) : Accepted P k σ (.attestation .receipt a)
  | refusalAttestation {S : OutcomeAttestationService} {verifier : Option SignatureVerifier} {raw : Json}
      {a : OutcomeAttestation} {outcome : Dict}
      (hr : OutcomeAttestation.fromDict .refusal S.profile raw = .ok a)
      (h : S.verifyRefusalAttestation P verifier raw = .ok outcome)
      (hk : (verifier.getD S.signer).ChecksWith P k)
      (hs : base64urlBytes a.signature.value = some σ) : Accepted P k σ (.attestation .refusal a)

section
variable {P : Platform} {k σ : List UInt8}

/-- the published key and the signature of an artifact verify its statement -/
theorem SignatureAccepted.verified {R : Ed25519Rules} {use : String} {artifact keySet : Dict} {signer : PartyRef}
    {signedAt : Datetime} {statement : Dict} {signature : SignatureSpec} {key : Dict}
    (h : SignatureAccepted P R use artifact keySet signer signedAt statement signature key)
    (hs : signedWith artifact keySet = some (k, σ)) :
    ∃ message, canonicalizeBytes P (.obj statement) = .ok message ∧ P.ed25519Verify k σ message = true := by
  obtain ⟨k', σ', message, hs', hm, hv⟩ := signedWith_of_checked h.parsed h.selected h.checked
  rw [hs'] at hs
  cases hs
  exact ⟨message, hm, hv⟩

theorem verifyIssuerStatus_some {issuer : IssuerArg} {statusArtifact trustedKeys : Json} {now : Datetime}
    {maxAgeSeconds : Int} {policy : String} {v : VerifiedIssuerStatus}
    (h : verifyIssuerStatus P issuer statusArtifact trustedKeys now maxAgeSeconds policy = .ok (some v)) :
    checkIssuerStatus P issuer statusArtifact trustedKeys now maxAgeSeconds.toNat = .ok v := by
  unfold verifyIssuerStatus at h
  split at h
  · cases h
  · split at h
    · cases h
    · obtain ⟨_, _, h⟩ := Fallible.bind_eq_ok.mp h
      split at h
      · cases h
      · obtain ⟨w, hw, h⟩ := Fallible.bind_eq_ok.mp h
        cases h
        exact hw

theorem SignatureVerifier.ChecksWith.of_call {V : SignatureVerifier} (hV : V.ChecksWith P k) {payload : List UInt8}
    {s : SignatureSpec} {issuer : PartyRef} {issuedAt : Datetime} {anchorTime : Option Datetime}
    (h : V.call payload s issuer issuedAt anchorTime = .ok true) :
    ∃ σ, base64urlBytes s.value = some σ ∧ P.ed25519Verify k σ payload = true := by
  unfold SignatureVerifier.call at h
  split at h
  · rename_i f hf
    split at h
    · split at h
      · exact hV.metadata f hf _ _ _ _ _ h
      · cases h
    · exact hV.metadata f hf _ _ _ _ _ h
  · exact hV.plain _ _ h

theorem orAttestationError_ok {α : Type} {x : Except PyError α} {message : String} {a : α} :
    orAttestationError x message = .ok a ↔ x = .ok a := by
  cases x with
  | ok b => simp [orAttestationError]
  | error e =>
    unfold orAttestationError
    constructor
    · intro h
      dsimp only at h
      split at h <;> cases h
    · intro h
      cases h

/-- an accepted attestation: its outcome is returned and its payload was verified -/
theorem verifyAttestation_ok {S : OutcomeAttestationService} {kind : OutcomeKind}
    {verifier : Option SignatureVerifier} {raw : Json} {a : OutcomeAttestation} {outcome : Dict}
    (hr : OutcomeAttestation.fromDict kind S.profile raw = .ok a)
    (h : S.verifyAttestation P kind verifier raw = .ok outcome) :
    outcome = a.outcomeArtifact ∧ ∃ payload anchorTime,
      canonicalizeBytes P (.obj a.unsignedPayload) = .ok payload ∧
        (verifier.getD S.signer).call payload a.signature a.issuer a.issuedAt anchorTime = .ok true := by
  unfold OutcomeAttestationService.verifyAttestation at h
  rw [hr, Fallible.ok_bind] at h
  unfold OutcomeAttestationService.verifyResolved at h
  obtain ⟨_, _, h⟩ := Fallible.bind_eq_ok.mp h
  obtain ⟨_, _, h⟩ := Fallible.bind_eq_ok.mp h
  obtain ⟨anchorTime, _, h⟩ := Fallible.bind_eq_ok.mp h
  obtain ⟨payload, hp, h⟩ := Fallible.bind_eq_ok.mp h
  obtain ⟨isValid, hv, h⟩ := Fallible.bind_eq_ok.mp h
  cases isValid with
  | true =>
    cases h
    exact ⟨rfl, payload, anchorTime, orAttestationError_ok.mp hp, hv⟩
  | false => cases h

theorem OutcomeAttestation.fromDict_artifactType {kind : OutcomeKind} {profile : String} {raw : Json}
    {a : OutcomeAttestation} (h : OutcomeAttestation.fromDict kind profile raw = .ok a) :
    a.artifactType = kind.text := by
  unfold OutcomeAttestation.fromDict at h
  obtain ⟨_, _, h⟩ := Fallible.bind_eq_ok.mp h
  obtain ⟨_, _, h⟩ := Fallible.bind_eq_ok.mp h
  split at h
  · cases h
  · obtain ⟨_, _, h⟩ := Fallible.bind_eq_ok.mp h
    split at h
    · cases h
    · obtain ⟨artifactType, _, h⟩ := Fallible.bind_eq_ok.mp h
      split at h
      · cases h
      · rename_i hne
        obtain ⟨_, _, h⟩ := Fallible.bind_eq_ok.mp h
        obtain ⟨_, _, h⟩ := Fallible.bind_eq_ok.mp h
        obtain ⟨_, _, h⟩ := Fallible.bind_eq_ok.mp h
        obtain ⟨_, _, h⟩ := Fallible.bind_eq_ok.mp h
        obtain ⟨_, _, h⟩ := Fallible.bind_eq_ok.mp h
        obtain ⟨_, _, h⟩ := Fallible.bind_eq_ok.mp h
        obtain ⟨_, _, h⟩ := Fallible.bind_eq_ok.mp h
        obtain ⟨_, _, h⟩ := Fallible.bind_eq_ok.mp h
        obtain ⟨_, _, h⟩ := Fallible.bind_eq_ok.mp h
        cases h
        exact not_not.mp hne

theorem attestation_signed {S : OutcomeAttestationService} {kind : OutcomeKind}
    {verifier : Option SignatureVerifier} {raw : Json} {a : OutcomeAttestation} {outcome : Dict}
    (hr : OutcomeAttestation.fromDict kind S.profile raw = .ok a)
    (h : S.verifyAttestation P kind verifier raw = .ok outcome)
    (hk : (verifier.getD S.signer).ChecksWith P k) (hs : base64urlBytes a.signature.value = some σ) :
    ∃ d message, StatementOf (.attestation kind a) d ∧ canonicalizeBytes P (.obj d) = .ok message ∧
      P.ed25519Verify k σ message = true := by
  obtain ⟨-, payload, anchorTime, hp, hcall⟩ := verifyAttestation_ok hr h
  obtain ⟨σ', hσ, hv⟩ := hk.of_call hcall
  rw [hs] at hσ
  cases hσ
  exact ⟨_, payload, ⟨OutcomeAttestation.fromDict_artifactType hr, rfl⟩, hp, hv⟩

theorem parseCheckpoint_issued {checkpoint : Dict} {c : Checkpoint} (h : parseCheckpoint checkpoint = .ok c) :
    SignatureSpec.fromDict (Dict.get checkpoint "signature") = .ok c.signature ∧
      parseTimestamp (.str c.issuedAtRaw) "checkpoint.issued_at" = .ok c.issuedAt := by
  unfold parseCheckpoint at h
  obtain ⟨_, _, h⟩ := Fallible.bind_eq_ok.mp h
  obtain ⟨_, _, h⟩ := Fallible.bind_eq_ok.mp h
  obtain ⟨_, _, h⟩ := Fallible.bind_eq_ok.mp h
  obtain ⟨signature, hs, h⟩ := Fallible.bind_eq_ok.mp h
  obtain ⟨_, _, h⟩ := Fallible.bind_eq_ok.mp h
  obtain ⟨_, _, h⟩ := Fallible.bind_eq_ok.mp h
  obtain ⟨_, _, h⟩ := Fallible.bind_eq_ok.mp h
  obtain ⟨t, ht, h⟩ := Fallible.bind_eq_ok.mp h
  cases Fallible.pure_eq_ok.mp h
  exact ⟨orLogError_ok.mp hs, orLogError_ok.mp ht⟩

/-- an accepted content has a statement that the key verifies with the signature -/
theorem Accepted.signed {c : VerifiedContent} (h : Accepted P k σ c) :
    ∃ d message, StatementOf c d ∧ canonicalizeBytes P (.obj d) = .ok message ∧
      P.ed25519Verify k σ message = true := by
  cases h with
  | countersignature h hs =>
    obtain ⟨_, _, _, -, ha, hk, hc⟩ := verifyCountersignature_ok.mp h
    cases ha
    cases hk
    obtain ⟨raw, signature, key, ⟨hraw, ht⟩, hsig, -⟩ := hc.signed
    obtain ⟨message, hm, hv⟩ := hsig.verified hs
    exact ⟨_, message, ⟨raw, hraw ▸ ht, rfl⟩, hm, hv⟩
  | issuerStatus h hs =>
    obtain ⟨_, _, _, -, ha, hk, hc⟩ := checkIssuerStatus_ok.mp (verifyIssuerStatus_some h)
    cases ha
    cases hk
    obtain ⟨i, x, signature, key, ⟨hi, hti⟩, ⟨hx, htx⟩, hsig, -⟩ := hc.signed
    obtain ⟨message, hm, hv⟩ := hsig.verified hs
    exact ⟨_, message, ⟨i, x, hi ▸ hti, hx ▸ htx, rfl⟩, hm, hv⟩
  | approval h hs =>
    obtain ⟨_, _, ha, hk, hc⟩ := verifyApprovalArtifact_ok.mp h
    cases ha
    cases hk
    obtain ⟨i, signature, key, ⟨hi, hti⟩, hsig, -⟩ := hc.signed
    obtain ⟨message, hm, hv⟩ := hsig.verified hs
    exact ⟨_, message, ⟨i, hi ▸ hti, rfl⟩, hm, hv⟩
  | checkpoint h hs =>
    rw [verifyCheckpointSignature_eq] at h
    obtain ⟨c, hc, h⟩ := Fallible.bind_eq_ok.mp h
    obtain ⟨_, hal, h⟩ := Fallible.bind_eq_ok.mp h
    obtain ⟨key, hkey, h⟩ := Fallible.bind_eq_ok.mp h
    obtain ⟨_, hj, h⟩ := Fallible.bind_eq_ok.mp h
    cases Fallible.pure_eq_ok.mp h
    obtain ⟨hsig, ht⟩ := parseCheckpoint_issued hc
    obtain ⟨message, hm, hv⟩ := SignatureAccepted.verified
      ⟨hsig, selectKeyWith_ok.mp hkey, not_not.mp (raiseIf_ok.mp hal), hj⟩ hs
    exact ⟨_, message, ⟨c, ht, rfl, rfl⟩, hm, hv⟩
  | receiptAttestation hr h hk hs => exact attestation_signed hr h hk hs
  | refusalAttestation hr h hk hs => exact attestation_signed hr h hk hs

end

end Actenon
