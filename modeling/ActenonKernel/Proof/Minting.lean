import ActenonKernel.Models.RoundTrip
import ActenonKernel.Proof.Binding
import ActenonKernel.Proof.CanonicalSize
import Mathlib.Data.List.Dedup

/-!
# Minting a proof (`PCCBMinter` in `actenon/proof/service.py`)

The minter signs what the verifier will look at.  A proof that was minted, written out and read
back is accepted for its intent, at every instant from its issue to its expiry.

* `PCCBMinter.mint`         the proof, signed;
* `Mintable`                what a request needs for that;
* `mint_verify_complete`    minted, written, read and verified;
* `mint_refuses_fraction`   a context that cannot be signed.
-/

set_option linter.unusedSectionVars false

namespace Actenon

/-- `Signer` of `actenon/proof/signers/base.py`, as far as the minter uses it -/
structure Signer where
  algorithm : String
  keyId : String
  sign : List UInt8 → Except PyError SignatureSpec

/-- what the minter takes from `actenon_protocol` -/
structure MintProtocol where
  scopeCapabilitiesForMint : List String → Except PyError (List String)
  canonicalisationProfile : String

structure PCCBMinter where
  signer : Signer
  issuer : PartyRef
  /-- `audit_sink.record_pccb_mint` -/
  auditSink : Option (PCCB → Except PyError Unit) := none

/-- `tuple(sorted(set(capabilities)))` -/
def sortedSet (capabilities : List String) : List String := capabilities.dedup.insertionSort (· ≤ ·)

/-- what a caller gives to `mint`, with the values the two factories return -/
structure MintRequest where
  intent : ActionIntent
  context : DynamicContextInput
  pccbId : String
  nonce : String
  escrowId : Json := .null
  extensions : Dict := []

/-- the proof before it is signed -/
def PCCBMinter.unsigned (M : PCCBMinter) (H : MintProtocol) (r : MintRequest) (capabilities : List String)
    (hash : String) : PCCB where
  pccbId := r.pccbId
  intentId := .str r.intent.intentId
  issuedAt := r.context.now
  notBefore := r.context.now
  expiresAt := r.intent.expiresAt
  issuer := M.issuer
  subject := r.intent.requester
  tenant := r.intent.tenant
  audience := r.context.audience
  action := r.intent.action
  target := r.intent.target
  scope := ⟨"exact", sortedSet capabilities, true, r.context.resourceSelectors, r.context.parameterConstraints⟩
  nonce := r.nonce
  actionHash := ⟨"sha-256", H.canonicalisationProfile, hash⟩
  escrowId := r.escrowId
  signature := ⟨M.signer.algorithm, M.signer.keyId, "base64url", "pending"⟩
  extensions := r.extensions

section
variable (P : Platform)

def PCCBMinter.mint (M : PCCBMinter) (H : MintProtocol) (decision : PolicyDecision) (r : MintRequest) :
    Except PyError PCCB := do
  if !decision.allowed then valueError "PCCB minting requires an allow decision"
  let capabilities ← H.scopeCapabilitiesForMint r.context.scopeCapabilities
  let hash ← sha256Hex P (.obj (buildActionHashInput r.intent))
  let unsigned := M.unsigned H r capabilities hash
  let payload ← canonicalizeBytes P (.obj unsigned.unsignedPayload)
  let signature ← M.signer.sign payload
  let pccb := { unsigned with signature := signature }
  match M.auditSink with
  | some record => record pccb
  | none => pure ()
  return pccb

end

/-! ## what a request needs -/

/-- a capability without a wildcard -/
def concreteCapability (c : String) : Bool :=
  c ≠ "" && c.toList.all fun x => !(['*', '?', '[', ']'].contains x)

/-- **What makes a request mintable**: its texts are there and its values have a canonical form; the
context performs the capability and selects the target. -/
structure Mintable (P : Platform) (M : PCCBMinter) (H : MintProtocol) (r : MintRequest) : Prop where
  tenant : r.intent.tenant.Readable
  requester : r.intent.requester.Readable
  action : r.intent.action.Readable
  target : r.intent.target.Readable
  audience : r.context.audience.Readable
  issuer : M.issuer.Readable
  pccbId : r.pccbId ≠ ""
  nonce : r.nonce ≠ ""
  /-- the intent is canonicalisable -/
  hashable : ∃ hash, sha256Hex P (.obj (buildActionHashInput r.intent)) = .ok hash
  /-- so is the payload that is signed -/
  payload : ∀ capabilities hash, H.scopeCapabilitiesForMint r.context.scopeCapabilities = .ok capabilities →
    sha256Hex P (.obj (buildActionHashInput r.intent)) = .ok hash →
    ∃ bytes, canonicalizeBytes P (.obj (M.unsigned H r capabilities hash).unsignedPayload) = .ok bytes
  concrete : ∀ c ∈ r.context.scopeCapabilities, concreteCapability c = true
  performs : r.intent.action.capability ∈ r.context.scopeCapabilities
  selects : r.context.resourceSelectors ≠ [] →
    (r.context.resourceSelectors.any fun selector => targetSatisfies P r.intent.target (.obj selector)) = true
  constraints : r.context.parameterConstraints.UniqueKeys
  /-- no authority extension -/
  authority : Dict.find r.extensions (.str "authority") = none

/-- what the minter relies on in `actenon_protocol` and in its signer: concrete capabilities are kept
and are in scope, the profile is accepted, a digest has 32 bytes, and the verifier accepts what the
signer signs -/
structure MintAssumptions (P : Platform) (M : PCCBMinter) (H : MintProtocol) (V : PCCBVerifier) : Prop where
  keeps : ∀ caps, (∀ c ∈ caps, concreteCapability c = true) →
    ∃ kept, H.scopeCapabilitiesForMint caps = .ok kept ∧ ∀ c, c ∈ kept ↔ c ∈ caps
  inScope : ∀ c caps, (∀ d ∈ caps, concreteCapability d = true) → c ∈ caps → P.capabilityInScope c caps = true
  profile : H.canonicalisationProfile ∈ P.acceptedProfiles
  profileText : H.canonicalisationProfile ≠ ""
  digest : ∀ m, (P.sha256 m).length = 32
  signs : ∀ m, ∃ s, M.signer.sign m = .ok s ∧ s.Readable ∧ s.encoding = "base64url" ∧
    ∀ issuer issuedAt, V.signer m s issuer issuedAt = .ok true
  audits : ∀ record ∈ M.auditSink, ∀ pccb, record pccb = .ok ()

section
variable {P : Platform} {M : PCCBMinter} {H : MintProtocol} {r : MintRequest}

theorem mem_sortedSet {c : String} {caps : List String} : c ∈ sortedSet caps ↔ c ∈ caps := by
  unfold sortedSet
  rw [List.mem_insertionSort, List.mem_dedup]

/-- a value with canonical bytes is canonically equal to itself -/
theorem canonicalEqual_self {j : Json} (h : ∃ bytes, canonicalizeBytes P j = .ok bytes) :
    canonicalEqual P j j = true := by
  obtain ⟨bytes, hb⟩ := h
  exact canonicalEqual_iff.mpr ⟨bytes, hb, hb⟩

/-- the members of a payload that has canonical bytes have canonical bytes -/
theorem canonicalizeBytes_get {d : Dict} {bytes : List UInt8} (h : canonicalizeBytes P (.obj d) = .ok bytes)
    {name : String} {v : Json} (hv : Dict.find d (.str name) = some v) :
    ∃ bs, canonicalizeBytes P v = .ok bs := by
  apply canonicalizeBytes_child h
  unfold Dict.find at hv
  obtain ⟨p, hp, rfl⟩ := Option.map_eq_some_iff.mp hv
  exact List.mem_map_of_mem (List.mem_of_find?_eq_some hp)

theorem sha256Hex_ne_empty {j : Json} {hash : String} (hd : ∀ m, (P.sha256 m).length = 32)
    (h : sha256Hex P j = .ok hash) : hash ≠ "" := by
  obtain ⟨bytes, -, rfl⟩ := sha256Hex_ok h
  intro hempty
  have hlen := congrArg String.length hempty
  rw [String.length_ofList, Hex.length_toHex, hd] at hlen
  cases hlen

/-- what the minter needs of a request to return: the capabilities can be scoped, the action and the payload
have canonical bytes, and the signer and the audit sink take what they are given -/
def Signable (P : Platform) (M : PCCBMinter) (H : MintProtocol) (r : MintRequest) : Prop :=
  ∃ capabilities, H.scopeCapabilitiesForMint r.context.scopeCapabilities = .ok capabilities ∧
    (Json.obj (buildActionHashInput r.intent)).Canonicalizable P ∧
    ∀ hash, sha256Hex P (.obj (buildActionHashInput r.intent)) = .ok hash →
      (Json.obj (M.unsigned H r capabilities hash).unsignedPayload).Canonicalizable P ∧
      ∀ payload, canonicalizeBytes P (.obj (M.unsigned H r capabilities hash).unsignedPayload) = .ok payload →
        ∃ s, M.signer.sign payload = .ok s ∧
          ∀ record, M.auditSink = some record →
            record { M.unsigned H r capabilities hash with signature := s } = .ok ()

theorem mint_returns_iff {decision : PolicyDecision} :
    (∃ pccb, M.mint P H decision r = .ok pccb) ↔ decision.allowed = true ∧ Signable P M H r := by
  unfold PCCBMinter.mint Signable
  cases decision.allowed with
  | false =>
    refine iff_of_false ?_ fun h => nomatch h.1
    rintro ⟨pccb, h⟩
    cases h
  | true =>
    rw [if_neg (by decide), and_iff_right rfl]
    simp only [Fallible.exists_bind_ok]
    refine exists_congr fun capabilities => and_congr_right fun _ => ?_
    rw [Fallible.exists_ok_and, sha256Hex_exists]
    refine and_congr_right fun _ => forall_congr' fun hash => imp_congr_right fun _ => ?_
    rw [Fallible.exists_ok_and, canonicalizeBytes_exists]
    refine and_congr_right fun _ => forall_congr' fun payload => imp_congr_right fun _ => ?_
    refine exists_congr fun s => and_congr_right fun _ => ?_
    cases M.auditSink with
    | none => exact iff_of_true ⟨_, rfl⟩ fun record h => nomatch h
    | some record =>
      rw [Fallible.check_ok]
      constructor
      · intro hrecord record' h
        cases h
        exact hrecord
      · exact fun h => h record rfl

/-! ## the checks on a minted proof -/

/-- a proof as the minter returns it -/
structure Minted (P : Platform) (M : PCCBMinter) (H : MintProtocol) (V : PCCBVerifier) (r : MintRequest)
    (capabilities : List String) (hash : String) (s : SignatureSpec) : Prop where
  caps : ∀ c, c ∈ capabilities ↔ c ∈ r.context.scopeCapabilities
  hashed : sha256Hex P (.obj (buildActionHashInput r.intent)) = .ok hash
  payload : ∃ bytes, canonicalizeBytes P (.obj (M.unsigned H r capabilities hash).unsignedPayload) = .ok bytes ∧
    ∀ issuer issuedAt, V.signer bytes s issuer issuedAt = .ok true
  signature : s.Readable
  encoding : s.encoding = "base64url"

/-- the proof with its signature -/
def PCCBMinter.signed (M : PCCBMinter) (H : MintProtocol) (r : MintRequest) (capabilities : List String)
    (hash : String) (s : SignatureSpec) : PCCB :=
  { M.unsigned H r capabilities hash with signature := s }

variable {V : PCCBVerifier} {capabilities : List String} {hash : String} {s : SignatureSpec}

/-- a check that is passed, and the rest -/
theorem pass {bad : Prop} [Decidable bad] {e : Raised} {rest : PyM Unit} (h : ¬ bad) (hrest : rest = .ok ()) :
    (raiseWhen bad e >>= fun _ => rest) = .ok () := by
  have hcheck : raiseWhen bad e = .ok () := raiseWhen_ok.mpr h
  rw [hcheck, Fallible.ok_bind, hrest]

theorem shift_us {t t' : Datetime} {d : Int} (h : t.shift d = .ok t') : (t'.us : Int) = t.us + d := ofInt_us h

theorem readable_signed (hr : Mintable P M H r) (ha : MintAssumptions P M H V)
    (hm : Minted P M H V r capabilities hash s) : (M.signed H r capabilities hash s).Readable where
  pccbId := hr.pccbId
  issuer := hr.issuer
  subject := hr.requester
  tenant := hr.tenant
  audience := hr.audience
  action := hr.action
  target := hr.target
  scope := by
    have hmem : r.intent.action.capability ∈ sortedSet capabilities :=
      mem_sortedSet.mpr ((hm.caps _).mpr hr.performs)
    have hmode : "exact" ≠ "" := by decide
    refine ⟨hmode, List.ne_nil_of_mem hmem, ?_⟩
    intro c hc hempty
    have hconcrete := hr.concrete c ((hm.caps c).mp (mem_sortedSet.mp hc))
    rw [hempty] at hconcrete
    revert hconcrete
    decide
  nonce := hr.nonce
  actionHash := ⟨show "sha-256" ≠ "" by decide, ha.profileText, sha256Hex_ne_empty ha.digest hm.hashed⟩
  signature := hm.signature

theorem authenticate_signed (hm : Minted P M H V r capabilities hash s) :
    V.authenticate P (M.signed H r capabilities hash s) = .ok () := by
  obtain ⟨bytes, hbytes, hvalid⟩ := hm.payload
  have hcontract : Dict.find (M.signed H r capabilities hash s).unsignedPayload (.str "contract")
      = some (.obj (members [("name", .str "pccb"), ("version", .str "v1")])) := by
    simp [PCCB.unsignedPayload, Dict.find_append, find_members_cons]
  have hdeclares : declares (payloadContract (M.signed H r capabilities hash s).unsignedPayload) "pccb" "v1" = true := by
    unfold payloadContract Dict.getD
    rw [hcontract]
    decide
  have hbytes' : canonicalizeBytes P (.obj (M.signed H r capabilities hash s).unsignedPayload) = .ok bytes := hbytes
  unfold PCCBVerifier.authenticate
  refine pass (not_not.mpr hdeclares) (pass ?_ ?_)
  · show ¬ (s.value = "" ∨ s.encoding ≠ "base64url")
    rw [not_or, not_not]
    exact ⟨hm.signature.2.2.2, hm.encoding⟩
  · rw [hbytes']
    show (V.signer bytes s _ _ >>= fun _ => _) = _
    rw [hvalid, Fallible.ok_bind]
    exact raiseWhen_ok.mpr (by decide)

/-- from its issue to its expiry a proof is in its window, whatever the tolerance -/
theorem checkWindow_signed {now : Datetime} (hfrom : r.context.now ≤ now) (hto : now ≤ r.intent.expiresAt)
    (hskew : (∃ t, now.shift V.clockSkewTolerance = .ok t) ∧ ∃ t, now.shift (-V.clockSkewTolerance) = .ok t) :
    V.checkWindow (M.signed H r capabilities hash s) now = .ok () := by
  obtain ⟨⟨latest, hl⟩, earliest, he⟩ := hskew
  have hle := shift_us hl
  have hge := shift_us he
  have hfrom' : r.context.now.us ≤ now.us := hfrom
  have hto' : now.us ≤ r.intent.expiresAt.us := hto
  unfold PCCBVerifier.checkWindow
  rw [hl, he]
  show (raiseWhen (latest < r.context.now) _ >>= fun _ => raiseWhen (r.intent.expiresAt < earliest) _) = _
  refine pass ?_ (raiseWhen_ok.mpr ?_)
  · show ¬ latest.us < r.context.now.us
    omega
  · show ¬ r.intent.expiresAt.us < earliest.us
    omega

/-- the references of a minted proof have canonical bytes -/
theorem member_signed (hm : Minted P M H V r capabilities hash s) {name : String} {v : Json}
    (hv : Dict.find (M.signed H r capabilities hash s).unsignedPayload (.str name) = some v) :
    ∃ bytes, canonicalizeBytes P v = .ok bytes := by
  obtain ⟨bytes, hbytes, -⟩ := hm.payload
  exact canonicalizeBytes_get hbytes hv

theorem checkBinding_signed (hr : Mintable P M H r) (ha : MintAssumptions P M H V)
    (hm : Minted P M H V r capabilities hash s) (hboundary : ∀ b ∈ V.boundaryId, b = r.context.audience.id)
    (now : Datetime) :
    V.checkBinding P r.intent (M.signed H r capabilities hash s) { r.context with now := now } = .ok () := by
  have hself : ∀ name d, Dict.find (M.signed H r capabilities hash s).unsignedPayload (.str name) = some (.obj d) →
      canonicalEqual P (.obj d) (.obj d) = true := fun _ _ h => canonicalEqual_self (member_signed hm h)
  have haudience := hself "audience" r.context.audience.toDict
    (by simp [PCCB.unsignedPayload, Dict.find_append, find_members_cons]; rfl)
  have htarget := hself "target" r.intent.target.toDict
    (by simp [PCCB.unsignedPayload, Dict.find_append, find_members_cons]; rfl)
  have htenant := hself "tenant" r.intent.tenant.toDict
    (by simp [PCCB.unsignedPayload, Dict.find_append, find_members_cons]; rfl)
  have hsubject := hself "subject" r.intent.requester.toDict
    (by simp [PCCB.unsignedPayload, Dict.find_append, find_members_cons]; rfl)
  have haction := hself "action" r.intent.action.toDict
    (by simp [PCCB.unsignedPayload, Dict.find_append, find_members_cons]; rfl)
  have hbound : ¬ (V.boundaryId.isSome = true ∧ V.boundaryId ≠ some r.context.audience.id) := by
    rintro ⟨hsome, hne⟩
    obtain ⟨b, hb⟩ := Option.isSome_iff_exists.mp hsome
    exact hne (by rw [hb, hboundary b hb])
  have hsigned : P.capabilityInScope r.intent.action.capability (sortedSet capabilities) = true := by
    apply ha.inScope
    · intro d hd
      exact hr.concrete d ((hm.caps d).mp (mem_sortedSet.mp hd))
    · exact mem_sortedSet.mpr ((hm.caps _).mpr hr.performs)
  have hedge := ha.inScope _ _ hr.concrete hr.performs
  have hintent : isStr (.str r.intent.intentId) r.intent.intentId = true := decide_eq_true rfl
  have hmode : ¬ ("exact" ≠ "exact" ∨ true ≠ true) := by decide
  unfold PCCBVerifier.checkBinding
  refine pass (not_not.mpr haudience) (pass hbound (pass (not_not.mpr htarget) (pass hmode ?_)))
  refine pass (not_not.mpr hsigned) (pass (not_not.mpr hedge) (pass (fun h => h.2 hintent) ?_))
  exact pass (not_not.mpr htenant) (pass (not_not.mpr hsubject) (raiseWhen_ok.mpr (not_not.mpr haction)))

theorem checkActionHash_signed (ha : MintAssumptions P M H V) (hm : Minted P M H V r capabilities hash s) :
    V.checkActionHash P r.intent (M.signed H r capabilities hash s) = .ok () := by
  unfold PCCBVerifier.checkActionHash
  rw [hm.hashed]
  show (raiseWhen ("sha-256" ≠ "sha-256" ∨ H.canonicalisationProfile ∉ P.acceptedProfiles) _ >>=
    fun _ => raiseWhen (hash ≠ hash) _) = _
  refine pass ?_ (raiseWhen_ok.mpr (not_not.mpr rfl))
  rw [not_or, not_not, not_not]
  exact ⟨rfl, ha.profile⟩

/-- every constraint of the context was signed -/
theorem constraintsCovered_signed (hr : Mintable P M H r) (hm : Minted P M H V r capabilities hash s) :
    constraintsCovered P r.context.parameterConstraints r.context.parameterConstraints = true := by
  unfold constraintsCovered
  rw [List.all_eq_true]
  intro p hp
  have hfind : Dict.find r.context.parameterConstraints p.1 = some p.2 := find_of_mem hr.constraints hp
  have hscope : ∃ bytes, canonicalizeBytes P (.obj (M.signed H r capabilities hash s).scope.toDict) = .ok bytes :=
    @member_signed _ _ _ _ _ _ _ _ hm "scope" _
      (by simp [PCCB.unsignedPayload, Dict.find_append, find_members_cons])
  obtain ⟨bytes, hbytes⟩ := hscope
  have hne : r.context.parameterConstraints.isEmpty = false := List.isEmpty_eq_false_iff.mpr (List.ne_nil_of_mem hp)
  have hdict : Dict.find (M.signed H r capabilities hash s).scope.toDict (.str "parameter_constraints")
      = some (.obj r.context.parameterConstraints) := by
    simp [ScopeSpec.toDict, Dict.find_append, find_members_cons, find_members_nil, find_listMember,
      find_dictMember, PCCBMinter.signed, PCCBMinter.unsigned, dictValue, hne]
  obtain ⟨bytes', hbytes'⟩ := canonicalizeBytes_get hbytes hdict
  rw [hfind]
  exact canonicalEqual_self (canonicalizeBytes_child hbytes' (List.mem_map_of_mem hp))

theorem checkEdge_signed (hr : Mintable P M H r) (hm : Minted P M H V r capabilities hash s) (now : Datetime) :
    V.checkEdge P (M.signed H r capabilities hash s) { r.context with now := now } = .ok () := by
  unfold PCCBVerifier.checkEdge
  refine pass (not_not.mpr (constraintsCovered_signed hr hm)) (raiseWhen_ok.mpr ?_)
  intro ⟨hne, hnone⟩
  exact hnone (hr.selects hne)

theorem checkRevocation_signed (hr : Mintable P M H r) (hrevocation : V.revocationChecker = none)
    (context : DynamicContextInput) :
    V.checkRevocation P (M.signed H r capabilities hash s) context = .ok () := by
  have hfind : (Dict.find (M.signed H r capabilities hash s).extensions (.str "authority")).isSome = false := by
    show (Dict.find r.extensions (.str "authority")).isSome = false
    rw [hr.authority]
    rfl
  unfold PCCBVerifier.checkRevocation
  rw [hfind, hrevocation]
  rfl

/-! ## minted, written, read and verified -/

/-- the minter returns the signed proof -/
theorem mint_ok (hr : Mintable P M H r) (ha : MintAssumptions P M H V) {decision : PolicyDecision}
    (hallow : decision.allowed = true) :
    ∃ capabilities hash s, M.mint P H decision r = .ok (M.signed H r capabilities hash s) ∧
      Minted P M H V r capabilities hash s := by
  obtain ⟨capabilities, hkept, hcaps⟩ := ha.keeps _ hr.concrete
  obtain ⟨hash, hhash⟩ := hr.hashable
  obtain ⟨bytes, hbytes⟩ := hr.payload capabilities hash hkept hhash
  obtain ⟨s, hsign, hreadable, hencoding, hvalid⟩ := ha.signs bytes
  refine ⟨capabilities, hash, s, ?_, hcaps, hhash, ⟨bytes, hbytes, hvalid⟩, hreadable, hencoding⟩
  unfold PCCBMinter.mint
  rw [hallow, hkept, hhash]
  show (canonicalizeBytes P (.obj (M.unsigned H r capabilities hash).unsignedPayload) >>= fun _ => _) = _
  rw [hbytes, Fallible.ok_bind, hsign, Fallible.ok_bind]
  cases haudit : M.auditSink with
  | none => rfl
  | some record =>
    show (record (M.signed H r capabilities hash s) >>= fun _ => _) = _
    rw [ha.audits record haudit, Fallible.ok_bind]
    rfl

/-- **What is minted verifies.**  A proof minted for a request, written with `to_dict` and read with
`from_dict`, is accepted for the intent in the context of the request at every instant from its
issue to its expiry. -/
theorem mint_verify_complete (P : Platform) (M : PCCBMinter) (H : MintProtocol) (V : PCCBVerifier)
    (ha : MintAssumptions P M H V) (decision : PolicyDecision) (hallow : decision.allowed = true)
    (r : MintRequest) (hr : Mintable P M H r) (hrevocation : V.revocationChecker = none)
    (hboundary : ∀ b ∈ V.boundaryId, b = r.context.audience.id) (now : Datetime)
    (hfrom : r.context.now ≤ now) (hto : now ≤ r.intent.expiresAt)
    (hskew : (∃ t, now.shift V.clockSkewTolerance = .ok t) ∧ ∃ t, now.shift (-V.clockSkewTolerance) = .ok t) :
    ∃ pccb, M.mint P H decision r = .ok pccb ∧ PCCB.fromDict (.obj pccb.toDict) = .ok pccb ∧
      V.verify P r.intent pccb { r.context with now := now } = .ok () := by
  obtain ⟨capabilities, hash, s, hmint, hm⟩ := mint_ok hr ha hallow
  refine ⟨_, hmint, PCCB.fromDict_toDict (readable_signed hr ha hm), ?_⟩
  unfold PCCBVerifier.verify
  rw [authenticate_signed hm, Fallible.ok_bind, checkWindow_signed hfrom hto hskew, Fallible.ok_bind,
    checkBinding_signed hr ha hm hboundary now, Fallible.ok_bind, checkActionHash_signed ha hm,
    Fallible.ok_bind, checkEdge_signed hr hm now, Fallible.ok_bind]
  exact checkRevocation_signed hr hrevocation _

end

/-! ## the sample -/

/-- a code over the message, which the verifier computes again -/
def sampleMac (m : List UInt8) : SignatureSpec := ⟨"HS256", "k1", "base64url", "mac_" ++ toString m.length⟩

def sampleMinter : PCCBMinter where
  signer := ⟨"HS256", "k1", fun m => .ok (sampleMac m)⟩
  issuer := samplePccb.issuer

def sampleProtocol : MintProtocol where
  scopeCapabilitiesForMint caps :=
    if caps.all concreteCapability then .ok caps else valueError "capabilities must be concrete"
  canonicalisationProfile := "ACTENON-JCS-STRICT-1"

def macVerifier : PCCBVerifier where
  signer m s _ _ := .ok (s = sampleMac m)

def sampleAllow : PolicyDecision := ⟨.allow, "allowed", [], [], [], []⟩

theorem sampleHash_length (m : List UInt8) : (sampleHash m).length = 32 := by
  unfold sampleHash
  split_ifs
  · decide
  · decide
  · rfl

theorem sample_assumptions : MintAssumptions kernelPlatform sampleMinter sampleProtocol macVerifier where
  keeps caps h := ⟨caps, if_pos (List.all_eq_true.mpr h), fun _ => Iff.rfl⟩
  inScope c caps _ hc := List.contains_iff_mem.mpr hc
  profile := by decide
  profileText := by decide
  digest := sampleHash_length
  signs m := by
    refine ⟨sampleMac m, rfl, ?_, rfl, fun _ _ => ?_⟩
    · simp [SignatureSpec.Readable, sampleMac]
    · exact congrArg Except.ok (decide_eq_true rfl)
  audits record h := by cases h

/-- the request of the sample, with a constraint of the edge -/
def sampleMintRequest (limit : Json) : MintRequest where
  intent := sampleIntent
  context := { sampleContext with parameterConstraints := members [("limit", limit)] }
  pccbId := "pccb_1"
  nonce := "n1"

theorem sample_hash :
    sha256Hex kernelPlatform (.obj (buildActionHashInput sampleIntent)) = .ok samplePccb.actionHash.value := by
  decide +kernel

theorem sample_mintable : Mintable kernelPlatform sampleMinter sampleProtocol (sampleMintRequest (.int 5)) where
  tenant := by decide
  requester := by decide
  action := by decide
  target := by decide
  audience := by decide
  issuer := by decide
  pccbId := by decide
  nonce := by decide
  hashable := ⟨_, sample_hash⟩
  payload capabilities hash hcaps hhash := by
    have hkept : capabilities = ["repo.read"] := by
      have h : sampleProtocol.scopeCapabilitiesForMint ["repo.read"] = .ok ["repo.read"] := by decide
      exact Except.ok.inj (hcaps.symm.trans h)
    have hvalue : hash = samplePccb.actionHash.value := Except.ok.inj (hhash.symm.trans sample_hash)
    subst hkept hvalue
    apply Fallible.exists_ok
    decide +kernel
  concrete := by decide
  performs := by decide
  selects := fun h => absurd rfl h
  constraints := by decide
  authority := rfl

/-- minted at issue, verified an instant before the expiry -/
theorem mint_verify_complete_sample :
    ∃ pccb, sampleMinter.mint kernelPlatform sampleProtocol sampleAllow (sampleMintRequest (.int 5)) = .ok pccb ∧
      PCCB.fromDict (.obj pccb.toDict) = .ok pccb ∧
      macVerifier.verify kernelPlatform sampleIntent pccb
        { (sampleMintRequest (.int 5)).context with now := sampleExpiry } = .ok () := by
  have hboundary : ∀ b ∈ macVerifier.boundaryId, b = (sampleMintRequest (.int 5)).context.audience.id := by
    intro b hb
    cases hb
  have hstay : sampleExpiry.shift macVerifier.clockSkewTolerance = .ok sampleExpiry ∧
      sampleExpiry.shift (-macVerifier.clockSkewTolerance) = .ok sampleExpiry := by decide
  exact mint_verify_complete kernelPlatform sampleMinter sampleProtocol macVerifier sample_assumptions sampleAllow
    (by decide) (sampleMintRequest (.int 5)) sample_mintable rfl hboundary sampleExpiry (by decide) (by decide)
    ⟨⟨_, hstay.1⟩, _, hstay.2⟩

/-- **A context may hold what cannot be signed.**  The decision allows, the intent is canonicalisable,
the context performs its capability and has no selector, and the minter raises: a constraint of the
context is a number with a fraction. -/
theorem mint_refuses_fraction :
    MintAssumptions kernelPlatform sampleMinter sampleProtocol macVerifier ∧ sampleAllow.allowed = true ∧
      (∃ hash, sha256Hex kernelPlatform (.obj (buildActionHashInput sampleIntent)) = .ok hash) ∧
      sampleIntent.action.capability ∈ (sampleMintRequest (.float (.finite (1 / 2)))).context.scopeCapabilities ∧
      (sampleMintRequest (.float (.finite (1 / 2)))).context.resourceSelectors = [] ∧
      sampleMinter.mint kernelPlatform sampleProtocol sampleAllow (sampleMintRequest (.float (.finite (1 / 2))))
        = .error ⟨.typeError, "floating-point values are not supported in canonical action hashing"⟩ := by
  refine ⟨sample_assumptions, by decide, ⟨_, sample_hash⟩, by decide, rfl, ?_⟩
  have hraised : (match sampleMinter.mint kernelPlatform sampleProtocol sampleAllow
      (sampleMintRequest (.float (.finite (1 / 2)))) with
    | .ok _ => none
    | .error e => some e) = some ⟨.typeError, "floating-point values are not supported in canonical action hashing"⟩ := by
    decide +kernel
  split at hraised
  · cases hraised
  · rename_i e he
    rw [he, Option.some.inj hraised]

end Actenon
