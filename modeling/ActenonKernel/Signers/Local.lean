import ActenonKernel.Lib.Base64
import ActenonKernel.Proof.Minting
import ActenonKernel.Security.Posture

/-!
# The local signer (`actenon/proof/signers/local.py`, `base.py`)

The signature is the HMAC of the canonical payload in base64url.  The text of a signature is not unique:
the verifier compares the bytes it is read as.

* `b64urlEncode`, `b64urlDecode`                    the codec of signatures;
* `HmacSha256Signer.sign`, `HmacSha256Signer.verify`
* `signature_codec`                  which texts are read as a signature;
* `local_signer_exact`               which proofs a verifier with this signer takes for authentic.
-/

set_option linter.unusedSectionVars false

namespace Actenon

open Posture (HmacSha256Signer)

/-! ## the codec -/

def b64urlEncode (raw : List UInt8) : String := String.ofList (Base64.encode raw)

def b64urlDecode (raw : String) : Except PyError (List UInt8) :=
  match Base64.decode raw.toList with
  | some bytes => .ok bytes
  | none => valueError "invalid base64url input"

theorem b64urlDecode_ok {raw : String} {bytes : List UInt8} :
    b64urlDecode raw = .ok bytes ↔ Base64.decode raw.toList = some bytes := by
  unfold b64urlDecode
  cases Base64.decode raw.toList with
  | none => exact iff_of_false (fun h => nomatch h) (fun h => nomatch h)
  | some bs => exact ⟨fun h => by cases h; rfl, fun h => by cases h; rfl⟩

theorem toList_b64urlEncode (bytes : List UInt8) : (b64urlEncode bytes).toList = Base64.encode bytes :=
  String.toList_ofList

theorem b64urlDecode_encode (bytes : List UInt8) : b64urlDecode (b64urlEncode bytes) = .ok bytes := by
  rw [b64urlDecode_ok, toList_b64urlEncode]
  exact Base64.decode_encode bytes

theorem b64urlDecode_iff {raw : String} {bytes : List UInt8} :
    b64urlDecode raw = .ok bytes ↔ Base64.normalForm raw.toList = some (b64urlEncode bytes).toList := by
  rw [b64urlDecode_ok, toList_b64urlEncode]
  exact Base64.decode_iff

/-- **A signature reads back, and so does every other spelling of it.**  A text is read as the bytes iff
its normal form is the text they are written as: it may have `+` for `-`, `/` for `_`, padding as far as
it is read, and other bits where the last digit has some over.  Different bytes are written as different texts. -/
theorem signature_codec (bytes : List UInt8) :
    b64urlDecode (b64urlEncode bytes) = .ok bytes ∧
      (∀ raw : String, b64urlDecode raw = .ok bytes ↔
        Base64.normalForm raw.toList = some (b64urlEncode bytes).toList) ∧
      ∀ other, b64urlEncode other = b64urlEncode bytes → other = bytes :=
  ⟨b64urlDecode_encode bytes, fun _ => b64urlDecode_iff,
    fun _ h => Base64.encode_inj (String.ofList_injective h)⟩

/-- two spellings of two bytes, a text that is not read, and one with more padding than it needs -/
example : b64urlDecode "-_8" = .ok [0xfb, 0xff] ∧ b64urlDecode "+/9=" = .ok [0xfb, 0xff] ∧
    (b64urlDecode "-_8==").toOption = none ∧ b64urlDecode "AAAA=" = .ok [0, 0, 0] := by decide +kernel

/-! ## the signer -/

/-- `hmac.new(key, message, sha256).digest()` -/
def Platform.hmacSha256 (P : Platform) (key message : List UInt8) : List UInt8 :=
  let short := if key.length > 64 then P.sha256 key else key
  let block := short ++ List.replicate (64 - short.length) 0
  P.sha256 (block.map (· ^^^ 0x5c) ++ P.sha256 (block.map (· ^^^ 0x36) ++ message))

section
variable (P : Platform)

def Posture.HmacSha256Signer.sign (S : HmacSha256Signer) (payload : List UInt8) : SignatureSpec :=
  ⟨S.algorithm, S.keyId, "base64url", b64urlEncode (P.hmacSha256 S.secret payload)⟩

def Posture.HmacSha256Signer.verify (S : HmacSha256Signer) (payload : List UInt8) (signature : SignatureSpec) : Bool :=
  if signature.algorithm ≠ S.algorithm ∨ signature.keyId ≠ S.keyId ∨ signature.encoding ≠ "base64url" then false
  else
    match b64urlDecode signature.value with
    | .ok provided => P.hmacSha256 S.secret payload = provided
    | .error _ => false

/-- the signer as the minter uses it -/
def Posture.HmacSha256Signer.toSigner (S : HmacSha256Signer) : Signer where
  algorithm := S.algorithm
  keyId := S.keyId
  sign payload := .ok (S.sign P payload)

/-- the verifier is rooted in this signer -/
def PCCBVerifier.RootedIn (V : PCCBVerifier) (S : HmacSha256Signer) : Prop :=
  ∀ payload signature issuer issuedAt, V.signer payload signature issuer issuedAt = .ok (S.verify P payload signature)

end

/-- the signature names this signer, and its text spells these bytes -/
def Posture.HmacSha256Signer.Spelled (S : HmacSha256Signer) (signature : SignatureSpec) (digest : List UInt8) : Prop :=
  signature.algorithm = S.algorithm ∧ signature.keyId = S.keyId ∧ signature.encoding = "base64url" ∧
    Base64.normalForm signature.value.toList = some (b64urlEncode digest).toList

section
variable {P : Platform} {S : HmacSha256Signer} {V : PCCBVerifier}

theorem verify_iff {payload : List UInt8} {signature : SignatureSpec} :
    S.verify P payload signature = true ↔ S.Spelled signature (P.hmacSha256 S.secret payload) := by
  unfold HmacSha256Signer.verify HmacSha256Signer.Spelled
  rw [← b64urlDecode_iff]
  split_ifs with h
  · refine iff_of_false (by decide) ?_
    rintro ⟨ha, hk, he, -⟩
    exact h.elim (fun h => h ha) fun h => h.elim (fun h => h hk) fun h => h he
  · simp only [not_or, not_not] at h
    obtain ⟨ha, hk, he⟩ := h
    rw [and_iff_right ha, and_iff_right hk, and_iff_right he]
    cases b64urlDecode signature.value with
    | error e => exact iff_of_false (fun h => nomatch h) fun h => nomatch h
    | ok provided =>
      rw [Except.ok.injEq, eq_comm (a := provided)]
      exact decide_eq_true_iff

theorem verify_sign (payload : List UInt8) : S.verify P payload (S.sign P payload) = true := by
  refine verify_iff.mpr ⟨rfl, rfl, rfl, ?_⟩
  exact b64urlDecode_iff.mp (b64urlDecode_encode _)

theorem declares_unsigned (p : PCCB) : declares (payloadContract p.unsignedPayload) "pccb" "v1" = true := by
  have hcontract : Dict.find p.unsignedPayload (.str "contract")
      = some (.obj (members [("name", .str "pccb"), ("version", .str "v1")])) := by
    simp [PCCB.unsignedPayload, Dict.find_append, find_members_cons]
  unfold payloadContract Dict.getD
  rw [hcontract]
  decide

/-- a proof is authentic iff its payload has canonical bytes and its signature spells the HMAC of them -/
theorem authentic_iff (hV : V.RootedIn P S) (hd : ∀ m, (P.sha256 m).length = 32) (p : PCCB) :
    V.authenticate P p = .ok () ↔ ∃ payload, canonicalizeBytes P (.obj p.unsignedPayload) = .ok payload ∧
      S.Spelled p.signature (P.hmacSha256 S.secret payload) := by
  have hverify : ∀ payload, (V.signer payload p.signature p.issuer p.issuedAt >>= fun isValid =>
      raiseWhen (¬ isValid) (V.preAuthFailure "SIGNATURE_INVALID")) = .ok () ↔
        S.Spelled p.signature (P.hmacSha256 S.secret payload) := by
    intro payload
    rw [hV, Fallible.ok_bind, raiseWhen_ok, not_not, verify_iff]
  unfold PCCBVerifier.authenticate
  constructor
  · intro h
    obtain ⟨-, -, h⟩ := Fallible.bind_eq_ok.mp h
    obtain ⟨-, -, h⟩ := Fallible.bind_eq_ok.mp h
    obtain ⟨payload, hp, h⟩ := Fallible.bind_eq_ok.mp h
    exact ⟨payload, Fallible.mapError_eq_ok.mp hp, (hverify payload).mp h⟩
  · rintro ⟨payload, hp, hspelled⟩
    have hvalue : p.signature.value ≠ "" := by
      intro hempty
      -- the empty text is read as no bytes at all
      have hread := b64urlDecode_iff.mpr hspelled.2.2.2
      rw [hempty, b64urlDecode_ok] at hread
      have hnil : P.hmacSha256 S.secret payload = [] := (Option.some.inj hread).symm
      have hlength : (P.hmacSha256 S.secret payload).length = 32 := hd _
      rw [hnil] at hlength
      cases hlength
    refine pass (not_not.mpr (declares_unsigned p)) (pass ?_ ?_)
    · rw [not_or, not_not]
      exact ⟨hvalue, hspelled.2.2.1⟩
    · rw [hp]
      exact (hverify payload).mpr hspelled

theorem mint_authentic (hV : V.RootedIn P S) (hd : ∀ m, (P.sha256 m).length = 32) {M : PCCBMinter} {H : MintProtocol}
    {decision : PolicyDecision} {r : MintRequest} {p : PCCB} (hM : M.signer = S.toSigner P)
    (h : M.mint P H decision r = .ok p) : V.authenticate P p = .ok () := by
  unfold PCCBMinter.mint at h
  split_ifs at h with hrefused
  · cases h
  obtain ⟨capabilities, -, h⟩ := Fallible.bind_eq_ok.mp h
  obtain ⟨hash, -, h⟩ := Fallible.bind_eq_ok.mp h
  obtain ⟨payload, hpayload, h⟩ := Fallible.bind_eq_ok.mp h
  obtain ⟨signature, hs, h⟩ := Fallible.bind_eq_ok.mp h
  rw [hM] at hs
  cases hs
  have hauthentic : V.authenticate P { M.unsigned H r capabilities hash with signature := S.sign P payload } = .ok () :=
    (authentic_iff hV hd _).mpr ⟨payload, hpayload, verify_iff.mp (verify_sign payload)⟩
  split at h
  · obtain ⟨u, -, h⟩ := Fallible.bind_eq_ok.mp h
    cases h
    exact hauthentic
  · cases h
    exact hauthentic

/-- **The local signer.**  A verifier rooted in it takes a proof for authentic iff its signature spells
the HMAC of its canonical payload.  So it accepts whatever the minter signed with it; and two authentic
proofs whose signatures spell the same bytes are the same but for the signature, or else two messages
have one HMAC. -/
theorem local_signer_exact (hV : V.RootedIn P S) (hd : ∀ m, (P.sha256 m).length = 32) :
    (∀ p, V.authenticate P p = .ok () ↔ ∃ payload, canonicalizeBytes P (.obj p.unsignedPayload) = .ok payload ∧
      S.Spelled p.signature (P.hmacSha256 S.secret payload)) ∧
    (∀ (M : PCCBMinter) H decision r p, M.signer = S.toSigner P → M.mint P H decision r = .ok p →
      V.authenticate P p = .ok ()) ∧
    ∀ p q, V.authenticate P p = .ok () → V.authenticate P q = .ok () →
      Base64.normalForm p.signature.value.toList = Base64.normalForm q.signature.value.toList →
      p.Same q ∨ ∃ m n, m ≠ n ∧ P.hmacSha256 S.secret m = P.hmacSha256 S.secret n := by
  refine ⟨authentic_iff hV hd, fun M H decision r p hM h => mint_authentic hV hd hM h, ?_⟩
  intro p q hp hq hsame
  obtain ⟨m, hm, -, -, -, hpm⟩ := (authentic_iff hV hd p).mp hp
  obtain ⟨n, hn, -, -, -, hqn⟩ := (authentic_iff hV hd q).mp hq
  rw [hpm, hqn] at hsame
  have hmac : P.hmacSha256 S.secret m = P.hmacSha256 S.secret n :=
    Base64.encode_inj (String.ofList_injective (String.toList_injective (Option.some.inj hsame)))
  by_cases hmn : m = n
  · left
    rw [hmn] at hm
    exact PCCB.same_of_unsignedPayload (canonicalizeBytes_inj hm hn)
  · exact .inr ⟨m, n, hmn, hmac⟩

end

/-! ## the sample -/

def sampleLocalSigner : HmacSha256Signer := ⟨[1, 2, 3], "local-proof-v1", "HS256"⟩

def sampleLocalVerifier : PCCBVerifier where
  signer m s _ _ := .ok (sampleLocalSigner.verify kernelPlatform m s)

theorem local_signer_exact_sample :
    (∀ p, sampleLocalVerifier.authenticate kernelPlatform p = .ok () ↔
      ∃ payload, canonicalizeBytes kernelPlatform (.obj p.unsignedPayload) = .ok payload ∧
        sampleLocalSigner.Spelled p.signature (kernelPlatform.hmacSha256 sampleLocalSigner.secret payload)) ∧
    (∀ (M : PCCBMinter) H decision r p, M.signer = sampleLocalSigner.toSigner kernelPlatform →
      M.mint kernelPlatform H decision r = .ok p → sampleLocalVerifier.authenticate kernelPlatform p = .ok ()) ∧
    ∀ p q, sampleLocalVerifier.authenticate kernelPlatform p = .ok () →
      sampleLocalVerifier.authenticate kernelPlatform q = .ok () →
      Base64.normalForm p.signature.value.toList = Base64.normalForm q.signature.value.toList →
      p.Same q ∨ ∃ m n, m ≠ n ∧
        kernelPlatform.hmacSha256 sampleLocalSigner.secret m = kernelPlatform.hmacSha256 sampleLocalSigner.secret n :=
  local_signer_exact (fun _ _ _ _ => rfl) sampleHash_length

end Actenon
