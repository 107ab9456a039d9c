import ActenonKernel.Evidence.Soundness
import ActenonKernel.Lib.BoundedWalk
import ActenonKernel.Models.Malformed

/-!
# The chain of receipts (`actenon/evidence/query.py`)

The intents are nodes, their receipt references are edges: a reference leads to the intent of the
receipt when both load and the digest is the one of the receipt.  `_verify_receipt_evidence_chain` is
the walk of bounded depth over that graph, with the identifiers of the receipts as marks.

* `followReceipt`            where a reference leads;
* `chain_walk`               the call returns no fault exactly when the walk returns;
* `chain_total`              the call returns, when the receipts have canonical forms;
* `receipt_chain_exact`      what the call says of the paths from an intent.
-/

set_option linter.unusedSectionVars false

namespace Actenon

open BoundedWalk

/-! ## digests -/

theorem valueError_only {α : Type} (message : String) : OnlyValueErrors (valueError message : Except PyError α) :=
  Fallible.Raises.error rfl

theorem expectString_only (raw : Json) (fieldName : String) : OnlyValueErrors (expectString raw fieldName) := by
  unfold expectString
  split
  · split
    · exact valueError_only _
    · exact Fallible.Raises.ok _
  · exact valueError_only _

theorem expectMapping_only (raw : Json) (fieldName : String) : OnlyValueErrors (expectMapping raw fieldName) := by
  unfold expectMapping
  split
  · exact Fallible.Raises.ok _
  · exact valueError_only _

theorem digestSpec_only (raw : Json) (fieldName : String) : OnlyValueErrors (DigestSpec.fromDict raw fieldName) := by
  unfold DigestSpec.fromDict
  refine (expectMapping_only _ _).bind fun data _ => ?_
  refine (expectString_only _ _).bind fun algorithm _ => ?_
  refine (expectString_only _ _).bind fun canonicalization _ => ?_
  exact (expectString_only _ _).bind fun value _ => Fallible.Raises.ok _

namespace EvidenceQueryService

section
variable (P : Platform) (profile : String)

/-- the declared digest of a reference is the one of the receipt -/
def DigestMatches (ref : EvidenceRef) (receipt : StoredReceipt) : Prop :=
  ∃ digest, DigestSpec.fromDict (.obj ref.digest) "evidence_ref.digest" = .ok digest ∧
    buildArtifactDigest P profile receipt = .ok digest

variable (receipts : ArtifactStore StoredReceipt.receiptId) (intents : Table ActionIntent.intentId)

/-- where a reference leads: the identifier of the receipt and its intent -/
def followReceipt (ref : EvidenceRef) : Option (String × ActionIntent) := do
  let receipt ← receipts.find ref.value
  let declared ← (DigestSpec.fromDict (.obj ref.digest) "evidence_ref.digest").toOption
  let actual ← (buildArtifactDigest P profile receipt).toOption
  if declared = actual then (intents.find receipt.intentId).map fun parent => (receipt.receiptId, parent) else none

/-- a path of receipt references, with the identifiers of the receipts on it -/
abbrev ReceiptPath : ActionIntent → List String → ActionIntent → Prop :=
  Path receiptRefs (followReceipt P profile receipts intents)

variable {P profile receipts intents} {S : EvidenceQueryService} {intent parent : ActionIntent}
  {seen : List String} {ref : EvidenceRef} {refs : List EvidenceRef} {receiptId : String} {d m n : Nat}

theorem toOption_eq_some {α : Type} {x : Except PyError α} {a : α} : x.toOption = some a ↔ x = .ok a := by
  cases x with
  | error e =>
    constructor
    · intro h
      cases h
    · intro h
      cases h
  | ok b =>
    constructor
    · intro h
      exact congrArg Except.ok (Option.some.inj h)
    · intro h
      exact congrArg some (Except.ok.inj h)

theorem followReceipt_iff : followReceipt P profile receipts intents ref = some (receiptId, parent) ↔
    ∃ receipt, receipts.find ref.value = some receipt ∧ DigestMatches P profile ref receipt ∧
      intents.find receipt.intentId = some parent ∧ receipt.receiptId = receiptId := by
  unfold followReceipt DigestMatches
  simp only [Option.bind_eq_bind, Option.bind_eq_some_iff, toOption_eq_some]
  constructor
  · rintro ⟨receipt, hr, declared, hd, actual, ha, h⟩
    split at h
    · rename_i he
      subst he
      obtain ⟨p, hp, h⟩ := Option.map_eq_some_iff.mp h
      cases h
      exact ⟨receipt, hr, ⟨declared, hd, ha⟩, hp, rfl⟩
    · cases h
  · rintro ⟨receipt, hr, ⟨digest, hd, ha⟩, hp, rfl⟩
    refine ⟨receipt, hr, digest, hd, digest, ha, ?_⟩
    rw [if_pos rfl, hp]
    rfl

/-! ## the walk -/

theorem followRef_next :
    followRef P profile receipts intents intent seen ref = .ok (.inr (parent, receiptId)) ↔
      followReceipt P profile receipts intents ref = some (receiptId, parent) ∧ receiptId ∉ seen := by
  rw [followReceipt_iff]
  unfold followRef DigestMatches
  cases hr : receipts.find ref.value with
  | none => simp
  | some receipt =>
    simp only [Option.some.injEq, exists_eq_left']
    by_cases hseen : receipt.receiptId ∈ seen
    · simp only [if_pos hseen, Except.ok.injEq, reduceCtorEq, false_iff, not_and, not_not]
      rintro ⟨-, -, rfl⟩
      exact hseen
    rw [if_neg hseen]
    cases hd : DigestSpec.fromDict (.obj ref.digest) "evidence_ref.digest" with
    | error e =>
      dsimp only
      split <;> simp
    | ok declared =>
      simp only [Fallible.bind_eq_ok, Except.ok.injEq, exists_eq_left']
      constructor
      · rintro ⟨actual, ha, h⟩
        split at h
        · cases h
        · rename_i he
          split at h
          · cases h
          · rename_i p hp
            cases h
            exact ⟨⟨by rw [ha, not_not.mp he], hp, rfl⟩, hseen⟩
      · rintro ⟨⟨ha, hp, rfl⟩, -⟩
        refine ⟨declared, ha, ?_⟩
        rw [if_neg (not_not.mpr rfl), hp]
        rfl

theorem followRefs_walk {nested : ActionIntent → List String → Except PyError (Option EvidenceResult × Nat)}
    {walked : ActionIntent → List String → Option Nat}
    (hn : ∀ {parent seen c}, nested parent seen = .ok (none, c) ↔ walked parent seen = some c) :
    followRefs P profile nested receipts intents intent seen refs m = .ok (none, d) ↔
      walkEdges (followReceipt P profile receipts intents) walked seen refs m = some d := by
  induction refs generalizing m with
  | nil => simp [followRefs, walkEdges]
  | cons ref refs ih =>
    rw [followRefs, walkEdges]
    simp only [Fallible.bind_eq_ok]
    constructor
    · rintro ⟨followed, hf, h⟩
      cases followed with
      | inl stop => cases h
      | inr next =>
        obtain ⟨parent, receiptId⟩ := next
        obtain ⟨hfollow, hseen⟩ := followRef_next.mp hf
        simp only [hfollow, if_neg hseen]
        obtain ⟨⟨verdict, c⟩, hc, h⟩ := Fallible.bind_eq_ok.mp h
        cases verdict with
        | some stop => cases h
        | none =>
          rw [hn.mp hc]
          exact ih.mp h
    · intro h
      cases hfollow : followReceipt P profile receipts intents ref with
      | none =>
        rw [hfollow] at h
        cases h
      | some next =>
        obtain ⟨receiptId, parent⟩ := next
        simp only [hfollow] at h
        split at h
        · cases h
        · rename_i hseen
          cases hc : walked parent (receiptId :: seen) with
          | none =>
            rw [hc] at h
            cases h
          | some c =>
            rw [hc] at h
            refine ⟨_, followRef_next.mpr ⟨hfollow, hseen⟩, ?_⟩
            exact Fallible.bind_eq_ok.mpr ⟨_, hn.mpr hc, ih.mpr h⟩

/-- **The call returns no fault exactly when the walk returns.** -/
theorem chain_walk (hr : S.receiptStore = some receipts) (hi : S.intentStore = some intents) :
    S.verifyReceiptEvidenceChain P profile n intent seen = .ok (none, d) ↔
      walk receiptRefs (followReceipt P profile receipts intents) n intent seen = some d := by
  induction n generalizing intent seen d with
  | zero =>
    rw [verifyReceiptEvidenceChain, walk]
    unfold chainAt
    by_cases hnil : receiptRefs intent = []
    · simp [hnil]
    · simp [hnil, hr, hi]
  | succ n ih =>
    rw [verifyReceiptEvidenceChain, walk]
    unfold chainAt
    by_cases hnil : receiptRefs intent = []
    · simp [hnil, walkEdges]
    · simp only [if_neg hnil, hr, hi]
      exact followRefs_walk ih

/-! ## the call returns -/

theorem followRef_total (hcanon : ∀ receipt ∈ receipts.rows, ∃ digest, buildArtifactDigest P profile receipt = .ok digest) :
    ∃ followed, followRef P profile receipts intents intent seen ref = .ok followed := by
  unfold followRef
  cases hr : receipts.find ref.value with
  | none => exact ⟨_, rfl⟩
  | some receipt =>
    obtain ⟨actual, ha⟩ := hcanon receipt (receipts.mem_of_find hr)
    dsimp only
    split
    · exact ⟨_, rfl⟩
    cases hd : DigestSpec.fromDict (.obj ref.digest) "evidence_ref.digest" with
    | error e =>
      dsimp only
      rw [if_pos (digestSpec_only _ _ e hd)]
      exact ⟨_, rfl⟩
    | ok declared =>
      simp only [ha, Fallible.ok_bind]
      split
      · exact ⟨_, rfl⟩
      · split
        · exact ⟨_, rfl⟩
        · exact ⟨_, rfl⟩

theorem followRefs_total {nested : ActionIntent → List String → Except PyError (Option EvidenceResult × Nat)}
    (hn : ∀ parent seen, ∃ r, nested parent seen = .ok r)
    (hcanon : ∀ receipt ∈ receipts.rows, ∃ digest, buildArtifactDigest P profile receipt = .ok digest) :
    ∃ r, followRefs P profile nested receipts intents intent seen refs m = .ok r := by
  induction refs generalizing m with
  | nil => exact ⟨_, rfl⟩
  | cons ref refs ih =>
    obtain ⟨followed, hf⟩ := @followRef_total P profile receipts intents intent seen ref hcanon
    rw [followRefs, hf]
    cases followed with
    | inl stop => exact ⟨_, rfl⟩
    | inr next =>
      obtain ⟨parent, receiptId⟩ := next
      obtain ⟨⟨verdict, c⟩, hc⟩ := hn parent (receiptId :: seen)
      simp only [Fallible.ok_bind, hc]
      cases verdict with
      | some stop => exact ⟨_, rfl⟩
      | none => exact ih

/-- the call returns, whatever the receipts refer to -/
theorem chain_total (hr : S.receiptStore = some receipts) (hi : S.intentStore = some intents)
    (hcanon : ∀ receipt ∈ receipts.rows, ∃ digest, buildArtifactDigest P profile receipt = .ok digest) :
    ∃ r, S.verifyReceiptEvidenceChain P profile n intent seen = .ok r := by
  induction n generalizing intent seen with
  | zero =>
    rw [verifyReceiptEvidenceChain]
    unfold chainAt
    simp only [hr, hi]
    split <;> exact ⟨_, rfl⟩
  | succ n ih =>
    rw [verifyReceiptEvidenceChain]
    unfold chainAt
    simp only [hr, hi]
    split
    · exact ⟨_, rfl⟩
    · exact followRefs_total (fun _ _ => ih) hcanon

end

end EvidenceQueryService

open EvidenceQueryService

/-- **What the traversal says of the chain.**  With both stores and receipts that have canonical forms
the call returns, and it returns success with depth `d` exactly when every receipt reference on every
path from the intent loads with a matching digest and a parent intent that loads, no receipt repeats
along a path, and the longest path has length `d`, at most the maximum (or 0). -/
theorem receipt_chain_exact (P : Platform) (profile : String) (S : EvidenceQueryService)
    (receipts : ArtifactStore StoredReceipt.receiptId) (intents : Table ActionIntent.intentId)
    (hr : S.receiptStore = some receipts) (hi : S.intentStore = some intents)
    (hcanon : ∀ receipt ∈ receipts.rows, ∃ digest, buildArtifactDigest P profile receipt = .ok digest)
    (intent : ActionIntent) :
    (∃ r, S.verifyReceiptEvidenceChain P profile S.maxChainDepth.toNat intent [] = .ok r) ∧
      ∀ d, S.verifyReceiptEvidenceChain P profile S.maxChainDepth.toNat intent [] = .ok (none, d) ↔
        (∀ ids last, ReceiptPath P profile receipts intents intent ids last → ∀ ref ∈ receiptRefs last,
          ∃ receipt parent, receipts.find ref.value = some receipt ∧ DigestMatches P profile ref receipt ∧
            intents.find receipt.intentId = some parent) ∧
        (∀ ids last, ReceiptPath P profile receipts intents intent ids last → ids.Nodup) ∧
        IsGreatest {n | ∃ ids last, ReceiptPath P profile receipts intents intent ids last ∧ ids.length = n} d ∧
        (d : Int) ≤ max S.maxChainDepth 0 := by
  refine ⟨chain_total hr hi hcanon, fun d => ?_⟩
  rw [chain_walk hr hi, walk_iff]
  constructor
  · rintro ⟨⟨hfollowed, hfresh, hlongest⟩, hd⟩
    refine ⟨fun ids last hp ref href => ?_, fun ids last hp => (hfresh hp).1, hlongest, by omega⟩
    obtain ⟨⟨receiptId, parent⟩, hf⟩ := Option.isSome_iff_exists.mp (hfollowed hp ref href)
    obtain ⟨receipt, hfind, hdigest, hparent, -⟩ := followReceipt_iff.mp hf
    exact ⟨receipt, parent, hfind, hdigest, hparent⟩
  · rintro ⟨hloads, hnodup, hlongest, hd⟩
    refine ⟨⟨fun {ids last} hp ref href => ?_, fun {ids last} hp => ⟨hnodup ids last hp, fun _ _ => List.not_mem_nil⟩,
      hlongest⟩, by omega⟩
    obtain ⟨receipt, parent, hfind, hdigest, hparent⟩ := hloads ids last hp ref href
    rw [followReceipt_iff.mpr ⟨receipt, hfind, hdigest, hparent, rfl⟩]
    rfl

/-! ## a receipt that two receipts share, and a negative maximum -/

/-- SHA-256 at three receipts -/
def receiptHash (m : List UInt8) : List UInt8 :=
  if m.length = 630 then
    (Hex.fromHex "bd6f947e3e96affffbed8855ce223f975f76bc837d2d3034bb6441b2acd8e96c".toList).getD []
  else if m.length = 633 then
    (Hex.fromHex "344582fcd1fb40f0e2399925aca6cbe9364f156b7cc79916547a8c35592117b9".toList).getD []
  else if m.length = 634 then
    (Hex.fromHex "2f761aef54de0eec310abafb1bc3b32d02ddc470fef7c466f2dc7ac059ef6acc".toList).getD []
  else List.replicate 32 0

def receiptPlatform : Platform := samplePlatform receiptHash

/-- a reference to a receipt -/
def sampleRef (receiptId hash : String) : EvidenceRef where
  type := "actenon.receipt"
  value := receiptId
  digest := DigestSpec.toDict ⟨"sha-256", "ACTENON-JCS-STRICT-1", hash⟩

/-- an intent with references, and the receipt of an execution under it -/
def referring (intentId : String) (refs : List EvidenceRef) : ActionIntent :=
  { sampleIntent with intentId := intentId, evidenceRefs := refs }

def receiptFor (receiptId intentId : String) : StoredReceipt :=
  { executedReceipt "pccb_1" with receiptId := receiptId, intentId := intentId }

def diamondReceipts : ArtifactStore StoredReceipt.receiptId :=
  dictionaryStore ⟨[receiptFor "rcpt_1" "int_1", receiptFor "rcpt_left" "int_2", receiptFor "rcpt_right" "int_3"],
    by decide⟩

/-- both intents refer to the first receipt -/
def diamondIntents : Table ActionIntent.intentId where
  rows :=
    let shared := [sampleRef "rcpt_1" "bd6f947e3e96affffbed8855ce223f975f76bc837d2d3034bb6441b2acd8e96c"]
    [sampleIntent, referring "int_2" shared, referring "int_3" shared]
  unique := by decide

def diamond : EvidenceQueryService where
  intentStore := some diamondIntents
  receiptStore := some diamondReceipts

def diamondIntent : ActionIntent :=
  referring "int_4" [sampleRef "rcpt_left" "344582fcd1fb40f0e2399925aca6cbe9364f156b7cc79916547a8c35592117b9",
    sampleRef "rcpt_right" "2f761aef54de0eec310abafb1bc3b32d02ddc470fef7c466f2dc7ac059ef6acc"]

/-- a receipt on two paths is no cycle: the longest path has length 2 -/
theorem receipt_chain_diamond :
    diamond.verifyReceiptEvidenceChain receiptPlatform "ACTENON-JCS-STRICT-1" 8 diamondIntent [] = .ok (none, 2) ∧
      IsGreatest {n | ∃ ids last, ReceiptPath receiptPlatform "ACTENON-JCS-STRICT-1" diamondReceipts diamondIntents
        diamondIntent ids last ∧ ids.length = n} 2 := by
  have hcanon : ∀ receipt ∈ diamondReceipts.rows, ∃ digest,
      buildArtifactDigest receiptPlatform "ACTENON-JCS-STRICT-1" receipt = .ok digest := by
    intro receipt h
    have hall : (diamondReceipts.rows.all fun receipt =>
      (buildArtifactDigest receiptPlatform "ACTENON-JCS-STRICT-1" receipt).toBool) = true := by decide +kernel
    exact Fallible.exists_ok (List.all_eq_true.mp hall receipt h)
  obtain ⟨⟨⟨verdict, depth⟩, hr⟩, hexact⟩ := receipt_chain_exact receiptPlatform "ACTENON-JCS-STRICT-1" diamond
    diamondReceipts diamondIntents rfl rfl hcanon diamondIntent
  have hrun : (diamond.verifyReceiptEvidenceChain receiptPlatform "ACTENON-JCS-STRICT-1"
      diamond.maxChainDepth.toNat diamondIntent []).toOption.map (fun r => (r.1.isNone, r.2)) = some (true, 2) := by
    decide +kernel
  rw [hr] at hrun
  obtain ⟨hverdict, hdepth⟩ := Prod.mk.inj (Option.some.inj hrun)
  obtain rfl : verdict = none := Option.isNone_iff_eq_none.mp hverdict
  obtain rfl : depth = 2 := hdepth
  exact ⟨hr, ((hexact 2).mp hr).2.2.1⟩

/-- an intent without references has a chain of depth 0, also below a negative maximum -/
theorem chain_negative_maximum :
    let S : EvidenceQueryService := { diamond with maxChainDepth := -1 }
    S.verifyReceiptEvidenceChain receiptPlatform "ACTENON-JCS-STRICT-1" S.maxChainDepth.toNat sampleIntent []
      = .ok (none, 0) ∧ ¬ ((0 : Nat) : Int) ≤ S.maxChainDepth := ⟨rfl, by decide⟩

end Actenon
