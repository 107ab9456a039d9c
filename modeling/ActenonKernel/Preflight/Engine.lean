import ActenonKernel.Preflight.PolicyPacks
import ActenonKernel.Verifier.TrustArtifacts
import ActenonKernel.Boundary.Verifier

/-!
# The preflight engine (`actenon/preflight/engine.py`)

`PreflightEngine.check` verifies the approval artifacts of the evidence, evaluates every rule of the
pack and selects the result with the highest risk and outcome.

* `withVerifiedApprovals`      the evidence with what the verified approvals say;
* `evaluate`                   the results of the rules, in their order;
* `selectResult`               the first result of the highest priority;
* `PreflightEngine.check`      the decision, or an exception;
* `check_ok`                   what a decision is made of;
* `allow_iff`, `outcome_deny`  the outcome by the results.
-/

set_option linter.unusedSectionVars false

namespace Actenon

/-- what `check` can raise -/
inductive PreflightError where
  | raised (e : Raised)
  /-- out of `verify_approval_artifact` -/
  | trust (e : LogError)

abbrev PreflightM := Except PreflightError

def orPreflight {α : Type} (x : Except PyError α) : PreflightM α := x.mapError fun e => .raised (.other e)

/-! ## approvals -/

def partyKey (raw : Json) : Option (String × String) :=
  match raw with
  | .obj d =>
    match Dict.get d "type", Dict.get d "id" with
    | .str type, .str id => some (type, id)
    | _, _ => none
  | _ => none

/-- the key sets by their issuers -/
def approvalKeySets : List Json → List ((String × String) × Dict) → Except PyError (List ((String × String) × Dict))
  | [], sets => .ok sets
  | .obj d :: rest, sets =>
    match partyKey (Dict.get d "issuer") with
    | some identity =>
      if (sets.lookup identity).isSome then
        valueError "approval_trusted_keys must have unique, valid issuer identities"
      else approvalKeySets rest (sets ++ [(identity, d)])
    | none => valueError "approval_trusted_keys must have unique, valid issuer identities"
  | _ :: _, _ => valueError "approval_trusted_keys entries must be JSON objects"

section
variable (P : Platform) (intent : ActionIntent)

/-- one artifact under the key set of its approver -/
def verifyApproval (sets : List ((String × String) × Dict)) (raw : Json) :
    PreflightM VerifiedApprovalArtifact :=
  match raw with
  | .obj d =>
    match (partyKey (Dict.get d "approver")).bind fun identity => sets.lookup identity with
    | some keySet =>
      (verifyApprovalArtifact P (.obj d) (.obj keySet) (some (.intent intent))).mapError .trust
    | none => orPreflight (valueError "no trusted approval key set matches the artifact approver")
  | _ => orPreflight (valueError "approval_artifacts entries must be JSON objects")

/-- the artifacts of the evidence, verified; none when there are none -/
def verifiedApprovals (evidence : Dict) : PreflightM (List VerifiedApprovalArtifact) :=
  let rawArtifacts := Dict.getD evidence "approval_artifacts" (.tup [])
  if !rawArtifacts.truthy then .ok []
  else
    match rawArtifacts.items?, (Dict.getD evidence "approval_trusted_keys" (.tup [])).items? with
    | none, _ => orPreflight (valueError "approval_artifacts must be an array of approval objects")
    | some xs, some (k :: ks) => do
      let sets ← orPreflight (approvalKeySets (k :: ks) [])
      xs.mapM (verifyApproval P intent sets)
    | some _, _ => orPreflight (valueError
        "approval_trusted_keys must contain a public key set for each signed approval")

/-- the evidence with the members of the verified approvals -/
def mergeApprovals (evidence : Dict) (approvals : List VerifiedApprovalArtifact) : Dict :=
  if approvals.isEmpty then evidence
  else
    [("verified_approval_present", Json.bool true),
      ("verified_approver_types", strings (approvals.map (·.approvalType)).eraseDups),
      ("verified_approver_ids", strings (approvals.map (·.approver.id)).eraseDups),
      ("verified_approval_ids", strings (approvals.map (·.approvalId)))].foldl
      (fun d p => Dict.set d (.str p.1) p.2) evidence

def withVerifiedApprovals (evidence : Dict) : PreflightM Dict := do
  let approvals ← verifiedApprovals P intent evidence
  return mergeApprovals evidence approvals

end

/-! ## decisions -/

def RiskLevel.text : RiskLevel → String
  | .low => "low"
  | .medium => "medium"
  | .high => "high"
  | .critical => "critical"

/-- `_RISK_PRIORITY` -/
def RiskLevel.priority : RiskLevel → Nat
  | .low => 1
  | .medium => 2
  | .high => 3
  | .critical => 4

/-- `_OUTCOME_PRIORITY` -/
def PreflightOutcome.priority : PreflightOutcome → Nat
  | .allow => 1
  | .needsEvidence => 2
  | .approvalRequired => 3
  | .deny => 4

/-- `_result_priority`, without the position -/
def RuleResult.priority (r : RuleResult) : Nat × Nat := (r.riskLevel.priority, r.outcome.priority)

/-- a higher priority; equal ones are told apart by the position, the first one wins -/
def RuleResult.below (r s : RuleResult) : Bool :=
  r.priority.1 < s.priority.1 || (r.priority.1 = s.priority.1 && r.priority.2 < s.priority.2)

/-- `max(enumerate(candidates), key=_result_priority)` -/
def selectResult : List RuleResult → Option RuleResult
  | [] => none
  | r :: rest => some (rest.foldl (fun best r => if best.below r then r else best) r)

structure Requirement where
  reasonCode : String
  summary : String
  evidenceKeys : List EvidenceKey
  requiredApprovals : List String
  requiredEvidence : List String
  outcome : PreflightOutcome
  riskLevel : RiskLevel
  matchedRules : List String

/-- `_requirement_from_result` -/
def RuleResult.requirement (r : RuleResult) : Requirement where
  reasonCode := r.reasonCode
  summary := r.summary
  evidenceKeys := r.evidenceKeys
  requiredApprovals := r.requiredApprovals
  requiredEvidence := r.requiredEvidence
  outcome := r.outcome
  riskLevel := r.riskLevel
  matchedRules := r.matchedRules

structure PreflightDecision where
  decisionId : String
  outcome : PreflightOutcome
  reasonCode : String
  summary : String
  requiredEvidence : List String
  requiredApprovals : List String
  riskLevel : RiskLevel
  matchedRules : List String
  metadata : Dict
  unmetRequirements : List Requirement

/-- the results of the rules, in their order -/
def evaluate (intent : ActionIntent) (evidence : Dict) : List PreflightRule → Except PyError (List RuleResult)
  | [] => .ok []
  | rule :: rules => do
    let result ← rule intent evidence
    let results ← evaluate intent evidence rules
    return result.toList ++ results

/-- the results that do not allow -/
def blockers (results : List RuleResult) : List RuleResult := results.filter (·.outcome ≠ .allow)

def decisionId (P : Platform) (intent : ActionIntent) (reasonCode : String) (outcome : PreflightOutcome) :
    Except PyError String := do
  let digest ← sha256Hex P (.obj (members [("intent_id", .str intent.intentId),
    ("capability", .str intent.action.capability), ("target", .obj intent.target.toDict),
    ("outcome", .str outcome.text), ("reason_code", .str reasonCode)]))
  return "pfl_" ++ String.ofList (digest.toList.take 24)

def decisionMetadata (pack : PolicyPack) (intent : ActionIntent) (results : List RuleResult)
    (selected : RuleResult) : Dict :=
  selected.metadata.foldl (fun d p => Dict.set d p.1 p.2) (members
    [("policy_pack", .obj (members ([("pack_id", .str pack.packId), ("display_name", .str pack.displayName)]
        ++ if pack.isTemplate then [("is_template", .bool true), ("disclaimer", pack.disclaimer)] else []))),
      ("intent_id", .str intent.intentId), ("capability", .str intent.action.capability),
      ("target", .obj intent.target.toDict), ("evaluated_rule_count", .int pack.rules.length),
      ("matched_result_count", .int results.length),
      ("unmet_requirement_count", .int (blockers results).length)])

/-- the decision of the results -/
def PolicyPack.decision (pack : PolicyPack) (P : Platform) (intent : ActionIntent) (results : List RuleResult) :
    Except PyError PreflightDecision :=
  if results.isEmpty then .error ⟨.other "RuntimeError", "preflight policy pack did not produce a decision"⟩
  else
    let candidates := if (blockers results).isEmpty then results.filter (·.outcome = .allow) else blockers results
    match selectResult candidates with
    | none => valueError "max() iterable argument is empty"
    | some selected => do
      let id ← decisionId P intent selected.reasonCode selected.outcome
      return {
        decisionId := id
        outcome := selected.outcome
        reasonCode := selected.reasonCode
        summary := selected.summary
        requiredEvidence := ((blockers results).flatMap (·.requiredEvidence)).eraseDups
        requiredApprovals := ((blockers results).flatMap (·.requiredApprovals)).eraseDups
        riskLevel := selected.riskLevel
        matchedRules := ((if (blockers results).isEmpty then [selected] else blockers results).flatMap
          (·.matchedRules)).eraseDups
        metadata := decisionMetadata pack intent results selected
        unmetRequirements := (blockers results).map (·.requirement) }

/-- `_coerce_intent`: an object or a document -/
def coerceIntent : ActionIntent ⊕ Json → PreflightM ActionIntent
  | .inl intent => .ok intent
  | .inr raw => (ActionIntentIntakeService.parse raw).mapError .raised

/-- `PreflightEngine(policy_pack).check(intent, evidence_context=evidence)` -/
def PreflightEngine.check (T : PreflightPlatform) (pack : PolicyPack) (raw : ActionIntent ⊕ Json)
    (evidence : Dict) : PreflightM PreflightDecision := do
  let intent ← coerceIntent raw
  let evidence ← withVerifiedApprovals T.toPlatform intent evidence
  let results ← orPreflight (evaluate intent evidence pack.rules)
  orPreflight (pack.decision T.toPlatform intent results)

/-! ## selection -/

section
variable {r s : RuleResult} {l : List RuleResult}

/-- the priority as one number -/
def RuleResult.rank (r : RuleResult) : Nat := 5 * r.priority.1 + r.priority.2

theorem PreflightOutcome.priority_pos (o : PreflightOutcome) : 1 ≤ o.priority ∧ o.priority ≤ 4 := by
  cases o <;> decide

theorem below_iff : r.below s = true ↔ r.rank < s.rank := by
  have hr := r.outcome.priority_pos
  have hs := s.outcome.priority_pos
  unfold RuleResult.below RuleResult.rank RuleResult.priority
  simp only [Bool.or_eq_true, Bool.and_eq_true, decide_eq_true_eq]
  omega

/-- the best of a list is one of it and no other is above it -/
theorem foldl_best (l : List RuleResult) (r : RuleResult) :
    let best := l.foldl (fun best r => if best.below r then r else best) r
    (best = r ∨ best ∈ l) ∧ r.rank ≤ best.rank ∧ ∀ s ∈ l, s.rank ≤ best.rank := by
  induction l generalizing r with
  | nil => simp
  | cons t l ih =>
    show let best := l.foldl (fun best r => if best.below r then r else best) (if r.below t then t else r)
      (best = r ∨ best ∈ t :: l) ∧ r.rank ≤ best.rank ∧ ∀ s ∈ t :: l, s.rank ≤ best.rank
    obtain ⟨h1, h2, h3⟩ := ih (if r.below t then t else r)
    by_cases hb : r.below t = true
    · have hlt := below_iff.mp hb
      rw [if_pos hb] at h1 h2 h3 ⊢
      refine ⟨?_, by omega, ?_⟩
      · rcases h1 with h1 | h1
        · exact Or.inr (List.mem_cons.mpr (Or.inl h1))
        · exact Or.inr (List.mem_cons_of_mem _ h1)
      · intro s hs
        rcases List.mem_cons.mp hs with rfl | hs
        · exact h2
        · exact h3 s hs
    · have hle : t.rank ≤ r.rank := Nat.le_of_not_lt fun h => hb (below_iff.mpr h)
      rw [if_neg hb] at h1 h2 h3 ⊢
      refine ⟨?_, h2, ?_⟩
      · rcases h1 with h1 | h1
        · exact Or.inl h1
        · exact Or.inr (List.mem_cons_of_mem _ h1)
      · intro s hs
        rcases List.mem_cons.mp hs with rfl | hs
        · exact Nat.le_trans hle h2
        · exact h3 s hs

theorem selectResult_some (h : selectResult l = some s) : s ∈ l ∧ ∀ r ∈ l, r.rank ≤ s.rank := by
  cases l with
  | nil => cases h
  | cons r l =>
    obtain ⟨h1, h2, h3⟩ := foldl_best l r
    cases h
    refine ⟨List.mem_cons.mpr h1, fun t ht => ?_⟩
    rcases List.mem_cons.mp ht with rfl | ht
    · exact h2
    · exact h3 t ht

theorem selectResult_isSome (h : l ≠ []) : ∃ s, selectResult l = some s := by
  cases l with
  | nil => exact absurd rfl h
  | cons r l => exact ⟨_, rfl⟩

end

/-! ## what a decision is made of -/

section
variable {T : PreflightPlatform} {pack : PolicyPack} {raw : ActionIntent ⊕ Json} {evidence : Dict}
  {intent : ActionIntent} {results : List RuleResult} {d : PreflightDecision}

theorem orPreflight_ok {α : Type} {x : Except PyError α} {a : α} : orPreflight x = .ok a ↔ x = .ok a := by
  unfold orPreflight
  cases x <;> simp [Except.mapError]

theorem truthy_of_items {j : Json} {xs : List Json} (h : j.items? = some xs) : j.truthy = !xs.isEmpty := by
  cases j with
  | arr ys | tup ys =>
    cases h
    rfl
  | _ => cases h

/-- the artifacts under the key sets of the evidence -/
structure ArtifactsVerified (P : Platform) (intent : ActionIntent) (evidence : Dict) (xs : List Json)
    (sets : List ((String × String) × Dict)) (approvals : List VerifiedApprovalArtifact) : Prop where
  artifacts : (Dict.getD evidence "approval_artifacts" (.tup [])).items? = some xs
  keys : ∃ k ks, (Dict.getD evidence "approval_trusted_keys" (.tup [])).items? = some (k :: ks) ∧
    approvalKeySets (k :: ks) [] = .ok sets
  verified : xs.mapM (verifyApproval P intent sets) = .ok approvals

theorem verifiedApprovals_ok {P : Platform} {approvals : List VerifiedApprovalArtifact}
    (h : (Dict.getD evidence "approval_artifacts" (.tup [])).truthy = true) :
    verifiedApprovals P intent evidence = .ok approvals ↔ ∃ xs sets, ArtifactsVerified P intent evidence xs sets approvals := by
  unfold verifiedApprovals
  simp only [h, Bool.not_true, Bool.false_eq_true, if_false]
  constructor
  · intro hv
    split at hv
    · cases hv
    · rename_i xs k ks hxs hks
      simp only [Fallible.bind_eq_ok, orPreflight_ok] at hv
      obtain ⟨sets, hsets, hv⟩ := hv
      exact ⟨xs, sets, hxs, ⟨k, ks, hks, hsets⟩, hv⟩
    · cases hv
  · rintro ⟨xs, sets, hxs, ⟨k, ks, hks, hsets⟩, hv⟩
    rw [hxs, hks]
    simp only [Fallible.bind_eq_ok, orPreflight_ok]
    exact ⟨sets, hsets, hv⟩

theorem verifiedApprovals_nil {P : Platform} : verifiedApprovals P intent evidence = .ok [] ↔
    (Dict.getD evidence "approval_artifacts" (.tup [])).truthy = false := by
  cases hj : (Dict.getD evidence "approval_artifacts" (.tup [])).truthy with
  | false =>
    unfold verifiedApprovals
    simp [hj]
  | true =>
    rw [verifiedApprovals_ok hj]
    simp only [Bool.true_eq_false, iff_false]
    intro ⟨xs, sets, h⟩
    have hlen := Fallible.mapM_eq_ok.mp h.verified
    rw [truthy_of_items h.artifacts] at hj
    cases xs with
    | nil => cases hj
    | cons x xs => cases hlen

theorem check_ok : PreflightEngine.check T pack raw evidence = .ok d ↔
    ∃ intent merged results, coerceIntent raw = .ok intent ∧
      withVerifiedApprovals T.toPlatform intent evidence = .ok merged ∧
      evaluate intent merged pack.rules = .ok results ∧ pack.decision T.toPlatform intent results = .ok d := by
  unfold PreflightEngine.check
  simp only [Fallible.bind_eq_ok, orPreflight_ok]
  constructor
  · rintro ⟨intent, hi, merged, hm, results, hr, hd⟩
    exact ⟨intent, merged, results, hi, hm, hr, hd⟩
  · rintro ⟨intent, merged, results, hi, hm, hr, hd⟩
    exact ⟨intent, hi, merged, hm, results, hr, hd⟩

/-- the results among which one is selected -/
def candidates (results : List RuleResult) : List RuleResult :=
  if (blockers results).isEmpty then results.filter (·.outcome = .allow) else blockers results

theorem decision_ok {P : Platform} (h : pack.decision P intent results = .ok d) :
    ∃ selected id, selectResult (candidates results) = some selected ∧
      decisionId P intent selected.reasonCode selected.outcome = .ok id ∧
      d.outcome = selected.outcome ∧ d.unmetRequirements = (blockers results).map (·.requirement) := by
  unfold PolicyPack.decision at h
  split at h
  · cases h
  · dsimp only at h
    split at h
    · cases h
    · rename_i selected hs
      simp only [Fallible.bind_eq_ok, Fallible.pure_eq_ok] at h
      obtain ⟨id, hid, rfl⟩ := h
      exact ⟨selected, id, hs, hid, rfl, rfl⟩

theorem decision_of_selected {P : Platform} {selected : RuleResult} {id : String} (hne : results ≠ [])
    (hs : selectResult (candidates results) = some selected)
    (hid : decisionId P intent selected.reasonCode selected.outcome = .ok id) :
    ∃ d, pack.decision P intent results = .ok d := by
  unfold PolicyPack.decision
  rw [if_neg (by simpa using hne)]
  unfold candidates at hs
  simp only [hs, hid]
  exact ⟨_, rfl⟩

/-- the decision allows exactly when no result stands against it -/
theorem allow_iff {P : Platform} (h : pack.decision P intent results = .ok d) :
    d.outcome = .allow ↔ blockers results = [] := by
  obtain ⟨selected, id, hs, -, ho, -⟩ := decision_ok h
  obtain ⟨hmem, -⟩ := selectResult_some hs
  unfold candidates at hmem
  rw [ho]
  constructor
  · intro hallow
    by_contra hne
    rw [if_neg (by simpa using hne)] at hmem
    have hblock := (List.mem_filter.mp hmem).2
    rw [decide_eq_true_eq] at hblock
    exact hblock hallow
  · intro hempty
    rw [if_pos (by simp [hempty])] at hmem
    have hallow := (List.mem_filter.mp hmem).2
    rwa [decide_eq_true_eq] at hallow

theorem candidates_subset {r : RuleResult} (h : r ∈ candidates results) : r ∈ results := by
  unfold candidates at h
  split at h
  · exact (List.mem_filter.mp h).1
  · exact (List.mem_filter.mp h).1

/-- nothing but a critical denial is as high as one -/
theorem top_is_deny {r s : RuleResult} (h : r.rank ≤ s.rank) (hrisk : r.riskLevel = .critical)
    (hdeny : r.outcome = .deny) : s.outcome = .deny := by
  unfold RuleResult.rank RuleResult.priority at h
  rw [hrisk, hdeny] at h
  generalize s.outcome = o at h ⊢
  generalize s.riskLevel = k at h
  cases k <;> cases o <;> simp_all [RiskLevel.priority, PreflightOutcome.priority]

/-- a critical denial is always selected -/
theorem outcome_deny {P : Platform} (h : pack.decision P intent results = .ok d) {r : RuleResult}
    (hr : r ∈ results) (hrisk : r.riskLevel = .critical) (hdeny : r.outcome = .deny) : d.outcome = .deny := by
  obtain ⟨selected, id, hs, -, ho, -⟩ := decision_ok h
  obtain ⟨-, hmax⟩ := selectResult_some hs
  have hblock : r ∈ blockers results := List.mem_filter.mpr ⟨hr, by simp [hdeny]⟩
  have hcand : r ∈ candidates results := by
    unfold candidates
    rw [if_neg (by simpa using List.ne_nil_of_mem hblock)]
    exact hblock
  rw [ho]
  exact top_is_deny (hmax r hcand) hrisk hdeny

end

/-! ## a sample -/

theorem outcome_some {x : PreflightM PreflightDecision} {outcome : PreflightOutcome}
    (h : x.toOption.map (·.outcome) = some outcome) : ∃ d, x = .ok d ∧ d.outcome = outcome := by
  cases x with
  | error err => cases h
  | ok d => exact ⟨d, rfl, Option.some.inj h⟩

/-- SHA-256 at the action hash input of the grant and at its decisions -/
def grantHash (m : List UInt8) : List UInt8 :=
  if m.length = 321 then
    (Hex.fromHex "d32cec047869170d7597c203cad14c721aff50c75dfa4174a3d053d144cb9b56".toList).getD []
  else if m.length = 177 then
    (Hex.fromHex "6bf5b0fe8a2f46829d11713df71e515deb10f12d14f33dbe7eb10304c1e6c81a".toList).getD []
  else if m.length = 184 then
    (Hex.fromHex "1365adc49ad485df119ff230eb8e943547ccaa5ee457a672f3ada091257ec4b5".toList).getD []
  else if m.length = 202 then
    (Hex.fromHex "f3ecd30b9c75d3e3b0842a28e2e82ba6eb841dc6975a28b4a759b91b32ead9cb".toList).getD []
  else List.replicate 32 0

/-- `alice` asks for the role of an administrator -/
def sampleGrant : ActionIntent :=
  { sampleIntent with
    requester := ⟨"user", "alice", .null, []⟩
    action := ⟨"iam.permission.grant", "iam.permission.grant", members [("role", .str "admin")], [], []⟩
    target := ⟨"role", "r1", .null, []⟩ }

def sampleGrantHash : ActionHashSpec := ⟨"sha-256", "ACTENON-JCS-STRICT-1",
  "d32cec047869170d7597c203cad14c721aff50c75dfa4174a3d053d144cb9b56"⟩

/-- a key of an approver -/
def sampleApprovalKeys (approver : String) : Dict :=
  members [("contract", .obj (members [("name", .str "key_discovery"), ("version", .str "v1")])),
    ("issuer", .obj (members [("type", .str "user"), ("id", .str approver)])),
    ("keys", .arr [.obj (members [("key_id", .str "k1"), ("algorithm", .str "EdDSA"),
      ("use", .str "approval_artifact"), ("status", .str "active"),
      ("public_key_jwk", .obj (members [("kty", .str "OKP"), ("crv", .str "Ed25519"), ("x", .str sampleX)]))])])]

/-- a security administrator approves the grant -/
def sampleApproval (approver : String) : Dict :=
  members [("contract", .obj (members [("name", .str "approval_artifact"), ("version", .str "v1")])),
    ("approval_id", .str "apr_1"),
    ("approver", .obj (members [("type", .str "user"), ("id", .str approver)])),
    ("approval_type", .str "security_admin"), ("decision", .str "approved"),
    ("action_hash", .obj (DigestSpec.toDict sampleGrantHash)), ("issued_at", .str "2025-01-01T00:00:00Z"),
    ("signature", .obj (members [("algorithm", .str "EdDSA"), ("key_id", .str "k1"),
      ("encoding", .str "base64url"), ("value", .str sampleSignatureValue)]))]

/-- `lower` on ASCII texts -/
def asciiLower (s : String) : String := String.ofList (s.toList.map PyString.lowerChar)

/-- Ed25519 accepts the approval of one approver only -/
def grantPlatform (approver : String) : PreflightPlatform :=
  { samplePlatform grantHash with
    ed25519Verify := fun _ _ message => (canonicalizeBytes (samplePlatform grantHash) (.obj
      (approvalStatement "apr_1" ⟨"user", approver, .null, []⟩ "security_admin" "approved" sampleGrantHash
        "2025-01-01T00:00:00Z"))).toOption = some message
    lower := asciiLower }

/-- the evidence with that approval and its keys, and further members -/
def approvedEvidence (approver : String) (further : List (String × Json)) : Dict :=
  members ([("approval_artifacts", .arr [.obj (sampleApproval approver)]),
    ("approval_trusted_keys", .arr [.obj (sampleApprovalKeys approver)])] ++ further)

/-- the further members do not matter to the approval -/
theorem verifiedApprovals_further (P : Platform) (intent : ActionIntent) (approver : String)
    (further : List (String × Json)) : verifiedApprovals P intent (approvedEvidence approver further)
      = verifiedApprovals P intent (approvedEvidence approver []) := rfl

end Actenon
