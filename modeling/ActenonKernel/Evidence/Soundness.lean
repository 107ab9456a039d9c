import ActenonKernel.Evidence.Query
import ActenonKernel.Proof.Binding

/-!
# What a verified execution says

A verdict `VERIFIED_EXECUTION` names a receipt, a proof and an intent.  By intent the proof is looked
for on its own: it is the one that was issued first, whatever proof the receipt is correlated with.

* `Faulty`              the verdicts of a chain that does not hold;
* `Execution`           what was checked of an executed receipt;
* `Chosen`              the receipt a query starts from, and what is handed on with it;
* `Coherent`            receipt, proof and intent of a result belong together;
* `FirstUnderFirst`     for the first listed receipt the store gives one under the proof gone on with;
* `coherent_iff`        the artifacts of a result belong together exactly there.
-/

set_option linter.unusedSectionVars false

namespace Actenon

open FirstBy

/-- the verdicts of a chain that does not hold -/
def EvidenceVerdict.Faulty (v : EvidenceVerdict) : Prop := v = .hashMismatch ∨ v = .chainBroken

theorem EvidenceVerdict.Faulty.not_verified {v : EvidenceVerdict} (h : v.Faulty) : v ≠ .verifiedExecution := by
  rcases h with rfl | rfl <;> decide

namespace EvidenceQueryService

section
variable {P : Platform} {profile : String} {S : EvidenceQueryService}

/-! ## the chain -/

theorem followRef_fault {receipts : ArtifactStore StoredReceipt.receiptId} {intents : Table ActionIntent.intentId}
    {intent : ActionIntent} {seen : List String} {ref : EvidenceRef} {stop : EvidenceResult}
    (h : followRef P profile receipts intents intent seen ref = .ok (.inl stop)) : stop.verdict.Faulty := by
  unfold followRef at h
  split at h
  · cases h
    exact Or.inr rfl
  split at h
  · cases h
    exact Or.inr rfl
  split at h
  · split at h
    · cases h
      exact Or.inl rfl
    · cases h
  obtain ⟨actual, _, h⟩ := Fallible.bind_eq_ok.mp h
  split at h
  · cases h
    exact Or.inl rfl
  split at h
  · cases h
    exact Or.inr rfl
  · cases h

theorem followRefs_fault {nested : ActionIntent → List String → Except PyError (Option EvidenceResult × Nat)}
    (hn : ∀ intent seen stop depth, nested intent seen = .ok (some stop, depth) → stop.verdict.Faulty)
    {receipts : ArtifactStore StoredReceipt.receiptId} {intents : Table ActionIntent.intentId}
    {intent : ActionIntent} {seen : List String} {refs : List EvidenceRef} {d depth : Nat}
    {stop : EvidenceResult}
    (h : followRefs P profile nested receipts intents intent seen refs d = .ok (some stop, depth)) :
    stop.verdict.Faulty := by
  induction refs generalizing d with
  | nil => cases h
  | cons ref refs ih =>
    obtain ⟨followed, hf, h⟩ := Fallible.bind_eq_ok.mp h
    cases followed with
    | inl fault =>
      cases h
      exact followRef_fault hf
    | inr next =>
      obtain ⟨⟨verdict, deeper⟩, hv, h⟩ := Fallible.bind_eq_ok.mp h
      cases verdict with
      | some fault =>
        cases h
        exact hn _ _ _ _ hv
      | none => exact ih h

theorem chain_fault {n : Nat} {intent : ActionIntent} {seen : List String} {stop : EvidenceResult} {depth : Nat}
    (h : S.verifyReceiptEvidenceChain P profile n intent seen = .ok (some stop, depth)) :
    stop.verdict.Faulty := by
  induction n generalizing intent seen stop depth with
  | zero =>
    unfold verifyReceiptEvidenceChain chainAt at h
    split at h
    · cases h
    split at h
    · cases h
      exact Or.inr rfl
    · cases h
      exact Or.inr rfl
    · cases h
      exact Or.inr rfl
    · rename_i hnested
      cases hnested
  | succ n ih =>
    unfold verifyReceiptEvidenceChain chainAt at h
    split at h
    · cases h
    split at h
    · cases h
      exact Or.inr rfl
    · cases h
      exact Or.inr rfl
    · cases h
      exact Or.inr rfl
    · rename_i hnested
      cases hnested
      exact followRefs_fault (fun _ _ _ _ => ih) h

/-! ## hashes -/

/-- a correlated hash that is not wrong is the expected one -/
theorem wrongHash_none {expected : String} {correlated : Option String}
    (h : wrongHash expected correlated = none) {hash : String} (hc : correlated = some hash) :
    hash = expected := by
  subst hc
  unfold wrongHash at h
  rw [Option.filter_some] at h
  split at h
  · cases h
  · rename_i hne
    simpa using hne

/-- what the integrity of the hashes comes to -/
theorem verifyHashIntegrity_ok {intent : ActionIntent} {pccb : PCCB} {receipt : StoredReceipt}
    {refusal : Option StoredRefusal} {verdict : Option EvidenceResult}
    (h : verifyHashIntegrity P intent pccb receipt refusal = .ok verdict) :
    (∀ fault, verdict = some fault → fault.verdict.Faulty) ∧
      (verdict = none → sha256Hex P (.obj (buildActionHashInput intent)) = .ok pccb.actionHash.value ∧
        ∀ hash, correlatedHash receipt.correlation = some hash → hash = pccb.actionHash.value) := by
  unfold verifyHashIntegrity at h
  obtain ⟨expected, he, h⟩ := Fallible.bind_eq_ok.mp h
  split at h
  · cases h
    exact ⟨fun _ hf => Option.some.inj hf ▸ Or.inl rfl, fun hn => nomatch hn⟩
  rename_i hpccb
  have hvalue : pccb.actionHash.value = expected := not_not.mp hpccb
  split at h
  · cases h
    exact ⟨fun _ hf => Option.some.inj hf ▸ Or.inl rfl, fun hn => nomatch hn⟩
  rename_i hreceipt
  have hright : sha256Hex P (.obj (buildActionHashInput intent)) = .ok pccb.actionHash.value ∧
      ∀ hash, correlatedHash receipt.correlation = some hash → hash = pccb.actionHash.value :=
    ⟨by rw [hvalue]; exact he, fun hash hc => (wrongHash_none hreceipt hc).trans hvalue.symm⟩
  refine ⟨?_, fun _ => hright⟩
  intro fault hf
  subst hf
  split at h
  · cases h
  · have hm := Fallible.pure_eq_ok.mp h
    obtain ⟨hash, _, rfl⟩ := Option.map_eq_some_iff.mp hm
    exact Or.inl rfl

/-- the hashes and the chain hold, or the verdict says they do not -/
theorem verifyArtifacts_ok {intent : ActionIntent} {pccb : PCCB} {receipt : StoredReceipt}
    {refusal : Option StoredRefusal} {verified : Nat → EvidenceResult} {res : EvidenceResult}
    (h : S.verifyArtifacts P profile intent pccb receipt refusal verified = .ok res) :
    res.verdict.Faulty ∨ ∃ depth, verifyHashIntegrity P intent pccb receipt refusal = .ok none ∧
      S.verifyReceiptEvidenceChain P profile S.maxChainDepth.toNat intent [] = .ok (none, depth) ∧
      res = verified depth := by
  unfold verifyArtifacts at h
  obtain ⟨fault, hf, h⟩ := Fallible.bind_eq_ok.mp h
  cases fault with
  | some fault =>
    cases h
    exact Or.inl ((verifyHashIntegrity_ok hf).1 _ rfl)
  | none =>
    obtain ⟨⟨chain, depth⟩, hc, h⟩ := Fallible.bind_eq_ok.mp h
    cases chain with
    | some stop =>
      cases h
      have hstop : stop.verdict.Faulty := chain_fault hc
      exact Or.inl hstop
    | none =>
      cases h
      exact Or.inr ⟨depth, hf, hc, rfl⟩

/-! ## from an artifact to a verdict -/

/-- from a refusal no execution is verified -/
theorem verifyFromRefusal_verdict {refusal : StoredRefusal} {paired : Option StoredReceipt}
    {intent : Option ActionIntent} {pccb : Option PCCB} {res : EvidenceResult}
    (h : S.verifyFromRefusal P profile refusal paired intent pccb = .ok res) :
    res.verdict ≠ .verifiedExecution := by
  intro hv
  unfold verifyFromRefusal at h
  split at h
  · cases h
    cases hv
  split at h
  · cases h
    cases hv
  split at h
  · cases h
    cases hv
  split at h
  · cases h
    cases hv
  split at h
  · cases h
    cases hv
  split at h
  · cases h
    cases hv
  split at h
  · cases h
    cases hv
  rcases verifyArtifacts_ok h with hfault | ⟨depth, -, -, rfl⟩
  · exact hfault.not_verified hv
  · cases hv

/-- what was checked of an executed receipt -/
structure Execution (P : Platform) (profile : String) (S : EvidenceQueryService) (receipt : StoredReceipt)
    (intent : Option ActionIntent) (pccb : Option PCCB) (res : EvidenceResult) : Prop where
  checked : ∃ i p pccbId depth, intent.or (S.loadIntent receipt.intentId) = some i ∧
    receipt.correlation.bind StoredCorrelation.pccbId = some pccbId ∧
    pccb.or (S.loadPccb pccbId) = some p ∧ speaksOf p i = true ∧
    verifyHashIntegrity P i p receipt none = .ok none ∧
    S.verifyReceiptEvidenceChain P profile S.maxChainDepth.toNat i [] = .ok (none, depth) ∧
    res = { verdict := .verifiedExecution
            summary := "A valid execution receipt, PCCB, and receipt-evidence chain were found."
            receiptId := some receipt.receiptId, pccbId := some p.pccbId, intentId := .str i.intentId
            actionHash := some p.actionHash.value, chainDepth := depth }

theorem verifyExecution_iff {receipt : StoredReceipt} {intent : Option ActionIntent} {pccb : Option PCCB}
    {res : EvidenceResult} :
    (S.verifyExecution P profile receipt intent pccb = .ok res ∧ res.verdict = .verifiedExecution) ↔
      Execution P profile S receipt intent pccb res := by
  constructor
  · intro ⟨h, hv⟩
    unfold verifyExecution at h
    split at h
    · cases h
      cases hv
    rename_i i hi
    split at h
    · cases h
      cases hv
    rename_i pccbId hid
    split at h
    · cases h
      cases hv
    rename_i p hp
    split at h
    · cases h
      cases hv
    rename_i hspeaks
    rcases verifyArtifacts_ok h with hfault | ⟨depth, hhash, hchain, rfl⟩
    · exact absurd hv hfault.not_verified
    · exact ⟨i, p, pccbId, depth, hi, hid, hp, by simpa using hspeaks, hhash, hchain, rfl⟩
  · intro ⟨i, p, pccbId, depth, hi, hid, hp, hspeaks, hhash, hchain, hres⟩
    subst hres
    refine ⟨?_, rfl⟩
    unfold verifyExecution verifyArtifacts
    simp only [hi, hid, hp, hspeaks, hhash, hchain]
    rfl

theorem verifyFromReceipt_verified {receipt : StoredReceipt} {intent : Option ActionIntent}
    {pccb : Option PCCB} {res : EvidenceResult}
    (h : S.verifyFromReceipt P profile receipt intent pccb = .ok res) (hv : res.verdict = .verifiedExecution) :
    receipt.outcome = "executed" ∧ Execution P profile S receipt intent pccb res := by
  unfold verifyFromReceipt at h
  split at h
  · split at h
    · cases h
      cases hv
    · exact absurd hv (verifyFromRefusal_verdict h)
  split at h
  · cases h
    cases hv
  · rename_i hexecuted
    exact ⟨not_not.mp hexecuted, verifyExecution_iff.mp ⟨h, hv⟩⟩

/-! ## queries -/

/-- the receipt a query starts from, with the intent and the proof that are handed on -/
inductive Chosen (S : EvidenceQueryService) :
    EvidenceQuery → StoredReceipt → Option ActionIntent → Option PCCB → Prop where
  | receipt {id : String} {r : StoredReceipt} (h : S.loadReceipt id = some r) :
      Chosen S (.receiptId id) r none none
  | proof {id : String} {r : StoredReceipt} (hnone : preferRefusal (S.refusalsUnder id) = none)
      (h : preferReceipt (S.receiptsUnder id) = some r) : Chosen S (.pccbId id) r none (S.loadPccb id)
  | intent {id : String} {r : StoredReceipt} (hnone : preferRefusal (S.refusalsOf id) = none)
      (h : preferReceipt (S.receiptsOf id) = some r) :
      Chosen S (.intentId id) r (S.loadIntent id) (preferPccb (S.pccbsOf id))
  | hash {hash : String} {p : PCCB} {r : StoredReceipt} {i : Option ActionIntent} {pccb : Option PCCB}
      (hp : preferPccb (S.listPccbs.filter fun item => item.actionHash.value = hash) = some p)
      (h : Chosen S (.pccbId p.pccbId) r i pccb) : Chosen S (.actionHash hash) r i pccb
  | correlated {hash : String} {r : StoredReceipt}
      (hp : preferPccb (S.listPccbs.filter fun item => item.actionHash.value = hash) = none)
      (hnone : preferRefusal (S.listRefusals.filter fun item => correlatedHash item.correlation = some hash)
        = none)
      (h : preferReceipt (S.listReceipts.filter fun item => correlatedHash item.correlation = some hash)
        = some r) : Chosen S (.actionHash hash) r none none

/-- a verified execution by proof -/
theorem queryByPccbId_verified {id : String} {res : EvidenceResult}
    (h : S.queryByPccbId P profile id = .ok res) (hv : res.verdict = .verifiedExecution) :
    ∃ r i p, Chosen S (.pccbId id) r i p ∧ r.outcome = "executed" ∧ Execution P profile S r i p res := by
  unfold queryByPccbId at h
  dsimp only at h
  split at h
  · exact absurd hv (verifyFromRefusal_verdict h)
  · rename_i r hnone hr
    exact ⟨r, none, _, .proof hnone hr, verifyFromReceipt_verified h hv⟩
  · cases h
    cases hv
  · cases h
    cases hv

theorem query_verified {q : EvidenceQuery} {res : EvidenceResult} (h : S.query P profile q = .ok res)
    (hv : res.verdict = .verifiedExecution) :
    ∃ r i p, Chosen S q r i p ∧ r.outcome = "executed" ∧ Execution P profile S r i p res := by
  cases q with
  | receiptId id =>
    change S.queryByReceiptId P profile id = .ok res at h
    unfold queryByReceiptId at h
    split at h
    · cases h
      cases hv
    · rename_i r hr
      exact ⟨r, none, none, .receipt hr, verifyFromReceipt_verified h hv⟩
  | pccbId id => exact queryByPccbId_verified h hv
  | intentId id =>
    change S.queryByIntentId P profile id = .ok res at h
    unfold queryByIntentId at h
    dsimp only at h
    split at h
    · exact absurd hv (verifyFromRefusal_verdict h)
    · rename_i r hnone hr
      exact ⟨r, _, _, .intent hnone hr, verifyFromReceipt_verified h hv⟩
    · cases h
      cases hv
    · cases h
      cases hv
  | actionHash hash =>
    change S.queryByActionHash P profile hash = .ok res at h
    unfold queryByActionHash at h
    split at h
    · rename_i p hp
      obtain ⟨r, i, pccb, hchosen, hr⟩ := queryByPccbId_verified h hv
      exact ⟨r, i, pccb, .hash hp hchosen, hr⟩
    · rename_i hp
      dsimp only at h
      split at h
      · exact absurd hv (verifyFromRefusal_verdict h)
      · rename_i r hnone hr
        exact ⟨r, none, none, .correlated hp hnone hr, verifyFromReceipt_verified h hv⟩
      · cases h
        cases hv

/-! ## the artifacts of a result -/

/-- the executed receipt of a result is one under the proof of the result, whose hash is the one of the
intent of the result -/
structure Coherent (P : Platform) (S : EvidenceQueryService) (res : EvidenceResult) : Prop where
  receipt : ∃ r, res.receiptId = some r.receiptId ∧ S.loadReceipt r.receiptId = some r ∧
    r.outcome = "executed" ∧ r.correlation.bind StoredCorrelation.pccbId = res.pccbId
  hash : ∃ p i, res.pccbId = some p.pccbId ∧ S.loadPccb p.pccbId = some p ∧
    res.intentId = .str i.intentId ∧ S.loadIntent i.intentId = some i ∧
    sha256Hex P (.obj (buildActionHashInput i)) = .ok p.actionHash.value

/-- for the identifier of a receipt the store gives an executed one under this proof -/
def GivenUnder (S : EvidenceQueryService) (r : StoredReceipt) (pccbId : Option String) : Prop :=
  ∃ r', S.loadReceipt r.receiptId = some r' ∧ r'.outcome = "executed" ∧
    r'.correlation.bind StoredCorrelation.pccbId = pccbId

/-- the proof of an intent that was issued first, or the one a receipt is correlated with -/
def firstProof (S : EvidenceQueryService) (id : String) (r : StoredReceipt) : Option String :=
  ((preferPccb (S.pccbsOf id)).map PCCB.pccbId).or (r.correlation.bind StoredCorrelation.pccbId)

/-- the first of the listed receipts that a query is about is given under the proof the query goes on with -/
def FirstUnderFirst (S : EvidenceQueryService) : EvidenceQuery → Prop
  | .receiptId _ => True
  | .pccbId id => ∀ r, First StoredReceipt.preference (S.receiptsUnder id) r → GivenUnder S r (some id)
  | .intentId id => ∀ r, First StoredReceipt.preference (S.receiptsOf id) r → GivenUnder S r (firstProof S id r)
  | .actionHash hash =>
    match preferPccb (S.listPccbs.filter fun item => item.actionHash.value = hash) with
    | some p => ∀ r, First StoredReceipt.preference (S.receiptsUnder p.pccbId) r → GivenUnder S r (some p.pccbId)
    | none => ∀ r, First StoredReceipt.preference
        (S.listReceipts.filter fun item => correlatedHash item.correlation = some hash) r →
        GivenUnder S r (r.correlation.bind StoredCorrelation.pccbId)

theorem loadPccb_of_mem {p : PCCB} (h : p ∈ S.listPccbs) : S.loadPccb p.pccbId = some p := by
  unfold listPccbs at h
  unfold loadPccb
  cases hs : S.pccbStore with
  | none =>
    rw [hs] at h
    cases h
  | some t =>
    rw [hs] at h
    exact Table.find_of_mem h

theorem loadReceipt_key {id : String} {r : StoredReceipt} (h : S.loadReceipt id = some r) :
    r.receiptId = id := by
  obtain ⟨t, -, ht⟩ := Option.bind_eq_some_iff.mp h
  exact t.key_of_find ht

theorem loadPccb_key {id : String} {p : PCCB} (h : S.loadPccb id = some p) : p.pccbId = id := by
  obtain ⟨t, -, ht⟩ := Option.bind_eq_some_iff.mp h
  exact Table.key_of_find ht

theorem loadIntent_key {id : String} {i : ActionIntent} (h : S.loadIntent id = some i) : i.intentId = id := by
  obtain ⟨t, -, ht⟩ := Option.bind_eq_some_iff.mp h
  exact Table.key_of_find ht

theorem namesProof_iff {c : Option StoredCorrelation} {id : String} :
    namesProof c id = true ↔ c.bind StoredCorrelation.pccbId = some id := by
  unfold namesProof
  cases c with
  | none => simp
  | some c => simp

/-- an intent that is handed on is the one of the receipt -/
theorem Chosen.intent_loaded {q : EvidenceQuery} {r : StoredReceipt} {i : Option ActionIntent}
    {p : Option PCCB} (h : Chosen S q r i p) {intent : ActionIntent}
    (hi : i.or (S.loadIntent r.intentId) = some intent) : S.loadIntent intent.intentId = some intent := by
  have hload : ∀ {id}, S.loadIntent id = some intent → S.loadIntent intent.intentId = some intent := by
    intro id hid
    rw [loadIntent_key hid]
    exact hid
  induction h with
  | receipt _ => exact hload hi
  | proof _ _ => exact hload hi
  | intent _ _ =>
    rcases Option.or_eq_some_iff.mp hi with hi | ⟨-, hi⟩
    · exact hload hi
    · exact hload hi
  | hash _ _ ih => exact ih hi
  | correlated _ _ _ => exact hload hi

/-- what holds of all first receipts holds of the one that is chosen -/
theorem forall_first {rs : List StoredReceipt} {r : StoredReceipt} (h : preferReceipt rs = some r)
    {Q : StoredReceipt → Prop} : (∀ r', First StoredReceipt.preference rs r' → Q r') ↔ Q r := by
  constructor
  · exact fun hall => hall r (sortedHead_iff.mp h)
  · intro hr r' hr'
    rw [← (sortedHead_iff.mp h).unique hr']
    exact hr

/-- the proof that is gone on with is in the store -/
theorem Chosen.proof_loaded {q : EvidenceQuery} {r : StoredReceipt} {i : Option ActionIntent}
    {p : Option PCCB} (h : Chosen S q r i p) {id : String} {pccb : PCCB} (hp : p.or (S.loadPccb id) = some pccb) :
    S.loadPccb pccb.pccbId = some pccb := by
  have hload : ∀ {id'}, S.loadPccb id' = some pccb → S.loadPccb pccb.pccbId = some pccb := by
    intro id' h'
    rw [loadPccb_key h']
    exact h'
  have hor : ∀ {id'}, (S.loadPccb id').or (S.loadPccb id) = some pccb → S.loadPccb pccb.pccbId = some pccb := by
    intro id' h'
    rcases Option.or_eq_some_iff.mp h' with h' | ⟨-, h'⟩
    · exact hload h'
    · exact hload h'
  induction h with
  | receipt _ => exact hload hp
  | proof _ _ => exact hor hp
  | intent _ _ =>
    rcases Option.or_eq_some_iff.mp hp with hp | ⟨-, hp⟩
    · exact loadPccb_of_mem (List.mem_of_mem_filter (mem_of_sortedHead hp))
    · exact hload hp
  | hash _ _ ih => exact ih hp
  | correlated _ _ _ => exact hload hp

/-- the condition, for the receipt that is chosen and the proof that is gone on with -/
theorem Chosen.firstUnderFirst_iff {q : EvidenceQuery} {r : StoredReceipt} {i : Option ActionIntent}
    {p : Option PCCB} (h : Chosen S q r i p) (hexecuted : r.outcome = "executed") {id : String}
    (hid : r.correlation.bind StoredCorrelation.pccbId = some id) {pccb : PCCB}
    (hp : p.or (S.loadPccb id) = some pccb) : FirstUnderFirst S q ↔ GivenUnder S r (some pccb.pccbId) := by
  induction h with
  | @receipt id' r' h =>
    refine iff_of_true trivial ⟨r', ?_, hexecuted, ?_⟩
    · rw [loadReceipt_key h]
      exact h
    · rw [loadPccb_key hp]
      exact hid
  | @proof id' r' _ h =>
    have hnames := namesProof_iff.mp (List.mem_filter.mp (mem_of_sortedHead h)).2
    have hsame : id' = id := Option.some.inj (hnames.symm.trans hid)
    subst hsame
    rw [Option.or_self] at hp
    rw [loadPccb_key hp]
    exact forall_first h
  | @intent id' r' _ h =>
    refine (forall_first h).trans ?_
    unfold firstProof
    cases hfirst : preferPccb (S.pccbsOf id') with
    | none =>
      rw [hfirst, Option.none_or] at hp
      rw [Option.map_none, Option.none_or, hid, loadPccb_key hp]
    | some p' =>
      rw [hfirst, Option.some_or] at hp
      cases hp
      rw [Option.map_some, Option.some_or]
  | @hash hash p' r' i' p'' hfirst h ih =>
    refine Iff.trans ?_ (ih hexecuted hid hp)
    show (match preferPccb _ with | some p => _ | none => _) ↔ _
    rw [hfirst]
    exact Iff.rfl
  | @correlated hash r' hfirst _ h =>
    show (match preferPccb _ with | some p => _ | none => _) ↔ _
    rw [hfirst, loadPccb_key hp, ← hid]
    exact forall_first h

end

end EvidenceQueryService

open EvidenceQueryService

/-- **Whether the artifacts of a verified execution belong together.** -/
theorem coherent_iff (P : Platform) (profile : String) (S : EvidenceQueryService) (q : EvidenceQuery)
    (res : EvidenceResult) (h : S.query P profile q = .ok res) (hv : res.verdict = .verifiedExecution) :
    Coherent P S res ↔ FirstUnderFirst S q := by
  obtain ⟨r, i?, p?, hchosen, hexecuted, hexecution⟩ := query_verified h hv
  obtain ⟨i, p, pccbId, depth, hi, hid, hp, -, hhash, -, hres⟩ := hexecution.checked
  rw [hchosen.firstUnderFirst_iff hexecuted hid hp]
  subst hres
  constructor
  · intro hcoherent
    obtain ⟨r', hr', hr'', hexecuted', hown⟩ := hcoherent.receipt
    rw [← Option.some.inj hr'] at hr''
    exact ⟨r', hr'', hexecuted', hown⟩
  · rintro ⟨r', hr', hexecuted', hown⟩
    refine ⟨⟨r', ?_, ?_, hexecuted', hown⟩,
      ⟨p, i, rfl, hchosen.proof_loaded hp, rfl, hchosen.intent_loaded hi, ((verifyHashIntegrity_ok hhash).2 rfl).1⟩⟩
    · rw [loadReceipt_key hr']
    · rw [loadReceipt_key hr']
      exact hr'

/-! ## two proofs for one intent -/

/-- the proof of the sample intent that was minted a second time, an hour later -/
def laterPccb : PCCB := { samplePccb with pccbId := "pccb_2", issuedAt := sampleExpiry, nonce := "n2" }

/-- the receipt of an execution of the sample intent -/
def executedReceipt (pccbId : String) : StoredReceipt where
  receiptId := "rcpt_1"
  intentId := "int_1"
  occurredAt := sampleExpiry
  outcome := "executed"
  tenant := sampleIntent.tenant
  subject := sampleIntent.requester
  action := sampleIntent.action
  target := sampleIntent.target
  summary := "The protected action executed successfully."
  phase := some "execution"
  correlation := some { pccbId := some pccbId, requestId := some "req_1", actionHash := some samplePccb.actionHash }

/-- the stores after an execution under one of the two proofs -/
def twoProofs (pccbId : String) : EvidenceQueryService where
  intentStore := some ⟨[sampleIntent], by decide⟩
  pccbStore := some ⟨[samplePccb, laterPccb], by decide⟩
  receiptStore := some (dictionaryStore ⟨[executedReceipt pccbId], List.nodup_singleton _⟩)
  refusalStore := some (dictionaryStore ⟨[], List.nodup_nil⟩)

/-- the verdict and the proof of a result -/
def verdictUnder (x : Except PyError EvidenceResult) : Option (EvidenceVerdict × Option String) :=
  match x with
  | .ok res => some (res.verdict, res.pccbId)
  | .error _ => none

theorem verdictUnder_some {x : Except PyError EvidenceResult} {v : EvidenceVerdict} {id : Option String}
    (h : verdictUnder x = some (v, id)) : ∃ res, x = .ok res ∧ res.verdict = v ∧ res.pccbId = id := by
  cases x with
  | error e => cases h
  | ok res =>
    cases h
    exact ⟨res, rfl, rfl, rfl⟩

theorem coherent_first_proof :
    ∃ res, (twoProofs "pccb_1").query kernelPlatform "ACTENON-JCS-STRICT-1" (.intentId "int_1") = .ok res ∧
      res.verdict = .verifiedExecution ∧ Coherent kernelPlatform (twoProofs "pccb_1") res := by
  obtain ⟨res, h, hv, -⟩ := verdictUnder_some (show verdictUnder ((twoProofs "pccb_1").query kernelPlatform
    "ACTENON-JCS-STRICT-1" (.intentId "int_1")) = some (.verifiedExecution, some "pccb_1") by decide +kernel)
  refine ⟨res, h, hv, (coherent_iff _ _ _ _ res h hv).mpr ?_⟩
  intro r hr
  rw [← sortedHead_iff] at hr
  cases (show sortedHead StoredReceipt.preference ((twoProofs "pccb_1").receiptsOf "int_1")
    = some (executedReceipt "pccb_1") from rfl).symm.trans hr
  exact ⟨executedReceipt "pccb_1", rfl, rfl, rfl⟩

/-- the execution was under the second proof, and the result names the first -/
theorem incoherent_second_proof :
    ∃ res, (twoProofs "pccb_2").query kernelPlatform "ACTENON-JCS-STRICT-1" (.intentId "int_1") = .ok res ∧
      res.verdict = .verifiedExecution ∧ ¬ Coherent kernelPlatform (twoProofs "pccb_2") res := by
  obtain ⟨res, h, hv, hp⟩ := verdictUnder_some (show verdictUnder ((twoProofs "pccb_2").query kernelPlatform
    "ACTENON-JCS-STRICT-1" (.intentId "int_1")) = some (.verifiedExecution, some "pccb_1") by decide +kernel)
  refine ⟨res, h, hv, ?_⟩
  intro hcoherent
  obtain ⟨r, -, hr, -, hown⟩ := hcoherent.receipt
  obtain ⟨t, ht, hfound⟩ := Option.bind_eq_some_iff.mp hr
  cases ht
  have hmem : r ∈ [executedReceipt "pccb_2"] := ArtifactStore.mem_of_find _ hfound
  rw [List.mem_singleton.mp hmem, hp] at hown
  exact absurd hown (by decide)

end Actenon
