import ActenonKernel.Boundary.Gate
import ActenonKernel.Lib.PyString
import ActenonKernel.Lib.Text

/-!
# Explicit development intent (`actenon/security_posture.py`)

A component with a weaker guarantee is built only where the process shows that it is meant: the
environment names a development value, the code runs in a block that declares it, or an operator has
set the override of that guarantee.

* `Process`                the environment and the declared intent of the current context;
* `permitDowngrade`        the one gate for a weaker guarantee;
* `HmacSha256Signer.create`, `executorInit`, `gateInit`     what is built through it;
* `executorInit_downgrades`, `gate_downgrades`    what a component lists is what it lacks.
-/

set_option linter.unusedSectionVars false

namespace Actenon

namespace Posture

/-! ## the process -/

/-- `os.environ`, and `_DECLARED_INTENT` in the current context -/
structure Process where
  environ : String → Option String
  declared : Option String

inductive PostureError where
  /-- `InsecureDefaultRefusedError` -/
  | refused (message : String)
  /-- `DevelopmentIntentConflictError` -/
  | conflict (message : String)
  /-- `LocalHmacProductionGuardError` -/
  | guard (message : String)
  | other (e : PyError)

abbrev PostureM := Except PostureError

/-- `raw.strip().lower()`; only ASCII letters matter for the words it is compared with -/
def normalized (raw : String) : String := String.ofList ((PyString.strip raw.toList).map PyString.lowerChar)

def truthy : Option String → Bool
  | none => false
  | some raw => ["1", "true", "yes", "on"].contains (normalized raw)

def developmentEnvValues : List String := ["development", "dev", "local", "test"]

def productionFlagEnvs : List String := ["ACTENON_PRODUCTION", "ACTENON_CI_RELEASE", "ACTENON_RELEASE_BUILD"]

def howToDeclareDevelopment : String :=
  "For local development, demos or tests set ACTENON_ENV=development (or dev, local, test)."

section
variable (p : Process)

def Process.normalizedEnvironment : String := normalized ((p.environ "ACTENON_ENV").getD "")

def Process.productionFlagSet : Bool := productionFlagEnvs.any fun name => truthy (p.environ name)

/-- `ACTENON_ENV` names a development environment -/
def Process.inDevelopment : Bool := developmentEnvValues.contains p.normalizedEnvironment

def Process.developmentIntent : Bool :=
  if p.productionFlagSet then false
  else if p.inDevelopment then true
  else p.normalizedEnvironment = "" && p.declared.isSome

/-- an operator who sets another value, or a production flag, declares a non-development environment -/
def Process.conflicting : Bool :=
  p.productionFlagSet || (p.normalizedEnvironment ≠ "" && !p.inDevelopment)

end

/-! ## the weaker guarantees -/

inductive Downgrade where
  | publicDevelopmentSecret
  | processLocalReplay
  | replayProtectionDisabled
  | replayStoreFailOpen
  | undeclaredCapabilities
deriving DecidableEq, Repr

def Downgrade.name : Downgrade → String
  | publicDevelopmentSecret => "public_development_secret"
  | processLocalReplay => "process_local_replay"
  | replayProtectionDisabled => "replay_protection_disabled"
  | replayStoreFailOpen => "replay_store_fail_open"
  | undeclaredCapabilities => "undeclared_capabilities"

section
variable (repr : String → String) (p : Process)

/-- `os.environ.get(ACTENON_ENV_ENV, '<unset>')!r` -/
def Process.environmentText : String := repr ((p.environ "ACTENON_ENV").getD "<unset>")

/-- the check at the head of `explicit_development_intent`, and the context its block runs in -/
def Process.declare (source : String) : PostureM Process :=
  if p.conflicting then
    let flags := productionFlagEnvs.filter fun name => truthy (p.environ name)
    let environment := "ACTENON_ENV=" ++ repr ((p.environ "ACTENON_ENV").getD "")
    let declared := environment ++ if flags.isEmpty then "" else " and " ++ ", ".intercalate flags
    .error (.conflict (s!"{source} is a development-only entry point, but this environment is declared " ++
      s!"non-development ({declared}). Development behaviour is refused. " ++
      "Unset ACTENON_ENV or set it to development, dev, local or test to run it locally."))
  else .ok { p with declared := some source }

/-- `declare_process_development_intent`, and the environment it leaves -/
def Process.declareForProcess (source : String) : PostureM Process := do
  let _ ← p.declare repr source
  if p.normalizedEnvironment = "" then
    return { p with environ := Function.update p.environ "ACTENON_ENV" (some "development") }
  return p

def Process.requireDevelopmentIntent (what fix : String) : PostureM Unit :=
  if p.developmentIntent then .ok ()
  else
    let environment := p.environmentText repr
    .error (.refused (s!"{what} requires explicit development intent and ACTENON_ENV={environment} declares none. " ++
      s!"{fix} {howToDeclareDevelopment}"))

/-- a downgrade that was let through; outside development it is logged -/
structure Permit where
  downgrade : Downgrade
  warning : Option String

def Process.permitDowngrade (downgrade : Downgrade) (overrideEnv what fix : String) : PostureM Permit :=
  let recorded := downgrade.name
  if p.developmentIntent then .ok ⟨downgrade, none⟩
  else if truthy (p.environ overrideEnv) then
    .ok ⟨downgrade, some (s!"ACTENON SECURITY DOWNGRADE: {what} is enabled outside development by the unsafe " ++
      s!"override {overrideEnv}=1. The guarantee is weakened ({recorded}).")⟩
  else
    let environment := p.environmentText repr
    let quoted := repr recorded
    .error (.refused (s!"{what} requires explicit development intent and ACTENON_ENV={environment} declares none. " ++
      s!"{fix} {howToDeclareDevelopment} To accept the weaker guarantee outside development " ++
      s!"anyway, set {overrideEnv}=1 (unsafe; recorded as {quoted})."))

/-! ## what is built through it -/

def localProofSecret : List UInt8 := Text.utf8 "actenon-local-proof-secret-v1".toList

def localProofKeyId : String := "local-proof-v1"

/-- `_PRODUCTION_ENV_VALUES` of the signer -/
def productionEnvValues : List String := ["prod", "production", "staging", "release", "ci", "non-dev", "nondev"]

def Process.productionLike : Bool := productionEnvValues.contains p.normalizedEnvironment || p.productionFlagSet

/-- `HmacSha256Signer` -/
structure HmacSha256Signer where
  secret : List UInt8
  keyId : String
  algorithm : String := "HS256"

/-- the guards of `__post_init__` -/
def HmacSha256Signer.create (secret : List UInt8) (keyId : String) (algorithm : String := "HS256") :
    PostureM HmacSha256Signer :=
  if p.productionLike then
    .error (.guard ("local HMAC proof signing is disabled in production-like environments. " ++
      "Production flags cannot be overridden; use asymmetric well-known/KMS/HSM signing custody."))
  else if secret = localProofSecret ∧ ¬ p.developmentIntent then
    let environment := p.environmentText repr
    .error (.guard ("the public development HMAC secret (LOCAL_PROOF_SECRET) is refused without explicit " ++
      s!"development intent (ACTENON_ENV={environment}). " ++
      "It is published in the package, so a proof signed with it proves nothing. " ++
      "For local development, demos or tests set ACTENON_ENV=development (or dev, local, test) " ++
      "or use ActenonGate.local_dev(...). In production use asymmetric " ++
      "well-known/KMS/HSM signing custody."))
  else .ok ⟨secret, keyId, algorithm⟩

def Process.resolveLocalHmacSecret (secret : Option (List UInt8)) : List UInt8 :=
  match secret, p.environ "ACTENON_LOCAL_HMAC_SECRET" with
  | some given, _ => given
  | none, some value => Text.utf8 value.toList
  | none, none => localProofSecret

def Process.buildLocalProofSigner (secret : Option (List UInt8)) (keyId : String) : PostureM HmacSha256Signer :=
  HmacSha256Signer.create repr p (p.resolveLocalHmacSecret secret) keyId

/-- where an executor keeps what has been used -/
inductive ReplayState where
  | disabled
  | supplied
  | path (db : String)
  | processLocal
deriving DecidableEq

structure ExecutorConfig where
  replayProtection : String := "default"
  replayStoreFailure : String := "fail_closed"
  /-- whether a replay protector is given -/
  replayProtector : Bool := false

structure BuiltExecutor where
  replay : ReplayState
  failOpen : Bool
  securityDowngrades : List Downgrade
  warnings : List String

def processLocalReplayFix : String :=
  "Single-use needs replay state shared by every worker and surviving restarts: set " ++
    "ACTENON_REPLAY_DB to a durable path shared by all workers, or pass replay_protector=" ++
    "ReplayProtector(SqliteReplayStore(path) | PostgresReplayStore(dsn))."

def Process.permitProcessLocalReplay (component : String) : PostureM Permit :=
  p.permitDowngrade repr .processLocalReplay "ACTENON_UNSAFE_ALLOW_PROCESS_LOCAL_REPLAY"
    (s!"{component} with per-process replay state (a single-use proof would be accepted once per worker " ++
      "and again after a restart)")
    processLocalReplayFix

/-- the replay store an executor takes when none is given: `default_replay_store_downgrades` and
`default_replay_db_path` -/
def Process.defaultReplayStore : PostureM (ReplayState × List Permit) :=
  match (p.environ "ACTENON_REPLAY_DB").filter (· ≠ "") with
  | some db => .ok (.path db, [])
  | none => do
    let permit ← p.permitProcessLocalReplay repr "the default replay store"
    return (.processLocal, [permit])

def replayProtectionDisabledWarning : String :=
  "Actenon: replay/single-use protection DISABLED — the same proof can execute more than once. " ++
    "This is unsafe for consequential actions."

def replayStoreFailOpenWarning : String :=
  "Actenon: replay store failures configured FAIL-OPEN — an action may execute when single-use " ++
    "cannot be enforced. This is unsafe for consequential actions."

/-- the lines a permit and its component log -/
def Permit.logged (permit : Permit) (further : List String) : List String := permit.warning.toList ++ further

/-- `if self.replay_store_failure == "fail_open"` -/
def Process.permitFailOpen (failOpen : Bool) : PostureM (List Permit) :=
  if failOpen then do
    let permit ← p.permitDowngrade repr .replayStoreFailOpen "ACTENON_UNSAFE_ALLOW_REPLAY_FAIL_OPEN"
      "replay_store_failure=\"fail_open\" (an action may execute when single use cannot be enforced)"
      "Use replay_store_failure=\"fail_closed\" (the default)."
    return [permit]
  else return []

/-- `if self.replay_protector is None` -/
def Process.replayStoreOf (given : Bool) : PostureM (ReplayState × List Permit) :=
  if given then .ok (.supplied, []) else p.defaultReplayStore repr

/-- `if bad: raise ValueError(message)` -/
def refuseIf (bad : Prop) [Decidable bad] (message : String) : PostureM Unit :=
  if bad then .error (.other ⟨.valueError, message⟩) else .ok ()

/-- `__post_init__` with `replay_protection="disabled"` -/
def executorWithoutReplay (c : ExecutorConfig) : PostureM BuiltExecutor := do
  refuseIf c.replayProtector "replay_protector cannot be supplied when replay_protection is 'disabled'"
  refuseIf (c.replayStoreFailure ≠ "fail_closed")
    "replay_store_failure cannot be 'fail_open' when replay_protection is 'disabled'"
  let permit ← p.permitDowngrade repr .replayProtectionDisabled "ACTENON_UNSAFE_ALLOW_REPLAY_DISABLED"
    "replay_protection=\"disabled\" (the same proof can execute more than once)"
    "Keep replay protection on and configure a durable replay store."
  return ⟨.disabled, false, [permit.downgrade], permit.logged [replayProtectionDisabledWarning]⟩

/-- `__post_init__` with `replay_protection="default"` -/
def executorWithReplay (c : ExecutorConfig) : PostureM BuiltExecutor := do
  let opened ← p.permitFailOpen repr (c.replayStoreFailure = "fail_open")
  let (replay, stored) ← p.replayStoreOf repr c.replayProtector
  return ⟨replay, c.replayStoreFailure = "fail_open", (opened ++ stored).map Permit.downgrade,
    (opened.flatMap fun permit => permit.logged [replayStoreFailOpenWarning]) ++
      stored.flatMap fun permit => permit.logged []⟩

/-- `ProtectedExecutor.__post_init__` -/
def executorInit (c : ExecutorConfig) : PostureM BuiltExecutor := do
  refuseIf (¬ (c.replayProtection = "default" ∨ c.replayProtection = "disabled"))
    "replay_protection must be 'default' or 'disabled'"
  refuseIf (¬ (c.replayStoreFailure = "fail_closed" ∨ c.replayStoreFailure = "fail_open"))
    "replay_store_failure must be 'fail_closed' or 'fail_open'"
  if c.replayProtection = "disabled" then executorWithoutReplay repr p c else executorWithReplay repr p c

/-- `getattr(material, "secret", None)`, where it is bytes -/
structure Material where
  secret : Option (List UInt8)

def Material.usesPublicDevelopmentSecret (m : Material) : Bool := m.secret = some localProofSecret

structure GateConfig where
  verifier : Option Material
  signer : Option Material := none
  audience : AudienceRef ⊕ String
  issuer : PartyRef ⊕ String
  capabilities : Option (List String) := none
  executor : ExecutorConfig := {}
  disclosureMode : Option VerifierDisclosureMode := none

structure BuiltGate where
  executor : BuiltExecutor
  ownDowngrades : List Downgrade
  signer : Option Material
  verifier : Material
  declaredCapabilities : Option (List String)
  disclosureMode : VerifierDisclosureMode
  warnings : List String

def coerceParty : PartyRef ⊕ String → Except PyError PartyRef
  | .inl party => .ok party
  | .inr value =>
    let partyType := value.toList.takeWhile (· ≠ ':')
    match value.toList.dropWhile (· ≠ ':') with
    | [] => .ok ⟨"service", value, .null, []⟩
    | _ :: partyId =>
      if partyType.isEmpty || partyId.isEmpty then
        valueError "issuer must be a PartyRef or a non-empty 'type:id' string"
      else .ok ⟨String.ofList partyType, String.ofList partyId, .null, []⟩

def localDebugAllowedEnvs : List String := ["development", "local", "dev", "test", "demo", ""]

def Process.localDebugAllowed : Bool := localDebugAllowedEnvs.contains p.normalizedEnvironment

def Process.defaultDisclosureMode : VerifierDisclosureMode :=
  if p.localDebugAllowed then .localDebug else .trustedDetailed

/-- the check of the disclosure mode in `PCCBVerifier.__post_init__` -/
def Process.checkDisclosureMode (mode : VerifierDisclosureMode) : PostureM Unit :=
  if mode = .localDebug ∧ ¬ p.localDebugAllowed then
    let environment := repr ((p.environ "ACTENON_ENV").getD "")
    .error (.other ⟨.valueError, "VerifierDisclosureMode.LOCAL_DEBUG cannot be enabled in " ++
      s!"a production-like environment (ACTENON_ENV={environment}). Use " ++
      "public_generic or trusted_detailed, or set ACTENON_ENV " ++
      "to 'local', 'dev', 'test', or 'demo' for local debugging."⟩)
  else .ok ()

/-- `if capabilities is None` -/
def Process.permitUndeclared (capabilities : Option (List String)) : PostureM (List Permit) :=
  match capabilities with
  | some _ => return []
  | none => do
    let permit ← p.permitDowngrade repr .undeclaredCapabilities "ACTENON_UNSAFE_ALLOW_UNDECLARED_CAPABILITIES"
      "An ActenonGate with no declared capabilities"
      ("Pass capabilities=(...) naming what this gate's side effect performs " ++
        "(protocol/13-edge-binding.md E1), e.g. capabilities=(\"payment.refund\",).")
    return [permit]

/-- an exception of the parts that are modelled elsewhere -/
def fromPython {α : Type} (x : Except PyError α) : PostureM α := x.mapError .other

/-- `if verifier is None` -/
def requireVerifier : Option Material → PostureM Material
  | some verifier => .ok verifier
  | none => .error (.other ⟨.valueError, "ActenonGate requires a verifier. " ++
      "Use ActenonGate.local_dev(...) for local development, or pass " ++
      "a configured SignatureVerifier for production."⟩)

/-- `ActenonGate.__init__` -/
def gateInit (c : GateConfig) : PostureM BuiltGate := do
  let verifier ← requireVerifier c.verifier
  let _ ← fromPython (coerceAudience c.audience)
  let _ ← fromPython (coerceParty c.issuer)
  let own ← p.permitUndeclared repr c.capabilities
  let mode := c.disclosureMode.getD p.defaultDisclosureMode
  p.checkDisclosureMode repr mode
  let executor ← executorInit repr p c.executor
  return ⟨executor, own.map Permit.downgrade, c.signer, verifier, c.capabilities, mode,
    (own.flatMap fun permit => permit.logged []) ++ executor.warnings⟩

end

/-- the step of the loop over the materials of a gate -/
def withPublicSecret (downgrades : List Downgrade) (material : Option Material) : List Downgrade :=
  if material.any Material.usesPublicDevelopmentSecret ∧ .publicDevelopmentSecret ∉ downgrades then
    .publicDevelopmentSecret :: downgrades
  else downgrades

def BuiltGate.securityDowngrades (g : BuiltGate) : List Downgrade :=
  [g.signer, some g.verifier].foldl withPublicSecret
    (g.executor.securityDowngrades ++ g.ownDowngrades.filter (· ∉ g.executor.securityDowngrades))

/-! ## what is listed is what is lacking -/

/-- the guarantees an executor does not give -/
def BuiltExecutor.Lacks (e : BuiltExecutor) : Downgrade → Prop
  | .replayProtectionDisabled => e.replay = .disabled
  | .processLocalReplay => e.replay = .processLocal
  | .replayStoreFailOpen => e.failOpen = true
  | _ => False

/-- the guarantees a gate does not give -/
def BuiltGate.Lacks (g : BuiltGate) : Downgrade → Prop
  | .publicDevelopmentSecret =>
    (∃ m, g.signer = some m ∧ m.secret = some localProofSecret) ∨ g.verifier.secret = some localProofSecret
  | .undeclaredCapabilities => g.declaredCapabilities = none
  | d => g.executor.Lacks d

/-- the override that an operator may set for a downgrade; there is none for the public secret -/
def Downgrade.overrideEnv : Downgrade → Option String
  | .publicDevelopmentSecret => none
  | .processLocalReplay => some "ACTENON_UNSAFE_ALLOW_PROCESS_LOCAL_REPLAY"
  | .replayProtectionDisabled => some "ACTENON_UNSAFE_ALLOW_REPLAY_DISABLED"
  | .replayStoreFailOpen => some "ACTENON_UNSAFE_ALLOW_REPLAY_FAIL_OPEN"
  | .undeclaredCapabilities => some "ACTENON_UNSAFE_ALLOW_UNDECLARED_CAPABILITIES"

/-- a downgrade is let through: in development, or by its override -/
def Process.Permits (p : Process) (d : Downgrade) : Prop :=
  p.developmentIntent = true ∨ ∃ name, d.overrideEnv = some name ∧ truthy (p.environ name) = true

section
variable {repr : String → String} {p : Process}

theorem permitDowngrade_ok {d : Downgrade} {overrideEnv what fix : String} {permit : Permit}
    (hname : d.overrideEnv = some overrideEnv) (h : p.permitDowngrade repr d overrideEnv what fix = .ok permit) :
    permit.downgrade = d ∧ p.Permits d := by
  unfold Process.permitDowngrade at h
  split_ifs at h with hintent hoverride
  · cases h
    exact ⟨rfl, .inl hintent⟩
  · cases h
    exact ⟨rfl, .inr ⟨overrideEnv, hname, hoverride⟩⟩

theorem replayStoreOf_ok {given : Bool} {replay : ReplayState} {permits : List Permit}
    (h : p.replayStoreOf repr given = .ok (replay, permits)) :
    (replay ≠ .disabled ∧ replay ≠ .processLocal ∧ permits.map Permit.downgrade = []) ∨
      replay = .processLocal ∧ p.Permits .processLocalReplay ∧ permits.map Permit.downgrade = [.processLocalReplay] := by
  unfold Process.replayStoreOf Process.defaultReplayStore at h
  split_ifs at h with hgiven
  · cases h
    exact .inl ⟨by decide, by decide, rfl⟩
  · split at h
    · cases h
      exact .inl ⟨fun h => (nomatch h), fun h => (nomatch h), rfl⟩
    · obtain ⟨permit, hpermit, h⟩ := Fallible.bind_eq_ok.mp h
      cases h
      obtain ⟨hd, hp⟩ := permitDowngrade_ok rfl hpermit
      refine .inr ⟨rfl, hp, ?_⟩
      rw [List.map_cons, List.map_nil, hd]

theorem permitFailOpen_ok {failOpen : Bool} {permits : List Permit} (h : p.permitFailOpen repr failOpen = .ok permits) :
    (failOpen = false ∧ permits.map Permit.downgrade = []) ∨
      failOpen = true ∧ p.Permits .replayStoreFailOpen ∧ permits.map Permit.downgrade = [.replayStoreFailOpen] := by
  unfold Process.permitFailOpen at h
  cases failOpen with
  | false =>
    cases h
    exact .inl ⟨rfl, rfl⟩
  | true =>
    obtain ⟨permit, hpermit, h⟩ := Fallible.bind_eq_ok.mp h
    cases h
    obtain ⟨hd, hp⟩ := permitDowngrade_ok rfl hpermit
    refine .inr ⟨rfl, hp, ?_⟩
    rw [List.map_cons, List.map_nil, hd]

/-- **An executor lists what it lacks**, and the process permits each of it. -/
theorem executorInit_downgrades {c : ExecutorConfig} {e : BuiltExecutor} (h : executorInit repr p c = .ok e) :
    (∀ d, d ∈ e.securityDowngrades ↔ e.Lacks d) ∧ ∀ d ∈ e.securityDowngrades, p.Permits d := by
  obtain ⟨-, -, h⟩ := Fallible.bind_eq_ok.mp h
  obtain ⟨-, -, h⟩ := Fallible.bind_eq_ok.mp h
  split_ifs at h with hdisabled
  · obtain ⟨-, -, h⟩ := Fallible.bind_eq_ok.mp h
    obtain ⟨-, -, h⟩ := Fallible.bind_eq_ok.mp h
    obtain ⟨permit, hpermit, h⟩ := Fallible.bind_eq_ok.mp h
    cases h
    obtain ⟨hd, hp⟩ := permitDowngrade_ok rfl hpermit
    rw [hd]
    refine ⟨fun d => ?_, fun d hmem => ?_⟩
    · rw [List.mem_singleton]
      cases d <;> simp [BuiltExecutor.Lacks]
    · rw [List.mem_singleton.mp hmem]
      exact hp
  · obtain ⟨opened, hopened, h⟩ := Fallible.bind_eq_ok.mp h
    obtain ⟨⟨replay, stored⟩, hstored, h⟩ := Fallible.bind_eq_ok.mp h
    cases h
    rw [List.map_append]
    rcases permitFailOpen_ok hopened with ⟨hopen, ho⟩ | ⟨hopen, hpo, ho⟩ <;>
      rcases replayStoreOf_ok hstored with ⟨hne, hnl, hs⟩ | ⟨rfl, hps, hs⟩ <;> rw [ho, hs]
    · refine ⟨fun d => ?_, List.forall_mem_nil _⟩
      cases d <;> simp [BuiltExecutor.Lacks, hopen, hne, hnl]
    · refine ⟨fun d => ?_, List.forall_mem_singleton.mpr hps⟩
      cases d <;> simp [BuiltExecutor.Lacks, hopen]
    · refine ⟨fun d => ?_, List.forall_mem_singleton.mpr hpo⟩
      cases d <;> simp [BuiltExecutor.Lacks, hopen, hne, hnl]
    · refine ⟨fun d => ?_, List.forall_mem_cons.mpr ⟨hpo, List.forall_mem_singleton.mpr hps⟩⟩
      cases d <;> simp [BuiltExecutor.Lacks, hopen]

theorem mem_withPublicSecret {ds : List Downgrade} {m : Option Material} {d : Downgrade} :
    d ∈ withPublicSecret ds m ↔
      d ∈ ds ∨ d = .publicDevelopmentSecret ∧ ∃ x, m = some x ∧ x.secret = some localProofSecret := by
  have hpublic : m.any Material.usesPublicDevelopmentSecret = true ↔ ∃ x, m = some x ∧ x.secret = some localProofSecret := by
    rw [Option.any_eq_true]
    exact exists_congr fun x => and_congr_right fun _ => decide_eq_true_iff
  unfold withPublicSecret
  split_ifs with h
  · rw [List.mem_cons, or_comm, and_iff_left (hpublic.mp h.1)]
  · refine ⟨.inl, ?_⟩
    rintro (hd | ⟨rfl, hm⟩)
    · exact hd
    · exact by_contra fun hn => h ⟨hpublic.mpr hm, hn⟩

theorem permitUndeclared_ok {capabilities : Option (List String)} {permits : List Permit}
    (h : p.permitUndeclared repr capabilities = .ok permits) :
    (capabilities ≠ none ∧ permits.map Permit.downgrade = []) ∨ capabilities = none ∧
      p.Permits .undeclaredCapabilities ∧ permits.map Permit.downgrade = [.undeclaredCapabilities] := by
  cases capabilities with
  | some names =>
    cases h
    exact .inl ⟨fun h => (nomatch h), rfl⟩
  | none =>
    obtain ⟨permit, hpermit, h⟩ := Fallible.bind_eq_ok.mp h
    cases h
    obtain ⟨hd, hp⟩ := permitDowngrade_ok rfl hpermit
    refine .inr ⟨rfl, hp, ?_⟩
    rw [List.map_cons, List.map_nil, hd]

theorem mem_securityDowngrades {g : BuiltGate} {d : Downgrade} :
    d ∈ g.securityDowngrades ↔ (d ∈ g.executor.securityDowngrades ∨ d ∈ g.ownDowngrades) ∨
      d = .publicDevelopmentSecret ∧ g.Lacks .publicDevelopmentSecret := by
  have hrest : d ∈ g.executor.securityDowngrades ++ g.ownDowngrades.filter (· ∉ g.executor.securityDowngrades) ↔
      d ∈ g.executor.securityDowngrades ∨ d ∈ g.ownDowngrades := by
    rw [List.mem_append, List.mem_filter, decide_eq_true_iff]
    by_cases hd : d ∈ g.executor.securityDowngrades <;> simp [hd]
  have hverifier : (∃ x, some g.verifier = some x ∧ x.secret = some localProofSecret) ↔
      g.verifier.secret = some localProofSecret := by simp
  show d ∈ withPublicSecret (withPublicSecret _ _) _ ↔ _
  rw [mem_withPublicSecret, mem_withPublicSecret, hrest, or_assoc, ← and_or_left, hverifier]
  rfl

/-- **A gate lists what it lacks**, and of this the process permits all but the public secret, which
comes with the materials. -/
theorem gate_downgrades {c : GateConfig} {g : BuiltGate} (h : gateInit repr p c = .ok g) :
    (∀ d, d ∈ g.securityDowngrades ↔ g.Lacks d) ∧
      ∀ d ∈ g.securityDowngrades, d ≠ .publicDevelopmentSecret → p.Permits d := by
  obtain ⟨verifier, -, h⟩ := Fallible.bind_eq_ok.mp h
  obtain ⟨-, -, h⟩ := Fallible.bind_eq_ok.mp h
  obtain ⟨-, -, h⟩ := Fallible.bind_eq_ok.mp h
  obtain ⟨own, hown, h⟩ := Fallible.bind_eq_ok.mp h
  obtain ⟨-, -, h⟩ := Fallible.bind_eq_ok.mp h
  obtain ⟨executor, he, h⟩ := Fallible.bind_eq_ok.mp h
  cases h
  obtain ⟨hlists, hpermits⟩ := executorInit_downgrades he
  have hdeclared : ∀ d, d ∈ own.map Permit.downgrade ↔ d = .undeclaredCapabilities ∧ c.capabilities = none := by
    intro d
    rcases permitUndeclared_ok hown with ⟨hne, ho⟩ | ⟨hnone, -, ho⟩ <;> rw [ho]
    · simp [hne]
    · simp [hnone]
  refine ⟨fun d => ?_, fun d hd hne => ?_⟩
  · rw [mem_securityDowngrades, hlists, hdeclared]
    cases d <;> simp [BuiltGate.Lacks, BuiltExecutor.Lacks]
  · rcases mem_securityDowngrades.mp hd with (hd | hd) | ⟨hd, -⟩
    · exact hpermits d hd
    · rcases permitUndeclared_ok hown with ⟨-, ho⟩ | ⟨-, hp, ho⟩ <;> rw [ho] at hd
      · cases hd
      · rw [List.mem_singleton.mp hd]
        exact hp
    · exact absurd hd hne

theorem gateInit_materials {c : GateConfig} {g : BuiltGate} (h : gateInit repr p c = .ok g) :
    c.signer = g.signer ∧ c.verifier = some g.verifier := by
  obtain ⟨verifier, hv, h⟩ := Fallible.bind_eq_ok.mp h
  obtain ⟨-, -, h⟩ := Fallible.bind_eq_ok.mp h
  obtain ⟨-, -, h⟩ := Fallible.bind_eq_ok.mp h
  obtain ⟨own, -, h⟩ := Fallible.bind_eq_ok.mp h
  obtain ⟨-, -, h⟩ := Fallible.bind_eq_ok.mp h
  obtain ⟨executor, -, h⟩ := Fallible.bind_eq_ok.mp h
  cases h
  refine ⟨rfl, ?_⟩
  unfold requireVerifier at hv
  split at hv <;> cases hv
  assumption

/-! ## declarations -/

theorem declare_ok {source : String} {q : Process} (h : p.declare repr source = .ok q) :
    p.conflicting = false ∧ q = { p with declared := some source } := by
  unfold Process.declare at h
  split_ifs at h with hc
  cases h
  exact ⟨Bool.not_eq_true _ ▸ hc, rfl⟩

theorem declareForProcess_ok {source : String} {q : Process} (h : p.declareForProcess repr source = .ok q) :
    p.conflicting = false ∧ q.declared = p.declared := by
  obtain ⟨p', hp, h⟩ := Fallible.bind_eq_ok.mp h
  refine ⟨(declare_ok hp).1, ?_⟩
  split_ifs at h <;> cases h <;> rfl

end

end Posture

end Actenon
