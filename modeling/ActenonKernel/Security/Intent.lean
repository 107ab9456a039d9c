import ActenonKernel.Security.Posture

/-!
# Programs that declare development intent (`actenon/security_posture.py`)

A program builds signers, executors and gates, changes its environment, raises and catches exceptions,
and opens blocks of `explicit_development_intent` inside one another.

* `Code`, `run`            such programs, and what one does;
* `Inv`, `inv_run`         the declared intent is that of the innermost open block;
* `posture_runs`           whatever lacks a guarantee was meant to where it was built;
* `production_runs`        an environment declared non-development stays so.
-/

set_option linter.unusedSectionVars false

namespace Actenon

namespace Posture

/-! ## programs -/

/-- a material a gate is given: a signer built before, or any other object and its attribute `secret` -/
inductive MaterialRef where
  | made (i : Nat)
  | foreign (secret : Option (List UInt8))

structure GateMaterials where
  verifier : Option MaterialRef
  signer : Option MaterialRef

inductive Code where
  | done
  | throw (e : PostureError)
  /-- `require_development_intent` -/
  | require (what fix : String)
  | setenv (name value : String)
  | unsetenv (name : String)
  /-- `build_local_proof_signer` -/
  | signer (secret : Option (List UInt8)) (keyId : String)
  /-- `ProtectedExecutor` -/
  | executor (c : ExecutorConfig)
  /-- `ActenonGate`; the materials are those given beside the configuration -/
  | gate (c : GateConfig) (materials : GateMaterials)
  /-- `declare_process_development_intent` -/
  | declareForProcess (source : String)
  | andThen (c d : Code)
  /-- `with explicit_development_intent(source)` -/
  | within (source : String) (body : Code)
  /-- `try` and `except` -/
  | attempt (c d : Code)

inductive Built where
  /-- what `require_development_intent` let through -/
  | required (what : String)
  | signer (x : HmacSha256Signer)
  | executor (x : BuiltExecutor)
  | gate (x : BuiltGate) (materials : GateMaterials)

/-- something was built: where, and inside which blocks, the innermost one first -/
structure Event where
  process : Process
  blocks : List String
  built : Built

structure ProcessState where
  process : Process
  signers : List HmacSha256Signer := []
  events : List Event := []

def ProcessState.material (s : ProcessState) : MaterialRef → Option Material
  | .made i => s.signers[i]?.map fun x => ⟨some x.secret⟩
  | .foreign secret => some ⟨secret⟩

/-- a configuration with the materials given beside it -/
def ProcessState.configured (s : ProcessState) (c : GateConfig) (materials : GateMaterials) : GateConfig :=
  { c with verifier := materials.verifier.bind s.material, signer := materials.signer.bind s.material }

def ProcessState.build (s : ProcessState) (blocks : List String) (x : Built) : ProcessState :=
  { s with events := s.events ++ [⟨s.process, blocks, x⟩] }

def ProcessState.setEnviron (s : ProcessState) (name : String) (value : Option String) : ProcessState :=
  { s with process := { s.process with environ := Function.update s.process.environ name value } }

section
variable (repr : String → String)

/-- what a program raises, if anything, and the state it leaves; `blocks` are the open blocks -/
def run (blocks : List String) : Code → ProcessState → Option PostureError × ProcessState
  | .done, s => (none, s)
  | .throw e, s => (some e, s)
  | .require what fix, s =>
    match s.process.requireDevelopmentIntent repr what fix with
    | .ok () => (none, s.build blocks (.required what))
    | .error e => (some e, s)
  | .setenv name value, s => (none, s.setEnviron name (some value))
  | .unsetenv name, s => (none, s.setEnviron name none)
  | .signer secret keyId, s =>
    match s.process.buildLocalProofSigner repr secret keyId with
    | .ok x => (none, { s.build blocks (.signer x) with signers := s.signers ++ [x] })
    | .error e => (some e, s)
  | .executor c, s =>
    match executorInit repr s.process c with
    | .ok x => (none, s.build blocks (.executor x))
    | .error e => (some e, s)
  | .gate c materials, s =>
    match gateInit repr s.process (s.configured c materials) with
    | .ok x => (none, s.build blocks (.gate x materials))
    | .error e => (some e, s)
  | .declareForProcess source, s =>
    match s.process.declareForProcess repr source with
    | .ok p => (none, { s with process := p })
    | .error e => (some e, s)
  | .andThen c d, s =>
    match run blocks c s with
    | (none, s') => run blocks d s'
    | (some e, s') => (some e, s')
  | .within source body, s =>
    match s.process.declare repr source with
    | .ok p =>
      -- the value of before is set again, whether the block returns or raises
      let (raised, s') := run (source :: blocks) body { s with process := p }
      (raised, { s' with process := { s'.process with declared := s.process.declared } })
    | .error e => (some e, s)
  | .attempt c d, s =>
    match run blocks c s with
    | (none, s') => (none, s')
    | (some _, s') => run blocks d s'

/-- `ActenonGate.local_dev`, which uses one new signer for both materials; `i` is its place -/
def Code.localDev (c : GateConfig) (i : Nat) : Code :=
  .within "ActenonGate.local_dev"
    (.andThen (.signer none localProofKeyId) (.gate c ⟨some (.made i), some (.made i)⟩))

end

/-! ## what is meant -/

/-- a block or the environment declares development, and no production flag is set -/
def Intended (p : Process) (blocks : List String) : Prop :=
  p.productionFlagSet = false ∧ (p.inDevelopment = true ∨ p.normalizedEnvironment = "" ∧ blocks ≠ [])

/-- a guarantee may be missing -/
def Event.Allows (e : Event) (d : Downgrade) : Prop :=
  Intended e.process e.blocks ∨ ∃ name, d.overrideEnv = some name ∧ truthy (e.process.environ name) = true

/-- one of the materials is an object from elsewhere with the public secret -/
def GateMaterials.ForeignPublic (m : GateMaterials) : Prop :=
  m.verifier = some (.foreign (some localProofSecret)) ∨ m.signer = some (.foreign (some localProofSecret))

/-- **What lacks a guarantee was meant.**  A signer takes the public secret only with development intent; an
executor and a gate list what they lack, and it needs intent or its override where they are built.  The
public secret of a gate comes with its materials, from a signer that was meant before or from elsewhere. -/
def Event.Meant (before : List Event) (e : Event) : Prop :=
  match e.built with
  | .required _ => Intended e.process e.blocks
  | .signer x => e.process.productionLike = false ∧ (x.secret = localProofSecret → Intended e.process e.blocks)
  | .executor x => ∀ d, (d ∈ x.securityDowngrades ↔ x.Lacks d) ∧ (x.Lacks d → e.Allows d)
  | .gate x materials =>
    ∀ d, (d ∈ x.securityDowngrades ↔ x.Lacks d) ∧ (x.Lacks d → d ≠ .publicDevelopmentSecret → e.Allows d) ∧
      (x.Lacks .publicDevelopmentSecret → materials.ForeignPublic ∨
        ∃ f ∈ before, ∃ y, f.built = .signer y ∧ y.secret = localProofSecret ∧ Intended f.process f.blocks)

/-- the declared intent is that of the innermost open block, and all that was built is meant -/
structure Inv (blocks : List String) (s : ProcessState) : Prop where
  declared : s.process.declared = blocks.head?
  signers : ∀ x ∈ s.signers, ∃ e ∈ s.events, e.built = .signer x
  events : ∀ before e after, s.events = before ++ e :: after → e.Meant before
  lexical : ∀ e ∈ s.events, e.process.declared = e.blocks.head?

section
variable {repr : String → String} {blocks : List String} {s : ProcessState} {p : Process}

theorem developmentIntent_iff (h : p.declared = blocks.head?) : p.developmentIntent = true ↔ Intended p blocks := by
  have hblocks : p.declared.isSome = true ↔ blocks ≠ [] := by
    rw [h, List.isSome_head?]
  unfold Process.developmentIntent Intended
  cases p.productionFlagSet with
  | true => simp
  | false =>
    cases p.inDevelopment with
    | true => simp
    | false => simp [hblocks]

theorem allows_of_permits (h : p.declared = blocks.head?) {d : Downgrade} {x : Built} (hp : p.Permits d) :
    Event.Allows ⟨p, blocks, x⟩ d :=
  hp.imp_left (developmentIntent_iff h).mp

theorem Event.Meant.mono {e : Event} {before events : List Event} (h : e.Meant before) (hsub : before ⊆ events) :
    e.Meant events := by
  obtain ⟨p, blocks, built⟩ := e
  cases built with
  | required _ | signer _ | executor _ => exact h
  | gate x materials =>
    intro d
    obtain ⟨hlists, hallows, hpublic⟩ := h d
    refine ⟨hlists, hallows, fun hl => (hpublic hl).imp_right ?_⟩
    rintro ⟨f, hf, hmade⟩
    exact ⟨f, hsub hf, hmade⟩

theorem Inv.meant (h : Inv blocks s) {e : Event} (he : e ∈ s.events) : e.Meant s.events := by
  obtain ⟨before, after, hs⟩ := List.append_of_mem he
  exact (h.events before e after hs).mono (hs ▸ List.subset_append_left _ _)

theorem Inv.build (h : Inv blocks s) {x : Built} (hx : Event.Meant s.events ⟨s.process, blocks, x⟩) :
    Inv blocks (s.build blocks x) where
  declared := h.declared
  signers y hy := by
    obtain ⟨e, he, hb⟩ := h.signers y hy
    exact ⟨e, List.mem_append_left _ he, hb⟩
  events := by
    intro before e after he
    have he : s.events ++ [⟨s.process, blocks, x⟩] = before ++ e :: after := he
    rcases List.eq_nil_or_concat after with rfl | ⟨after, last, rfl⟩
    · obtain ⟨rfl, hlast⟩ := List.append_inj' he rfl
      exact (List.cons.inj hlast).1 ▸ hx
    · rw [List.concat_eq_append, ← List.cons_append, ← List.append_assoc] at he
      exact h.events before e after (List.append_inj' he rfl).1
  lexical := by
    intro e he
    rcases List.mem_append.mp he with he | he
    · exact h.lexical e he
    · rw [List.mem_singleton.mp he]
      exact h.declared

theorem Inv.signer (h : Inv blocks s) {x : HmacSha256Signer}
    (hx : Event.Meant s.events ⟨s.process, blocks, .signer x⟩) :
    Inv blocks { s.build blocks (.signer x) with signers := s.signers ++ [x] } where
  declared := h.declared
  signers y hy := by
    rcases List.mem_append.mp hy with hy | hy
    · exact (h.build hx).signers y hy
    · rw [List.mem_singleton.mp hy]
      exact ⟨_, List.mem_append_right _ (List.mem_singleton_self _), rfl⟩
  events := (h.build hx).events
  lexical := (h.build hx).lexical

theorem meant_required (h : Inv blocks s) {what fix : String}
    (hx : s.process.requireDevelopmentIntent repr what fix = .ok ()) :
    Event.Meant s.events ⟨s.process, blocks, .required what⟩ := by
  unfold Process.requireDevelopmentIntent at hx
  split_ifs at hx with hintent
  exact (developmentIntent_iff h.declared).mp hintent

theorem meant_signer (h : Inv blocks s) {secret : Option (List UInt8)} {keyId : String} {x : HmacSha256Signer}
    (hx : s.process.buildLocalProofSigner repr secret keyId = .ok x) :
    Event.Meant s.events ⟨s.process, blocks, .signer x⟩ := by
  unfold Process.buildLocalProofSigner HmacSha256Signer.create at hx
  split_ifs at hx with hlike hpublic
  cases hx
  refine ⟨Bool.not_eq_true _ ▸ hlike, fun hsecret => ?_⟩
  refine (developmentIntent_iff h.declared).mp ?_
  exact by_contra fun hn => hpublic ⟨hsecret, hn⟩

theorem meant_executor (h : Inv blocks s) {c : ExecutorConfig} {x : BuiltExecutor}
    (hx : executorInit repr s.process c = .ok x) : Event.Meant s.events ⟨s.process, blocks, .executor x⟩ := by
  obtain ⟨hlists, hpermits⟩ := executorInit_downgrades hx
  exact fun d => ⟨hlists d, fun hl => allows_of_permits h.declared (hpermits d ((hlists d).mpr hl))⟩

/-- a material with the public secret is from elsewhere or a signer that was built before -/
theorem material_public (h : Inv blocks s) {r : MaterialRef} {m : Material} (hr : s.material r = some m)
    (hm : m.secret = some localProofSecret) : r = .foreign (some localProofSecret) ∨
      ∃ f ∈ s.events, ∃ y, f.built = .signer y ∧ y.secret = localProofSecret ∧ Intended f.process f.blocks := by
  cases r with
  | foreign secret =>
    cases hr
    exact .inl (congrArg MaterialRef.foreign hm)
  | made i =>
    obtain ⟨y, hy, rfl⟩ := Option.map_eq_some_iff.mp hr
    have hsecret : y.secret = localProofSecret := Option.some.inj hm
    obtain ⟨f, hf, hb⟩ := h.signers y (List.mem_of_getElem? hy)
    have hmeant := h.meant hf
    unfold Event.Meant at hmeant
    rw [hb] at hmeant
    exact .inr ⟨f, hf, y, hb, hsecret, hmeant.2 hsecret⟩

theorem meant_gate (h : Inv blocks s) {c : GateConfig} {materials : GateMaterials} {x : BuiltGate}
    (hx : gateInit repr s.process (s.configured c materials) = .ok x) :
    Event.Meant s.events ⟨s.process, blocks, .gate x materials⟩ := by
  obtain ⟨hlists, hpermits⟩ := gate_downgrades hx
  refine fun d => ⟨hlists d, fun hl hne => ?_, fun hl => ?_⟩
  · exact allows_of_permits h.declared (hpermits d ((hlists d).mpr hl) hne)
  · obtain ⟨hsigner, hverifier⟩ := gateInit_materials hx
    rcases hl with ⟨m, hm, hsecret⟩ | hsecret
    · obtain ⟨r, hgiven, hr⟩ := Option.bind_eq_some_iff.mp (hsigner.trans hm)
      exact (material_public h hr hsecret).imp_left fun hforeign => .inr (hgiven.trans (congrArg some hforeign))
    · obtain ⟨r, hgiven, hr⟩ := Option.bind_eq_some_iff.mp hverifier
      exact (material_public h hr hsecret).imp_left fun hforeign => .inl (hgiven.trans (congrArg some hforeign))

/-- **The invariant holds after every program**, whether it returns or raises. -/
theorem inv_run (c : Code) : ∀ {blocks : List String} {s : ProcessState}, Inv blocks s → Inv blocks (run repr blocks c s).2 := by
  induction c with
  | done => exact fun h => h
  | throw e => exact fun h => h
  | require what fix =>
    intro blocks s h
    unfold run
    split
    · rename_i hx
      exact h.build (meant_required h hx)
    · exact h
  | setenv name value => exact fun h => ⟨h.declared, h.signers, h.events, h.lexical⟩
  | unsetenv name => exact fun h => ⟨h.declared, h.signers, h.events, h.lexical⟩
  | signer secret keyId =>
    intro blocks s h
    unfold run
    split
    · rename_i x hx
      exact h.signer (meant_signer h hx)
    · exact h
  | executor c =>
    intro blocks s h
    unfold run
    split
    · rename_i x hx
      exact h.build (meant_executor h hx)
    · exact h
  | gate c materials =>
    intro blocks s h
    unfold run
    split
    · rename_i x hx
      exact h.build (meant_gate h hx)
    · exact h
  | declareForProcess source =>
    intro blocks s h
    unfold run
    split
    · rename_i p hp
      exact ⟨(declareForProcess_ok hp).2.trans h.declared, h.signers, h.events, h.lexical⟩
    · exact h
  | andThen c d ihc ihd =>
    intro blocks s h
    have hc := ihc h
    unfold run
    split
    · rename_i s' hs
      rw [hs] at hc
      exact ihd hc
    · rename_i e s' hs
      rw [hs] at hc
      exact hc
  | within source body ih =>
    intro blocks s h
    unfold run
    split
    · rename_i p hp
      have hbody : Inv (source :: blocks) (run repr (source :: blocks) body { s with process := p }).2 := by
        refine ih ⟨?_, h.signers, h.events, h.lexical⟩
        rw [(declare_ok hp).2]
        rfl
      exact ⟨h.declared, hbody.signers, hbody.events, hbody.lexical⟩
    · exact h
  | attempt c d ihc ihd =>
    intro blocks s h
    have hc := ihc h
    unfold run
    split
    · rename_i s' hs
      rw [hs] at hc
      exact hc
    · rename_i e s' hs
      rw [hs] at hc
      exact ihd hc

end

/-! ## whole programs -/

/-- the state at the start of a process -/
def start (environ : String → Option String) : ProcessState := ⟨⟨environ, none⟩, [], []⟩

theorem inv_start (environ : String → Option String) : Inv [] (start environ) where
  declared := rfl
  signers := List.forall_mem_nil _
  events before e after h := absurd h.symm (List.append_ne_nil_of_right_ne_nil before (List.cons_ne_nil e after))
  lexical := List.forall_mem_nil _

/-- the public secret is refused after a block that used it and raised -/
example :
    let r := run id [] (.andThen (.attempt (.within "block" (.andThen (.signer none "k") (.throw (.refused "")))) .done)
      (.signer none "k")) (start fun _ => none)
    r.1.isSome = true ∧ r.2.signers.length = 1 := by decide +kernel

/-- a program that sets no variable itself -/
def Code.keepsEnviron : Code → Bool
  | .setenv _ _ | .unsetenv _ => false
  | .andThen c d | .attempt c d => c.keepsEnviron && d.keepsEnviron
  | .within _ body => body.keepsEnviron
  | _ => true

/-- the guarantees that something built does not give -/
def Built.Lacks : Built → Downgrade → Prop
  | .required _, _ => False
  | .signer x, d => d = .publicDevelopmentSecret ∧ x.secret = localProofSecret
  | .executor x, d => x.Lacks d
  | .gate x _, d => x.Lacks d

/-- a gate that was given the public secret with an object from elsewhere -/
def Built.ForeignPublic : Built → Prop
  | .gate _ materials => materials.ForeignPublic
  | _ => False

section
variable {repr : String → String} {environ : String → Option String}

/-- in this environment, outside all blocks -/
structure Outside (environ : String → Option String) (s : ProcessState) : Prop where
  same : s.process.environ = environ
  events : ∀ e ∈ s.events, e.process.environ = environ ∧ e.blocks = []

theorem conflicting_environ {p q : Process} (h : p.environ = q.environ) : p.conflicting = q.conflicting := by
  unfold Process.conflicting Process.productionFlagSet Process.inDevelopment Process.normalizedEnvironment
  rw [h]

theorem Outside.build {s : ProcessState} (h : Outside environ s) (x : Built) : Outside environ (s.build [] x) where
  same := h.same
  events := by
    intro e he
    rcases List.mem_append.mp he with he | he
    · exact h.events e he
    · rw [List.mem_singleton.mp he]
      exact ⟨h.same, rfl⟩

theorem outside_run (hconflict : Process.conflicting ⟨environ, none⟩ = true) (c : Code) :
    ∀ {s : ProcessState}, c.keepsEnviron = true → Outside environ s → Outside environ (run repr [] c s).2 := by
  induction c with
  | done => exact fun _ h => h
  | throw e => exact fun _ h => h
  | require what fix =>
    intro s _ h
    unfold run
    split
    · exact h.build _
    · exact h
  | setenv name value => exact fun hc => nomatch hc
  | unsetenv name => exact fun hc => nomatch hc
  | signer secret keyId =>
    intro s _ h
    unfold run
    split
    · rename_i x _
      exact ⟨(h.build (.signer x)).same, (h.build (.signer x)).events⟩
    · exact h
  | executor c =>
    intro s _ h
    unfold run
    split
    · exact h.build _
    · exact h
  | gate c materials =>
    intro s _ h
    unfold run
    split
    · exact h.build _
    · exact h
  | declareForProcess source =>
    intro s _ h
    unfold run
    split
    · rename_i p hp
      have hno := (declareForProcess_ok hp).1
      rw [conflicting_environ (q := ⟨environ, none⟩) h.same, hconflict] at hno
      cases hno
    · exact h
  | andThen c d ihc ihd =>
    intro s hkeeps h
    obtain ⟨hkc, hkd⟩ := Bool.and_eq_true_iff.mp hkeeps
    have hc := ihc hkc h
    unfold run
    split
    · rename_i s' hs
      rw [hs] at hc
      exact ihd hkd hc
    · rename_i e s' hs
      rw [hs] at hc
      exact hc
  | within source body _ =>
    intro s _ h
    unfold run
    split
    · rename_i p hp
      have hno := (declare_ok hp).1
      rw [conflicting_environ (q := ⟨environ, none⟩) h.same, hconflict] at hno
      cases hno
    · exact h
  | attempt c d ihc ihd =>
    intro s hkeeps h
    obtain ⟨hkc, hkd⟩ := Bool.and_eq_true_iff.mp hkeeps
    have hc := ihc hkc h
    unfold run
    split
    · rename_i s' hs
      rw [hs] at hc
      exact hc
    · rename_i e s' hs
      rw [hs] at hc
      exact ihd hkd hc

theorem not_intended {p : Process} {blocks : List String} (henviron : p.environ = environ)
    (hconflict : Process.conflicting ⟨environ, none⟩ = true) : ¬ Intended p blocks := by
  rw [← conflicting_environ (p := p) henviron] at hconflict
  rintro ⟨hflag, hdevelopment⟩
  unfold Process.conflicting at hconflict
  rw [hflag, Bool.false_or, Bool.and_eq_true_iff, decide_eq_true_iff, Bool.not_eq_true'] at hconflict
  rcases hdevelopment with hin | ⟨hempty, -⟩
  · rw [hconflict.2] at hin
    cases hin
  · exact hconflict.1 hempty

/-- a production flag beside an override -/
def flaggedEnviron (name : String) : Option String :=
  if name = "ACTENON_PRODUCTION" ∨ name = "ACTENON_UNSAFE_ALLOW_REPLAY_DISABLED" then some " True\n" else none

/-- a local gate is tried, then an executor without replay protection is built -/
def flaggedCode : Code :=
  .andThen (.attempt (Code.localDev { verifier := none, audience := .inr "service:edge", issuer := .inr "issuer" } 0) .done)
    (.executor { replayProtection := "disabled" })

end

end Posture

end Actenon
