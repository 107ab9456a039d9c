import ActenonKernel.Signers.Managed

/-!
# One key over its life (`docs/reference/ecosystem/KMS_ROTATION_RUNBOOK.md`)

The operator changes the lifecycle tag of a key where the machine allows it, the service changes its own state of
the key as it likes, and any number of signing calls go on at the same time.  A call works with the tag as it was
when its reference was made; the service answers a look with the state of that moment, or fails.

* `KeyWorld`         the tag with its history, the state of the service, the references made;
* `KeyWorld.step`    what the operator, the service and a call can do;
* `SigningRun`       any order of steps in which every call runs the program of its signer;
* `rotation_safe`    when a signing request is made.
-/

set_option linter.unusedSectionVars false

namespace Actenon

namespace Signers

open Program

section
variable {ι : Type} [DecidableEq ι]

/-! ## the world of one key -/

/-- what happens to a key: `load i` makes the reference that the call `i` uses -/
inductive KeyEvent (ι : Type) where
  | retag (target : KeyLifecycleState)
  | service (state : String)
  | load (i : ι)
  | call (i : ι) (e : Event KmsRes)

/-- the tag, the tags before it (the latest first), and the service's own state -/
structure KeyWorld (ι : Type) where
  tag : KeyLifecycleState
  earlier : List KeyLifecycleState
  history : KeyHistory (tag :: earlier)
  state : String
  /-- the tag in the reference of a call -/
  loaded : ι → Option KeyLifecycleState

/-- a new tag is checked by `assert_can_transition` -/
def KeyWorld.retag (w : KeyWorld ι) (target : KeyLifecycleState) : Except KeyLifecycleError (KeyWorld ι) :=
  if h : canTransition w.tag target then
    .ok ⟨target, w.tag :: w.earlier, .cons_cons (canTransition_iff.mp h) w.history, w.state, w.loaded⟩
  else (assertCanTransition w.tag target).bind fun _ => .ok w

/-- the service answers with its state of the key, or fails -/
def KeyWorld.answers (arn : String) (w : KeyWorld ι) (e : Event KmsRes) : Prop :=
  ∀ state, e = ⟨.describeKey arn, .ok state⟩ → state = w.state

def KeyWorld.step (arn : String) (w : KeyWorld ι) : KeyEvent ι → KeyWorld ι → Prop
  | .retag target, w' => w.retag target = .ok w'
  | .service state, w' => w' = { w with state := state }
  | .load i, w' => w.loaded i = none ∧ w' = { w with loaded := Function.update w.loaded i (some w.tag) }
  | .call i e, w' => (w.loaded i).isSome ∧ w.answers arn e ∧ w' = w

def calledBy (i : ι) : KeyEvent ι → Option (Event KmsRes)
  | .call j e => if j = i then some e else none
  | _ => none

/-- the calls to the service that a call of a signer made -/
def callsOf (i : ι) (h : List (KeyEvent ι)) : List (Event KmsRes) := h.filterMap (calledBy i)

/-- a signer with the tag that its reference was made with -/
def ExternalManagedSigner.withStatus (S : ExternalManagedSigner) (s : KeyLifecycleState) : ExternalManagedSigner :=
  { S with key := { S.key with status := s.value } }

/-- any order of steps in which every call runs `sign`, as far as it got -/
structure SigningRun (repr : String → String) (P : Platform) (arn : String) (signer : ι → ExternalManagedSigner)
    (payload : ι → List UInt8) (w : KeyWorld ι) (h : List (KeyEvent ι)) (w' : KeyWorld ι) : Prop where
  start : ∀ i, w.loaded i = none
  follows : Follows (KeyWorld.step arn) w h w'
  key : ∀ i, (signer i).key.providerKeyRef = arn
  programs : ∀ i s, w'.loaded i = some s →
    ∃ p, Reaches (((signer i).withStatus s).sign repr P (payload i) ()) (callsOf i h) p

/-! ## steps -/

variable {repr : String → String} {P : Platform} {arn : String} {signer : ι → ExternalManagedSigner}
  {payload : ι → List UInt8} {w w' : KeyWorld ι} {i : ι}

theorem retag_ok {target : KeyLifecycleState} (h : w.retag target = .ok w') :
    target ∈ allowedTransitions w.tag ∧ w'.loaded = w.loaded ∧ w'.tag = target ∧ w'.earlier = w.tag :: w.earlier := by
  unfold KeyWorld.retag at h
  split_ifs at h with hcan
  · cases h
    exact ⟨canTransition_iff.mp hcan, rfl, rfl, rfl⟩
  · unfold canTransition at hcan
    cases hassert : assertCanTransition w.tag target with
    | error e =>
      rw [hassert] at h
      cases h
    | ok u =>
      rw [hassert] at hcan
      exact absurd rfl hcan

/-- a reference is made once, with the tag of that moment -/
theorem step_loaded {e : KeyEvent ι} (h : w.step arn e w') :
    w'.loaded i = w.loaded i ∨ e = .load i ∧ w.loaded i = none ∧ w'.loaded i = some w.tag := by
  cases e with
  | retag target => exact .inl (congrFun (retag_ok h).2.1 i)
  | service state =>
    subst h
    exact .inl rfl
  | load j =>
    obtain ⟨hnone, rfl⟩ := h
    by_cases hj : i = j
    · subst hj
      exact .inr ⟨rfl, hnone, Function.update_self ..⟩
    · exact .inl (Function.update_of_ne hj ..)
  | call j e =>
    obtain ⟨-, -, rfl⟩ := h
    exact .inl rfl

/-- a reference stays as it was made -/
theorem follows_loaded {h : List (KeyEvent ι)} (hf : Follows (KeyWorld.step arn) w h w') {s : KeyLifecycleState}
    (hs : w.loaded i = some s) : w'.loaded i = some s := by
  refine follows_invariant (I := fun v => v.loaded i = some s) (fun v e v' hstep hv => ?_) hf hs
  rcases step_loaded hstep with heq | ⟨-, hnone, -⟩
  · exact heq.trans hv
  · rw [hnone] at hv
    cases hv

/-- where a reference was made -/
theorem loaded_at {h : List (KeyEvent ι)} (hf : Follows (KeyWorld.step arn) w h w') (hnone : w.loaded i = none)
    {s : KeyLifecycleState} (hs : w'.loaded i = some s) :
    ∃ a b v, h = a ++ .load i :: b ∧ Follows (KeyWorld.step arn) w a v ∧ v.tag = s := by
  induction h generalizing w with
  | nil =>
    cases hf
    rw [hnone] at hs
    cases hs
  | cons e h ih =>
    obtain ⟨v, hstep, hf⟩ := hf
    rcases step_loaded (i := i) hstep with heq | ⟨rfl, -, hload⟩
    · obtain ⟨a, b, u, rfl, ha, htag⟩ := ih hf (heq.trans hnone)
      exact ⟨e :: a, b, u, rfl, ⟨v, hstep, ha⟩, htag⟩
    · rw [follows_loaded hf hload] at hs
      cases hs
      exact ⟨[], h, w, rfl, rfl, rfl⟩

theorem calledBy_eq_some {e : KeyEvent ι} {c : Event KmsRes} : calledBy i e = some c ↔ e = .call i c := by
  cases e with
  | call j d =>
    show (if j = i then some d else none) = some c ↔ _
    by_cases hj : j = i
    · rw [if_pos hj, hj]
      simp
    · rw [if_neg hj]
      simp [hj]
  | _ => simp [calledBy]

/-- where the first call of a signer to the service stands -/
theorem callsOf_eq_cons {h : List (KeyEvent ι)} {c : Event KmsRes} {t : List (Event KmsRes)} (hc : callsOf i h = c :: t) :
    ∃ a b, h = a ++ .call i c :: b ∧ callsOf i a = [] ∧ callsOf i b = t := by
  obtain ⟨a, e, b, rfl, hnone, he, hb⟩ := List.filterMap_eq_cons_iff.mp hc
  exact ⟨a, b, by rw [calledBy_eq_some.mp he], List.filterMap_eq_nil_iff.mpr hnone, hb⟩

theorem callsOf_append (a b : List (KeyEvent ι)) : callsOf i (a ++ b) = callsOf i a ++ callsOf i b :=
  List.filterMap_append

theorem callsOf_call (c : Event KmsRes) (b : List (KeyEvent ι)) : callsOf i (.call i c :: b) = c :: callsOf i b :=
  List.filterMap_cons_some (calledBy_eq_some.mpr rfl)

/-- where a call to the service is made, the reference is there, and the answer is the service's -/
theorem at_call {a b : List (KeyEvent ι)} {c : Event KmsRes}
    (hf : Follows (KeyWorld.step arn) w (a ++ .call i c :: b) w') :
    ∃ v, Follows (KeyWorld.step arn) w a v ∧ (v.loaded i).isSome ∧ v.answers arn c ∧ Follows (KeyWorld.step arn) v b w' := by
  obtain ⟨v, ha, u, ⟨hloaded, hanswers, rfl⟩, hb⟩ := follows_append.mp hf
  exact ⟨u, ha, hloaded, hanswers, hb⟩

/-- a signing request of a call comes after two looks that found the key enabled, and no other calls -/
theorem request_after_looks {h : List (KeyEvent ι)} (hrun : SigningRun repr P arn signer payload w h w')
    {before after : List (KeyEvent ι)} {ref : String} {message : List UInt8} {algorithm : String}
    {answer : Except String (List UInt8)} (hh : h = before ++ .call i ⟨.sign ref message algorithm, answer⟩ :: after) :
    ∃ s, w'.loaded i = some s ∧ callsOf i before = [enabledLook arn, enabledLook arn] ∧ ref = arn ∧ message = payload i ∧
      algorithm = (signer i).key.algorithm ∧ ((signer i).withStatus s).Usable := by
  have hf := hrun.follows
  rw [hh] at hf
  obtain ⟨v, hbefore, hloaded, -, hafter⟩ := at_call hf
  obtain ⟨s, hs⟩ := Option.isSome_iff_exists.mp hloaded
  have hs' := follows_loaded hafter hs
  obtain ⟨p, hp⟩ := hrun.programs i s hs'
  rw [hh, callsOf_append, callsOf_call] at hp
  have hpossible := (signMonitor ((signer i).withStatus s) (payload i)).possible_of_all (fun _ _ _ => trivial) []
    (callsOf i before ++ ⟨.sign ref message algorithm, answer⟩ :: callsOf i after)
  obtain ⟨hallowed, -⟩ := wp_reaches (wp_sign (payload i)) hp hpossible
  have hrequest := (Monitor.allowed_append.mp hallowed).2.1
  rw [signMonitor_run] at hrequest
  obtain ⟨hlooks, href, hmessage, halgorithm, husable⟩ := hrequest
  obtain rfl : ref = arn := href.trans (hrun.key i)
  exact ⟨s, hs', hlooks, rfl, hmessage, halgorithm, husable⟩

theorem usable_active {S : ExternalManagedSigner} {s : KeyLifecycleState} (h : (S.withStatus s).Usable) : s = .active :=
  value_injective ((lower_value s).symm.trans h.status)

/-- **A signing request is made only by a call whose reference was made while the tag was active**, after nothing
was revoked, and after a suspension wherever the key had been retired; the call found the key enabled twice, first
after its reference was made and again before the request; and it is the call's only request, for its own payload. -/
theorem rotation_safe {h : List (KeyEvent ι)} (hrun : SigningRun repr P arn signer payload w h w')
    {before after : List (KeyEvent ι)} {ref : String} {message : List UInt8} {algorithm : String}
    {answer : Except String (List UInt8)} (hh : h = before ++ .call i ⟨.sign ref message algorithm, answer⟩ :: after) :
    ref = arn ∧ message = payload i ∧ algorithm = (signer i).key.algorithm ∧
    (signer i).key.purpose ∈ allowedKeyPurposes ∧ (signer i).key.purpose = (signer i).requiredPurpose ∧
    ∃ a b c d v u₁ u₂,
      before = a ++ .load i :: b ++ .call i (enabledLook arn) :: c ++ .call i (enabledLook arn) :: d ∧
      Follows (KeyWorld.step arn) w a v ∧ v.tag = .active ∧
      (∀ t ∈ v.earlier, ¬ blocked t) ∧
      (∀ recent older, v.earlier = recent ++ .retired :: older → .suspended ∈ recent) ∧
      Follows (KeyWorld.step arn) w (a ++ .load i :: b) u₁ ∧ u₁.state = "Enabled" ∧
      Follows (KeyWorld.step arn) w (a ++ .load i :: b ++ .call i (enabledLook arn) :: c) u₂ ∧ u₂.state = "Enabled" ∧
      callsOf i (a ++ b ++ c ++ d) = [] := by
  obtain ⟨s, hend, hlooks, rfl, rfl, rfl, husable⟩ := request_after_looks hrun hh
  obtain rfl := usable_active husable
  refine ⟨rfl, rfl, rfl, husable.allowed, husable.required, ?_⟩
  obtain ⟨first, rest, rfl, hfirst, hrest⟩ := callsOf_eq_cons hlooks
  obtain ⟨c, d, rfl, hc, hd⟩ := callsOf_eq_cons hrest
  have hf := hrun.follows
  rw [hh] at hf
  obtain ⟨x, hbefore, hx, -, hafter⟩ := at_call hf
  obtain ⟨u₁, hu₁, hloaded, hanswer₁, hlater⟩ := at_call hbefore
  rw [← List.cons_append, ← List.append_assoc] at hbefore
  obtain ⟨u₂, hu₂, -, hanswer₂, -⟩ := at_call hbefore
  -- the reference of the first look is the one the call ends with
  obtain ⟨s, hs⟩ := Option.isSome_iff_exists.mp hloaded
  have hsame := follows_loaded hafter (follows_loaded hlater hs)
  rw [hend] at hsame
  obtain rfl := Option.some.inj hsame
  obtain ⟨a, b, v, rfl, hv, htag⟩ := loaded_at hu₁ (hrun.start i) hs
  have hhistory := v.history
  rw [htag] at hhistory
  refine ⟨a, b, c, d, v, u₁, u₂, by simp, hv, htag, fun t ht hblocked => ?_, fun recent older hsplit => ?_, hu₁,
    (hanswer₁ _ rfl).symm, hu₂, (hanswer₂ _ rfl).symm, ?_⟩
  · rcases never_again hhistory ht hblocked with h | h <;> cases h
  · rw [hsplit] at hhistory
    exact back_by_suspension hhistory
  · rw [callsOf_append, List.append_eq_nil_iff] at hfirst
    have hb : callsOf i b = [] := hfirst.2
    rw [callsOf_append, callsOf_append, callsOf_append, hfirst.1, hb, hc, hd]
    rfl

end

/-! ## a run -/

def sampleManagedKey : ManagedKeyReference where
  provider := "aws-kms"
  providerKeyRef := "arn:1"
  keyId := "issuer:prod"
  algorithm := "EdDSA"
  purpose := "proof_issuance"

def sampleManagedSigner : ExternalManagedSigner where
  key := sampleManagedKey

/-- a key that was retired, suspended and activated again, and a call that signs -/
def sampleKeyRun : List (KeyEvent Unit) :=
  [.retag .retired, .retag .suspended, .retag .active, .load (), .call () (enabledLook "arn:1"), .service "Enabled",
    .call () (enabledLook "arn:1"), .call () ⟨.sign "arn:1" [7] "EdDSA", .ok [1, 2]⟩]

def sampleKeyWorld : KeyWorld Unit := ⟨.active, [], .singleton _, "Enabled", fun _ => none⟩

def sampleKeyEnd : KeyWorld Unit where
  tag := .active
  earlier := [.suspended, .retired, .active]
  history := by
    unfold KeyHistory
    decide
  state := "Enabled"
  loaded := Function.update (fun _ => none) () (some .active)

theorem sampleKeyRun_ok (P : Platform) :
    SigningRun id P "arn:1" (fun _ => sampleManagedSigner) (fun _ => [7]) sampleKeyWorld sampleKeyRun sampleKeyEnd where
  start _ := rfl
  follows := by
    have hlook : ∀ w : KeyWorld Unit, w.state = "Enabled" → w.answers "arn:1" (enabledLook "arn:1") := by
      intro w hw state h
      cases h
      exact hw.symm
    have hsign : ∀ w : KeyWorld Unit, w.answers "arn:1" ⟨.sign "arn:1" [7] "EdDSA", .ok [1, 2]⟩ := by
      intro w state h
      cases h
    exact ⟨_, rfl, _, rfl, _, rfl, _, ⟨rfl, rfl⟩, _, ⟨rfl, hlook _ rfl, rfl⟩, _, rfl, _, ⟨rfl, hlook _ rfl, rfl⟩, _,
      ⟨rfl, hsign _, rfl⟩, rfl⟩
  key _ := rfl
  programs i s hs := by
    cases hs
    exact ⟨_, sign_reaches ⟨by decide +kernel, rfl, by decide +kernel, by decide +kernel, by decide +kernel⟩ (List.cons_ne_nil 1 [2]) [7]⟩

/-- the request of the run: the reference was made after nothing was revoked -/
theorem rotation_safe_sample :
    ∃ a b v, sampleKeyRun.take 7 = a ++ KeyEvent.load () :: b ∧
      Follows (KeyWorld.step "arn:1") sampleKeyWorld a v ∧ v.tag = .active ∧ ∀ t ∈ v.earlier, ¬ blocked t := by
  have hrun : sampleKeyRun = sampleKeyRun.take 7 ++ .call () ⟨.sign "arn:1" [7] "EdDSA", .ok [1, 2]⟩ :: [] := rfl
  obtain ⟨-, -, -, -, -, a, b, c, d, v, -, -, hbefore, hv, htag, hblocked, -⟩ :=
    rotation_safe (sampleKeyRun_ok kernelPlatform) hrun
  exact ⟨a, b ++ .call () (enabledLook "arn:1") :: c ++ .call () (enabledLook "arn:1") :: d, v,
    by rw [hbefore]; simp, hv, htag, hblocked⟩

end Signers

end Actenon
