import ActenonKernel.Anchors.Verify

/-!
# Writers of one anchor log (`actenon/anchors/local_log.py`)

Several writers share a file.  A call reads the file at one time and appends its line at another, and
nothing keeps other calls out in between.

* `LogState`, `logStep`, `logRun`    the file, what the writers have prepared, and the lines appended so far;
* `LogHistory`      how the lines came about, `inv_logRun` for every run;
* `log_readable_iff`    the file can be read as long as no line was prepared from an earlier file;
* `anchors_verify`      and then every anchor that was returned verifies.
-/

set_option linter.unusedSectionVars false

namespace Actenon

/-! ## runs -/

/-- a call that has read the file and not appended its line yet -/
structure PendingCall where
  call : AnchorCall
  seen : Option (List Char)
  entry : Dict

/-- a line that was appended: its call, the file that was read, the file it was appended to, the entry
and what the call returned -/
structure Appended where
  call : AnchorCall
  seen : Option (List Char)
  before : Option (List Char)
  entry : Dict
  anchor : Except PyError ExternalAnchor

/-- the file and the calls of the writers -/
structure LogState (W : Type) where
  content : Option (List Char) := none
  pending : W → Option PendingCall := fun _ => none
  appended : List Appended := []

/-- an access to the file -/
inductive LogAccess (W : Type) where
  /-- a call reads the file and prepares its entry -/
  | read (w : W) (call : AnchorCall)
  /-- a call appends its line -/
  | append (w : W)

section
variable {W : Type} [DecidableEq W] (L : LocalAppendOnlyAnchorLog)

def LogState.setPending (s : LogState W) (w : W) (p : Option PendingCall) : LogState W :=
  { s with pending := fun v => if v = w then p else s.pending v }

/-- the file is read and the entry prepared; a writer makes one call at a time, and a call that raises ends -/
def LogState.beginCall (s : LogState W) (w : W) (call : AnchorCall) : LogState W :=
  match s.pending w, L.prepareEntry s.content call with
  | none, .ok entry => s.setPending w (some { call := call, seen := s.content, entry := entry })
  | _, _ => s

/-- the line is appended and the call returns -/
def LogState.finishCall (s : LogState W) (w : W) : LogState W :=
  match s.pending w with
  | none => s
  | some p =>
    { s.setPending w none with
      content := (L.appendEntry s.content p.entry).2
      appended := s.appended ++ [{
        call := p.call, seen := p.seen, before := s.content, entry := p.entry
        anchor := (L.appendEntry s.content p.entry).1 >>= fun _ => L.entryAnchor p.entry }] }

/-- one access -/
def logStep (s : LogState W) : LogAccess W → LogState W
  | .read w call => s.beginCall L w call
  | .append w => s.finishCall L w

def logRun (accesses : List (LogAccess W)) : LogState W := accesses.foldl (logStep L) {}

end

/-- the line is within the limits of the reader -/
def Appended.Fits (L : LocalAppendOnlyAnchorLog) (a : Appended) : Prop :=
  ∃ t, L.dumps (.obj a.entry) = .ok t ∧ (Text.utf8 t).length ≤ StrictLoads.defaultMaxJsonBytes ∧
    (Json.obj a.entry).depth ≤ StrictLoads.defaultMaxJsonDepth

instance (L : LocalAppendOnlyAnchorLog) (a : Appended) : Decidable (a.Fits L) :=
  match h : L.dumps (.obj a.entry) with
  | .ok t => decidable_of_iff ((Text.utf8 t).length ≤ StrictLoads.defaultMaxJsonBytes ∧
      (Json.obj a.entry).depth ≤ StrictLoads.defaultMaxJsonDepth) (by simp [Appended.Fits, h])
  | .error e => .isFalse fun ⟨t, ht, _⟩ => by rw [h] at ht; cases ht

/-! ## how the lines came about -/

/-- the lines with the calls that appended them -/
inductive LogHistory (L : LocalAppendOnlyAnchorLog) : List LogLine → List Appended → Prop where
  | nil : LogHistory L [] []
  | snoc {ls earlier : List LogLine} {as : List Appended} (h : LogHistory L ls as) (l : LogLine) (a : Appended)
      (hearlier : earlier <+: ls) (hseen : a.seen = contentOf earlier) (hbefore : a.before = contentOf ls)
      (hentry : a.entry = l.entry) (hprepared : L.prepareEntry a.seen a.call = .ok a.entry)
      (hanchor : a.anchor = L.entryAnchor a.entry) : LogHistory L (ls ++ [l]) (as ++ [a])

/-- what holds of every state of a run -/
structure LogState.Inv {W : Type} (L : LocalAppendOnlyAnchorLog) (s : LogState W) (ls : List LogLine) : Prop where
  content : s.content = contentOf ls
  history : LogHistory L ls s.appended
  pending : ∀ w, ∀ p ∈ s.pending w, ∃ earlier, earlier <+: ls ∧ p.seen = contentOf earlier ∧
    L.prepareEntry p.seen p.call = .ok p.entry

section
variable {W : Type} [DecidableEq W] {L : LocalAppendOnlyAnchorLog}
  (hL : L.interpreter.RoomFor StrictLoads.defaultMaxJsonDepth)
include hL

/-- an entry prepared from lines is a line -/
theorem line_of_prepared {ls : List LogLine} {call : AnchorCall} {entry : Dict}
    (h : L.prepareEntry (contentOf ls) call = .ok entry) : ∃ l : LogLine, l.entry = entry := by
  obtain ⟨existing, hread, digest, previous, hash, hp⟩ := prepareEntry_ok.mp h
  obtain ⟨-, -, rfl⟩ := (LocalAppendOnlyAnchorLog.readEntries_content hL ls existing).mp hread
  exact hp.line

/-- one access keeps the invariant, and lines are only added -/
theorem inv_logStep {s : LogState W} {ls : List LogLine} (h : s.Inv L ls) (access : LogAccess W) :
    ∃ more, (logStep L s access).Inv L (ls ++ more) := by
  cases access with
  | read w call =>
    refine ⟨[], ?_⟩
    rw [List.append_nil]
    show (s.beginCall L w call).Inv L ls
    unfold LogState.beginCall
    split
    · rename_i entry hnone hprepare
      refine ⟨h.content, h.history, fun v p hp => ?_⟩
      by_cases hv : v = w
      · have hp' : some { call := call, seen := s.content, entry := entry } = some p := by
          rw [← Option.mem_def.mp hp]
          exact (if_pos hv).symm
        cases hp'
        exact ⟨ls, List.prefix_refl ls, h.content, hprepare⟩
      · have hp' : s.pending v = some p := (if_neg hv).symm.trans hp
        exact h.pending v p hp'
    · exact h
  | append w =>
    show ∃ more, (s.finishCall L w).Inv L (ls ++ more)
    unfold LogState.finishCall
    split
    · refine ⟨[], ?_⟩
      rw [List.append_nil]
      exact h
    · rename_i p hp
      obtain ⟨earlier, hearlier, hseen, hprepared⟩ := h.pending w p hp
      obtain ⟨l, hl⟩ := line_of_prepared hL (hseen ▸ hprepared)
      have hwrite : L.appendEntry s.content p.entry = (.ok (), contentOf (ls ++ [l])) := by
        unfold LocalAppendOnlyAnchorLog.appendEntry
        rw [← hl, LocalAppendOnlyAnchorLog.dumps_canonText l.written, contentOf_append, h.content]
      refine ⟨[l], congrArg Prod.snd hwrite, ?_, fun v q hq => ?_⟩
      · refine LogHistory.snoc h.history l _ hearlier hseen h.content hl.symm hprepared ?_
        show (L.appendEntry s.content p.entry).1 >>= _ = _
        rw [hwrite]
        rfl
      · by_cases hv : v = w
        · have hq' : none = some q := (if_pos hv).symm.trans hq
          cases hq'
        · have hq' : s.pending v = some q := (if_neg hv).symm.trans hq
          obtain ⟨before, hbefore, hrest⟩ := h.pending v q hq'
          exact ⟨before, hbefore.trans (List.prefix_append ls [l]), hrest⟩

/-- **The lines of a run.** -/
theorem inv_logRun (accesses : List (LogAccess W)) : ∃ ls, (logRun L accesses).Inv L ls := by
  have hall : ∀ (s : LogState W) (ls : List LogLine), s.Inv L ls → ∃ ls, (accesses.foldl (logStep L) s).Inv L ls := by
    induction accesses with
    | nil => exact fun s ls h => ⟨ls, h⟩
    | cons access accesses ih =>
      intro s ls h
      obtain ⟨more, hmore⟩ := inv_logStep hL h access
      exact ih _ _ hmore
  exact hall {} [] ⟨rfl, LogHistory.nil, fun w p hp => nomatch hp⟩

end

/-! ## when the file can be read -/

section
variable {L : LocalAppendOnlyAnchorLog} (hL : L.interpreter.RoomFor StrictLoads.defaultMaxJsonDepth)
  {ls earlier : List LogLine} {as : List Appended}

/-- the file of the lines can be read -/
def ReadableLines (L : LocalAppendOnlyAnchorLog) (ls : List LogLine) : Prop :=
  (∀ l ∈ ls, l.Fits) ∧ validateChain L.platform L.profile (ls.map LogLine.read) = .ok ()

theorem fits_iff {l : LogLine} {a : Appended} (h : a.entry = l.entry) : a.Fits L ↔ l.Fits := by
  unfold Appended.Fits
  rw [h, LocalAppendOnlyAnchorLog.dumps_canonText l.written]
  constructor
  · rintro ⟨t, ht, hsize, hdepth⟩
    cases ht
    exact ⟨hsize, hdepth⟩
  · exact fun hl => ⟨l.text, rfl, hl.size, hl.depth⟩

include hL

theorem readable_iff : (∃ es, L.readEntries (contentOf ls) = .ok es) ↔ ReadableLines L ls := by
  simp only [LocalAppendOnlyAnchorLog.readEntries_content hL]
  exact ⟨fun ⟨_, hfits, hvalid, _⟩ => ⟨hfits, hvalid⟩, fun h => ⟨_, h.1, h.2, rfl⟩⟩

/-- a prepared entry with the readable lines it was prepared from -/
theorem prepared_of_lines {call : AnchorCall} {entry : Dict} (h : L.prepareEntry (contentOf ls) call = .ok entry) :
    ReadableLines L ls ∧ ∃ digest previous hash, Prepared L (ls.map LogLine.read) call digest previous hash entry := by
  obtain ⟨existing, hread, hp⟩ := prepareEntry_ok.mp h
  obtain ⟨hfits, hvalid, rfl⟩ := (LocalAppendOnlyAnchorLog.readEntries_content hL ls existing).mp hread
  exact ⟨⟨hfits, hvalid⟩, hp⟩

/-- **One line more**: the file can still be read if the line fits and was prepared from all the lines. -/
theorem readable_snoc {l : LogLine} {a : Appended} (hearlier : earlier <+: ls) (hseen : a.seen = contentOf earlier)
    (hbefore : a.before = contentOf ls) (hentry : a.entry = l.entry)
    (hprepared : L.prepareEntry a.seen a.call = .ok a.entry) :
    ReadableLines L (ls ++ [l]) ↔ ReadableLines L ls ∧ a.seen = a.before ∧ a.Fits L := by
  have hchain := @validateFrom_append L.platform L.profile 1 none (ls.map LogLine.read) l.read
  unfold ReadableLines validateChain
  rw [List.map_append, List.map_singleton, hchain, List.forall_mem_append, List.forall_mem_singleton, fits_iff hentry]
  constructor
  · rintro ⟨⟨hfits, hl⟩, hvalid, hash', haccepted⟩
    -- the entry names its place, which is after the lines it was prepared from
    rw [hseen, hentry] at hprepared
    obtain ⟨-, digest, previous, hash, hp⟩ := prepared_of_lines hL hprepared
    have hplace := hp.place haccepted
    rw [List.length_map] at hplace
    have hall : earlier = ls := hearlier.eq_of_length (by omega)
    exact ⟨⟨hfits, hvalid⟩, by rw [hseen, hbefore, hall], hl⟩
  · rintro ⟨⟨hfits, hvalid⟩, hfresh, hl⟩
    rw [hfresh, hbefore, hentry] at hprepared
    obtain ⟨-, digest, previous, hash, hp⟩ := prepared_of_lines hL hprepared
    exact ⟨⟨hfits, hl⟩, hvalid, hash, hp.accepted hvalid⟩

theorem history_readable (h : LogHistory L ls as) : ReadableLines L ls ↔ ∀ a ∈ as, a.seen = a.before ∧ a.Fits L := by
  induction h with
  | nil => exact iff_of_true ⟨List.forall_mem_nil _, rfl⟩ (List.forall_mem_nil _)
  | snoc h l a hearlier hseen hbefore hentry hprepared hanchor ih =>
    rw [readable_snoc hL hearlier hseen hbefore hentry hprepared, ih, List.forall_mem_append,
      List.forall_mem_singleton]

end

/-- **Calls must not overlap.**  After any accesses of any writers the log can be read if and only if every line
was prepared from the file it was appended to and is within the limits of the reader. -/
theorem log_readable_iff {W : Type} [DecidableEq W] {L : LocalAppendOnlyAnchorLog}
    (hL : L.interpreter.RoomFor StrictLoads.defaultMaxJsonDepth) (accesses : List (LogAccess W)) :
    (∃ entries, L.readEntries (logRun L accesses).content = .ok entries) ↔
      ∀ a ∈ (logRun L accesses).appended, a.seen = a.before ∧ a.Fits L := by
  obtain ⟨ls, h⟩ := inv_logRun hL accesses
  rw [h.content, readable_iff hL, history_readable hL h.history]

/-! ## two writers -/

/-- SHA-256 at the first entries of two writers, whose identifiers differ in one byte -/
def sampleLogHash (m : List UInt8) : List UInt8 :=
  if m[85]? = some 0x31 then
    (Hex.fromHex "4551d71b26c63cdd0595970191fb50c39d57e78b16e207b18368fd3712eb1121".toList).getD []
  else if m[85]? = some 0x32 then
    (Hex.fromHex "e2c145729dbfa0ddc9a0db68b9a8ccd8943c6c331f0f6c7afb86d9a9285a5ebb".toList).getD []
  else List.replicate 32 0

theorem sampleLogHash_ne (m : List UInt8) : sampleLogHash m ≠ [] := by
  unfold sampleLogHash
  split_ifs
  · decide
  · decide
  · decide

def sampleLog : LocalAppendOnlyAnchorLog where
  platform := samplePlatform sampleLogHash
  interpreter := roomyInterpreter
  profile := "ACTENON-JCS-STRICT-1"
  logUri := "file:///var/lib/actenon/anchors.jsonl"
  dumpsFloat _ := typeError "Object of type float is not JSON serializable"
  dumpsOther _ := typeError "keys must be str, int, float, bool or None, not tuple"

def sampleAnchorCall (uuidHex : String) : AnchorCall where
  artifactDigest := .obj (members [("algorithm", .str "sha-256"), ("value", .str "5f70bf18")])
  artifactType := some "receipt"
  anchoredAt := ⟨63911404800000000, by decide⟩
  metadata := some (members [("env", .str "pilot")])
  uuidHex := uuidHex
  lawful := by decide

/-- two calls that both read the file before either appends its line -/
def overlappingCalls : List (LogAccess Bool) :=
  [.read false (sampleAnchorCall "01"), .read true (sampleAnchorCall "02"), .append false, .append true]

theorem log_readable_iff_overlapping :
    ¬ ∃ entries, sampleLog.readEntries (logRun sampleLog overlappingCalls).content = .ok entries := by
  intro hread
  have hfresh := (log_readable_iff roomyInterpreter_room overlappingCalls).mp hread
  have hstale : ((logRun sampleLog overlappingCalls).appended.all fun a => decide (a.seen = a.before)) = false := by
    decide +kernel
  rw [List.all_eq_true.mpr fun a ha => decide_eq_true (hfresh a ha).1] at hstale
  cases hstale

/-! ## calls that do not overlap -/

section
variable {W : Type} [DecidableEq W] {L : LocalAppendOnlyAnchorLog}

/-- the accesses of calls one after the other -/
def accessesOf (calls : List (W × AnchorCall)) : List (LogAccess W) := calls.flatMap fun c => [.read c.1 c.2, .append c.1]

/-- no call is under way, and no line was prepared from an earlier file -/
structure LogState.Quiet (s : LogState W) : Prop where
  pending : ∀ w, s.pending w = none
  fresh : ∀ a ∈ s.appended, a.seen = a.before

/-- a read directly followed by the append is the call: it changes the file as the call does, and returns what
the call returns -/
theorem quiet_call {s : LogState W} (h : s.Quiet) (w : W) (call : AnchorCall) :
    ((s.beginCall L w call).finishCall L w).Quiet ∧
      ((s.beginCall L w call).finishCall L w).content = (L.anchorArtifactDigest s.content call).2 ∧
      ∀ a ∈ ((s.beginCall L w call).finishCall L w).appended, a ∈ s.appended ∨
        a.call = call ∧ a.anchor = (L.anchorArtifactDigest s.content call).1 := by
  unfold LogState.beginCall LocalAppendOnlyAnchorLog.anchorArtifactDigest
  rw [h.pending w]
  cases hprepare : L.prepareEntry s.content call with
  | error e =>
    unfold LogState.finishCall
    dsimp only
    rw [h.pending w]
    exact ⟨h, rfl, fun a ha => Or.inl ha⟩
  | ok entry =>
    unfold LogState.finishCall
    dsimp only
    rw [show (s.setPending w _).pending w = _ from if_pos rfl]
    refine ⟨⟨fun v => ?_, ?_⟩, rfl, ?_⟩
    · by_cases hv : v = w
      · exact if_pos hv
      · refine (if_neg hv).trans ((if_neg hv).trans (h.pending v))
    · exact List.forall_mem_append.mpr ⟨h.fresh, List.forall_mem_singleton.mpr rfl⟩
    · exact List.forall_mem_append.mpr ⟨fun a ha => Or.inl ha, List.forall_mem_singleton.mpr (Or.inr ⟨rfl, rfl⟩)⟩

theorem quiet_run (calls : List (W × AnchorCall)) : (logRun L (accessesOf calls)).Quiet := by
  have hall : ∀ s : LogState W, s.Quiet → ((accessesOf calls).foldl (logStep L) s).Quiet := by
    induction calls with
    | nil => exact fun s h => h
    | cons c calls ih => exact fun s h => ih _ (quiet_call h c.1 c.2).1
  exact hall {} ⟨fun _ => rfl, List.forall_mem_nil _⟩

theorem accessesOf_append (calls more : List (W × AnchorCall)) :
    logRun L (accessesOf (calls ++ more)) = (accessesOf more).foldl (logStep L) (logRun L (accessesOf calls)) := by
  unfold logRun accessesOf
  rw [List.flatMap_append, List.foldl_append]

/-- a log that cannot be read stays as it is -/
theorem stuck_call {s : LogState W} (h : s.Quiet) (hstuck : ¬ ∃ entries, L.readEntries s.content = .ok entries) (w : W)
    (call : AnchorCall) : (s.beginCall L w call).finishCall L w = s := by
  have hprepare : ∀ entry, L.prepareEntry s.content call ≠ .ok entry := by
    intro entry hok
    obtain ⟨existing, hread, -⟩ := prepareEntry_ok.mp hok
    exact hstuck ⟨existing, hread⟩
  unfold LogState.beginCall
  cases hp : L.prepareEntry s.content call with
  | ok entry => exact absurd hp (hprepare entry)
  | error e =>
    rw [h.pending w]
    unfold LogState.finishCall
    dsimp only
    rw [h.pending w]

theorem stuck_calls {s : LogState W} (h : s.Quiet) (hstuck : ¬ ∃ entries, L.readEntries s.content = .ok entries)
    (calls : List (W × AnchorCall)) : (accessesOf calls).foldl (logStep L) s = s := by
  induction calls with
  | nil => rfl
  | cons c calls ih =>
    show (accessesOf calls).foldl (logStep L) ((s.beginCall L c.1 c.2).finishCall L c.1) = s
    rw [stuck_call h hstuck, ih]

/-- a log of calls one after the other can be read as long as the lines fit -/
theorem one_by_one_readable (hL : L.interpreter.RoomFor StrictLoads.defaultMaxJsonDepth) (calls : List (W × AnchorCall)) :
    (∃ entries, L.readEntries (logRun L (accessesOf calls)).content = .ok entries) ↔
      ∀ a ∈ (logRun L (accessesOf calls)).appended, a.Fits L := by
  obtain ⟨ls, h⟩ := inv_logRun hL (accessesOf calls)
  rw [h.content, readable_iff hL, history_readable hL h.history]
  exact forall₂_congr fun a ha => and_iff_right ((quiet_run calls).fresh a ha)

end

/-- **Calls one after the other** keep a log that can be read until a line is beyond the limits of the reader.
From then on every call raises and leaves the file as it is. -/
theorem log_one_by_one {W : Type} [DecidableEq W] {L : LocalAppendOnlyAnchorLog}
    (hL : L.interpreter.RoomFor StrictLoads.defaultMaxJsonDepth) (calls : List (W × AnchorCall)) :
    ((∃ entries, L.readEntries (logRun L (accessesOf calls)).content = .ok entries) ↔
      ∀ a ∈ (logRun L (accessesOf calls)).appended, a.Fits L) ∧
    ((∃ a ∈ (logRun L (accessesOf calls)).appended, ¬ a.Fits L) → ∀ more,
      logRun L (accessesOf (calls ++ more)) = logRun L (accessesOf calls) ∧
        ∀ call, ∃ e, (L.anchorArtifactDigest (logRun L (accessesOf calls)).content call).1 = .error e) := by
  have hquiet := quiet_run (L := L) calls
  have hiff := one_by_one_readable hL calls
  refine ⟨hiff, fun ⟨a, ha, hlong⟩ more => ?_⟩
  have hstuck : ¬ ∃ entries, L.readEntries (logRun L (accessesOf calls)).content = .ok entries :=
    fun hread => hlong (hiff.mp hread a ha)
  refine ⟨?_, fun call => ?_⟩
  · rw [accessesOf_append, stuck_calls hquiet hstuck]
  · unfold LocalAppendOnlyAnchorLog.anchorArtifactDigest
    cases hp : L.prepareEntry (logRun L (accessesOf calls)).content call with
    | error e => exact ⟨e, rfl⟩
    | ok entry =>
      obtain ⟨existing, hread, -⟩ := prepareEntry_ok.mp hp
      exact absurd ⟨existing, hread⟩ hstuck

def sampleCalls : List (Bool × AnchorCall) := [(false, sampleAnchorCall "01")]

theorem sampleCalls_fit : ∀ a ∈ (logRun sampleLog (accessesOf sampleCalls)).appended, a.Fits sampleLog := by
  decide +kernel

theorem log_one_by_one_sample :
    ∃ entries, sampleLog.readEntries (logRun sampleLog (accessesOf sampleCalls)).content = .ok entries :=
  (log_one_by_one roomyInterpreter_room sampleCalls).1.mpr sampleCalls_fit

/-! ## what was returned verifies -/

section
variable {L : LocalAppendOnlyAnchorLog} (hL : L.interpreter.RoomFor StrictLoads.defaultMaxJsonDepth)
  {ls : List LogLine} {as : List Appended}
include hL

/-- the place of every line of a file that can be read -/
theorem history_place (h : LogHistory L ls as) (hr : ReadableLines L ls) (a : Appended) (ha : a ∈ as) :
    ∃ before l after digest previous hash, ls = before ++ l :: after ∧ a.entry = l.entry ∧
      a.anchor = L.entryAnchor a.entry ∧ ReadableLines L before ∧
      Prepared L (before.map LogLine.read) a.call digest previous hash l.entry := by
  induction h with
  | nil => cases ha
  | @snoc ls earlier as h l b hearlier hseen hbefore hentry hprepared hanchor ih =>
    obtain ⟨hls, hfresh, -⟩ := (readable_snoc hL hearlier hseen hbefore hentry hprepared).mp hr
    rcases List.mem_append.mp ha with ha | ha
    · obtain ⟨before, k, after, digest, previous, hash, rfl, hrest⟩ := ih hls ha
      exact ⟨before, k, after ++ [l], digest, previous, hash, by rw [List.append_assoc]; rfl, hrest⟩
    · obtain rfl := List.mem_singleton.mp ha
      rw [hfresh, hbefore, hentry] at hprepared
      obtain ⟨-, digest, previous, hash, hp⟩ := prepared_of_lines hL hprepared
      exact ⟨ls, l, [], digest, previous, hash, rfl, hentry, hanchor, hls, hp⟩

end

section
variable {L : LocalAppendOnlyAnchorLog} {call : AnchorCall} {ls : List LogLine} {digest : Dict} {o : Option Dict}
  {previous : Json} {hash : String} {entry : Dict}
  (hP : ∀ m, L.platform.sha256 m ≠ [])
  (ho : ∀ d ∈ o, ∃ value, value ≠ "" ∧ d.Perm (hashDict L.profile value))
  (h : Prepared L (ls.map LogLine.read) call digest previous hash entry)
include hP ho h

/-- the anchor of an entry as it is read is alike to the one that was returned -/
theorem anchor_alike (sequence : Nat) :
    (call.anchor L digest sequence o hash).asRead.Alike L.profile (call.anchor L digest sequence o hash) := by
  have hhash : hash ≠ "" := hash_ne hP h.hashed
  refine ⟨rfl, rfl, ⟨normalizeArtifactDigest_isDigest h.normalized, rfl⟩, rfl, rfl, rfl, ?_, ?_, rfl, rfl⟩
  · exact sameHash_asRead hhash (List.Perm.refl _)
  · show Option.Rel _ (o.map Dict.asRead) o
    cases o with
    | none => exact Option.Rel.none
    | some d =>
      obtain ⟨value, hne, hd⟩ := ho d rfl
      exact Option.Rel.some (sameHash_asRead hne hd)

/-- the anchor of a call can be sent -/
theorem anchor_sendable (hprofile : L.profile ≠ "") (huri : L.logUri ≠ "") (sequence : Nat) :
    (call.anchor L digest (sequence + 1) o hash).Sendable L.profile := by
  have hid : call.anchorId ≠ "" := by
    intro he
    have hlength := congrArg String.length he
    rw [AnchorCall.anchorId, String.length_append] at hlength
    exact absurd hlength (by simp)
  have hhash : hash ≠ "" := hash_ne hP h.hashed
  refine ⟨hprofile, hid, (by decide : localAppendOnlyAnchorType ≠ ""), huri, ?_,
    normalizeArtifactDigest_isDigest h.normalized, ⟨hash, hhash, List.Perm.refl _, List.Perm.refl _⟩, fun d hd => ?_⟩
  · show (0 : Int) < (sequence + 1 : Nat)
    omega
  · obtain ⟨value, hne, hp⟩ := ho d hd
    exact ⟨value, hne, hp, hp⟩

end

/-- **What was returned verifies.**  As long as the log can be read, every anchor that a call returned verifies
against the digest of the call, as it is or as a dictionary, if and only if its metadata have no tuple. -/
theorem anchors_verify {W : Type} [DecidableEq W] {L : LocalAppendOnlyAnchorLog}
    (hL : L.interpreter.RoomFor StrictLoads.defaultMaxJsonDepth) (hP : ∀ m, L.platform.sha256 m ≠ [])
    (hprofile : L.profile ≠ "") (huri : L.logUri ≠ "") (accesses : List (LogAccess W))
    (hread : ∃ entries, L.readEntries (logRun L accesses).content = .ok entries) :
    ∀ a ∈ (logRun L accesses).appended, ∃ anchor, a.anchor = .ok anchor ∧
      anchor.metadata = a.call.metadata.getD [] ∧
      ∀ x ∈ [Sum.inl anchor, Sum.inr (.obj anchor.toDict)],
        (∃ r, L.verifyExternalAnchor (logRun L accesses).content x a.call.artifactDigest = .ok r ∧
          r.anchoredAt = a.call.anchoredAt) ↔ (Json.obj anchor.metadata).tupleFree = true := by
  intro a ha
  obtain ⟨ls, h⟩ := inv_logRun hL accesses
  rw [h.content] at hread ⊢
  have hreadable := (readable_iff hL).mp hread
  obtain ⟨before, l, after, digest, previous, hash, hls, hentry, hanchor, hbefore, hp⟩ :=
    history_place hL h.history hreadable a ha
  obtain ⟨o, rfl, ho⟩ := previous_sameHash hP hp.linked hbefore.2
  have hshows := hp.shows rfl
  have halike := anchor_alike hP ho hp (before.map LogLine.read).length.succ
  have hsend := anchor_sendable hP ho hp hprofile huri (before.map LogLine.read).length
  obtain ⟨b, hb, hbalike, hbmetadata⟩ := fromDict_toDict hsend
  have hentries : L.readEntries (contentOf ls) =
      .ok (before.map LogLine.read ++ l.read :: after.map LogLine.read) := by
    refine (LocalAppendOnlyAnchorLog.readEntries_content hL ls _).mpr ⟨hreadable.1, hreadable.2, ?_⟩
    rw [hls, List.map_append, List.map_cons]
  have hfind : Dict.find l.entry (.str "artifact_digest") = some (.obj digest) := by
    rw [hp.made]
    simp [find_hashedEntry, find_members_cons]
  -- one verdict for the two forms of the anchor
  have hverify : ∀ x c, LocalAppendOnlyAnchorLog.parsedAnchor x = .ok c →
      (a.call.anchor L digest ((before.map LogLine.read).length + 1) o hash).asRead.Alike L.profile c →
      c.metadata = a.call.metadata.getD [] →
      ((∃ r, L.verifyExternalAnchor (contentOf ls) x a.call.artifactDigest = .ok r ∧
        r.anchoredAt = a.call.anchoredAt) ↔ (Json.obj (a.call.metadata.getD [])).tupleFree = true) := by
    intro x c hx hc hmetadata
    have hverdict := verifies_iff hentries hshows hfind rfl rfl rfl hp.normalized hc hmetadata hx
    by_cases hfree : (Json.obj (a.call.metadata.getD [])).tupleFree = true
    · exact iff_of_true ⟨_, hverdict.trans (if_pos hfree), hc.anchoredAt.symm⟩ hfree
    · refine iff_of_false (fun ⟨_, hr, _⟩ => ?_) hfree
      rw [hverdict.trans (if_neg hfree)] at hr
      cases hr
  refine ⟨_, hanchor.trans (hentry ▸ hshows.entryAnchor), rfl, fun x hx => ?_⟩
  rcases List.mem_cons.mp hx with rfl | hx
  · exact hverify _ _ rfl halike rfl
  · obtain rfl := List.mem_singleton.mp hx
    exact hverify _ b hb (halike.trans hbalike) hbmetadata

theorem anchors_verify_sample : ∃ a anchor r, a ∈ (logRun sampleLog (accessesOf sampleCalls)).appended ∧
    a.anchor = .ok anchor ∧ sampleLog.verifyExternalAnchor (logRun sampleLog (accessesOf sampleCalls)).content
      (.inr (.obj anchor.toDict)) a.call.artifactDigest = .ok r := by
  have hread := (one_by_one_readable roomyInterpreter_room sampleCalls).mpr sampleCalls_fit
  have hfree : (logRun sampleLog (accessesOf sampleCalls)).appended ≠ [] ∧
      ∀ a ∈ (logRun sampleLog (accessesOf sampleCalls)).appended,
        (Json.obj (a.call.metadata.getD [])).tupleFree = true := by
    refine ⟨List.ne_nil_of_length_pos ?_, ?_⟩ <;> decide +kernel
  obtain ⟨a, ha⟩ := List.exists_mem_of_ne_nil _ hfree.1
  obtain ⟨anchor, hanchor, hmetadata, hverify⟩ := anchors_verify roomyInterpreter_room (L := sampleLog)
    sampleLogHash_ne (by decide) (by decide) (accessesOf sampleCalls) hread a ha
  obtain ⟨r, hr, -⟩ := (hverify (.inr (.obj anchor.toDict)) (List.mem_cons_of_mem _ List.mem_cons_self)).mpr
    (hmetadata ▸ hfree.2 a ha)
  exact ⟨a, anchor, r, ha, hanchor, hr⟩

end Actenon
