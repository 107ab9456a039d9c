import ActenonKernel.Anchors.Models

/-!
# The anchor log (`actenon/anchors/local_log.py`)

The log is a file of JSON lines.  A call reads the whole file, checks its chain, makes the next entry
and appends it as a line.  Reading and appending are two accesses to the file, with no lock.

* `LocalAppendOnlyAnchorLog`    what a log takes from outside;
* `readEntries`, `prepareEntry`, `appendEntry`    the accesses of a call, `anchorArtifactDigest` the call;
* `verifyExternalAnchor`;
* `dumps_canonText`       what `json.dumps` writes of a canonical value;
* `LogLine`, `contentOf`    a file of canonical lines, `readEntries_content` what is read of it.
-/

set_option linter.unusedSectionVars false

namespace Actenon

/-! ## the log -/

structure LocalAppendOnlyAnchorLog where
  platform : Platform
  interpreter : StrictLoads.Interpreter
  /-- `CANONICALIZATION_PROFILE` -/
  profile : String
  /-- `self.path.expanduser().resolve().as_uri()` -/
  logUri : String
  /-- `json.dumps` of a float -/
  dumpsFloat : PyFloat → Except PyError (List Char)
  /-- `json.dumps` of a dictionary with keys that are not texts -/
  dumpsOther : Dict → Except PyError (List Char)

/-- the arguments of a call with the time and the fresh identifier it draws -/
structure AnchorCall where
  artifactDigest : Json
  artifactType : Option String := none
  artifactId : Option String := none
  anchoredAt : Datetime
  metadata : Option Dict := none
  /-- `uuid4().hex` -/
  uuidHex : String
  /-- dictionaries have every key once -/
  lawful : ∀ d ∈ metadata, (Json.obj d).lawful = true

def AnchorCall.anchorId (call : AnchorCall) : String := "anc_local_" ++ call.uuidHex

def indexError {α : Type} : Except PyError α := .error ⟨.other "IndexError", "list index out of range"⟩

/-- `xs[i]`, counted from the end where `i` is negative -/
def pyIndex {α : Type} (xs : List α) (i : Int) : Except PyError α :=
  let place := if i < 0 then i + xs.length else i
  if place < 0 then indexError
  else
    match xs[place.toNat]? with
    | some x => .ok x
    | none => indexError

/-- the members of an entry before its hash -/
def AnchorCall.entry (call : AnchorCall) (logUri : String) (digest : Dict) (sequence : Nat) (previousHash : Json) :
    Dict :=
  members [("contract", .obj localAnchorLogEntryContract), ("anchor_contract", .obj externalAnchorContract),
      ("anchor_id", .str call.anchorId), ("anchor_type", .str localAppendOnlyAnchorType),
      ("artifact_digest", .obj digest), ("anchored_at", .str (formatTimestamp call.anchoredAt)),
      ("log_uri", .str logUri), ("sequence", .int sequence), ("previous_entry_hash", previousHash)]
    ++ optMember "artifact_type" (textJson call.artifactType) ++ optMember "artifact_id" (textJson call.artifactId)
    ++ dictMember "metadata" (call.metadata.getD [])

namespace LocalAppendOnlyAnchorLog

variable (L : LocalAppendOnlyAnchorLog)

mutual

/-- `json.dumps(x, ensure_ascii=False, separators=(",", ":"), sort_keys=True)` -/
def dumps : Json → Except PyError (List Char)
  | .null => .ok ['n', 'u', 'l', 'l']
  | .bool true => .ok ['t', 'r', 'u', 'e']
  | .bool false => .ok ['f', 'a', 'l', 's', 'e']
  | .int n => intRepr n
  | .float f => L.dumpsFloat f
  | .str s => .ok (Text.quote s)
  | .arr xs => do
    let ts ← dumpsItems xs
    return Text.joined '[' ']' ts
  | .tup xs => do
    let ts ← dumpsItems xs
    return Text.joined '[' ']' ts
  | .obj kvs =>
    if kvs.all fun p => p.1.isText then do
      let ts ← (sortMembers ((dumpsMembers kvs).map fun p => (p.1.text, p.2))).mapM memberPiece
      return Text.joined '\x7b' '\x7d' ts
    else L.dumpsOther kvs

def dumpsItems : List Json → Except PyError (List (List Char))
  | [] => .ok []
  | x :: xs => do
    let t ← dumps x
    let ts ← dumpsItems xs
    return t :: ts

def dumpsMembers : Dict → List (Key × Except PyError (List Char))
  | [] => []
  | (k, x) :: kvs => (k, dumps x) :: dumpsMembers kvs

end

/-- the loop over the lines of the file -/
def readLines : Nat → List (List Char) → Except PyError (List Dict)
  | _, [] => .ok []
  | lineNumber, line :: lines =>
    if (PyString.strip line).isEmpty then readLines (lineNumber + 1) lines
    else
      match loadsValue L.interpreter (.str (codesOf (PyString.strip line))) with
      | .error e =>
        if e.kind = .valueError then valueError s!"local anchor log line {lineNumber} is not valid JSON" else .error e
      | .ok (.obj entry) => do
        let entries ← readLines (lineNumber + 1) lines
        return entry :: entries
      | .ok _ => valueError s!"local anchor log line {lineNumber} must be a JSON object"

/-- `_read_entries(validate_chain=True)`, where `none` is a file that is not there -/
def readEntries (content : Option (List Char)) : Except PyError (List Dict) :=
  match content with
  | none => .ok []
  | some text => do
    let entries ← L.readLines 1 (PyString.fileLines text)
    validateChain L.platform L.profile entries
    return entries

/-- `existing_entries[-1]["entry_hash"] if existing_entries else None` -/
def previousHash (existing : List Dict) : Except PyError Json :=
  match existing.getLast? with
  | none => .ok .null
  | some entry => Dict.item entry "entry_hash"

/-- `anchor_artifact_digest` up to the entry -/
def prepareEntry (content : Option (List Char)) (call : AnchorCall) : Except PyError Dict := do
  let digest ← normalizeArtifactDigest call.artifactDigest
  let existing ← L.readEntries content
  let previous ← previousHash existing
  let entry := call.entry L.logUri digest (existing.length + 1) previous
  let hash ← computeEntryHash L.platform L.profile entry
  return entry ++ members [("entry_hash", .obj hash)]

/-- `_append_entry`: the file is there afterwards, also where the entry cannot be written -/
def appendEntry (content : Option (List Char)) (entry : Dict) : Except PyError Unit × Option (List Char) :=
  match L.dumps (.obj entry) with
  | .ok t => (.ok (), some (content.getD [] ++ (t ++ ['\n'])))
  | .error e => (.error e, some (content.getD []))

def entryAnchor (entry : Dict) : Except PyError ExternalAnchor := do
  let anchorId ← Dict.item entry "anchor_id" >>= pyStr L.platform
  let anchorType ← Dict.item entry "anchor_type" >>= pyStr L.platform
  let artifactDigest ← Dict.item entry "artifact_digest" >>= normalizeArtifactDigest
  let anchoredAt ← Dict.item entry "anchored_at" >>= (parseTimestamp · "anchored_at")
  let logUri ← Dict.item entry "log_uri" >>= pyStr L.platform
  let sequence ← Dict.item entry "sequence" >>= pyInt L.platform
  let entryHash ← Dict.item entry "entry_hash" >>= (expectMapping · "entry_hash")
  let previousEntryHash ← parseUnlessNone (expectMapping · "previous_entry_hash") (Dict.get entry "previous_entry_hash")
  let metadata ← mappingIfAny (Dict.get entry "metadata") "metadata"
  return {
    anchorId := anchorId, anchorType := anchorType, artifactDigest := artifactDigest, anchoredAt := anchoredAt,
    logUri := logUri, sequence := sequence, entryHash := entryHash, previousEntryHash := previousEntryHash,
    artifactType := (Dict.get entry "artifact_type").textValue?,
    artifactId := (Dict.get entry "artifact_id").textValue?, metadata := metadata }

/-- a call that no other call comes between: its result and the file -/
def anchorArtifactDigest (content : Option (List Char)) (call : AnchorCall) :
    Except PyError ExternalAnchor × Option (List Char) :=
  match L.prepareEntry content call with
  | .error e => (.error e, content)
  | .ok entry => ((L.appendEntry content entry).1 >>= fun _ => L.entryAnchor entry, (L.appendEntry content entry).2)

/-- the anchor as it is given: an `ExternalAnchor`, or a dictionary -/
def parsedAnchor : ExternalAnchor ⊕ Json → Except PyError ExternalAnchor
  | .inl anchor => .ok anchor
  | .inr raw => ExternalAnchor.fromDict raw

def verifyExternalAnchor (content : Option (List Char)) (anchor : ExternalAnchor ⊕ Json) (artifactDigest : Json) :
    Except PyError AnchorVerificationResult := do
  let parsed ← parsedAnchor anchor
  if parsed.anchorType ≠ localAppendOnlyAnchorType then do
    let name ← L.platform.repr (.str parsed.anchorType)
    valueError s!"unsupported external anchor type {name}"
  else if parsed.logUri ≠ L.logUri then
    valueError "external anchor points at a different local log"
  else do
    let matched ← artifactDigestsMatch (.obj parsed.artifactDigest) artifactDigest
    if !matched then
      valueError "external anchor artifact_digest does not match the signed artifact_digest"
    else do
      let entries ← L.readEntries content
      if parsed.sequence > entries.length then
        valueError "external anchor sequence is not present in the local log"
      else do
        let entry ← pyIndex entries (parsed.sequence - 1)
        let entryAnchor ← L.entryAnchor entry
        if !entryAnchor.pyEq parsed then valueError "external anchor does not match the local log entry"
        else return { anchor := parsed, anchoredAt := parsed.anchoredAt }

end LocalAppendOnlyAnchorLog

/-! ## canonical texts as lines -/

section
variable {j : Json} {t : List Char}

/-- a character that is no control character -/
def Printed (c : Char) : Prop := 32 ≤ c.toNat

instance (c : Char) : Decidable (Printed c) := inferInstanceAs (Decidable (32 ≤ c.toNat))

theorem hexDigit_printed {v : Nat} (h : v < 16) : Printed (Hex.digit v) := by
  have e := Hex.toNat_digit h
  unfold Printed
  split at e <;> omega

theorem escape_printed (c : Char) : ∀ d ∈ Text.escape c, Printed d := by
  unfold Text.escape Printed
  split_ifs with _ _ _ _ _ _ _ hcontrol
  all_goals intro d hd
  all_goals simp only [List.mem_cons, List.not_mem_nil, or_false] at hd
  · rcases hd with rfl | rfl <;> decide
  · rcases hd with rfl | rfl <;> decide
  · rcases hd with rfl | rfl <;> decide
  · rcases hd with rfl | rfl <;> decide
  · rcases hd with rfl | rfl <;> decide
  · rcases hd with rfl | rfl <;> decide
  · rcases hd with rfl | rfl <;> decide
  · rcases hd with rfl | rfl | rfl | rfl | rfl | rfl
    · decide
    · decide
    · decide
    · decide
    · exact hexDigit_printed (by omega)
    · exact hexDigit_printed (Nat.mod_lt _ (by decide))
  · subst hd
    omega

theorem quote_printed (s : String) : ∀ c ∈ Text.quote s, Printed c := by
  intro c hc
  rw [Text.quote, List.mem_cons, List.mem_append, List.mem_singleton] at hc
  rcases hc with rfl | hc | rfl
  · decide
  · obtain ⟨d, -, hd⟩ := List.mem_flatMap.mp hc
    exact escape_printed d c hd
  · decide

theorem joined_printed {op cl : Char} (hop : Printed op) (hcl : Printed cl) {ts : List (List Char)}
    (h : ∀ t ∈ ts, ∀ c ∈ t, Printed c) : ∀ c ∈ Text.joined op cl ts, Printed c := by
  have hcomma : Printed ',' := by decide
  have hfollowing : ∀ ts : List (List Char), (∀ t ∈ ts, ∀ c ∈ t, Printed c) → ∀ c ∈ Text.following cl ts, Printed c := by
    intro ts h
    induction ts with
    | nil => exact List.forall_mem_singleton.mpr hcl
    | cons t ts ih =>
      obtain ⟨ht, hts⟩ := List.forall_mem_cons.mp h
      exact List.forall_mem_cons.mpr ⟨hcomma, List.forall_mem_append.mpr ⟨ht, ih hts⟩⟩
  cases ts with
  | nil => exact List.forall_mem_cons.mpr ⟨hop, List.forall_mem_singleton.mpr hcl⟩
  | cons t ts =>
    obtain ⟨ht, hts⟩ := List.forall_mem_cons.mp h
    rw [Text.joined_cons]
    exact List.forall_mem_cons.mpr ⟨hop, List.forall_mem_append.mpr ⟨ht, hfollowing ts hts⟩⟩

theorem intText_printed (n : Int) : ∀ c ∈ Text.intText n, Printed c := by
  have hdigits : ∀ c ∈ Nat.toDigits 10 n.natAbs, Printed c := by
    intro c hc
    have hd := Nat.isDigit_of_mem_toDigits (by decide) (by decide) hc
    unfold Char.isDigit at hd
    simp only [Bool.and_eq_true, decide_eq_true_eq] at hd
    have h48 : 48 ≤ c.toNat := hd.1
    unfold Printed
    omega
  unfold Text.intText
  split
  · exact List.forall_mem_cons.mpr ⟨by decide, hdigits⟩
  · exact hdigits

theorem printed_of_all (h : t.all (fun c => decide (Printed c)) = true) : ∀ c ∈ t, Printed c := by
  intro c hc
  exact of_decide_eq_true (List.all_eq_true.mp h c hc)

/-- **A canonical text has no control characters.** -/
theorem canonText_printed (h : canonText j = .ok t) : ∀ c ∈ t, Printed c := by
  induction j using Json.induct generalizing t with
  | null =>
    cases h
    exact printed_of_all (by decide)
  | bool b => cases b <;> cases h <;> exact printed_of_all (by decide)
  | int n =>
    rw [intRepr_ok h]
    exact intText_printed n
  | float f => cases h
  | str s =>
    cases h
    exact quote_printed s
  | arr xs ih | tup xs ih =>
    obtain ⟨zs, rfl, rfl⟩ := canonText_seq_ok rfl h
    refine joined_printed (by decide) (by decide) (List.forall_mem_map.mpr fun z hz => ?_)
    exact ih z.value (List.mem_map_of_mem hz) z.ok
  | obj kvs ih =>
    obtain ⟨ws, hp, rfl⟩ := canonText_obj_ok h
    refine joined_printed (by decide) (by decide) (List.forall_mem_map.mpr fun w hw => ?_)
    have hvalue := ih w.member (hp.subset (List.mem_map_of_mem hw)) w.ok
    unfold Piece.chars memberText
    exact List.forall_mem_append.mpr ⟨quote_printed _, List.forall_mem_cons.mpr ⟨by decide, hvalue⟩⟩

theorem canonText_isLine (h : canonText j = .ok t) : PyString.IsLine t := by
  intro c hc
  have hprinted : 32 ≤ c.toNat := canonText_printed h c hc
  constructor
  · rintro rfl
    exact absurd hprinted (by decide)
  · rintro rfl
    exact absurd hprinted (by decide)

/-- the text of a dictionary has nothing to strip -/
theorem strip_canonText {kvs : Dict} (h : canonText (.obj kvs) = .ok t) :
    PyString.strip t = t ∧ t.isEmpty = false := by
  obtain ⟨ws, -, rfl⟩ := canonText_obj_ok h
  exact ⟨PyString.strip_eq (by decide) (by decide), rfl⟩

end

/-! ## what `json.dumps` writes of a canonical value -/

namespace LocalAppendOnlyAnchorLog

variable {L : LocalAppendOnlyAnchorLog}

theorem dumpsMembers_eq (kvs : Dict) : L.dumpsMembers kvs = kvs.map fun p => (p.1, L.dumps p.2) := by
  induction kvs with
  | nil => rfl
  | cons p kvs ih =>
    obtain ⟨k, x⟩ := p
    rw [dumpsMembers, ih, List.map_cons]

theorem dumpsItems_eq (xs : List Json) : L.dumpsItems xs = xs.mapM L.dumps := by
  induction xs with
  | nil => rfl
  | cons x xs ih => rw [dumpsItems, ih, List.mapM_cons]

theorem mapM_eq {α β : Type} {f g : α → Except PyError β} {xs : List α} (h : ∀ x ∈ xs, f x = g x) :
    xs.mapM f = xs.mapM g := by
  induction xs with
  | nil => rfl
  | cons x xs ih =>
    obtain ⟨hx, hxs⟩ := List.forall_mem_cons.mp h
    rw [List.mapM_cons, List.mapM_cons, hx, ih hxs]

/-- keys of a dictionary with a canonical text are texts -/
theorem keys_text {kvs : Dict} {t : List Char} (h : canonText (.obj kvs) = .ok t) : ∀ p ∈ kvs, p.1.isText = true := by
  obtain ⟨ws, hp, -⟩ := canonText_obj_ok h
  intro p hpm
  obtain ⟨w, -, rfl⟩ := List.mem_map.mp (hp.symm.subset hpm)
  rfl

/-- **`json.dumps` writes a canonical value in its canonical form.** -/
theorem dumps_canonText {j : Json} {t : List Char} (h : canonText j = .ok t) : L.dumps j = .ok t := by
  induction j using Json.induct generalizing t with
  | null | int n | str s => exact h
  | bool b => cases b <;> exact h
  | float f => cases h
  | arr xs ih | tup xs ih =>
    have hitems : L.dumpsItems xs = canonItems xs := by
      rw [dumpsItems_eq, canonItems_eq]
      refine mapM_eq fun x hx => ?_
      obtain ⟨u, hu, -⟩ := canonText_child h hx
      exact (ih x hx hu).trans hu.symm
    rw [dumps, hitems]
    exact h
  | obj kvs ih =>
    have hmembers : L.dumpsMembers kvs = canonMembers kvs := by
      rw [dumpsMembers_eq, canonMembers_eq]
      refine List.map_congr_left fun p hp => ?_
      obtain ⟨u, hu, -⟩ := canonText_child h (List.mem_map_of_mem hp)
      rw [ih p hp hu, hu]
    have htext := keys_text h
    have hkeys : stringKeys (canonMembers kvs) = .ok ((canonMembers kvs).map fun p => (p.1.text, p.2)) := by
      refine stringKeys_text ?_
      rw [canonMembers_eq]
      exact List.forall_mem_map.mpr htext
    rw [dumps, if_pos (List.all_eq_true.mpr htext), hmembers]
    rw [canonText, hkeys, Fallible.ok_bind] at h
    exact h

/-! ## files of canonical lines -/

end LocalAppendOnlyAnchorLog

/-- an entry with its line -/
structure LogLine where
  entry : Dict
  text : List Char
  written : canonText (.obj entry) = .ok text
  lawful : (Json.obj entry).lawful = true

/-- the entry as it is read -/
def LogLine.read (l : LogLine) : Dict := sortDict (l.entry.map fun p => (p.1, p.2.asRead))

/-- the limits of the reader -/
structure LogLine.Fits (l : LogLine) : Prop where
  size : (Text.utf8 l.text).length ≤ StrictLoads.defaultMaxJsonBytes
  depth : (Json.obj l.entry).depth ≤ StrictLoads.defaultMaxJsonDepth

/-- the file of lines -/
def contentOf : List LogLine → Option (List Char)
  | [] => none
  | l :: ls => some ((l :: ls).flatMap fun l => l.text ++ ['\n'])

theorem contentOf_append (ls : List LogLine) (l : LogLine) :
    contentOf (ls ++ [l]) = some ((contentOf ls).getD [] ++ (l.text ++ ['\n'])) := by
  cases ls with
  | nil => exact congrArg some (List.append_nil _)
  | cons k ls =>
    show some (List.flatMap _ (k :: (ls ++ [l]))) = _
    rw [← List.cons_append, List.flatMap_append, List.flatMap_singleton]
    rfl

namespace LocalAppendOnlyAnchorLog

variable {L : LocalAppendOnlyAnchorLog}

/-- **A file of canonical lines is read** when each of them is within the limits. -/
theorem readLines_texts (hL : L.interpreter.RoomFor StrictLoads.defaultMaxJsonDepth) (ls : List LogLine)
    (n : Nat) (es : List Dict) :
    L.readLines n (ls.map LogLine.text) = .ok es ↔ (∀ l ∈ ls, l.Fits) ∧ es = ls.map LogLine.read := by
  induction ls generalizing n es with
  | nil => exact ⟨fun h => ⟨List.forall_mem_nil _, (Except.ok.inj h).symm⟩, fun h => congrArg Except.ok h.2.symm⟩
  | cons l ls ih =>
    obtain ⟨hstrip, hne⟩ := strip_canonText l.written
    have hraw : StrictLoads.Raw.str (codesOf l.text) ∈ inputsOf (l.text ++ []) := by
      rw [List.append_nil]
      exact List.mem_cons_self
    have hread := fun v => loadsValue_canonText hL l.lawful l.written (g := []) (fun c hc => nomatch hc) hraw v
    rw [List.append_nil] at hread
    rw [List.map_cons, readLines, hstrip, if_neg (by rw [hne]; exact Bool.false_ne_true)]
    cases hv : loadsValue L.interpreter (.str (codesOf l.text)) with
    | error e =>
      refine iff_of_false (fun h => ?_) fun ⟨h, _⟩ => ?_
      · dsimp only at h
        split at h <;> cases h
      · have hl := h l List.mem_cons_self
        have hok := (hread _).mpr ⟨rfl, hl.size, hl.depth⟩
        rw [hv] at hok
        cases hok
    | ok v =>
      obtain ⟨rfl, hsize, hdepth⟩ := (hread v).mp hv
      rw [asRead_obj]
      simp only [Fallible.bind_eq_ok, Fallible.pure_eq_ok, ih, List.forall_mem_cons, List.map_cons]
      constructor
      · rintro ⟨_, ⟨hls, rfl⟩, rfl⟩
        exact ⟨⟨⟨hsize, hdepth⟩, hls⟩, rfl⟩
      · rintro ⟨⟨-, hls⟩, rfl⟩
        exact ⟨_, ⟨hls, rfl⟩, rfl⟩

theorem readEntries_content (hL : L.interpreter.RoomFor StrictLoads.defaultMaxJsonDepth) (ls : List LogLine)
    (es : List Dict) : L.readEntries (contentOf ls) = .ok es ↔
      (∀ l ∈ ls, l.Fits) ∧ validateChain L.platform L.profile (ls.map LogLine.read) = .ok () ∧
        es = ls.map LogLine.read := by
  cases ls with
  | nil => exact ⟨fun h => ⟨List.forall_mem_nil _, rfl, (Except.ok.inj h).symm⟩, fun h => congrArg Except.ok h.2.2.symm⟩
  | cons l ls =>
    have hlines : PyString.fileLines ((l :: ls).flatMap fun l => l.text ++ ['\n']) = (l :: ls).map LogLine.text := by
      have hwritten := @PyString.fileLines_written ((l :: ls).map LogLine.text)
        (List.forall_mem_map.mpr fun l _ => canonText_isLine l.written)
      rw [List.flatMap_map] at hwritten
      exact hwritten
    unfold readEntries contentOf
    dsimp only
    rw [hlines]
    simp only [Fallible.bind_eq_ok, Fallible.pure_eq_ok, readLines_texts hL]
    constructor
    · rintro ⟨_, ⟨hls, rfl⟩, u, hvalid, rfl⟩
      exact ⟨hls, hvalid, rfl⟩
    · rintro ⟨hls, hvalid, rfl⟩
      exact ⟨_, ⟨hls, rfl⟩, (), hvalid, rfl⟩

end LocalAppendOnlyAnchorLog

end Actenon
