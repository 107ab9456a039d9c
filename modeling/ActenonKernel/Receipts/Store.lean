import ActenonKernel.Lib.Table
import ActenonKernel.Receipts.Dumps
import ActenonKernel.Receipts.Record

/-!
# Artifact stores (`actenon/receipts/store.py`, `writers.py`)

A writer keeps every receipt as a file of a directory, named after its identifier; a store reads the files, and a
store in memory keeps the receipts themselves.  The directory has regular files only.

* `StoredKind`       what a store needs to know of its artifacts;
* `writeArtifact`, `getArtifact`, `listArtifacts`    the files;
* `MemoryStore`        the store in memory;
* `writeBoth`          a writer to both;
* `ArtifactLaws`       what makes an artifact readable again;
* `stores_agree`       the two stores answer alike.
-/

set_option linter.unusedSectionVars false

namespace Actenon

open JsonText

/-! ## files -/

/-- a file of a directory -/
structure ArtifactFile where
  name : String
  text : List Nat

/-- a directory with its files in the order they were made -/
abbrev Folder := Table ArtifactFile.name

/-- `f"{artifact_id}.json"` -/
def artifactName (artifactId : String) : String := artifactId ++ ".json"

/-- an identifier that is a single segment of a path -/
def isSegment (artifactId : String) : Bool :=
  artifactId ≠ "" && artifactId ≠ "." && artifactId ≠ ".." &&
    artifactId.toList.all fun c => c ≠ '/' && c ≠ '\\' && c ≠ '\x00'

/-- `_artifact_file`: the name of the file -/
def artifactFile (artifactId : String) : Option String :=
  if isSegment artifactId then some (artifactName artifactId) else none

/-- what a store needs to know of its artifacts -/
structure StoredKind (α : Type) where
  id : α → String
  toDict : α → Dict
  fromDict : Json → Except PyError α

/-- what the writers and the stores take from the interpreter and the file system -/
structure ArtifactEnv where
  floatText : Rat → Lexeme
  otherText : Dict → Except PyError (List Nat)
  interpreter : StrictLoads.Interpreter
  /-- `open` and `stat` raise an `OSError` for the other names, those that are too long -/
  takesName : String → Bool

def osError {α : Type} (message : String) : Except PyError α := .error ⟨.other "OSError", message⟩

/-- `json.dumps(.., indent=2, sort_keys=True)` -/
def ArtifactEnv.encoder (V : ArtifactEnv) : Encoder := ⟨Layout.indented 2, V.floatText, V.otherText⟩

section
variable {α : Type} (V : ArtifactEnv) (K : StoredKind α)

/-- the text of a file -/
def artifactText (a : α) : Except PyError (List Nat) :=
  (V.encoder.dumps (.obj (K.toDict a))).map fun t => t ++ ['\n'.toNat]

/-- `write_receipt`, `write_refusal`: nothing is written where the text cannot be made -/
def writeArtifact (folder : Folder) (a : α) : Except PyError Unit × Folder :=
  match artifactText V K a with
  | .error e => (.error e, folder)
  | .ok text =>
    if V.takesName (artifactName (K.id a)) then (.ok (), folder.put ⟨artifactName (K.id a), text⟩)
    else (osError "File name too long", folder)

/-- the artifact of a file -/
def readArtifact (file : ArtifactFile) : Except PyError α :=
  loadsValue V.interpreter (.str file.text) >>= K.fromDict

/-- `get_receipt`, `get_refusal` -/
def getArtifact (folder : Folder) (artifactId : String) : Except PyError (Option α) :=
  match artifactFile artifactId with
  | none => .ok none
  | some name =>
    if V.takesName name then
      match folder.find name with
      | none => .ok none
      | some file => do
        let a ← readArtifact V K file
        return if K.id a = artifactId then some a else none
    else osError "File name too long"

/-- `sorted(root.glob("*.json"))` -/
def sortedFiles (files : List ArtifactFile) : List ArtifactFile :=
  (files.filter fun f => ".json".toList.isSuffixOf f.name.toList).insertionSort fun f g => f.name ≤ g.name

/-- `list_receipts`, `list_refusals` -/
def listArtifacts (folder : Folder) : Except PyError (List α) := (sortedFiles folder.rows).mapM (readArtifact V K)

/-- the store in memory, a dictionary by identifier -/
abbrev MemoryStore (K : StoredKind α) := Table K.id

/-- a `CompositeOutcomeWriter` over a writer to the memory and one to the directory -/
def writeBoth (s : Folder × MemoryStore K) (a : α) : Folder × MemoryStore K :=
  ((writeArtifact V K s.1 a).2, s.2.put a)

def noArtifacts (K : StoredKind α) : Folder × MemoryStore K := (⟨[], List.nodup_nil⟩, ⟨[], List.nodup_nil⟩)

/-- a file that the reader takes: its size and the depth of its dictionary are in bounds -/
def fits (a : α) : Bool :=
  match artifactText V K a with
  | .error _ => false
  | .ok text => text.length ≤ StrictLoads.defaultMaxJsonBytes &&
      (Json.obj (K.toDict a)).depth ≤ StrictLoads.defaultMaxJsonDepth

end

/-- a name that stays in its directory -/
def isFileName (name : String) : Bool := name.toList.all fun c => c ≠ '/' && c ≠ '\x00'

/-! ## what is written is read -/

theorem tupleFree_asRead (j : Json) : j.asRead.tupleFree = true := by
  induction j using Json.induct with
  | null | bool b | int n | float f | str s => rfl
  | arr xs ih | tup xs ih =>
    show Json.tupleFreeItems (Json.asReadItems xs) = true
    induction xs with
    | nil => rfl
    | cons x xs ihxs =>
      obtain ⟨ihx, ih⟩ := List.forall_mem_cons.mp ih
      rw [Json.asReadItems, Json.tupleFreeItems, ihx, ihxs ih]
      rfl
  | obj kvs ih =>
    rw [asRead_obj]
    show Json.tupleFreeMembers _ = true
    rw [tupleFreeMembers_eq, List.all_eq_true]
    intro q hq
    obtain ⟨p, hp, rfl⟩ := List.mem_map.mp ((sortDict_perm _).subset hq)
    exact ih p hp

theorem loadsValue_only (I : StrictLoads.Interpreter) (raw : StrictLoads.Raw) :
    StrictLoads.RaisesValueErrors (loadsValue I raw) := by
  unfold loadsValue
  refine Fallible.Raises.bind (StrictLoads.loadsNoDuplicateKeys_only _ raw _ _) fun loaded _ => ?_
  split
  · exact Fallible.Raises.ok _
  · exact StrictLoads.valueError_only _

/-- what the stores rely on: the same dictionary is read as the same artifact -/
structure ArtifactLaws {α : Type} (K : StoredKind α) (Readable : α → Prop) (Same : α → α → Prop) : Prop where
  reads : ∀ {a}, Readable a → ∀ {d : Dict}, (Json.obj d).lawful = true → (Json.obj d).tupleFree = true →
    Dict.Same (K.toDict a) d → ∃ a', K.fromDict (.obj d) = .ok a' ∧ Same a a'
  id : ∀ {a a'}, Same a a' → K.id a = K.id a'

/-- an artifact that can be kept: its file has a name of the directory and its dictionary is a JSON document -/
structure Storable {α : Type} (V : ArtifactEnv) (K : StoredKind α) (Readable : α → Prop) (a : α) : Prop where
  readable : Readable a
  name : isFileName (K.id a) = true
  taken : V.takesName (artifactName (K.id a)) = true
  lawful : (Json.obj (K.toDict a)).lawful = true
  writes : V.encoder.Writes V.interpreter (.obj (K.toDict a))

section
variable {α : Type} {V : ArtifactEnv} {K : StoredKind α}

/-- the file of an artifact -/
def FileOf (V : ArtifactEnv) (K : StoredKind α) (file : ArtifactFile) (a : α) : Prop :=
  file.name = artifactName (K.id a) ∧ artifactText V K a = .ok file.text

theorem artifactName_inj {x y : String} (h : artifactName x = artifactName y) : x = y := by
  have hlist := congrArg String.toList h
  unfold artifactName at hlist
  rw [String.toList_append, String.toList_append] at hlist
  exact String.toList_injective (List.append_cancel_right hlist)

theorem isFileName_artifactName {id : String} (h : isFileName id = true) : isFileName (artifactName id) = true := by
  unfold isFileName artifactName at *
  rw [String.toList_append, List.all_append, h]
  decide

theorem artifactName_json (id : String) : ".json".toList.isSuffixOf (artifactName id).toList = true := by
  unfold artifactName
  rw [String.toList_append, List.isSuffixOf_iff_suffix]
  exact List.suffix_append _ _

theorem fileOf_keys : Table.KeysMatch ArtifactFile.name K.id (FileOf V K) := by
  intro x y x' y' hx hy
  rw [hx.1, hy.1]
  exact ⟨artifactName_inj, congrArg artifactName⟩

variable {Readable : α → Prop}

theorem artifactText_ok {a : α} (h : Storable V K Readable a) : ∃ text, artifactText V K a = .ok text := by
  unfold artifactText
  have hdumps := dumps_spelled h.writes 0
  exact ⟨_, congrArg (Except.map _) hdumps⟩

/-! ## both stores in step -/

/-- both stores in step, with what can be kept -/
structure InStep (V : ArtifactEnv) (K : StoredKind α) (Readable : α → Prop) (s : Folder × MemoryStore K) : Prop where
  files : s.1.Matching (FileOf V K) s.2
  kept : ∀ a ∈ s.2.rows, Storable V K Readable a

/-- a write that both stores see -/
theorem inStep_write {s : Folder × MemoryStore K} (h : InStep V K Readable s) {a : α} (ha : Storable V K Readable a) :
    InStep V K Readable (writeBoth V K s a) := by
  obtain ⟨text, htext⟩ := artifactText_ok ha
  refine ⟨?_, ?_⟩
  · have hwritten : (writeArtifact V K s.1 a).2 = s.1.put ⟨artifactName (K.id a), text⟩ := by
      unfold writeArtifact
      rw [htext]
      exact congrArg Prod.snd (if_pos ha.taken)
    show ((writeArtifact V K s.1 a).2).Matching (FileOf V K) (s.2.put a)
    rw [hwritten]
    exact h.files.put fileOf_keys ⟨rfl, htext⟩
  · intro b hb
    rcases Table.mem_put hb with rfl | hb
    · exact ha
    · exact h.kept b hb

/-- **Writers keep the directory and the memory in step.** -/
theorem inStep_writes {as : List α} (has : ∀ a ∈ as, Storable V K Readable a) :
    InStep V K Readable (as.foldl (writeBoth V K) (noArtifacts K)) := by
  have hrun : ∀ (s : Folder × MemoryStore K), InStep V K Readable s → InStep V K Readable (as.foldl (writeBoth V K) s) := by
    induction as with
    | nil => exact fun s hs => hs
    | cons a as ih =>
      obtain ⟨ha, has⟩ := List.forall_mem_cons.mp has
      exact fun s hs => ih has _ (inStep_write hs ha)
  exact hrun _ ⟨List.Forall₂.nil, fun a ha => nomatch ha⟩

/-- the file that is looked up is the one of the artifact in memory -/
theorem find_file {s : Folder × MemoryStore K} (h : InStep V K Readable s) (id : String) :
    Option.Rel (FileOf V K) (s.1.find (artifactName id)) (s.2.find id) :=
  h.files.find fun file a hfile => by
    rw [hfile.1]
    exact ⟨artifactName_inj, congrArg artifactName⟩

/-- a listing has every file -/
theorem sortedFiles_rows {s : Folder × MemoryStore K} (h : InStep V K Readable s) :
    sortedFiles s.1.rows = s.1.rows.insertionSort fun f g => f.name ≤ g.name := by
  have hall : s.1.rows.filter (fun f => ".json".toList.isSuffixOf f.name.toList) = s.1.rows := by
    rw [List.filter_eq_self]
    intro file hfile
    obtain ⟨a, -, hfile⟩ := h.files.of_mem.1 file hfile
    rw [hfile.1]
    exact artifactName_json _
  unfold sortedFiles
  rw [hall]

theorem getArtifact_noSegment (folder : Folder) {id : String} (hid : isSegment id = false) :
    getArtifact V K folder id = .ok none := by
  unfold getArtifact artifactFile
  rw [hid]
  rfl

theorem getArtifact_untaken (folder : Folder) {id : String} (hsegment : isSegment id = true)
    (htaken : V.takesName (artifactName id) = false) :
    getArtifact V K folder id = osError "File name too long" := by
  unfold getArtifact artifactFile
  rw [if_pos hsegment]
  show (if V.takesName (artifactName id) then _ else _) = _
  rw [htaken]
  rfl

/-- the file of an identifier is looked up by its name -/
theorem getArtifact_taken (folder : Folder) {id : String} (hsegment : isSegment id = true)
    (htaken : V.takesName (artifactName id) = true) :
    getArtifact V K folder id = match folder.find (artifactName id) with
      | none => .ok none
      | some file => readArtifact V K file >>= fun a => .ok (if K.id a = id then some a else none) := by
  unfold getArtifact artifactFile
  rw [if_pos hsegment]
  show (if V.takesName (artifactName id) then _ else _) = _
  rw [if_pos htaken]
  rfl

theorem missing_inStep {s : Folder × MemoryStore K} (h : InStep V K Readable s) {id : String}
    (htaken : V.takesName (artifactName id) = true) (hid : s.2.find id = none) : getArtifact V K s.1 id = .ok none := by
  by_cases hsegment : isSegment id = true
  · have hfile := find_file h id
    rw [getArtifact_taken s.1 hsegment htaken]
    cases hfind : s.1.find (artifactName id) with
    | none => rfl
    | some file =>
      rw [hid, hfind] at hfile
      cases hfile
  · exact getArtifact_noSegment s.1 (Bool.eq_false_of_not_eq_true hsegment)

theorem present_inStep {s : Folder × MemoryStore K} (h : InStep V K Readable s) {id : String} {a : α}
    (hsegment : isSegment id = true) (ha : s.2.find id = some a) :
    ∃ file, FileOf V K file a ∧ Storable V K Readable a ∧ K.id a = id ∧ getArtifact V K s.1 id =
      (readArtifact V K file >>= fun b => .ok (if K.id b = id then some b else none)) := by
  have hkept := h.kept a (List.mem_of_find?_eq_some ha)
  have hid : K.id a = id := Table.key_of_find ha
  have htaken : V.takesName (artifactName id) = true := hid ▸ hkept.taken
  have hfile := find_file h id
  rw [ha] at hfile
  cases hfind : s.1.find (artifactName id) with
  | none =>
    rw [hfind] at hfile
    cases hfile
  | some file =>
    rw [hfind] at hfile
    cases hfile with
    | some hfile =>
      refine ⟨file, hfile, hkept, hid, ?_⟩
      rw [getArtifact_taken s.1 hsegment htaken, hfind]

/-! ## what is read -/

variable (hI : V.interpreter.RoomFor StrictLoads.defaultMaxJsonDepth)
include hI

/-- when the reader takes the file of an artifact, and as what -/
theorem loadsValue_file {a : α} {file : ArtifactFile} (h : Storable V K Readable a) (hfile : FileOf V K file a) (v : Json) :
    loadsValue V.interpreter (.str file.text) = .ok v ↔ v = (Json.obj (K.toDict a)).asRead ∧ fits V K a = true := by
  obtain ⟨t, ht, hline⟩ := Fallible.map_eq_ok.mp hfile.2
  have hblank : V.encoder.layout.Blank := Layout.indented_blank 2
  have hread := loadsValue_dumps (g := ['\n'.toNat]) hI hblank h.writes h.lawful ht (by decide) v
  rw [hline] at hread
  unfold fits
  rw [hfile.2, hread]
  simp

/-- a file that is too large or too deep raises a `ValueError` -/
theorem readArtifact_not_fits {a : α} {file : ArtifactFile} (h : Storable V K Readable a) (hfile : FileOf V K file a)
    (hfits : fits V K a = false) : ∃ e : PyError, e.kind = .valueError ∧ readArtifact V K file = .error e := by
  unfold readArtifact
  cases hload : loadsValue V.interpreter (.str file.text) with
  | ok v =>
    have hyes := ((loadsValue_file hI h hfile v).mp hload).2
    rw [hfits] at hyes
    cases hyes
  | error e => exact ⟨e, loadsValue_only _ _ _ hload, rfl⟩

variable {Same : α → α → Prop} (L : ArtifactLaws K Readable Same)
include L

theorem readArtifact_fits {a : α} {file : ArtifactFile} (h : Storable V K Readable a) (hfile : FileOf V K file a)
    (hfits : fits V K a = true) : ∃ a', readArtifact V K file = .ok a' ∧ Same a a' := by
  have hsame := same_asRead (.obj (K.toDict a))
  have hlawful := lawful_asRead h.lawful
  have hfree := tupleFree_asRead (.obj (K.toDict a))
  have hload := (loadsValue_file hI h hfile _).mpr ⟨rfl, hfits⟩
  unfold readArtifact
  rw [hload, Fallible.ok_bind]
  rw [asRead_obj] at hsame hlawful hfree ⊢
  exact L.reads h.readable hlawful hfree hsame

/-- the files of the listing are those of the memory, in the order of their names -/
theorem listed_inStep {s : Folder × MemoryStore K} (h : InStep V K Readable s) (hfits : ∀ a ∈ s.2.rows, fits V K a = true) :
    ∃ listed, listArtifacts V K s.1 = .ok listed ∧
      List.Forall₂ Same (s.2.rows.insertionSort fun a b => artifactName (K.id a) ≤ artifactName (K.id b)) listed := by
  have hsorted : List.Forall₂ (FileOf V K) (s.1.rows.insertionSort fun f g => f.name ≤ g.name)
      (s.2.rows.insertionSort fun a b => artifactName (K.id a) ≤ artifactName (K.id b)) :=
    h.files.insertionSort fun f a g b hf hg => by rw [hf.1, hg.1]
  have hmem : ∀ a ∈ s.2.rows.insertionSort fun a b => artifactName (K.id a) ≤ artifactName (K.id b),
      Storable V K Readable a ∧ fits V K a = true := by
    intro a ha
    have ha := (List.mem_insertionSort _).mp ha
    exact ⟨h.kept a ha, hfits a ha⟩
  have hfiles := (List.forall₂_and_left _ _).mpr ⟨hmem, hsorted.flip⟩
  unfold listArtifacts
  rw [sortedFiles_rows h]
  exact Fallible.exists_mapM_forall₂ hfiles.flip fun file a ha => readArtifact_fits hI L ha.1.1 ha.2 ha.1.2

/-- one file that the reader refuses is enough -/
theorem unlisted_inStep {s : Folder × MemoryStore K} (h : InStep V K Readable s) {a : α} (ha : a ∈ s.2.rows)
    (hfits : fits V K a = false) : ∃ e : PyError, e.kind = .valueError ∧ listArtifacts V K s.1 = .error e := by
  have hraises : StrictLoads.RaisesValueErrors (listArtifacts V K s.1) := by
    refine Fallible.Raises.mapM fun file hfile => ?_
    rw [sortedFiles_rows h, List.mem_insertionSort] at hfile
    obtain ⟨b, hb, hfile⟩ := h.files.of_mem.1 file hfile
    cases hfits : fits V K b with
    | true =>
      obtain ⟨b', hread, -⟩ := readArtifact_fits hI L (h.kept b hb) hfile hfits
      rw [hread]
      exact Fallible.Raises.ok _
    | false =>
      obtain ⟨e, he, hread⟩ := readArtifact_not_fits hI (h.kept b hb) hfile hfits
      rw [hread]
      exact Fallible.Raises.error he
  obtain ⟨file, hfile, hname⟩ := h.files.of_mem.2 a ha
  cases hlist : listArtifacts V K s.1 with
  | error e => exact ⟨e, hraises e hlist, rfl⟩
  | ok listed =>
    obtain ⟨e, -, hread⟩ := readArtifact_not_fits hI (h.kept a ha) hname hfits
    have hmem : file ∈ sortedFiles s.1.rows := by
      rw [sortedFiles_rows h, List.mem_insertionSort]
      exact hfile
    obtain ⟨b, hb⟩ := Fallible.ok_of_mapM hlist file hmem
    rw [hread] at hb
    cases hb

/-! ## what the stores answer -/

/-- what the directory answers, told by the memory: an artifact whose file the reader takes comes back the same, one
that is too large or too deep raises a `ValueError`, and then so does the listing.  An identifier whose file name the
system does not take raises an `OSError`. -/
structure Answers (V : ArtifactEnv) (K : StoredKind α) (Same : α → α → Prop) (s : Folder × MemoryStore K) : Prop where
  inside : ∀ file ∈ s.1.rows, isFileName file.name = true
  noSegment : ∀ id, isSegment id = false → getArtifact V K s.1 id = .ok none
  missing : ∀ id, V.takesName (artifactName id) = true → s.2.find id = none → getArtifact V K s.1 id = .ok none
  untaken : ∀ id, isSegment id = true → V.takesName (artifactName id) = false →
    ∃ e : PyError, e.kind = .other "OSError" ∧ getArtifact V K s.1 id = .error e
  found : ∀ id a, isSegment id = true → s.2.find id = some a → fits V K a = true →
    ∃ a', getArtifact V K s.1 id = .ok (some a') ∧ Same a a'
  raised : ∀ id a, isSegment id = true → s.2.find id = some a → fits V K a = false →
    ∃ e : PyError, e.kind = .valueError ∧ getArtifact V K s.1 id = .error e
  listed : (∀ a ∈ s.2.rows, fits V K a = true) → ∃ listed, listArtifacts V K s.1 = .ok listed ∧
    List.Forall₂ Same (s.2.rows.insertionSort fun a b => artifactName (K.id a) ≤ artifactName (K.id b)) listed
  unlisted : (∃ a ∈ s.2.rows, fits V K a = false) →
    ∃ e : PyError, e.kind = .valueError ∧ listArtifacts V K s.1 = .error e

/-- **The two stores answer alike**, whatever was written. -/
theorem stores_agree {as : List α} (has : ∀ a ∈ as, Storable V K Readable a) :
    Answers V K Same (as.foldl (writeBoth V K) (noArtifacts K)) := by
  have h := inStep_writes has
  refine ⟨?_, fun id hid => getArtifact_noSegment _ hid, fun id htaken hid => missing_inStep h htaken hid,
    fun id hsegment htaken => ⟨_, rfl, getArtifact_untaken _ hsegment htaken⟩, ?_, ?_, listed_inStep hI L h,
    fun ⟨a, ha, hfits⟩ => unlisted_inStep hI L h ha hfits⟩
  · intro file hfile
    obtain ⟨a, ha, hfile⟩ := h.files.of_mem.1 file hfile
    rw [hfile.1]
    exact isFileName_artifactName (h.kept a ha).name
  · intro id a hsegment ha hfits
    obtain ⟨file, hfile, hkept, rfl, hget⟩ := present_inStep h hsegment ha
    obtain ⟨a', hread, hsame⟩ := readArtifact_fits hI L hkept hfile hfits
    refine ⟨a', ?_, hsame⟩
    rw [hget, hread, Fallible.ok_bind, if_pos (L.id hsame).symm]
  · intro id a hsegment ha hfits
    obtain ⟨file, hfile, hkept, rfl, hget⟩ := present_inStep h hsegment ha
    obtain ⟨e, he, hread⟩ := readArtifact_not_fits hI hkept hfile hfits
    refine ⟨e, he, ?_⟩
    rw [hget, hread]
    rfl

end

end Actenon
