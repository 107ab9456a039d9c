import ActenonKernel.Escrow.Backends

/-!
# When the escrows agree (`actenon/escrow/memory.py`, `actenon/escrow/sqlite.py`)

`InMemoryCapabilityEscrow.consume` looks for the states `revoked` and `consumed` only: a record that it has
marked as expired is judged by the clock again, where the other escrow refuses it for good.  For the rest the
escrows differ only in what `SqliteCapabilityEscrow` cannot write or reads back as something else.

* `Host.SameAnswer`   what a caller sees is the same;
* `Call.Regular`      the calls on which the two escrows cannot differ;
* `Simulates`         the rows are read as the records;
* `step_agrees`       one call;
* `runs_agree_iff`    the escrows agree call by call exactly when every call of the run is regular.
-/

set_option linter.unusedSectionVars false

namespace Actenon

namespace Backends

section
variable {T M J Z : Type} [DecidableEq T] [DecidableEq Z] (H : Host T M J Z)

/-! ## what a caller sees -/

/-- two records with the same fields: the same moments, and metadata that is equal -/
structure Host.SameRecord (x y : Record T M Z) : Prop where
  escrowId : x.escrowId = y.escrowId
  pccbId : x.pccbId = y.pccbId
  capability : x.capability = y.capability
  expiresAt : x.expiresAt.moment? = y.expiresAt.moment?
  state : x.state = y.state
  consumedAt : x.consumedAt.map Clock.moment? = y.consumedAt.map Clock.moment?
  metadata : H.equal x.metadata y.metadata = true

/-- the refusal code or the class of an exception -/
inductive EscrowError where
  | refusal (code : String)
  | exception (kind : ErrKind)
deriving DecidableEq, Repr

def escrowError : Raised → EscrowError
  | .refusal e => .refusal e.refusalCode
  | .other e => .exception e.kind

/-- the same record, none in both, or the same error -/
def Host.SameAnswer : Answer T M Z → Answer T M Z → Prop
  | .ok x, .ok y => Option.Rel H.SameRecord x y
  | .error e, .error e' => escrowError e = escrowError e'
  | _, _ => False

/-- what is written as JSON is read as an equal dictionary -/
def Host.Kept (text : J) (metadata : M) : Prop :=
  ∃ loaded, H.loads text = .ok loaded ∧ H.equal loaded metadata = true

/-- **Where the escrows cannot differ.**  The texts can be encoded and the clocks have a moment in range; a new
record has a clock with a time zone and metadata that `json` keeps, and so has a revoked one with its
reason; an issued record and the clock it is consumed at are compared as their moments are; and one that is
marked as expired is consumed only after its end. -/
def Call.Regular (records : Records T M Z) (rows : Rows T J) : Call T M Z → Prop
  | .issue escrowId pccbId capability expiresAt metadata =>
    ∃ p, H.issueParameters escrowId pccbId capability expiresAt metadata = .ok p ∧
      (records.find escrowId = none → expiresAt.moment? ≠ none ∧ H.Kept p.2 (metadata.getD H.noMetadata))
  | .inspect escrowId => H.bind escrowId = .ok ()
  | .consume escrowId _ _ now =>
    H.bind escrowId = .ok () ∧ ∃ u, H.utc now = .ok u ∧ ∀ record row, records.find escrowId = some record →
      rows.find escrowId = some row →
      (record.state = .issued → now.gt record.expiresAt = .ok (row.expiresAt < u)) ∧
      (record.state = .expired → now.gt record.expiresAt = .ok true)
  | .revoke escrowId reason =>
    H.bind escrowId = .ok () ∧ ∀ record row, records.find escrowId = some record → rows.find escrowId = some row →
      ∀ metadata, H.loads row.metadataJson = .ok metadata →
        ∃ text, H.dumps (H.withReason metadata reason) = .ok text ∧ H.Kept text (H.withReason record.metadata reason)

/-- a regular call in which the driver raises nothing -/
def Attempt.Regular (records : Records T M Z) (rows : Rows T J) (a : Attempt T M Z) : Prop :=
  a.failure = none ∧ a.call.Regular H records rows

/-- all calls of a run are regular where they are made -/
def RegularRun : List (Attempt T M Z) → Records T M Z → Rows T J → Prop
  | [], _, _ => True
  | a :: calls, records, rows =>
    a.Regular H records rows ∧ RegularRun calls (a.call.runInMemory H records).2 (a.runSqlite H rows).2

/-! ## the simulation -/

/-- the columns of a row, all but the metadata, are the fields of the record -/
structure SameColumns (row : Row T J) (record : Record T M Z) : Prop where
  escrowId : row.escrowId = record.escrowId
  pccbId : row.pccbId = record.pccbId
  capability : row.capability = record.capability
  expiresAt : some (row.expiresAt.us : Int) = record.expiresAt.moment?
  state : row.state = record.state
  consumedAt : (row.consumedAt.map fun consumedAt => some (consumedAt.us : Int)) = record.consumedAt.map Clock.moment?

/-- a row that is read as the record -/
structure Host.Reads (row : Row T J) (record : Record T M Z) : Prop where
  columns : SameColumns row record
  kept : H.Kept row.metadataJson record.metadata

/-- the rows are read as the records, and their identifiers can be encoded -/
def Simulates (records : Records T M Z) (rows : Rows T J) : Prop :=
  ∀ id, Option.Rel (fun row record => H.bind id = .ok () ∧ H.Reads row record) (rows.find id) (records.find id)

variable {H}
variable {records records' : Records T M Z} {rows rows' : Rows T J} {id : T} {record : Record T M Z} {row : Row T J}

theorem sameRecord_iff {metadata : M} : H.SameRecord (H.recordOf row metadata) record ↔
    SameColumns row record ∧ H.equal metadata record.metadata = true := by
  have hconsumed : (H.recordOf row metadata).consumedAt.map Clock.moment? =
      row.consumedAt.map fun consumedAt => some (consumedAt.us : Int) := Option.map_map ..
  constructor
  · intro h
    exact ⟨⟨h.escrowId, h.pccbId, h.capability, h.expiresAt, h.state, hconsumed.symm.trans h.consumedAt⟩, h.metadata⟩
  · rintro ⟨h, hequal⟩
    exact ⟨h.escrowId, h.pccbId, h.capability, h.expiresAt, h.state, hconsumed.trans h.consumedAt, hequal⟩

/-- the record of one identifier -/
theorem Simulates.cases (h : Simulates H records rows) (id : T) :
    (records.find id = none ∧ rows.find id = none) ∨ ∃ record row, records.find id = some record ∧
      rows.find id = some row ∧ H.bind id = .ok () ∧ H.Reads row record := by
  have hid := h id
  revert hid
  cases rows.find id <;> cases records.find id <;> intro hid
  · exact .inl ⟨rfl, rfl⟩
  · cases hid
  · cases hid
  · cases hid with
    | some hreads => exact .inr ⟨_, _, rfl, rfl, hreads.1, hreads.2⟩

/-- both sides change the record of one identifier -/
theorem Simulates.set (h : Simulates H records rows) (hbind : H.bind id = .ok ())
    (hrecords : ∀ k, records'.find k = if id = k then some record else records.find k)
    (hrows : ∀ k, rows'.find k = if id = k then some row else rows.find k) (hreads : H.Reads row record) :
    Simulates H records' rows' := by
  intro k
  rw [hrecords, hrows]
  split_ifs with hk
  · exact .some ⟨hk ▸ hbind, hreads⟩
  · exact h k

/-! ### what is selected -/

theorem select_error {e : PyError} (hbind : H.bind id = .error e) : H.select rows id = .error e := by
  unfold Host.select
  rw [hbind]
  rfl

theorem select_none (hbind : H.bind id = .ok ()) (hrow : rows.find id = none) : H.select rows id = .ok none := by
  unfold Host.select
  rw [hbind, hrow]
  rfl

theorem select_some (hbind : H.bind id = .ok ()) (hrow : rows.find id = some row) :
    H.select rows id = (H.loads row.metadataJson).map fun metadata => some (row, metadata) := by
  unfold Host.select
  rw [hbind, hrow]
  show (H.loads row.metadataJson >>= fun metadata => .ok (some (row, metadata))) = _
  cases H.loads row.metadataJson <;> rfl

/-- what was written is the record of the other escrow iff it is read as it -/
theorem sameAnswer_reload (written : String) (hbind : H.bind id = .ok ()) (hrow : rows.find id = some row) :
    H.SameAnswer (sqliteReload H rows id written) (.ok (some record)) ↔ H.Reads row record := by
  unfold sqliteReload sqliteInspect
  rw [select_some hbind hrow]
  cases hloads : H.loads row.metadataJson with
  | error e =>
    refine iff_of_false (fun h => h) ?_
    rintro ⟨-, metadata, hmetadata, -⟩
    cases hloads.symm.trans hmetadata
  | ok metadata =>
    constructor
    · rintro ⟨hsame⟩
      obtain ⟨hcolumns, hequal⟩ := sameRecord_iff.mp hsame
      exact ⟨hcolumns, metadata, hloads, hequal⟩
    · rintro ⟨hcolumns, metadata', hmetadata, hequal⟩
      cases hloads.symm.trans hmetadata
      exact .some (sameRecord_iff.mpr ⟨hcolumns, hequal⟩)

theorem sqliteReload_ok (written : String) (hbind : H.bind id = .ok ()) (hrow : rows.find id = some row) {metadata : M}
    (hkept : H.Kept row.metadataJson metadata) : ∃ r, sqliteReload H rows id written = .ok (some r) := by
  obtain ⟨loaded, hloads, -⟩ := hkept
  unfold sqliteReload sqliteInspect
  rw [select_some hbind hrow, hloads]
  exact ⟨_, rfl⟩

/-- an exception is never a refusal -/
theorem not_sameAnswer_refusal {e : PyError} {exc : RefusalException} :
    ¬ H.SameAnswer (.error (.other e)) (raiseRefusal exc) := fun h => nomatch (show EscrowError.exception _ = .refusal _ from h)

theorem not_sameAnswer_codes {exc exc' : RefusalException} (h : exc.refusalCode ≠ exc'.refusalCode) :
    ¬ H.SameAnswer (raiseRefusal exc) (raiseRefusal exc') := fun hsame => h (EscrowError.refusal.inj hsame)

theorem sameAnswer_refusal (exc : RefusalException) : H.SameAnswer (raiseRefusal exc) (raiseRefusal exc) := rfl

/-! ### one call -/

/-- the two escrows give the same on a regular call, and on no other, and stay related -/
def StepAgrees (H : Host T M J Z) (records : Records T M Z) (rows : Rows T J) (c : Call T M Z) : Prop :=
  (H.SameAnswer (c.runSqlite H rows).1 (c.runInMemory H records).1 ↔ c.Regular H records rows) ∧
    (c.Regular H records rows → Simulates H (c.runInMemory H records).2 (c.runSqlite H rows).2)

section
variable {c : Call T M Z}

/-- where the two answers are the same and the call is regular -/
theorem stepAgrees_of (hregular : c.Regular H records rows)
    (hsame : H.SameAnswer (c.runSqlite H rows).1 (c.runInMemory H records).1)
    (hsim : Simulates H (c.runInMemory H records).2 (c.runSqlite H rows).2) : StepAgrees H records rows c :=
  ⟨iff_of_true hsame hregular, fun _ => hsim⟩

/-- where they differ and it is not -/
theorem stepAgrees_not (hregular : ¬ c.Regular H records rows)
    (hdiffer : ¬ H.SameAnswer (c.runSqlite H rows).1 (c.runInMemory H records).1) : StepAgrees H records rows c :=
  ⟨iff_of_false hdiffer hregular, fun h => absurd h hregular⟩

/-- where both refuse alike and change nothing -/
theorem stepAgrees_refused (h : Simulates H records rows) {exc : RefusalException} (hregular : c.Regular H records rows)
    (hsqlite : c.runSqlite H rows = (raiseRefusal exc, rows))
    (hmemory : c.runInMemory H records = (raiseRefusal exc, records)) : StepAgrees H records rows c := by
  refine stepAgrees_of hregular ?_ ?_
  · rw [hsqlite, hmemory]
    exact sameAnswer_refusal exc
  · rw [hsqlite, hmemory]
    exact h

/-- where both write a record: they agree iff the row is read as the record -/
theorem stepAgrees_written (h : Simulates H records rows) (hbind : H.bind id = .ok ()) {written : String}
    (hrecords : ∀ k, records'.find k = if id = k then some record else records.find k)
    (hrows : ∀ k, rows'.find k = if id = k then some row else rows.find k)
    (hsqlite : c.runSqlite H rows = (sqliteReload H rows' id written, rows'))
    (hmemory : c.runInMemory H records = (.ok (some record), records'))
    (hregular : c.Regular H records rows ↔ H.Reads row record) : StepAgrees H records rows c := by
  constructor
  · rw [hsqlite, hmemory, hregular]
    exact sameAnswer_reload written hbind ((hrows id).trans (if_pos rfl))
  · rw [hsqlite, hmemory, hregular]
    exact h.set hbind hrecords hrows

end

theorem step_inspect (h : Simulates H records rows) (id : T) : StepAgrees H records rows (.inspect id) := by
  cases hbind : H.bind id with
  | error e =>
    refine stepAgrees_not (fun hregular => nomatch hbind.symm.trans hregular) ?_
    show ¬ H.SameAnswer (sqliteInspect H rows id) (.ok (records.find id))
    unfold sqliteInspect
    rw [select_error hbind]
    exact fun h => h
  | ok u =>
    refine stepAgrees_of hbind ?_ h
    show H.SameAnswer (sqliteInspect H rows id) (.ok (records.find id))
    unfold sqliteInspect
    rcases h.cases id with ⟨hm, hr⟩ | ⟨record, row, hm, hr, -, hreads⟩
    · rw [select_none hbind hr, hm]
      exact .none
    · obtain ⟨metadata, hloads, hequal⟩ := hreads.kept
      rw [select_some hbind hr, hm, hloads]
      exact .some (sameRecord_iff.mpr ⟨hreads.columns, hequal⟩)

/-! ### `issue` -/

theorem issueParameters_ok {escrowId pccbId capability : T} {expiresAt : Clock Z} {metadata : Option M} {p : Datetime × J}
    (hp : H.issueParameters escrowId pccbId capability expiresAt metadata = .ok p) :
    H.utc expiresAt = .ok p.1 ∧ H.bind escrowId = .ok () := by
  obtain ⟨moment, hmoment, hp⟩ := Fallible.bind_eq_ok.mp hp
  obtain ⟨text, -, hp⟩ := Fallible.bind_eq_ok.mp hp
  obtain ⟨⟨⟩, hbind, hp⟩ := Fallible.bind_eq_ok.mp hp
  obtain ⟨-, -, hp⟩ := Fallible.bind_eq_ok.mp hp
  obtain ⟨-, -, hp⟩ := Fallible.bind_eq_ok.mp hp
  cases hp
  exact ⟨hmoment, hbind⟩

/-- a clock with a time zone keeps its moment -/
theorem utc_moment {clock : Clock Z} {u : Datetime} (hu : H.utc clock = .ok u) (hzone : clock.moment? ≠ none) :
    some (u.us : Int) = clock.moment? := by
  cases clock with
  | naive wall => exact absurd rfl hzone
  | aware zone wall moment =>
    exact congrArg some (ofInt_us hu)

theorem step_issue (h : Simulates H records rows) (escrowId pccbId capability : T) (expiresAt : Clock Z)
    (metadata : Option M) : StepAgrees H records rows (.issue escrowId pccbId capability expiresAt metadata) := by
  have hsqlite : (Call.issue escrowId pccbId capability expiresAt metadata).runSqlite H rows =
      sqliteIssue H rows escrowId pccbId capability expiresAt metadata := rfl
  have hmemory : (Call.issue escrowId pccbId capability expiresAt metadata).runInMemory H records =
      memoryIssue H records escrowId pccbId capability expiresAt metadata := rfl
  unfold sqliteIssue at hsqlite
  unfold memoryIssue at hmemory
  cases hp : H.issueParameters escrowId pccbId capability expiresAt metadata with
  | error e =>
    rw [hp] at hsqlite
    refine stepAgrees_not (fun ⟨p, hok, _⟩ => nomatch hp.symm.trans hok) ?_
    rw [hsqlite, hmemory]
    cases (records.find escrowId).isSome with
    | true => exact not_sameAnswer_refusal
    | false => exact fun h => h
  | ok p =>
    obtain ⟨moment, text⟩ := p
    obtain ⟨hmoment, hbind⟩ := issueParameters_ok hp
    rw [hp] at hsqlite
    dsimp only at hsqlite
    rcases h.cases escrowId with ⟨hm, hr⟩ | ⟨record, row, hm, hr, -, -⟩
    · rw [hr, Option.isSome_none, if_neg Bool.false_ne_true] at hsqlite
      rw [hm, Option.isSome_none, if_neg Bool.false_ne_true] at hmemory
      refine stepAgrees_written h hbind (Table.find_put records rfl) (Table.find_insert_of_none hr) hsqlite hmemory ?_
      constructor
      · rintro ⟨p, hok, hnew⟩
        cases hp.symm.trans hok
        obtain ⟨hzone, hkept⟩ := hnew hm
        exact ⟨⟨rfl, rfl, rfl, utc_moment hmoment hzone, rfl, rfl⟩, hkept⟩
      · intro hreads
        refine ⟨_, hp, fun _ => ⟨fun hnone => ?_, hreads.kept⟩⟩
        cases hreads.columns.expiresAt.trans hnone
    · rw [hr, Option.isSome_some, if_pos rfl] at hsqlite
      rw [hm, Option.isSome_some, if_pos rfl] at hmemory
      exact stepAgrees_refused h ⟨_, hp, fun hnone => nomatch hm.symm.trans hnone⟩ hsqlite hmemory

/-! ### `revoke` -/

theorem step_revoke (h : Simulates H records rows) (escrowId reason : T) :
    StepAgrees H records rows (.revoke escrowId reason) := by
  have hsqlite : (Call.revoke escrowId reason).runSqlite H rows = sqliteRevoke H rows escrowId reason := rfl
  have hmemory : (Call.revoke escrowId reason).runInMemory H records = memoryRevoke H records escrowId reason := rfl
  unfold sqliteRevoke at hsqlite
  unfold memoryRevoke at hmemory
  rcases h.cases escrowId with ⟨hm, hr⟩ | ⟨record, row, hm, hr, hbind, hreads⟩
  · rw [hm] at hmemory
    cases hbind : H.bind escrowId with
    | error e =>
      rw [select_error hbind] at hsqlite
      refine stepAgrees_not (fun hregular => nomatch hbind.symm.trans hregular.1) ?_
      rw [hsqlite, hmemory]
      exact not_sameAnswer_refusal
    | ok u =>
      rw [select_none hbind hr] at hsqlite
      exact stepAgrees_refused h ⟨hbind, fun record row hrecord => nomatch hm.symm.trans hrecord⟩ hsqlite hmemory
  · obtain ⟨metadata, hloads, hequal⟩ := hreads.kept
    rw [select_some hbind hr, hloads] at hsqlite
    rw [hm] at hmemory
    dsimp only [Except.map] at hsqlite hmemory
    cases hdumps : H.dumps (H.withReason metadata reason) with
    | error e =>
      rw [hdumps] at hsqlite
      refine stepAgrees_not ?_ ?_
      · rintro ⟨-, hregular⟩
        obtain ⟨text, htext, -⟩ := hregular record row hm hr metadata hloads
        cases hdumps.symm.trans htext
      · rw [hsqlite, hmemory]
        exact fun h => h
    | ok text =>
      rw [hdumps] at hsqlite
      have hid : row.escrowId = escrowId := Table.key_of_find hr
      have hid' : ({ record with
          state := .revoked, metadata := H.withReason record.metadata reason } : Record T M Z).escrowId = escrowId :=
        show record.escrowId = escrowId from Table.key_of_find hm
      have hrows := Table.find_update_one (p := fun row : Row T J => row.escrowId = escrowId)
        (f := fun row => { row with state := .revoked, metadataJson := text }) (fun _ => rfl) hr (decide_eq_true hid)
        fun _ => of_decide_eq_true
      refine stepAgrees_written h hbind (Table.find_put records hid') hrows hsqlite hmemory ?_
      have hcolumns := hreads.columns
      constructor
      · rintro ⟨-, hregular⟩
        obtain ⟨text', htext, hkept⟩ := hregular record row hm hr metadata hloads
        cases hdumps.symm.trans htext
        exact ⟨⟨hcolumns.escrowId, hcolumns.pccbId, hcolumns.capability, hcolumns.expiresAt, rfl,
          hcolumns.consumedAt⟩, hkept⟩
      · intro hnew
        refine ⟨hbind, fun record' row' hrecord hrow metadata' hmetadata => ?_⟩
        cases hm.symm.trans hrecord
        cases hr.symm.trans hrow
        cases hloads.symm.trans hmetadata
        exact ⟨text, hdumps, hnew.kept⟩

/-! ### `consume` -/

theorem utc_error {clock : Clock Z} {e : PyError} (he : H.utc clock = .error e) : e.kind ≠ .typeError := by
  cases clock with
  | aware zone wall moment =>
    unfold Host.utc Datetime.ofInt at he
    dsimp only at he
    split_ifs at he
    cases he
    decide
  | naive wall =>
    unfold Host.utc at he
    dsimp only at he
    split at he
    · cases he
    · cases he
      decide
    · cases he
      decide

theorem gt_error {x y : Clock Z} {e : PyError} (he : x.gt y = .error e) : e.kind = .typeError := by
  cases x <;> cases y <;> cases he <;> rfl

/-- a clock that is compared with one with a time zone has one -/
theorem gt_ok {x y : Clock Z} {b : Bool} (hgt : x.gt y = .ok b) (hy : y.moment? ≠ none) : x.moment? ≠ none := by
  cases x with
  | aware zone wall moment => exact Option.some_ne_none _
  | naive wall =>
    cases y with
    | aware zone wall moment => cases hgt
    | naive wall => exact absurd rfl hy

/-- the dictionary's `consume` never raises what `astimezone` raises -/
theorem memoryConsume_error {escrowId pccbId capability : T} {now : Clock Z} {e : PyError}
    (he : e.kind ≠ .typeError) : ¬ H.SameAnswer (.error (.other e)) (memoryConsume records escrowId pccbId capability now).1 := by
  unfold memoryConsume
  split
  · exact not_sameAnswer_refusal
  · split
    · exact not_sameAnswer_refusal
    · split
      · exact not_sameAnswer_refusal
      · split
        · rename_i e' he'
          intro h
          exact he ((EscrowError.exception.inj h).trans (gt_error he'))
        · exact not_sameAnswer_refusal
        · split
          · exact not_sameAnswer_refusal
          · split
            · exact not_sameAnswer_refusal
            · exact fun h => h

theorem Row.isIssued_iff {row : Row T J} : row.isIssued id = true ↔ row.escrowId = id ∧ row.state = .issued := by
  unfold Row.isIssued
  rw [Bool.and_eq_true, decide_eq_true_iff, decide_eq_true_iff]

theorem isIssued_found (hr : rows.find id = some row) (hs : row.state = .issued) : row.isIssued id = true :=
  Row.isIssued_iff.mpr ⟨Table.key_of_find hr, hs⟩

/-- the guarded update finds the one row that was read -/
theorem sqliteTake_issued (hr : rows.find id = some row) (hs : row.state = .issued) (u : Datetime) :
    sqliteTake H rows id u = (sqliteReload H (sqliteMark rows id u) id "consumed", sqliteMark rows id u) := by
  have hcount := Table.count_eq rows id (fun row => row.state = .issued)
  rw [hr] at hcount
  have hone : rows.count (Row.isIssued id) = 1 := hcount.trans (if_pos (by simp [hs]))
  unfold sqliteTake
  rw [if_neg (not_not.mpr hone)]

theorem find_sqliteMark (hr : rows.find id = some row) (hs : row.state = .issued) (u : Datetime) (k : T) :
    (sqliteMark rows id u).find k =
      if id = k then some { row with state := .consumed, consumedAt := some u } else rows.find k :=
  Table.find_update_one _ hr (isIssued_found hr hs) (fun _ hx => (Row.isIssued_iff.mp hx).1) k

theorem find_sqliteExpire (hr : rows.find id = some row) (hs : row.state = .issued) (k : T) :
    (sqliteExpire rows id).find k = if id = k then some { row with state := .expired } else rows.find k :=
  Table.find_update_one _ hr (isIssued_found hr hs) (fun _ hx => (Row.isIssued_iff.mp hx).1) k

/-- a row that stays -/
theorem find_same (hr : rows.find id = some row) (k : T) : rows.find k = if id = k then some row else rows.find k := by
  split_ifs with hk
  · exact hk ▸ hr
  · rfl

/-- a record that is taken is read back, and the answer is no error -/
theorem not_sameAnswer_taken (hr : rows.find id = some row) (hbind : H.bind id = .ok ()) (hreads : H.Reads row record)
    (hs : record.state = .issued) (u : Datetime) {answer : Answer T M Z} (herror : ∀ found, answer ≠ .ok found) :
    ¬ H.SameAnswer (sqliteTake H rows id u).1 answer := by
  have hs' : row.state = .issued := hreads.columns.state.trans hs
  obtain ⟨r, hreload⟩ :=
    sqliteReload_ok "consumed" hbind ((find_sqliteMark hr hs' u id).trans (if_pos rfl)) hreads.kept
  rw [sqliteTake_issued hr hs', hreload]
  intro hsame
  cases answer with
  | ok found => exact herror found rfl
  | error e => exact hsame

/-- the condition on a `consume` that finds a record -/
theorem regular_consume (pccbId capability : T) {now : Clock Z} {u : Datetime} (hm : records.find id = some record)
    (hr : rows.find id = some row) (hbind : H.bind id = .ok ()) (hu : H.utc now = .ok u) :
    (Call.consume id pccbId capability now).Regular H records rows ↔
      (record.state = .issued → now.gt record.expiresAt = .ok (row.expiresAt < u)) ∧
      (record.state = .expired → now.gt record.expiresAt = .ok true) := by
  constructor
  · rintro ⟨-, u', hu', hregular⟩
    cases hu.symm.trans hu'
    exact hregular record row hm hr
  · intro hregular
    refine ⟨hbind, u, hu, fun record' row' hrecord hrow => ?_⟩
    cases hm.symm.trans hrecord
    cases hr.symm.trans hrow
    exact hregular

section
variable {pccbId capability : T} {now : Clock Z} {u : Datetime}

section
variable (hm : records.find id = some record) (hs : record.state ≠ .revoked ∧ record.state ≠ .consumed)
include hm hs

theorem memoryConsume_raised {e : PyError} (hgt : now.gt record.expiresAt = .error e) :
    memoryConsume records id pccbId capability now = (.error (.other e), records) := by
  unfold memoryConsume
  rw [hm]
  dsimp only
  rw [if_neg hs.1, if_neg hs.2, hgt]

theorem memoryConsume_late (hgt : now.gt record.expiresAt = .ok true) :
    memoryConsume records id pccbId capability now =
      (raiseRefusal (escrowValidationError "ESCROW_EXPIRED" "The escrow record has expired."),
        records.put { record with state := .expired }) := by
  unfold memoryConsume
  rw [hm]
  dsimp only
  rw [if_neg hs.1, if_neg hs.2, hgt]

theorem memoryConsume_early (hgt : now.gt record.expiresAt = .ok false) :
    memoryConsume records id pccbId capability now =
      if record.pccbId ≠ pccbId then
        (raiseRefusal (escrowValidationError "ESCROW_PCCB_MISMATCH"
          "The escrow record does not match the proof."), records)
      else if record.capability ≠ capability then
        (raiseRefusal (escrowValidationError "ESCROW_CAPABILITY_MISMATCH"
          "The escrow record does not match the requested capability."), records)
      else
        (.ok (some { record with state := .consumed, consumedAt := some now }),
          records.put { record with state := .consumed, consumedAt := some now }) := by
  unfold memoryConsume
  rw [hm]
  dsimp only
  rw [if_neg hs.1, if_neg hs.2, hgt]

end

section
variable (h : Simulates H records rows) (hm : records.find id = some record) (hr : rows.find id = some row)
  (hbind : H.bind id = .ok ()) (hreads : H.Reads row record) (hu : H.utc now = .ok u)
include h hm hr hbind hreads hu

/-- the branch that the dictionary's `consume` lacks -/
theorem step_consume_expired (hs : record.state = .expired)
    (hsqlite : (Call.consume id pccbId capability now).runSqlite H rows =
      (raiseRefusal (escrowValidationError "ESCROW_EXPIRED" "The escrow record has expired."), rows)) :
    StepAgrees H records rows (.consume id pccbId capability now) := by
  have hregular := regular_consume pccbId capability hm hr hbind hu
  have hopen : record.state ≠ .revoked ∧ record.state ≠ .consumed := by
    rw [hs]
    decide
  have hmemory : (Call.consume id pccbId capability now).runInMemory H records =
      memoryConsume records id pccbId capability now := rfl
  cases hgt : now.gt record.expiresAt with
  | error e =>
    refine stepAgrees_not (fun hreg => nomatch hgt.symm.trans ((hregular.mp hreg).2 hs)) ?_
    rw [hsqlite, hmemory, memoryConsume_raised hm hopen hgt]
    exact fun h => nomatch (show EscrowError.refusal _ = .exception _ from h)
  | ok late =>
    cases late with
    | true =>
      rw [memoryConsume_late hm hopen hgt] at hmemory
      refine stepAgrees_of (hregular.mpr ⟨fun hissued => (nomatch hs.symm.trans hissued), fun _ => hgt⟩) ?_ ?_
      · rw [hsqlite, hmemory]
        exact sameAnswer_refusal _
      · rw [hsqlite, hmemory]
        have hid : ({ record with state := .expired } : Record T M Z).escrowId = id :=
          show record.escrowId = id from Table.key_of_find hm
        refine h.set hbind (Table.find_put records hid) (find_same hr) ⟨?_, hreads.kept⟩
        exact { hreads.columns with state := hreads.columns.state.trans hs }
    | false =>
      refine stepAgrees_not (fun hreg => nomatch hgt.symm.trans ((hregular.mp hreg).2 hs)) ?_
      rw [hsqlite, hmemory, memoryConsume_early hm hopen hgt]
      split_ifs
      · exact not_sameAnswer_codes (by decide)
      · exact not_sameAnswer_codes (by decide)
      · exact fun h => h

variable (hs : record.state = .issued)
  (hsqlite : (Call.consume id pccbId capability now).runSqlite H rows =
    if row.expiresAt < u then
      (raiseRefusal (escrowValidationError "ESCROW_EXPIRED" "The escrow record has expired."), sqliteExpire rows id)
    else if row.pccbId ≠ pccbId then
      (raiseRefusal (escrowValidationError "ESCROW_PCCB_MISMATCH"
        "The escrow record does not match the proof."), rows)
    else if row.capability ≠ capability then
      (raiseRefusal (escrowValidationError "ESCROW_CAPABILITY_MISMATCH"
        "The escrow record does not match the requested capability."), rows)
    else sqliteTake H rows id u)
include hs hsqlite

/-- the clocks cannot be compared: only the dictionary raises -/
theorem step_consume_raised {e : PyError} (hgt : now.gt record.expiresAt = .error e) :
    StepAgrees H records rows (.consume id pccbId capability now) := by
  have hregular := regular_consume pccbId capability hm hr hbind hu
  have hmemory : (Call.consume id pccbId capability now).runInMemory H records = (.error (.other e), records) :=
    memoryConsume_raised hm ⟨by simp [hs], by simp [hs]⟩ hgt
  refine stepAgrees_not (fun hreg => nomatch hgt.symm.trans ((hregular.mp hreg).1 hs)) ?_
  rw [hsqlite, hmemory]
  have hrefusal : ∀ exc, ¬ H.SameAnswer (raiseRefusal exc) (.error (.other e)) :=
    fun exc h => nomatch (show EscrowError.refusal _ = .exception _ from h)
  split_ifs
  · exact hrefusal _
  · exact hrefusal _
  · exact hrefusal _
  · exact not_sameAnswer_taken hr hbind hreads hs u fun _ h => nomatch h

/-- one clock says that the record has expired, and the other does not -/
theorem step_consume_apart {late : Bool} (hgt : now.gt record.expiresAt = .ok late)
    (hapart : late ≠ decide (row.expiresAt < u)) :
    StepAgrees H records rows (.consume id pccbId capability now) := by
  have hregular := regular_consume pccbId capability hm hr hbind hu
  have hopen : record.state ≠ .revoked ∧ record.state ≠ .consumed := ⟨by simp [hs], by simp [hs]⟩
  have hmemory : (Call.consume id pccbId capability now).runInMemory H records =
      memoryConsume records id pccbId capability now := rfl
  refine stepAgrees_not (fun hreg => hapart (Except.ok.inj (hgt.symm.trans ((hregular.mp hreg).1 hs)))) ?_
  rw [hsqlite, hmemory]
  cases late with
  | true =>
    have hlate : ¬ row.expiresAt < u := fun hlate => hapart (decide_eq_true hlate).symm
    rw [memoryConsume_late hm hopen hgt, if_neg hlate]
    split_ifs
    · exact not_sameAnswer_codes (by decide)
    · exact not_sameAnswer_codes (by decide)
    · exact not_sameAnswer_taken hr hbind hreads hs u fun _ h => nomatch h
  | false =>
    have hlate : row.expiresAt < u := by
      by_contra hlate
      exact hapart (decide_eq_false hlate).symm
    rw [memoryConsume_early hm hopen hgt, if_pos hlate]
    split_ifs
    · exact not_sameAnswer_codes (by decide)
    · exact not_sameAnswer_codes (by decide)
    · exact fun h => h

/-- the clocks agree: then the rest is checked alike -/
theorem step_consume_alike (hgt : now.gt record.expiresAt = .ok (decide (row.expiresAt < u))) :
    StepAgrees H records rows (.consume id pccbId capability now) := by
  have hreg := (regular_consume pccbId capability hm hr hbind hu).mpr
    ⟨fun _ => hgt, fun hexpired => (nomatch hs.symm.trans hexpired)⟩
  have hopen : record.state ≠ .revoked ∧ record.state ≠ .consumed := ⟨by simp [hs], by simp [hs]⟩
  have hcolumns := hreads.columns
  have hs' : row.state = .issued := hcolumns.state.trans hs
  have hid : record.escrowId = id := Table.key_of_find hm
  have hmemory : (Call.consume id pccbId capability now).runInMemory H records =
      memoryConsume records id pccbId capability now := rfl
  rw [sqliteTake_issued hr hs', hcolumns.pccbId, hcolumns.capability] at hsqlite
  by_cases hlate : row.expiresAt < u
  · rw [memoryConsume_late hm hopen (hgt.trans (by rw [decide_eq_true hlate]))] at hmemory
    rw [if_pos hlate] at hsqlite
    refine stepAgrees_of hreg ?_ ?_
    · rw [hsqlite, hmemory]
      exact sameAnswer_refusal _
    · rw [hsqlite, hmemory]
      have hid' : ({ record with state := .expired } : Record T M Z).escrowId = id := hid
      exact h.set hbind (Table.find_put records hid') (find_sqliteExpire hr hs')
        ⟨{ hcolumns with state := rfl }, hreads.kept⟩
  · rw [memoryConsume_early hm hopen (hgt.trans (by rw [decide_eq_false hlate]))] at hmemory
    rw [if_neg hlate] at hsqlite
    by_cases hp : record.pccbId ≠ pccbId
    · rw [if_pos hp] at hsqlite hmemory
      exact stepAgrees_refused h hreg hsqlite hmemory
    rw [if_neg hp] at hsqlite hmemory
    by_cases hc : record.capability ≠ capability
    · rw [if_pos hc] at hsqlite hmemory
      exact stepAgrees_refused h hreg hsqlite hmemory
    rw [if_neg hc] at hsqlite hmemory
    have hid' : ({ record with state := .consumed, consumedAt := some now } : Record T M Z).escrowId = id := hid
    refine stepAgrees_written h hbind (Table.find_put records hid') (find_sqliteMark hr hs' u) hsqlite hmemory
      (iff_of_true hreg ⟨?_, hreads.kept⟩)
    have hmoment := utc_moment hu (gt_ok hgt (hcolumns.expiresAt ▸ Option.some_ne_none _))
    exact { hcolumns with state := rfl, consumedAt := congrArg some hmoment }

/-- an issued record: the clocks decide, and then the rest is checked alike -/
theorem step_consume_issued : StepAgrees H records rows (.consume id pccbId capability now) := by
  cases hgt : now.gt record.expiresAt with
  | error e => exact step_consume_raised h hm hr hbind hreads hu hs hsqlite hgt
  | ok late =>
    by_cases hlate : late = decide (row.expiresAt < u)
    · exact step_consume_alike h hm hr hbind hreads hu hs hsqlite (hlate ▸ hgt)
    · exact step_consume_apart h hm hr hbind hreads hu hs hsqlite hgt hlate

end

end

theorem step_consume (h : Simulates H records rows) (escrowId pccbId capability : T) (now : Clock Z) :
    StepAgrees H records rows (.consume escrowId pccbId capability now) := by
  have hsqlite : (Call.consume escrowId pccbId capability now).runSqlite H rows =
      sqliteConsume H rows escrowId pccbId capability now := rfl
  have hmemory : (Call.consume escrowId pccbId capability now).runInMemory H records =
      memoryConsume records escrowId pccbId capability now := rfl
  unfold sqliteConsume at hsqlite
  cases hu : H.utc now with
  | error e =>
    rw [hu] at hsqlite
    refine stepAgrees_not (fun ⟨_, u, hok, _⟩ => nomatch hu.symm.trans hok) ?_
    rw [hsqlite, hmemory]
    exact memoryConsume_error (utc_error hu)
  | ok u =>
    rw [hu] at hsqlite
    dsimp only at hsqlite
    rcases h.cases escrowId with ⟨hm, hr⟩ | ⟨record, row, hm, hr, hbind, hreads⟩
    · unfold memoryConsume at hmemory
      rw [hm] at hmemory
      cases hbind : H.bind escrowId with
      | error e =>
        rw [select_error hbind] at hsqlite
        refine stepAgrees_not (fun hregular => nomatch hbind.symm.trans hregular.1) ?_
        rw [hsqlite, hmemory]
        exact not_sameAnswer_refusal
      | ok _ =>
        rw [select_none hbind hr] at hsqlite
        exact stepAgrees_refused h ⟨hbind, u, hu, fun record row hrecord => nomatch hm.symm.trans hrecord⟩ hsqlite hmemory
    · obtain ⟨metadata, hloads, -⟩ := hreads.kept
      have hregular := regular_consume pccbId capability hm hr hbind hu
      rw [select_some hbind hr, hloads] at hsqlite
      dsimp only [Except.map] at hsqlite
      rw [hreads.columns.state] at hsqlite
      cases hs : record.state with
      | revoked =>
        rw [hs] at hsqlite hregular
        unfold memoryConsume at hmemory
        rw [hm] at hmemory
        dsimp only at hmemory
        rw [if_pos hs] at hmemory
        exact stepAgrees_refused h (hregular.mpr ⟨fun h => (nomatch h), fun h => (nomatch h)⟩) hsqlite hmemory
      | consumed =>
        rw [hs] at hsqlite hregular
        unfold memoryConsume at hmemory
        rw [hm] at hmemory
        dsimp only at hmemory
        rw [if_neg (by simp [hs]), if_pos hs] at hmemory
        exact stepAgrees_refused h (hregular.mpr ⟨fun h => (nomatch h), fun h => (nomatch h)⟩) hsqlite hmemory
      | expired =>
        rw [hs] at hsqlite
        exact step_consume_expired h hm hr hbind hreads hu hs hsqlite
      | issued =>
        rw [hs] at hsqlite
        exact step_consume_issued h hm hr hbind hreads hu hs hsqlite

/-- one call -/
theorem step_agrees (h : Simulates H records rows) (c : Call T M Z) : StepAgrees H records rows c := by
  cases c with
  | issue escrowId pccbId capability expiresAt metadata => exact step_issue h ..
  | inspect escrowId => exact step_inspect h escrowId
  | consume escrowId pccbId capability now => exact step_consume h ..
  | revoke escrowId reason => exact step_revoke h ..

/-- what the driver raises is raised by no dictionary -/
theorem not_sameAnswer_failure (c : Call T M Z) (name message : String) :
    ¬ H.SameAnswer (.error (.other ⟨.other name, message⟩)) (c.runInMemory H records).1 := by
  cases c with
  | issue escrowId pccbId capability expiresAt metadata =>
    show ¬ H.SameAnswer _ (memoryIssue H records escrowId pccbId capability expiresAt metadata).1
    unfold memoryIssue
    split
    · exact not_sameAnswer_refusal
    · exact fun h => h
  | inspect escrowId => exact fun h => h
  | consume escrowId pccbId capability now =>
    refine memoryConsume_error ?_
    rintro ⟨⟩
  | revoke escrowId reason =>
    show ¬ H.SameAnswer _ (memoryRevoke H records escrowId reason).1
    unfold memoryRevoke
    split
    · exact not_sameAnswer_refusal
    · exact fun h => h

/-- a run from related states -/
theorem runs_agree_of_simulates (calls : List (Attempt T M Z)) :
    ∀ {records : Records T M Z} {rows : Rows T J}, Simulates H records rows →
      (List.Forall₂ H.SameAnswer (runSqlite H calls rows) (runMemory H calls records) ↔ RegularRun H calls records rows) := by
  induction calls with
  | nil => exact fun _ => iff_of_true .nil trivial
  | cons a calls ih =>
    intro records rows h
    obtain ⟨c, failure⟩ := a
    show List.Forall₂ _ (_ :: _) (_ :: _) ↔ (failure = none ∧ c.Regular H records rows) ∧ _
    rw [List.forall₂_cons]
    cases failure with
    | none =>
      obtain ⟨hiff, hsim⟩ := step_agrees h c
      rw [and_iff_right (rfl : (none : Option (String × Bool)) = none)]
      refine Iff.trans (and_congr_left' hiff) ?_
      exact and_congr_right fun hregular => ih (hsim hregular)
    | some failed => exact iff_of_false (fun hsame => not_sameAnswer_failure c _ _ hsame.1) fun hregular => nomatch hregular.1.1

variable (H)

/-- **When the two escrows are interchangeable.**  From empty stores they give the same call by call, for any
arguments, exactly when every call of the run is regular where it is made. -/
theorem runs_agree_iff (calls : List (Attempt T M Z)) :
    List.Forall₂ H.SameAnswer (runSqlite H calls ⟨[], List.nodup_nil⟩) (runMemory H calls ⟨[], List.nodup_nil⟩) ↔
      RegularRun H calls ⟨[], List.nodup_nil⟩ ⟨[], List.nodup_nil⟩ :=
  runs_agree_of_simulates calls fun _ => .none

end

/-! ### a run -/

/-- the same answer is a record in both escrows, or an error in both -/
theorem sameAnswer_toBool {T M J Z : Type} {H : Host T M J Z} {x y : Answer T M Z} (h : H.SameAnswer x y) :
    x.toBool = y.toBool := by
  cases x <;> cases y
  · rfl
  · cases h
  · cases h
  · rfl

/-- the datetime of a few microseconds -/
def tick (n : Fin 16) : Clock Unit := utcClock ⟨n, by omega⟩

/-- a capability that ends at 10 is presented at 11 and then, by a clock that is behind, at 9 -/
def lateThenEarly : List (Attempt String Dict Unit) :=
  [⟨.issue "esc_1" "pccb_1" "payment.refund" (tick 10) none, none⟩,
    ⟨.consume "esc_1" "pccb_1" "payment.refund" (tick 11), none⟩,
    ⟨.consume "esc_1" "pccb_1" "payment.refund" (tick 9), none⟩]

/-- the third call is refused by one escrow and consumes the record in the other -/
theorem expired_record_consumed :
    ¬ List.Forall₂ (plainHost (samplePlatform id)).SameAnswer
      (runSqlite (plainHost (samplePlatform id)) lateThenEarly ⟨[], List.nodup_nil⟩)
      (runMemory (plainHost (samplePlatform id)) lateThenEarly ⟨[], List.nodup_nil⟩) := by
  intro h
  have hkinds := (List.forall₂_map_left_iff.mpr (List.forall₂_map_right_iff.mpr
    (h.imp fun _ _ => sameAnswer_toBool)) : List.Forall₂ Eq (List.map Except.toBool _) (List.map Except.toBool _))
  rw [List.forall₂_eq_eq_eq] at hkinds
  revert hkinds
  decide +kernel

end Backends

end Actenon
