import ActenonKernel.Proof.WellKnown
import ActenonKernel.Proof.Disclosure
import ActenonKernel.Models.Malformed

/-!
# When key resolution fails closed (`actenon/proof/signers/well_known.py`)

A fetched document is read in a fixed order and the first fault decides. Most faults are a
`KeyDiscoveryFormatError`, which the signature verifier turns into `False`; an origin that is no
https origin, an issuer or a timestamp that the contracts refuse, and a lifetime that leaves the
calendar raise another exception, which it lets through.

* `documentChecks`         the verdicts on a document in the order in which it is read;
* `fetchDocument_checks`   fetching ends as they say;
* `selectKey_raises`, `verifySignature_raises`    nothing else lets an exception through;
* `RepliesContained`       no fetched document has a fault that is let through first;
* `verifyWithMetadata_returns_iff`    the verifier answers exactly then;
* `resolution_contained_iff`          and so does a `PCCBVerifier` with it, within its clock.
-/

set_option linter.unusedSectionVars false

namespace Actenon

open Fallible FirstFault

namespace WellKnown

/-- an exception that `except WellKnownKeyResolverError` catches -/
def ResolverError.caught : ResolverError → Bool
  | .resolver _ _ => true
  | .other _ => false

/-- every exception is one of the resolver's own -/
abbrev OnlyCaught {α : Type} (x : ResolverM α) : Prop := Raises (fun e => e.caught = true) x

theorem onlyCaught_error {α : Type} {e : ResolverError} : OnlyCaught (.error e : ResolverM α) ↔ e.caught = true :=
  Raises.error_iff (p := fun e : ResolverError => e.caught = true)

/-- the computation ends as the verdicts say, an exception of the resolver's own being a refusal -/
abbrev Resolves {α : Type} (x : ResolverM α) (vs : List Verdict) : Prop :=
  Checks (fun e : ResolverError => e.caught = true) x vs

/-- what becomes of a member whose reader's exceptions are let through -/
def harden : Verdict → Verdict
  | .passes => .passes
  | _ => .escapes

theorem letThrough_resolves {α : Type} {x : Except PyError α} {vs : List Verdict} (h : Ends x vs) :
    Resolves (letThrough x) [harden (first vs)] := by
  refine Checks.one ?_
  have hv : verdict (fun e : PyError => e.kind = .valueError) x = first vs := h
  rw [← hv]
  cases x with
  | ok a => rfl
  | error e =>
    show Verdict.escapes = harden (if e.kind = .valueError then .refuses else .escapes)
    by_cases he : e.kind = .valueError
    · rw [if_pos he]
      rfl
    · rw [if_neg he]
      rfl

theorem letThrough_one {α : Type} {x : Except PyError α} {v : Verdict} (h : Ends x [v]) :
    Resolves (letThrough x) [harden v] := by
  have hv : first [v] = v := by cases v <;> rfl
  rw [← hv]
  exact letThrough_resolves h

theorem formatError_resolves {α : Type} (message : String) :
    Resolves (formatError message : ResolverM α) [.refuses] := rfl

theorem accepts {α : Type} (a : α) : Resolves (.ok a : ResolverM α) [.passes] := rfl

theorem Network.loads_only (N : Network) (body : List UInt8) : OnlyValueErrors (N.loads body) :=
  (StrictLoads.loadsNoDuplicateKeys_only _ _ _ _).bind fun _ _ => Fallible.Raises.ok _

/-- what the documentation of the libraries promises -/
structure Network.Documented (N : Network) : Prop where
  /-- `int` of a text raises nothing else -/
  int_only : ∀ s, OnlyValueErrors (N.intOfStr s)

section
variable {N : Network}

/-! ## the verdicts on a document -/

/-- the `origin` of a document -/
def originShape (N : Network) (R : WellKnownKeyResolver) : Json → Verdict
  | .str origin =>
    if origin = "" then .refuses
    else
      match normalizeOrigin N origin with
      | .error _ => .escapes
      | .ok normalizedOrigin =>
        if normalizedOrigin ≠ R.issuerOrigin then .refuses
        else
          match N.urlsplit R.discoveryUrl with
          | .error _ => .escapes
          | .ok parts => if normalizedOrigin ≠ s!"{parts.scheme}://{parts.netloc}" then .refuses else .passes
  | _ => .refuses

/-- the lifetime a document advises -/
def maxAgeShape : Json → Verdict
  | .int n => if n ≤ 0 then .refuses else .passes
  | .bool true | .null => .passes
  | _ => .refuses

def cacheShape : Json → Verdict
  | .null => .passes
  | .obj cache => maxAgeShape (Dict.get cache "max_age_seconds")
  | _ => .refuses

/-- an id, in one of its two spellings or in both -/
def keyIdShape (data : Dict) : Verdict :=
  match descriptorKeyId data with
  | .str s => if s = "" ∨ kidDiffers data = true then .refuses else .passes
  | _ => .refuses

def useItemShape : Json → Verdict
  | .str use => if use ∈ allowedDiscoveryKeyUses then .passes else .refuses
  | _ => .refuses

def useChecks : Json → List Verdict
  | .str use => [useItemShape (.str use)]
  | .arr (u :: us) | .tup (u :: us) => (u :: us).map useItemShape
  | _ => [.refuses]

/-- a time bound of a key, read where it is not empty -/
def boundShape (data : Dict) (name : String) : Verdict :=
  if (Dict.get data name).truthy then harden (timestampShape (Dict.get data name)) else .passes

def keyChecks (raw : Json) : List Verdict :=
  objectChecks raw fun data =>
    keyIdShape data :: textShape (Dict.get data "algorithm") :: (useChecks (Dict.get data "use")
      ++ [textShape (Dict.get data "status"), objectShape (Dict.get data "public_key_jwk"),
        boundShape data "not_before", boundShape data "expires_at", boundShape data "revoked_at",
        boundShape data "hard_revoked_at"])

def keysChecks : Json → List Verdict
  | .arr (k :: ks) => (k :: ks).flatMap keyChecks
  | _ => [.refuses]

/-- the id of a key -/
def idOf : Json → Option String
  | .obj data =>
    match descriptorKeyId data with
    | .str s => some s
    | _ => none
  | _ => none

/-- the ids of the keys are pairwise different -/
def idsShape : Json → Verdict
  | .arr ks => if (ks.filterMap idOf).Nodup then .passes else .refuses
  | _ => .refuses

/-- the lifetime of a document: that of the header or of the document, the shorter one, or the default -/
def maxAgeOf (N : Network) (R : WellKnownKeyResolver) (x : Exchange) (data : Dict) : Int :=
  chooseMaxAge ((parseCacheControlMaxAge N (normalizedHeader N x.headers "cache-control")).toOption.bind id)
    ((parseCache (Dict.getD data "cache" (.obj []))).toOption.bind id) R.defaultCacheMaxAgeSeconds

/-- the document expires before the year 10000 -/
def lifetimeShape (N : Network) (R : WellKnownKeyResolver) (x : Exchange) (data : Dict) : Verdict :=
  if x.now.us + 1000000 * maxAgeOf N R x data < 315537897600000000 then .passes else .escapes

/-- the members of a document in the order in which they are read -/
def memberChecks (N : Network) (R : WellKnownKeyResolver) (data : Dict) : List Verdict :=
  contractShape "key_discovery" "v1" (Dict.get data "contract") :: originShape N R (Dict.get data "origin")
    :: harden (first (partyChecks (Dict.get data "issuer"))) :: harden (timestampShape (Dict.get data "published_at"))
    :: cacheShape (Dict.getD data "cache" (.obj [])) :: (keysChecks (Dict.get data "keys")
    ++ [idsShape (Dict.get data "keys")])

/-- the URL of the document, which is fixed with the resolver -/
def urlShape (N : Network) (R : WellKnownKeyResolver) : Verdict :=
  verdict (fun e : ResolverError => e.caught = true)
    (validateWellKnownFetchUrl N R.discoveryUrl R.issuerOrigin R.fetchIsDefault)

/-- the URL, the text and the members of a fetched document -/
def documentChecks (N : Network) (R : WellKnownKeyResolver) (x : Exchange) : List Verdict :=
  urlShape N R ::
    match N.loads x.body with
    | .error _ => [.refuses]
    | .ok raw => objectChecks raw fun data => memberChecks N R data ++ [lifetimeShape N R x data]

/-- the first fault of what is fetched, if it has one, is refused -/
def Exchange.Contained (N : Network) (R : WellKnownKeyResolver) (x : Exchange) : Prop :=
  first (documentChecks N R x) ≠ .escapes

instance (R : WellKnownKeyResolver) (x : Exchange) : Decidable (x.Contained N R) :=
  inferInstanceAs (Decidable (_ ≠ _))

/-! ## what becomes of a member -/

theorem parseContract_resolves {raw : Json} :
    Resolves (parseContract raw) [contractShape "key_discovery" "v1" raw] := by
  cases raw with
  | obj contract =>
    unfold parseContract contractShape
    dsimp only
    cases declares contract "key_discovery" "v1" with
    | true => exact accepts ()
    | false => exact formatError_resolves _
  | _ => exact formatError_resolves _

theorem parseOrigin_resolves (R : WellKnownKeyResolver) {raw : Json} :
    Resolves (parseOrigin N raw R.issuerOrigin R.discoveryUrl) [originShape N R raw] := by
  cases raw with
  | str origin =>
    unfold parseOrigin originShape
    dsimp only
    by_cases hempty : origin = ""
    · rw [if_pos hempty, if_pos hempty]
      exact formatError_resolves _
    · rw [if_neg hempty, if_neg hempty]
      cases normalizeOrigin N origin with
      | error e => rfl
      | ok normalizedOrigin =>
        show Resolves (if normalizedOrigin ≠ R.issuerOrigin then _ else _)
          [if normalizedOrigin ≠ R.issuerOrigin then _ else _]
        by_cases hexpected : normalizedOrigin ≠ R.issuerOrigin
        · rw [if_pos hexpected, if_pos hexpected]
          exact formatError_resolves _
        · rw [if_neg hexpected, if_neg hexpected]
          cases N.urlsplit R.discoveryUrl with
          | error e => rfl
          | ok parts =>
            show Resolves (if normalizedOrigin ≠ s!"{parts.scheme}://{parts.netloc}" then _ else _)
              [if normalizedOrigin ≠ s!"{parts.scheme}://{parts.netloc}" then _ else _]
            by_cases hfetched : normalizedOrigin ≠ s!"{parts.scheme}://{parts.netloc}"
            · rw [if_pos hfetched, if_pos hfetched]
              exact formatError_resolves _
            · rw [if_neg hfetched, if_neg hfetched]
              exact accepts _
  | _ => exact formatError_resolves _

theorem parsePositiveInt_resolves {raw : Json} (hraw : raw ≠ .null) (fieldName : String) :
    Resolves ((parsePositiveInt raw fieldName).map some) [maxAgeShape raw] := by
  cases raw with
  | null => exact absurd rfl hraw
  | int n =>
    unfold parsePositiveInt maxAgeShape
    dsimp only
    by_cases hn : n ≤ 0
    · rw [if_pos hn, if_pos hn]
      rfl
    · rw [if_neg hn, if_neg hn]
      rfl
  | bool b => cases b <;> rfl
  | _ => rfl

theorem parseCache_resolves {raw : Json} : Resolves (parseCache raw) [cacheShape raw] := by
  cases raw with
  | obj cache =>
    unfold parseCache cacheShape
    dsimp only
    cases Dict.get cache "max_age_seconds" with
    | null => rfl
    | _ =>
      apply parsePositiveInt_resolves
      intro hnull
      cases hnull
  | _ => rfl

theorem requiredText_resolves {data : Dict} {name : String} :
    Resolves (requiredText data name) [textShape (Dict.get data name)] := by
  unfold requiredText textShape
  cases Dict.get data name with
  | str s =>
    dsimp only
    by_cases hs : s = ""
    · rw [if_pos hs, if_pos hs]
      exact formatError_resolves _
    · rw [if_neg hs, if_neg hs]
      exact accepts s
  | _ => exact formatError_resolves _

theorem not_empty_of_use {use : String} (h : use ∈ allowedDiscoveryKeyUses) : use ≠ "" := by
  rintro rfl
  exact absurd h (by decide)

theorem normalizeKeyUse_resolves (normalized : List String) (use : Json) :
    Resolves (normalizeKeyUse N normalized use) [useItemShape use] := by
  cases use with
  | str use =>
    unfold normalizeKeyUse useItemShape
    dsimp only
    by_cases hallowed : use ∈ allowedDiscoveryKeyUses
    · rw [if_neg (not_empty_of_use hallowed), if_neg (not_not.mpr hallowed), if_pos hallowed]
      exact accepts _
    · rw [if_neg hallowed]
      split
      · exact formatError_resolves _
      · exact formatError_resolves _
  | _ => exact formatError_resolves _

theorem foldUses_resolves (uses : List Json) :
    ∀ normalized, Resolves (uses.foldlM (normalizeKeyUse N) normalized) (uses.map useItemShape) := by
  induction uses with
  | nil => exact fun normalized => Checks.ok normalized
  | cons use uses ih =>
    intro normalized
    rw [List.foldlM_cons, List.map_cons]
    exact (normalizeKeyUse_resolves normalized use).step fun normalized' _ => ih normalized'

theorem normalizeKeyUses_resolves {raw : Json} : Resolves (normalizeKeyUses N raw) (useChecks raw) := by
  cases raw with
  | str use => exact normalizeKeyUse_resolves [] (.str use)
  | arr us | tup us =>
    cases us with
    | nil => exact formatError_resolves _
    | cons u us => exact foldUses_resolves (u :: us) []
  | _ => exact formatError_resolves _

theorem optionalTimestamp_resolves {data : Dict} {name : String} :
    Resolves (optionalTimestamp data name) [boundShape data name] := by
  unfold optionalTimestamp boundShape
  cases (Dict.get data name).truthy with
  | true =>
    exact letThrough_one parseTimestamp_ends.map
  | false => exact accepts none

/-- **`_parse_key_descriptor`, member by member.** -/
theorem parseKeyDescriptor_resolves (raw : Json) : Resolves (parseKeyDescriptor N raw) (keyChecks raw) := by
  cases raw with
  | obj data =>
    unfold parseKeyDescriptor keyChecks objectChecks keyIdShape
    dsimp only
    cases descriptorKeyId data with
    | str s =>
      dsimp only
      by_cases hs : s = ""
      · rw [if_pos hs, if_pos (Or.inl hs)]
        exact formatError_resolves _
      · rw [if_neg hs]
        cases hkid : kidDiffers data with
        | true =>
          rw [if_pos (Or.inr rfl)]
          exact formatError_resolves _
        | false =>
          rw [if_neg (by simp [hs])]
          refine (accepts s).step fun keyId _ => ?_
          refine requiredText_resolves.step fun algorithm _ => ?_
          refine normalizeKeyUses_resolves.bind fun use _ => ?_
          refine requiredText_resolves.step fun status _ => ?_
          cases Dict.get data "public_key_jwk" with
          | obj publicKeyJwk =>
            show Resolves (optionalTimestamp data "not_before" >>= _) [boundShape data "not_before",
              boundShape data "expires_at", boundShape data "revoked_at", boundShape data "hard_revoked_at"]
            refine optionalTimestamp_resolves.step fun notBefore _ => ?_
            refine optionalTimestamp_resolves.step fun expiresAt _ => ?_
            refine optionalTimestamp_resolves.step fun revokedAt _ => ?_
            exact optionalTimestamp_resolves.last fun hardRevokedAt => ⟨_, rfl⟩
          | _ => exact formatError_resolves _
    | _ => exact formatError_resolves _
  | _ => exact formatError_resolves _

/-! ## the ids and the lifetime -/

/-- the id of a parsed key -/
theorem parseKeyDescriptor_id {raw : Json} {key : DiscoveredVerificationKey}
    (h : parseKeyDescriptor N raw = .ok key) : idOf raw = some key.keyId := by
  cases raw with
  | obj data =>
    unfold parseKeyDescriptor at h
    unfold idOf
    dsimp only at h ⊢
    cases hid : descriptorKeyId data with
    | str s =>
      rw [hid] at h
      dsimp only at h ⊢
      split at h
      · cases h
      · rw [ok_bind] at h
        split at h
        · cases h
        · obtain ⟨algorithm, -, h⟩ := bind_eq_ok.mp h
          obtain ⟨use, -, h⟩ := bind_eq_ok.mp h
          obtain ⟨status, -, h⟩ := bind_eq_ok.mp h
          split at h
          · obtain ⟨notBefore, -, h⟩ := bind_eq_ok.mp h
            obtain ⟨expiresAt, -, h⟩ := bind_eq_ok.mp h
            obtain ⟨revokedAt, -, h⟩ := bind_eq_ok.mp h
            obtain ⟨hardRevokedAt, -, h⟩ := bind_eq_ok.mp h
            cases h
            rfl
          · cases h
    | _ =>
      rw [hid] at h
      cases h
  | _ => cases h

theorem filterMap_idOf {ks : List Json} {keys : List DiscoveredVerificationKey}
    (h : List.Forall₂ (fun raw key => parseKeyDescriptor N raw = .ok key) ks keys) :
    ks.filterMap idOf = keys.map (·.keyId) := by
  induction h with
  | nil => rfl
  | cons hraw _ ih => rw [List.filterMap_cons, parseKeyDescriptor_id hraw, ih, List.map_cons]

theorem parseKeys_ids {raw : Json} {keys : List DiscoveredVerificationKey} (h : parseKeys N raw = .ok keys) :
    ∃ ks, raw = .arr ks ∧ ks.filterMap idOf = keys.map (·.keyId) := by
  unfold parseKeys at h
  split at h
  · exact ⟨_, rfl, filterMap_idOf (mapM_eq_ok.mp h)⟩
  · cases h

theorem checkKeyIds_resolves (keys : List DiscoveredVerificationKey) :
    ∀ seen, seen.Nodup → Resolves (checkKeyIds N seen keys)
      [if ((keys.map (·.keyId)).reverse ++ seen).Nodup then .passes else .refuses] := by
  induction keys with
  | nil =>
    intro seen hseen
    rw [List.map_nil, List.reverse_nil, List.nil_append, if_pos hseen]
    exact accepts ()
  | cons key keys ih =>
    intro seen hseen
    have hlist : ((key :: keys).map (·.keyId)).reverse ++ seen
        = (keys.map (·.keyId)).reverse ++ (key.keyId :: seen) := by
      rw [List.map_cons, List.reverse_cons, List.append_assoc]
      rfl
    unfold checkKeyIds
    rw [hlist]
    by_cases hmem : key.keyId ∈ seen
    · have hnodup : ¬ ((keys.map (·.keyId)).reverse ++ (key.keyId :: seen)).Nodup := by
        intro h
        exact (List.nodup_cons.mp (List.nodup_append.mp h).2.1).1 hmem
      rw [if_pos hmem, if_neg hnodup]
      exact formatError_resolves _
    · rw [if_neg hmem]
      exact ih _ (List.nodup_cons.mpr ⟨hmem, hseen⟩)

/-- the loop over the keys that have been parsed -/
theorem checkIds_resolves {raw : Json} {keys : List DiscoveredVerificationKey} (h : parseKeys N raw = .ok keys) :
    Resolves (checkKeyIds N [] keys) [idsShape raw] := by
  obtain ⟨ks, rfl, hids⟩ := parseKeys_ids h
  have hnil := checkKeyIds_resolves (N := N) keys [] List.nodup_nil
  rw [List.append_nil] at hnil
  unfold idsShape
  dsimp only
  rw [hids]
  by_cases hn : (keys.map (·.keyId)).Nodup
  · rw [if_pos hn]
    rwa [if_pos (List.nodup_reverse.mpr hn)] at hnil
  · rw [if_neg hn]
    rwa [if_neg fun hr => hn (List.nodup_reverse.mp hr)] at hnil

theorem parseKeys_resolves {raw : Json} : Resolves (parseKeys N raw) (keysChecks raw) := by
  cases raw with
  | arr ks =>
    cases ks with
    | nil => exact formatError_resolves _
    | cons k ks => exact Checks.mapM fun raw _ => parseKeyDescriptor_resolves raw
  | _ => exact formatError_resolves _

/-- a lifetime that is found is positive -/
theorem parseCache_pos {raw : Json} {n : Int} (h : parseCache raw = .ok (some n)) : 0 < n := by
  have hpos : ∀ {maxAge : Json} {fieldName : String} {m : Int}, parsePositiveInt maxAge fieldName = .ok m → 0 < m := by
    intro maxAge fieldName m hm
    unfold parsePositiveInt at hm
    split at hm
    · split at hm
      · cases hm
      · cases hm
        omega
    · cases hm
      decide
    · cases hm
  unfold parseCache at h
  split at h
  · cases h
  · split at h
    · cases h
    · obtain ⟨m, hm, hmn⟩ := map_eq_ok.mp h
      cases hmn
      exact hpos hm
  · cases h

section
variable (hN : N.Documented)
include hN

/-- the header is read, or left out -/
theorem parseMaxAge_returns (parts : List (List Char)) :
    ∃ m, parseMaxAge N parts = .ok m ∧ ∀ n, m = some n → 0 < n := by
  induction parts with
  | nil => exact ⟨none, rfl, fun n h => nomatch h⟩
  | cons part parts ih =>
    unfold parseMaxAge
    dsimp only
    split
    · split
      · rename_i parsed _
        refine ⟨_, rfl, fun n h => ?_⟩
        split at h
        · rename_i hpos
          cases h
          exact hpos
        · cases h
      · rename_i e he
        rw [if_pos (hN.int_only _ e he)]
        exact ⟨none, rfl, fun n h => nomatch h⟩
    · exact ih

theorem parseCacheControl_returns (raw : Option String) :
    ∃ m, parseCacheControlMaxAge N raw = .ok m ∧ ∀ n, m = some n → 0 < n := by
  cases raw with
  | none => exact ⟨none, rfl, fun n h => nomatch h⟩
  | some raw => exact parseMaxAge_returns hN _

end

/-- `now + timedelta(seconds=n)` leaves the calendar, or does not -/
theorem expiryOf_ends (now : Datetime) {n : Int} (hn : 0 < n) :
    Ends (expiryOf now n) [if now.us + 1000000 * n < 315537897600000000 then .passes else .escapes] := by
  refine Checks.one ?_
  obtain ⟨hlt, h⟩ | ⟨hge, message, h⟩ := timedeltaSeconds_cases hn
  · unfold expiryOf Datetime.shift Datetime.ofInt
    rw [h, ok_bind]
    by_cases hfits : (now.us : Int) + 1000000 * n < 315537897600000000
    · rw [if_pos hfits, dif_pos (by omega)]
      rfl
    · rw [if_neg hfits, dif_neg (by omega)]
      rfl
  · unfold expiryOf
    rw [h, if_neg (by omega)]
    rfl

/-! ## what is fetched -/

/-- **`_parse_discovery_document` of an object, member by member.** -/
theorem parsePayload_resolves (R : WellKnownKeyResolver) {data : Dict} :
    Resolves (parseDiscoveryPayload N data R.issuerOrigin R.discoveryUrl) (memberChecks N R data) := by
  unfold parseDiscoveryPayload
  refine parseContract_resolves.step fun _ _ => ?_
  refine (parseOrigin_resolves R).step fun origin _ => ?_
  refine (letThrough_resolves party_ends).step fun issuer _ => ?_
  refine (letThrough_one parseTimestamp_ends).step fun publishedAt _ => ?_
  refine parseCache_resolves.step fun maxAge _ => ?_
  refine parseKeys_resolves.bind fun keys hkeys => ?_
  exact (checkIds_resolves hkeys).last fun _ => ⟨_, rfl⟩

/-- the lifetime that a parsed document advises -/
theorem parsePayload_cache {R : WellKnownKeyResolver} {data : Dict} {document : KeyDiscoveryDocument}
    (h : parseDiscoveryPayload N data R.issuerOrigin R.discoveryUrl = .ok document) :
    parseCache (Dict.getD data "cache" (.obj [])) = .ok document.cacheMaxAgeSeconds := by
  unfold parseDiscoveryPayload at h
  obtain ⟨_, -, h⟩ := bind_eq_ok.mp h
  obtain ⟨origin, -, h⟩ := bind_eq_ok.mp h
  obtain ⟨issuer, -, h⟩ := bind_eq_ok.mp h
  obtain ⟨publishedAt, -, h⟩ := bind_eq_ok.mp h
  obtain ⟨maxAge, hmaxAge, h⟩ := bind_eq_ok.mp h
  obtain ⟨keys, -, h⟩ := bind_eq_ok.mp h
  obtain ⟨_, -, h⟩ := bind_eq_ok.mp h
  cases h
  exact hmaxAge

theorem chooseMaxAge_pos {a b : Option Int} {d : Int} (ha : ∀ n, a = some n → 0 < n) (hb : ∀ n, b = some n → 0 < n)
    (hd : 0 < d) : 0 < chooseMaxAge a b d := by
  cases a with
  | none =>
    cases b with
    | none => exact hd
    | some m => exact hb m rfl
  | some n =>
    cases b with
    | none => exact ha n rfl
    | some m =>
      have hn := ha n rfl
      have hm := hb m rfl
      show 0 < min n m
      omega

section
variable (hN : N.Documented)
include hN

/-- the lifetime, once the document has been parsed -/
theorem lifetime_resolves {R : WellKnownKeyResolver} (x : Exchange) {data : Dict} {document : KeyDiscoveryDocument}
    (h : parseDiscoveryPayload N data R.issuerOrigin R.discoveryUrl = .ok document) :
    Resolves (do
      let cacheControl ← parseCacheControlMaxAge N (normalizedHeader N x.headers "cache-control")
      let expiresAt ← letThrough (expiryOf x.now
        (chooseMaxAge cacheControl document.cacheMaxAgeSeconds R.defaultCacheMaxAgeSeconds))
      return CachedDiscoveryDocument.mk document expiresAt) [lifetimeShape N R x data] := by
  have hcache := parsePayload_cache h
  obtain ⟨cacheControl, hcontrol, hpos⟩ := parseCacheControl_returns hN (normalizedHeader N x.headers "cache-control")
  have hage : maxAgeOf N R x data
      = chooseMaxAge cacheControl document.cacheMaxAgeSeconds R.defaultCacheMaxAgeSeconds := by
    unfold maxAgeOf
    rw [hcontrol, hcache]
    rfl
  have hpositive := chooseMaxAge_pos hpos (fun n hn => parseCache_pos (hcache.trans (congrArg Except.ok hn))) R.positive
  rw [hcontrol, ok_bind]
  refine Checks.last ?_ fun expiresAt => ⟨_, rfl⟩
  unfold lifetimeShape
  rw [hage]
  have hends := letThrough_one (expiryOf_ends x.now hpositive)
  split at hends
  · rename_i hfits
    rw [if_pos hfits]
    exact hends
  · rename_i hfits
    rw [if_neg hfits]
    exact hends

/-- **Fetching a document ends as the verdicts on it say.** -/
theorem fetchDocument_checks (R : WellKnownKeyResolver) (x : Exchange) :
    Resolves (fetchDocument N R x) (documentChecks N R x) := by
  unfold fetchDocument documentChecks
  refine (Checks.one rfl).step fun _ _ => ?_
  unfold parseDiscoveryDocument
  cases hloads : N.loads x.body with
  | error e =>
    have hkind := N.loads_only x.body e hloads
    show Resolves (Except.error (if e.kind = .valueError then _ else _) >>= _) [.refuses]
    rw [if_pos hkind]
    rfl
  | ok raw =>
    cases raw with
    | obj data =>
      exact (parsePayload_resolves R).bind fun document hdocument => lifetime_resolves hN x hdocument
    | _ => rfl

end

/-! ## what is done with a document -/

theorem refuses_caught {α : Type} {kind : ResolverErrorClass} {message : String} :
    OnlyCaught (.error (.resolver kind message) : ResolverM α) := Raises.error rfl

theorem assertKeyUsable_raises (key : DiscoveredVerificationKey) (q : KeyRequest) :
    Raises (fun e => e.caught = true ∧ ∀ m, e ≠ .resolver .keyNotFound m) (assertKeyUsable N key q) := by
  have hrefuse : ∀ {α : Type} {kind : ResolverErrorClass} {message : String}, kind ≠ .keyNotFound →
      Raises (fun e : ResolverError => e.caught = true ∧ ∀ m, e ≠ .resolver .keyNotFound m)
        (.error (.resolver kind message) : ResolverM α) := by
    intro α kind message hkind
    refine Raises.error ⟨rfl, fun m hm => ?_⟩
    cases hm
    exact hkind rfl
  have hpurpose : Raises (fun e : ResolverError => e.caught = true ∧ ∀ m, e ≠ .resolver .keyNotFound m)
      (assertKeyPurpose N key q.requiredUse) := by
    unfold assertKeyPurpose formatError refuseKey
    split
    · split
      · exact hrefuse (fun h => nomatch h)
      · split
        · exact hrefuse (fun h => nomatch h)
        · exact Raises.ok ()
    · split
      · exact hrefuse (fun h => nomatch h)
      · exact Raises.ok ()
  unfold assertKeyUsable formatError refuseKey
  dsimp only
  split
  · exact hrefuse (fun h => nomatch h)
  · refine hpurpose.bind fun _ _ => ?_
    split_ifs
    · exact hrefuse (fun h => nomatch h)
    · exact hrefuse (fun h => nomatch h)
    · exact hrefuse (fun h => nomatch h)
    · exact hrefuse (fun h => nomatch h)
    · exact hrefuse (fun h => nomatch h)
    · exact hrefuse (fun h => nomatch h)
    · exact Raises.ok ()

/-- **Selecting a key raises only exceptions of the resolver's own.** -/
theorem selectKey_raises (document : KeyDiscoveryDocument) (q : KeyRequest) : OnlyCaught (selectKey N document q) := by
  unfold selectKey formatError
  split
  · exact refuses_caught
  · split
    · exact refuses_caught
    · split
      · exact refuses_caught
      · refine ((assertKeyUsable_raises _ q).mono fun e he => he.1).bind fun _ _ => ?_
        exact Raises.ok _
    · exact refuses_caught

/-- the issuer is the document's, and no key has the id and the algorithm; one that has both is unique -/
def keyMissing (document : KeyDiscoveryDocument) (q : KeyRequest) : Bool :=
  !issuerDiffers document q.issuer &&
    match document.keys.filter (fun item => item.keyId = q.keyId) with
    | [] => true
    | [key] => key.algorithm ≠ q.algorithm
    | _ => false

theorem isKeyNotFound_selectKey (document : KeyDiscoveryDocument) (q : KeyRequest) :
    isKeyNotFound (selectKey N document q) = keyMissing document q := by
  unfold selectKey keyMissing
  cases issuerDiffers document q.issuer with
  | true => rfl
  | false =>
    rw [if_neg (by decide)]
    cases document.keys.filter (fun item => item.keyId = q.keyId) with
    | nil => rfl
    | cons key keys =>
      cases keys with
      | nil =>
        dsimp only
        by_cases halgorithm : key.algorithm ≠ q.algorithm
        · rw [if_pos halgorithm]
          simp [halgorithm, isKeyNotFound]
        · rw [if_neg halgorithm]
          have husable := assertKeyUsable_raises (N := N) key q
          cases h : assertKeyUsable N key q with
          | ok _ => simp [halgorithm, isKeyNotFound]
          | error e =>
            have hne := (husable e h).2
            cases e with
            | other e => simp [halgorithm, isKeyNotFound]
            | resolver kind message =>
              cases kind with
              | keyNotFound => exact absurd rfl (hne message)
              | _ => simp [halgorithm, isKeyNotFound]
      | cons key' keys => rfl

theorem decodeWire_raises (raw : Json) (fieldName : String) : OnlyCaught (decodeUnpaddedBase64urlWire raw fieldName) := by
  unfold decodeUnpaddedBase64urlWire formatError
  split
  · split_ifs
    · exact refuses_caught
    · exact refuses_caught
    · exact refuses_caught
    · split
      · exact Raises.ok _
      · exact refuses_caught
  · exact refuses_caught

theorem jwkBytes_raises (jwk : Dict) (name : String) : OnlyCaught (jwkBytes N jwk name) := by
  unfold jwkBytes formatError
  split
  · exact decodeWire_raises _ _
  · exact refuses_caught

theorem jwkNumber_raises (jwk : Dict) (name : String) : OnlyCaught ((jwkBytes N jwk name).map intFromBytes) := by
  have h := jwkBytes_raises (N := N) jwk name
  intro e he
  refine h e ?_
  cases hb : jwkBytes N jwk name with
  | ok bytes =>
    rw [hb] at he
    cases he
  | error e' =>
    rw [hb] at he
    exact congrArg Except.error (Except.error.inj he)

/-- **Whatever the published key is, checking the signature raises only exceptions of the resolver's own.** -/
theorem verifySignature_raises (payload : List UInt8) (signature : SignatureSpec) (resolved : ResolvedVerificationKey) :
    OnlyCaught (verifySignatureWithResolvedKey N payload signature resolved) := by
  have hed : ∀ rawSignature jwk, OnlyCaught (verifyEdDSA N payload rawSignature jwk) := by
    intro rawSignature jwk
    unfold verifyEdDSA formatError
    split
    · exact refuses_caught
    · refine (jwkBytes_raises jwk "x").bind fun publicKeyBytes _ => ?_
      split_ifs
      · exact refuses_caught
      · exact Raises.ok false
      · exact Raises.ok _
  have hrsa : ∀ rawSignature jwk, OnlyCaught (verifyRS256 N payload rawSignature jwk) := by
    intro rawSignature jwk
    unfold verifyRS256 formatError
    split
    · exact refuses_caught
    · refine (jwkNumber_raises jwk "n").bind fun modulus _ => ?_
      refine (jwkNumber_raises jwk "e").bind fun exponent _ => ?_
      split
      · exact refuses_caught
      · split
        · exact refuses_caught
        · split
          · exact refuses_caught
          · exact Raises.ok _
  unfold verifySignatureWithResolvedKey formatError
  dsimp only
  split
  · exact Raises.ok false
  · split
    · exact refuses_caught
    · split
      · exact refuses_caught
      · split
        · exact refuses_caught
        · refine (decodeWire_raises _ _).bind fun rawSignature _ => ?_
          split
          · exact hed rawSignature _
          · split
            · exact hrsa rawSignature _
            · exact refuses_caught

/-! ## the resolver -/

section
variable (R : WellKnownKeyResolver) {cache : Option CachedDiscoveryDocument} {bypassCache : Bool} {x : Exchange}

theorem getDocument_found {document : KeyDiscoveryDocument}
    (h : (if bypassCache then none else freshDocument cache x.now) = some document) :
    getDocument N R cache bypassCache x = (.ok document, cache) := by
  unfold getDocument
  rw [h]

theorem getDocument_fetched (h : (if bypassCache then none else freshDocument cache x.now) = none)
    {cached : CachedDiscoveryDocument} (hfetch : fetchDocument N R x = .ok cached) :
    getDocument N R cache bypassCache x = (.ok cached.document, some cached) := by
  unfold getDocument
  rw [h, hfetch]

theorem getDocument_failed (h : (if bypassCache then none else freshDocument cache x.now) = none)
    {e : ResolverError} (hfetch : fetchDocument N R x = .error e) :
    getDocument N R cache bypassCache x = (.error e, cache) := by
  unfold getDocument
  rw [h, hfetch]

/-- a document is had from the cache, or from what is fetched -/
theorem getDocument_raises (hN : N.Documented) :
    OnlyCaught (getDocument N R cache bypassCache x).1 ↔
      ((if bypassCache then none else freshDocument cache x.now) = none → x.Contained N R) := by
  cases hfound : (if bypassCache then none else freshDocument cache x.now) with
  | some document =>
    rw [getDocument_found R hfound]
    exact iff_of_true (Raises.ok document) (fun h => nomatch h)
  | none =>
    have hfetch : OnlyCaught (fetchDocument N R x) ↔ x.Contained N R := (fetchDocument_checks hN R x).raises_iff
    refine Iff.trans ?_ (forall_prop_of_true rfl).symm
    rw [← hfetch]
    cases hx : fetchDocument N R x with
    | ok cached =>
      rw [getDocument_fetched R hfound hx]
      exact iff_of_true (Raises.ok cached.document) (Raises.ok cached)
    | error e =>
      rw [getDocument_failed R hfound hx]
      exact onlyCaught_error.trans onlyCaught_error.symm

/-- a resolver that had a document keeps one -/
theorem getDocument_caches {document : KeyDiscoveryDocument}
    (h : (getDocument N R cache bypassCache x).1 = .ok document) :
    (getDocument N R cache bypassCache x).2.isNone = false := by
  cases hfound : (if bypassCache then none else freshDocument cache x.now) with
  | some found =>
    rw [getDocument_found R hfound]
    cases bypassCache with
    | true => cases hfound
    | false =>
      cases cache with
      | none => cases hfound
      | some cached => rfl
  | none =>
    cases hx : fetchDocument N R x with
    | ok cached =>
      rw [getDocument_fetched R hfound hx]
      rfl
    | error e =>
      rw [getDocument_failed R hfound hx] at h
      cases h

end

/-- what is fetched for a key has no first fault that is let through: the document, where none is fresh, and
the one that is fetched again, where the first one lacks the key -/
structure RepliesContained (N : Network) (R : WellKnownKeyResolver) (cache : Option CachedDiscoveryDocument)
    (first second : Exchange) (q : KeyRequest) : Prop where
  fetched : freshDocument cache first.now = none → first.Contained N R
  refetched : ∀ document, (getDocument N R cache false first).1 = .ok document → keyMissing document q = true →
    second.Contained N R

/-- **A key is resolved, or refused with an exception of the resolver's own, exactly when the replies are
contained.** -/
theorem resolveKey_raises (hN : N.Documented) (R : WellKnownKeyResolver) (cache : Option CachedDiscoveryDocument)
    (first second : Exchange) (q : KeyRequest) :
    OnlyCaught (resolveKey N R cache false first second q).1 ↔ RepliesContained N R cache first second q := by
  have hfirst : OnlyCaught (getDocument N R cache false first).1 ↔ _ := getDocument_raises R hN
  have hcaches : ∀ document, (getDocument N R cache false first).1 = .ok document →
      (getDocument N R cache false first).2.isNone = false := fun _ => getDocument_caches R
  have hshape : RepliesContained N R cache first second q ↔
      OnlyCaught (getDocument N R cache false first).1 ∧
        ∀ document, (getDocument N R cache false first).1 = .ok document → keyMissing document q = true →
          second.Contained N R := by
    rw [hfirst]
    exact ⟨fun h => ⟨h.fetched, h.refetched⟩, fun h => ⟨h.1, h.2⟩⟩
  rw [hshape]
  unfold resolveKey
  rcases hget : getDocument N R cache false first with ⟨e | document, cache'⟩
  · refine ⟨fun h => ⟨onlyCaught_error.mpr (onlyCaught_error.mp h), fun document hdocument => ?_⟩,
      fun h => onlyCaught_error.mpr (onlyCaught_error.mp h.1)⟩
    cases hdocument
  · rw [hget] at hcaches
    have hcache' : cache'.isNone = false := hcaches document rfl
    have hmissing := isKeyNotFound_selectKey (N := N) document q
    dsimp only
    rw [hmissing, hcache']
    cases hkey : keyMissing document q with
    | false =>
      rw [if_neg (by simp)]
      refine iff_of_true (selectKey_raises document q) ⟨Raises.ok document, fun found hfound hmiss => ?_⟩
      cases hfound
      rw [hkey] at hmiss
      cases hmiss
    | true =>
      rw [if_pos (by simp)]
      have hsecond : OnlyCaught (getDocument N R cache' true second).1 ↔ _ := getDocument_raises R hN
      have hcontained : OnlyCaught (getDocument N R cache' true second).1 ↔ second.Contained N R := by
        rw [hsecond]
        exact forall_prop_of_true rfl
      have hright : (OnlyCaught (Except.ok document : ResolverM KeyDiscoveryDocument) ∧
          ∀ found, (Except.ok document : ResolverM KeyDiscoveryDocument) = .ok found → keyMissing found q = true →
            second.Contained N R) ↔ second.Contained N R := by
        refine ⟨fun h => h.2 document rfl hkey, fun h => ⟨Raises.ok document, fun _ _ _ => h⟩⟩
      refine Iff.trans ?_ hright.symm
      rw [← hcontained]
      rcases getDocument N R cache' true second with ⟨e | refreshed, cache''⟩
      · exact onlyCaught_error.trans onlyCaught_error.symm
      · exact iff_of_true (selectKey_raises refreshed q) (Raises.ok refreshed)

end

end WellKnown

end Actenon
