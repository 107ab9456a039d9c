import ActenonKernel.Models.Contracts
import ActenonKernel.Lib.FirstFault

/-!
# Malformed documents (`actenon/models/contracts.py`)

`from_dict` reads the members of a document in a fixed order.  Most members are checked and refused
with a `ValueError`; `dict(..)`, `for .. in ..` and `.get(..)` on a member of the wrong type raise a
`TypeError` or an `AttributeError`, and a timestamp whose instant in UTC lies outside the years 1 to
9999 an `OverflowError`.

* `textShape`, `dictShape`, `timestampShape`, ..    what becomes of one member, by its shape;
* `intentChecks`, `pccbChecks`    the members of a document in the order of the source;
* `intent_checks`, `pccb_checks`  `from_dict` ends as they say;
* `parseTimestamp_only_iff`, `intent_only_iff`, `pccb_only_iff`    when a `ValueError` is all that is raised.
-/

set_option linter.unusedSectionVars false

namespace Actenon

open FirstFault

/-- every exception is a `ValueError` -/
abbrev OnlyValueErrors {α : Type} (x : Except PyError α) : Prop := Fallible.Raises (fun e => e.kind = .valueError) x

/-- the computation ends as the verdicts say, a `ValueError` being a refusal -/
abbrev Ends {α : Type} (x : Except PyError α) (vs : List Verdict) : Prop :=
  Checks (fun e : PyError => e.kind = .valueError) x vs

/-! ## one member -/

/-- a member that `expect_string` reads -/
def textShape : Json → Verdict
  | .str s => if s = "" then .refuses else .passes
  | _ => .refuses

/-- a member that `expect_mapping` reads -/
def objectShape : Json → Verdict
  | .obj _ => .passes
  | _ => .refuses

/-- a member that `expect_bool` reads -/
def boolShape : Json → Verdict
  | .bool _ => .passes
  | _ => .refuses

/-- a value on which `.get(..)` is called -/
def attrShape : Json → Verdict
  | .obj _ => .passes
  | _ => .escapes

mutual

/-- `hash(x)` returns -/
def Json.hashable : Json → Bool
  | .arr _ | .obj _ => false
  | .tup xs => Json.allHashable xs
  | .null | .bool _ | .int _ | .float _ | .str _ => true

def Json.allHashable : List Json → Bool
  | [] => true
  | x :: xs => Json.hashable x && Json.allHashable xs

end

/-- the key of a pair -/
def keyShape (k : Json) : Verdict := if k.hashable then .passes else .escapes

/-- an element of a sequence that `dict(..)` is applied to -/
def pairShape (x : Json) : Verdict :=
  match x.iterate with
  | .ok [k, _] => keyShape k
  | .ok _ => .refuses
  | .error _ => .escapes

/-- a member that `dict(..)` is applied to -/
def dictShape (raw : Json) : Verdict :=
  match raw with
  | .obj _ => .passes
  | raw =>
    match raw.iterate with
    | .ok xs => first (xs.map pairShape)
    | .error _ => .escapes

/-- the grammar and the ranges that `parse_timestamp` checks -/
def TimestampMatch.accepted (m : TimestampMatch) : Bool :=
  match m.offset with
  | .absent => false
  | .zulu => m.inRange
  | .hm _ oh om => oh ≤ 23 && om ≤ 59 && m.inRange

/-- the instant of a match -/
def TimestampMatch.utc (m : TimestampMatch) : Int := m.micros - 1000000 * m.offset.seconds

/-- the instant is one of the years 1 to 9999 -/
def TimestampMatch.inYears (m : TimestampMatch) : Bool := 0 ≤ m.utc ∧ m.utc < 315537897600000000

/-- a member that `parse_timestamp` reads -/
def timestampShape : Json → Verdict
  | .str s =>
    match matchDateTime s.toList with
    | some m => if m.accepted then (if m.inYears then .passes else .escapes) else .refuses
    | none => .refuses
  | _ => .refuses

/-- the `contract` of a document -/
def contractShape (name version : String) : Json → Verdict
  | .obj contract => if declares contract name version then .passes else .refuses
  | _ => .refuses

/-- the elements of a member that is iterated over -/
def iterateChecks (raw : Json) (item : Json → List Verdict) : List Verdict :=
  match raw.iterate with
  | .ok xs => xs.flatMap item
  | .error _ => [.escapes]

/-! ### what becomes of it -/

section
variable {raw : Json} {fieldName : String}

theorem Ends.accepts {α : Type} (a : α) : Ends (.ok a : Except PyError α) [.passes] := rfl

theorem valueError_ends {α : Type} (message : String) : Ends (valueError message : Except PyError α) [.refuses] := rfl

theorem typeError_ends {α : Type} (message : String) : Ends (typeError message : Except PyError α) [.escapes] := rfl

theorem expectString_ends : Ends (expectString raw fieldName) [textShape raw] := by
  cases raw with
  | str s =>
    by_cases hs : s = ""
    · rw [expectString, textShape, if_pos hs, if_pos hs]
      exact valueError_ends _
    · rw [expectString, textShape, if_neg hs, if_neg hs]
      exact Ends.accepts s
  | _ => exact valueError_ends _

theorem expectMapping_ends : Ends (expectMapping raw fieldName) [objectShape raw] := by
  cases raw with
  | obj kvs => exact Ends.accepts kvs
  | _ => exact valueError_ends _

theorem expectBool_ends : Ends (expectBool raw fieldName) [boolShape raw] := by
  cases raw with
  | bool b => exact Ends.accepts b
  | _ => exact valueError_ends _

theorem getAttr_ends : Ends (raw.getAttr fieldName) [attrShape raw] := by
  cases raw with
  | obj kvs => exact Ends.accepts (Dict.get kvs fieldName)
  | _ => rfl

mutual

theorem toKey_ends : (j : Json) → Ends j.toKey [keyShape j]
  | .null | .bool _ | .int _ | .float _ | .str _ => rfl
  | .arr _ => typeError_ends _
  | .obj _ => typeError_ends _
  | .tup xs => by
    have h : verdict (fun e : PyError => e.kind = .valueError) (Json.toKeys xs) = first _ := toKeys_ends xs
    show verdict _ (Json.toKey (.tup xs)) = first _
    rw [Json.toKey, keyShape, Json.hashable, ← h]
    cases Json.toKeys xs <;> rfl

theorem toKeys_ends : (xs : List Json) → Ends (Json.toKeys xs) [if Json.allHashable xs then .passes else .escapes]
  | [] => rfl
  | x :: xs => by
    have hx := toKey_ends x
    have hxs := toKeys_ends xs
    rw [Json.toKeys, Json.allHashable]
    refine Eq.trans (hx.step fun k _ => hxs.last fun ks => ⟨k :: ks, rfl⟩) ?_
    rw [keyShape]
    cases x.hashable <;> cases Json.allHashable xs <;> rfl

end

theorem pyDictPairs_ends (i : Nat) (xs : List Json) (d : Dict) : Ends (pyDictPairs i xs d) (xs.map pairShape) := by
  induction xs generalizing i d with
  | nil => exact Checks.ok d
  | cons x xs ih =>
    rw [pyDictPairs, List.map_cons, pairShape]
    cases x.iterate with
    | error e => rfl
    | ok ys =>
      rcases ys with _ | ⟨k, _ | ⟨v, _ | ⟨w, ws⟩⟩⟩
      · rfl
      · rfl
      · exact toKey_ends k |>.step fun key _ => ih _ _
      · rfl

theorem pyDict_ends : Ends (pyDict raw) [dictShape raw] := by
  cases raw with
  | str s | arr xs | tup xs => exact Checks.one (pyDictPairs_ends 0 _ [])
  | _ => rfl

theorem iterate_ends {α : Type} {item : Json → Except PyError α} {checks : Json → List Verdict}
    (h : ∀ x, Ends (item x) (checks x)) : Ends (raw.iterate >>= fun xs => xs.mapM item) (iterateChecks raw checks) := by
  cases raw with
  | str s | arr xs | tup xs | obj kvs => exact Checks.mapM fun x _ => h x
  | _ => rfl

theorem ofInt_ends (m : TimestampMatch) :
    Ends (Datetime.ofInt m.utc) [if m.inYears then .passes else .escapes] := by
  unfold Datetime.ofInt TimestampMatch.inYears
  by_cases h : 0 ≤ m.utc ∧ m.utc < 315537897600000000
  · rw [dif_pos h, if_pos (decide_eq_true h)]
    rfl
  · rw [dif_neg h, if_neg (by rw [decide_eq_true_eq]; exact h)]
    rfl

theorem parseTimestamp_ends : Ends (parseTimestamp raw fieldName) [timestampShape raw] := by
  cases raw with
  | str s =>
    unfold parseTimestamp timestampShape
    dsimp only
    cases hm : matchDateTime s.toList with
    | none => exact valueError_ends _
    | some m =>
      have hin := ofInt_ends m
      unfold TimestampMatch.utc at hin
      dsimp only
      cases ho : m.offset with
      | absent =>
        rw [TimestampMatch.accepted, ho]
        exact valueError_ends _
      | zulu =>
        have hz : m.offset.seconds = 0 := by
          rw [ho]
          rfl
        rw [hz, Int.mul_zero, Int.sub_zero] at hin
        rw [TimestampMatch.accepted, ho]
        dsimp only
        by_cases hr : m.inRange = true
        · rw [if_pos hr, if_pos hr]
          exact hin
        · rw [if_neg hr, if_neg hr]
          exact valueError_ends _
      | hm neg oh om =>
        rw [ho] at hin
        rw [TimestampMatch.accepted, ho]
        dsimp only
        by_cases hoff : oh > 23 ∨ om > 59
        · rw [if_pos hoff, if_neg (by simp; omega)]
          exact valueError_ends _
        · rw [if_neg hoff]
          by_cases hr : m.inRange = true
          · rw [if_pos hr, if_pos (by simp [hr]; omega)]
            exact hin
          · rw [if_neg hr, if_neg (by simp [hr])]
            exact valueError_ends _
  | _ => exact valueError_ends _

end

/-! ## documents -/

/-- the members of an object -/
def objectChecks (raw : Json) (item : Dict → List Verdict) : List Verdict :=
  match raw with
  | .obj data => item data
  | _ => [.refuses]

def dictMemberShape (data : Dict) (name : String) : Verdict := dictShape (Dict.getD data name (.obj []))

def tenantChecks (raw : Json) : List Verdict :=
  objectChecks raw fun data => [textShape (Dict.get data "tenant_id"), dictMemberShape data "attributes"]

def partyChecks (raw : Json) : List Verdict :=
  objectChecks raw fun data =>
    [textShape (Dict.get data "type"), textShape (Dict.get data "id"), dictMemberShape data "attributes"]

def audienceChecks (raw : Json) : List Verdict :=
  objectChecks raw fun data => [textShape (Dict.get data "type"), textShape (Dict.get data "id")]

def actionChecks (raw : Json) : List Verdict :=
  objectChecks raw fun data =>
    [textShape (Dict.get data "name"), textShape (Dict.get data "capability"),
      objectShape (Dict.get data "parameters"), dictMemberShape data "constraints", dictMemberShape data "scope"]

def targetChecks (raw : Json) : List Verdict :=
  objectChecks raw fun data =>
    [textShape (Dict.get data "resource_type"), textShape (Dict.get data "resource_id"),
      dictMemberShape data "selectors"]

def evidenceChecks (raw : Json) : List Verdict :=
  objectChecks raw fun data =>
    [textShape (Dict.get data "type"), textShape (Dict.get data "value"), dictMemberShape data "digest"]

/-- the `capabilities` of a scope -/
def capabilitiesChecks : Json → List Verdict
  | .arr (c :: cs) => (c :: cs).flatMap fun item => [textShape item]
  | _ => [.refuses]

def scopeChecks (raw : Json) : List Verdict :=
  objectChecks raw fun data =>
    capabilitiesChecks (Dict.get data "capabilities")
      ++ (iterateChecks (Dict.getD data "resource_selectors" (.arr [])) (fun item => [objectShape item])
      ++ [textShape (Dict.get data "mode"), boolShape (Dict.get data "single_use"),
        dictMemberShape data "parameter_constraints"])

def digestChecks (raw : Json) : List Verdict :=
  objectChecks raw fun data =>
    [textShape (Dict.get data "algorithm"), textShape (Dict.get data "canonicalization"),
      textShape (Dict.get data "value")]

def signatureChecks (raw : Json) : List Verdict :=
  objectChecks raw fun data =>
    [textShape (Dict.get data "algorithm"), textShape (Dict.get data "key_id"), textShape (Dict.get data "encoding"),
      textShape (Dict.get data "value")]

/-- the members `ActionIntent.from_dict` reads, in its order -/
def intentChecks (data : Dict) : List Verdict :=
  contractShape "action_intent" "v1" (Dict.get data "contract")
    :: (iterateChecks (Dict.getD data "evidence_refs" (.arr [])) evidenceChecks
    ++ textShape (Dict.get data "intent_id") :: timestampShape (Dict.get data "issued_at")
    :: timestampShape (Dict.get data "expires_at") :: (tenantChecks (Dict.get data "tenant")
    ++ (partyChecks (Dict.get data "requester") ++ (actionChecks (Dict.get data "action")
    ++ (targetChecks (Dict.get data "target") ++ [dictMemberShape data "context", dictMemberShape data "metadata",
      dictMemberShape data "extensions"])))))

/-- the `escrow_reference` of a proof, where it is not empty -/
def escrowReferenceShape (raw : Json) : Verdict := if raw.truthy then attrShape raw else .passes

/-- the members `PCCB.from_dict` reads, in its order -/
def pccbChecks (data : Dict) : List Verdict :=
  contractShape "pccb" "v1" (Dict.get data "contract") :: textShape (Dict.get data "pccb_id")
    :: timestampShape (Dict.get data "issued_at") :: timestampShape (Dict.get data "not_before")
    :: timestampShape (Dict.get data "expires_at") :: (partyChecks (Dict.get data "issuer")
    ++ (partyChecks (Dict.get data "subject") ++ (tenantChecks (Dict.get data "tenant")
    ++ (audienceChecks (Dict.get data "audience") ++ (actionChecks (Dict.get data "action")
    ++ (targetChecks (Dict.get data "target") ++ (scopeChecks (Dict.get data "scope")
    ++ textShape (Dict.get data "nonce") :: (digestChecks (Dict.get data "action_hash")
    ++ (signatureChecks (Dict.get data "signature")
    ++ [escrowReferenceShape (Dict.get data "escrow_reference"), dictMemberShape data "extensions"])))))))))

/-! ### `from_dict` -/

section
variable {raw : Json} {fieldName : String} {data : Dict}

theorem expectMapping_then {α : Type} {f : Dict → Except PyError α} {item : Dict → List Verdict}
    (h : ∀ data, Ends (f data) (item data)) : Ends (expectMapping raw fieldName >>= f) (objectChecks raw item) := by
  cases raw with
  | obj data => exact h data
  | _ => exact valueError_ends _

theorem optionalDict_ends (name : String) : Ends (optionalDict data name) [dictMemberShape data name] := pyDict_ends

theorem tenant_ends : Ends (TenantRef.fromDict raw) (tenantChecks raw) := by
  refine expectMapping_then fun data => ?_
  refine expectString_ends.step fun tenantId _ => ?_
  exact (optionalDict_ends _).last fun attributes => ⟨_, rfl⟩

theorem party_ends : Ends (PartyRef.fromDict raw fieldName) (partyChecks raw) := by
  refine expectMapping_then fun data => ?_
  refine expectString_ends.step fun type _ => ?_
  refine expectString_ends.step fun id _ => ?_
  exact (optionalDict_ends _).last fun attributes => ⟨_, rfl⟩

theorem audience_ends : Ends (AudienceRef.fromDict raw fieldName) (audienceChecks raw) := by
  refine expectMapping_then fun data => ?_
  refine expectString_ends.step fun type _ => ?_
  exact expectString_ends.last fun id => ⟨_, rfl⟩

theorem action_ends : Ends (ActionSpec.fromDict raw) (actionChecks raw) := by
  refine expectMapping_then fun data => ?_
  refine expectString_ends.step fun name _ => ?_
  refine expectString_ends.step fun capability _ => ?_
  refine expectMapping_ends.step fun parameters _ => ?_
  refine (optionalDict_ends _).step fun constraints _ => ?_
  exact (optionalDict_ends _).last fun scope => ⟨_, rfl⟩

theorem target_ends : Ends (TargetRef.fromDict raw) (targetChecks raw) := by
  refine expectMapping_then fun data => ?_
  refine expectString_ends.step fun resourceType _ => ?_
  refine expectString_ends.step fun resourceId _ => ?_
  exact (optionalDict_ends _).last fun selectors => ⟨_, rfl⟩

theorem evidenceRef_ends (raw : Json) : Ends (EvidenceRef.fromDict raw) (evidenceChecks raw) := by
  refine expectMapping_then fun data => ?_
  refine expectString_ends.step fun type _ => ?_
  refine expectString_ends.step fun value _ => ?_
  exact (optionalDict_ends _).last fun digest => ⟨_, rfl⟩

theorem selector_ends (raw : Json) : Ends (selectorOf raw) [objectShape raw] := expectMapping_ends

theorem scope_ends : Ends (ScopeSpec.fromDict raw) (scopeChecks raw) := by
  refine expectMapping_then fun data => ?_
  cases Dict.get data "capabilities" with
  | arr cs =>
    cases cs with
    | nil => exact valueError_ends _
    | cons c cs =>
      refine (Checks.mapM fun item _ => expectString_ends).bind fun capabilities _ => ?_
      rw [← bind_assoc]
      refine (iterate_ends selector_ends).bind fun selectors _ => ?_
      refine expectString_ends.step fun mode _ => ?_
      refine expectBool_ends.step fun singleUse _ => ?_
      exact (optionalDict_ends _).last fun parameterConstraints => ⟨_, rfl⟩
  | _ => exact valueError_ends _

theorem digest_ends : Ends (DigestSpec.fromDict raw fieldName) (digestChecks raw) := by
  refine expectMapping_then fun data => ?_
  refine expectString_ends.step fun algorithm _ => ?_
  refine expectString_ends.step fun canonicalization _ => ?_
  exact expectString_ends.last fun value => ⟨_, rfl⟩

theorem signature_ends : Ends (SignatureSpec.fromDict raw) (signatureChecks raw) := by
  refine expectMapping_then fun data => ?_
  refine expectString_ends.step fun algorithm _ => ?_
  refine expectString_ends.step fun keyId _ => ?_
  refine expectString_ends.step fun encoding _ => ?_
  exact expectString_ends.last fun value => ⟨_, rfl⟩

theorem contract_then {α : Type} {f : Except PyError α} {name version message : String} {ws : List Verdict}
    (h : Ends f ws) :
    Ends (expectMapping raw "contract" >>= fun contract =>
      if !declares contract name version then valueError message >>= fun _ : PUnit => f else f)
      (contractShape name version raw :: ws) := by
  cases raw with
  | obj contract =>
    show Ends (if !declares contract name version then _ else f)
      ((if declares contract name version then Verdict.passes else .refuses) :: ws)
    cases declares contract name version with
    | true => exact h
    | false => exact valueError_ends _
  | _ => exact valueError_ends _

/-- **`ActionIntent.from_dict`, member by member.** -/
theorem intent_checks : Ends (ActionIntent.fromDict (.obj data)) (intentChecks data) := by
  refine contract_then ?_
  rw [← bind_assoc]
  refine (iterate_ends evidenceRef_ends).bind fun evidenceRefs _ => ?_
  refine expectString_ends.step fun intentId _ => ?_
  refine parseTimestamp_ends.step fun issuedAt _ => ?_
  refine parseTimestamp_ends.step fun expiresAt _ => ?_
  refine tenant_ends.bind fun tenant _ => ?_
  refine party_ends.bind fun requester _ => ?_
  refine action_ends.bind fun action _ => ?_
  refine target_ends.bind fun target _ => ?_
  refine (optionalDict_ends _).step fun context _ => ?_
  refine (optionalDict_ends _).step fun metadata _ => ?_
  exact (optionalDict_ends _).last fun extensions => ⟨_, rfl⟩

theorem escrowReference_ends {name : String} :
    Ends ((if raw.truthy then raw else .obj []).getAttr name) [escrowReferenceShape raw] := by
  unfold escrowReferenceShape
  cases raw.truthy with
  | true => exact getAttr_ends
  | false => rfl

/-- **`PCCB.from_dict`, member by member.** -/
theorem pccb_checks : Ends (PCCB.fromDict (.obj data)) (pccbChecks data) := by
  refine contract_then ?_
  refine expectString_ends.step fun pccbId _ => ?_
  refine parseTimestamp_ends.step fun issuedAt _ => ?_
  refine parseTimestamp_ends.step fun notBefore _ => ?_
  refine parseTimestamp_ends.step fun expiresAt _ => ?_
  refine party_ends.bind fun issuer _ => ?_
  refine party_ends.bind fun subject _ => ?_
  refine tenant_ends.bind fun tenant _ => ?_
  refine audience_ends.bind fun audience _ => ?_
  refine action_ends.bind fun action _ => ?_
  refine target_ends.bind fun target _ => ?_
  refine scope_ends.bind fun scope _ => ?_
  refine expectString_ends.step fun nonce _ => ?_
  refine digest_ends.bind fun actionHash _ => ?_
  refine signature_ends.bind fun signature _ => ?_
  refine escrowReference_ends.step fun escrowId _ => ?_
  exact (optionalDict_ends _).last fun extensions => ⟨_, rfl⟩

/-! ## what escapes -/

/-- a timestamp of the right form whose instant is not one of the years 1 to 9999 -/
def OutsideUtc (raw : Json) : Prop :=
  ∃ s m, raw = .str s ∧ matchDateTime s.toList = some m ∧ m.accepted = true ∧ m.inYears = false

theorem timestampShape_escapes : timestampShape raw = .escapes ↔ OutsideUtc raw := by
  cases raw with
  | str s =>
    rw [timestampShape]
    cases hm : matchDateTime s.toList with
    | none =>
      refine iff_of_false (fun h => nomatch h) ?_
      rintro ⟨_, m, hs, hm', -⟩
      cases hs
      rw [hm] at hm'
      cases hm'
    | some m =>
      dsimp only
      constructor
      · intro h
        split at h
        · rename_i hacc
          split at h
          · cases h
          · rename_i hyears
            exact ⟨s, m, rfl, hm, hacc, Bool.eq_false_of_not_eq_true hyears⟩
        · cases h
      · rintro ⟨_, m', hs, hm', hacc, hyears⟩
        cases hs
        rw [hm] at hm'
        cases hm'
        rw [if_pos hacc, if_neg (by rw [hyears]; exact fun h => nomatch h)]
  | _ =>
    refine iff_of_false (fun h => nomatch h) ?_
    rintro ⟨_, _, hs, -⟩
    cases hs

theorem parseTimestamp_only_iff : OnlyValueErrors (parseTimestamp raw fieldName) ↔ ¬ OutsideUtc raw := by
  refine (Checks.raises_iff parseTimestamp_ends).trans ?_
  rw [← timestampShape_escapes]
  cases timestampShape raw <;> decide

theorem intent_only_iff : OnlyValueErrors (ActionIntent.fromDict (.obj data)) ↔ first (intentChecks data) ≠ .escapes :=
  Checks.raises_iff intent_checks

theorem pccb_only_iff : OnlyValueErrors (PCCB.fromDict (.obj data)) ↔ first (pccbChecks data) ≠ .escapes :=
  Checks.raises_iff pccb_checks

end

end Actenon
