import ActenonKernel.Proof.CanonicalInj
import ActenonKernel.Core.Same
import Mathlib.Data.String.Basic

/-!
# Equal canonical bytes are equal values

`canonicalizeBytes_inj` reads a value back from its bytes.  Here the other half: the canonical form
does not see the order of members, nor whether a sequence is a list or a tuple.  Together: two values
have the same canonical bytes if and only if they are the same value.

* `Json.lawful`               a dictionary has every key once, at every level;
* `sortMembers_perm`          the order of members is forgotten;
* `canonText_congr`           the same value has the same text, or is refused in the same way;
* `canonicalizeBytes_iff`     both directions.
-/

set_option linter.unusedSectionVars false

namespace Actenon

/-! ## dictionaries have every key once -/

mutual

def Json.lawful : Json → Bool
  | .arr xs => Json.lawfulList xs
  | .tup xs => Json.lawfulList xs
  | .obj kvs => decide (Dict.UniqueKeys kvs) && Json.lawfulMembers kvs
  | _ => true

def Json.lawfulList : List Json → Bool
  | [] => true
  | x :: xs => Json.lawful x && Json.lawfulList xs

def Json.lawfulMembers : Dict → Bool
  | [] => true
  | (_, x) :: kvs => Json.lawful x && Json.lawfulMembers kvs

end

theorem Json.lawfulList_iff (xs : List Json) :
    Json.lawfulList xs = true ↔ ∀ x ∈ xs, x.lawful = true := by
  induction xs with
  | nil => simp [Json.lawfulList]
  | cons x xs ih => simp [Json.lawfulList, ih]

theorem Json.lawfulMembers_iff (kvs : Dict) :
    Json.lawfulMembers kvs = true ↔ ∀ p ∈ kvs, p.2.lawful = true := by
  induction kvs with
  | nil => simp [Json.lawfulMembers]
  | cons p kvs ih =>
    obtain ⟨k, x⟩ := p
    simp [Json.lawfulMembers, ih]

theorem Json.lawful_obj (kvs : Dict) :
    (Json.obj kvs).lawful = true ↔ kvs.UniqueKeys ∧ ∀ p ∈ kvs, p.2.lawful = true := by
  rw [Json.lawful, Bool.and_eq_true, decide_eq_true_iff, Json.lawfulMembers_iff]

/-! ## the order of members -/

section
variable {β : Type}

/-- the text of a key that is one -/
def Key.text : Key → String
  | .str s => s
  | _ => ""

def Key.isText : Key → Bool
  | .str _ => true
  | _ => false

theorem mapM_stringMember (kvs : List (Key × β)) :
    kvs.mapM stringMember = if kvs.all fun p => p.1.isText then .ok (kvs.map fun p => (p.1.text, p.2))
      else typeError "'<' not supported between instances of different types" := by
  induction kvs with
  | nil => rfl
  | cons p kvs ih =>
    obtain ⟨k, x⟩ := p
    rw [List.mapM_cons, ih]
    cases k with
    | str s =>
      show (Except.ok (s, x) >>= fun m => _) = if kvs.all (fun p => p.1.isText) then _ else _
      rw [Fallible.ok_bind]
      split
      · rfl
      · rfl
    | none | num f | tup ks => rfl

/-- the members of a dictionary with string keys -/
theorem stringKeys_text {kvs : List (Key × β)} (h : ∀ p ∈ kvs, p.1.isText = true) :
    stringKeys kvs = .ok (kvs.map fun p => (p.1.text, p.2)) := by
  cases kvs with
  | nil => rfl
  | cons p kvs =>
    obtain ⟨k, x⟩ := p
    cases k with
    | str s =>
      unfold stringKeys
      refine (if_neg Bool.false_ne_true).trans ?_
      rw [mapM_stringMember, if_pos (List.all_eq_true.mpr h)]
    | none | num f | tup ks => cases h _ List.mem_cons_self

/-- the members of two orders of one dictionary, or the same refusal -/
theorem stringKeys_perm {kvs kvs' : List (Key × β)} (hp : kvs.Perm kvs') :
    (∃ e, stringKeys kvs = .error e ∧ stringKeys kvs' = .error e) ∨
      ∃ ms ms', stringKeys kvs = .ok ms ∧ stringKeys kvs' = .ok ms' ∧ ms.Perm ms' ∧
        (ms.map fun p => Key.str p.1) = kvs.map Prod.fst := by
  have hall : ∀ q : Key × β → Bool, kvs.all q = kvs'.all q := by
    intro q
    rw [Bool.eq_iff_iff, List.all_eq_true, List.all_eq_true]
    exact ⟨fun h x hx => h x (hp.symm.subset hx), fun h x hx => h x (hp.subset hx)⟩
  have hempty : kvs.isEmpty = kvs'.isEmpty := by
    rw [Bool.eq_iff_iff, List.isEmpty_iff_length_eq_zero, List.isEmpty_iff_length_eq_zero, hp.length_eq]
  unfold stringKeys
  rw [← hall, ← hempty, mapM_stringMember, mapM_stringMember, ← hall]
  split
  · split
    · rename_i he
      rw [List.isEmpty_iff] at he
      subst he
      exact Or.inr ⟨[], [], rfl, rfl, List.Perm.nil, rfl⟩
    · exact Or.inl ⟨_, rfl, rfl⟩
  · split
    · rename_i htext
      refine Or.inr ⟨_, _, rfl, rfl, hp.map _, ?_⟩
      rw [List.map_map]
      refine List.map_congr_left fun p hpm => ?_
      have hk := List.all_eq_true.mp htext p hpm
      obtain ⟨k, x⟩ := p
      cases k with
      | str s => rfl
      | none | num f | tup ks => cases hk
    · exact Or.inl ⟨_, rfl, rfl⟩

/-- sorting forgets the order of members with different keys -/
theorem sortMembers_perm {ms ms' : List (String × β)} (hp : ms.Perm ms') (hu : (ms.map Prod.fst).Nodup) :
    sortMembers ms = sortMembers ms' := by
  unfold sortMembers
  apply List.Perm.eq_of_pairwise
  · intro p q hpm hqm hle hge
    have hkey : p.1 = q.1 := le_antisymm hle hge
    have hpm' : p ∈ ms := (List.perm_insertionSort _ ms).subset hpm
    have hqm' : q ∈ ms := hp.symm.subset ((List.perm_insertionSort _ ms').subset hqm)
    exact List.inj_on_of_nodup_map hu hpm' hqm' hkey
  · exact List.pairwise_insertionSort _ ms
  · exact List.pairwise_insertionSort _ ms'
  · exact ((List.perm_insertionSort _ ms).trans hp).trans (List.perm_insertionSort _ ms').symm

end

/-! ## the same value -/

/-- two orders of one dictionary have the same text, or are refused in the same way -/
theorem canonText_perm {d d' : Dict} (hp : d.Perm d') (hu : d.UniqueKeys) :
    canonText (.obj d) = canonText (.obj d') := by
  rw [canonText, canonText, canonMembers_eq, canonMembers_eq]
  rcases stringKeys_perm (hp.map fun p => (p.1, canonText p.2)) with
    ⟨e, he, he'⟩ | ⟨ms, ms', hm, hm', hperm, hkeys⟩
  · rw [he, he']
  · have hnodup : (ms.map Prod.fst).Nodup := by
      apply List.Nodup.of_map Key.str
      rw [List.map_map]
      show (ms.map fun p => Key.str p.1).Nodup
      rw [hkeys, List.map_map]
      exact hu
    rw [hm, hm', Fallible.ok_bind, Fallible.ok_bind, sortMembers_perm hperm hnodup]

/-- **The same value has the same text**, or is refused in the same way. -/
theorem canonText_congr {a b : Json} (h : Json.Same a b) (hw : a.lawful = true) :
    canonText a = canonText b := by
  induction a using Json.induct generalizing b with
  | null | bool x | int n | float f | str s =>
    rw [Json.Same] at h
    rw [h]
  | arr xs ih | tup xs ih =>
    rw [Json.Same] at h
    obtain ⟨ys, hb, hs⟩ := h
    rw [Json.lawful, Json.lawfulList_iff] at hw
    have hitems : canonItems xs = canonItems ys := by
      rw [Json.sameList_iff] at hs
      clear hb
      induction hs with
      | nil => rfl
      | cons hxy _ ihs =>
        rw [canonItems, canonItems, ih _ List.mem_cons_self hxy (hw _ List.mem_cons_self),
          ihs (fun x hx => ih x (List.mem_cons_of_mem _ hx)) fun x hx => hw x (List.mem_cons_of_mem _ hx)]
    cases b with
    | arr zs | tup zs =>
      cases hb
      rw [canonText, canonText, hitems]
    | null | bool x | int n | float f | str s | obj kvs => cases hb
  | obj kvs ih =>
    rw [Json.Same] at h
    obtain ⟨kvs', l, rfl, hp, hm⟩ := h
    rw [Json.lawful_obj] at hw
    rw [Json.sameMembers_iff] at hm
    -- the values first, in the order of the first dictionary
    have hmembers : canonMembers kvs = canonMembers l ∧ kvs.map Prod.fst = l.map Prod.fst := by
      obtain ⟨-, hw⟩ := hw
      clear hp
      induction hm with
      | nil => exact ⟨rfl, rfl⟩
      | @cons p q _ _ hpq _ ihs =>
        obtain ⟨k, x⟩ := p
        obtain ⟨k', y⟩ := q
        obtain ⟨rfl, hxy⟩ : k = k' ∧ Json.Same x y := hpq
        obtain ⟨h1, h2⟩ := ihs (fun p hp => ih p (List.mem_cons_of_mem _ hp))
          fun p hp => hw p (List.mem_cons_of_mem _ hp)
        have hx := ih (k, x) List.mem_cons_self hxy (hw _ List.mem_cons_self)
        exact ⟨by rw [canonMembers, canonMembers, hx, h1], by rw [List.map_cons, List.map_cons, h2]⟩
    have hl : l.UniqueKeys := by
      unfold Dict.UniqueKeys
      rw [← hmembers.2]
      exact hw.1
    rw [← canonText_perm hp hl, canonText, canonText, hmembers.1]

/-- **Canonical bytes are equal if and only if the values are the same**: the order of members and
the kind of a sequence do not count, and everything else does. -/
theorem canonicalizeBytes_iff {P : Platform} {a b : Json} {x y : List UInt8} (hw : a.lawful = true)
    (ha : canonicalizeBytes P a = .ok x) (hb : canonicalizeBytes P b = .ok y) :
    x = y ↔ Json.Same a b := by
  constructor
  · intro hxy
    subst hxy
    exact canonicalizeBytes_inj ha hb
  · intro h
    have hbytes := canonicalizeBytes_congr (P := P) (canonText_congr h hw) h.depth
    rw [ha, hb] at hbytes
    exact Except.ok.inj hbytes

/-! ## one value in two spellings -/

/-- a list in the second member, then a tuple in the first -/
def spelledList : Json := .obj (members [("n", .int 1), ("xs", .arr [.bool true, .null])])

def spelledTuple : Json := .obj (members [("xs", .tup [.bool true, .null]), ("n", .int 1)])

/-- a number in place of the boolean -/
def spelledNumber : Json := .obj (members [("xs", .tup [.int 1, .null]), ("n", .int 1)])

/-- the spellings have one canonical form, and the number another one -/
theorem canonicalizeBytes_iff_sample :
    ∃ x, canonicalizeBytes (samplePlatform fun _ => []) spelledList = .ok x ∧
      canonicalizeBytes (samplePlatform fun _ => []) spelledTuple = .ok x ∧
      Json.Same spelledList spelledTuple ∧ ¬ Json.Same spelledList spelledNumber := by
  have hok : ((canonicalizeBytes (samplePlatform fun _ => []) spelledList).toBool = true ∧
      (canonicalizeBytes (samplePlatform fun _ => []) spelledTuple).toBool = true) ∧
      (canonicalizeBytes (samplePlatform fun _ => []) spelledNumber).toBool = true := by decide +kernel
  obtain ⟨x, hx⟩ := Fallible.exists_ok hok.1.1
  obtain ⟨y, hy⟩ := Fallible.exists_ok hok.1.2
  obtain ⟨z, hz⟩ := Fallible.exists_ok hok.2
  have hsame : Json.Same spelledList spelledTuple := by
    refine ⟨_, _, rfl, List.Perm.swap _ _ _, ?_⟩
    exact ⟨_, _, rfl, rfl, _, _, rfl, ⟨_, rfl, _, _, rfl, rfl, _, _, rfl, rfl, rfl⟩, rfl⟩
  have hxy := (canonicalizeBytes_iff (by decide) hx hy).mpr hsame
  subst hxy
  refine ⟨x, hx, hy, hsame, ?_⟩
  intro hnumber
  have hxz := (canonicalizeBytes_iff (by decide) hx hz).mpr hnumber
  subst hxz
  have hdiffer : canonicalizeBytes (samplePlatform fun _ => []) spelledList
      ≠ canonicalizeBytes (samplePlatform fun _ => []) spelledNumber := by decide +kernel
  exact hdiffer (hx.trans hz.symm)

end Actenon
