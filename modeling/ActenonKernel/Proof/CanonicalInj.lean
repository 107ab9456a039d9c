import ActenonKernel.Proof.Canonical
import ActenonKernel.Lib.Fallible
import Mathlib.Data.List.Perm.Basic

/-!
# The canonical form can be read in one way only

* `Json.depth`            the nesting `validateJsonDepth` bounds, and `depthLoop_ok`;
* `canonText_cancel`      canonical texts that start two equal documents are texts of the same value;
* `canonicalizeBytes_inj`     values with the same canonical bytes are the same value;
* `canonicalizeBytes_congr`   a value with the same text and nesting has the same bytes.
-/

set_option linter.unusedSectionVars false

namespace Actenon

/-! ## nesting -/

mutual

/-- a scalar has depth 1 -/
def Json.depth : Json → Nat
  | .arr xs => Json.depthList xs + 1
  | .tup xs => Json.depthList xs + 1
  | .obj kvs => Json.depthMembers kvs + 1
  | _ => 1

def Json.depthList : List Json → Nat
  | [] => 0
  | x :: xs => max (Json.depth x) (Json.depthList xs)

def Json.depthMembers : Dict → Nat
  | [] => 0
  | (_, x) :: kvs => max (Json.depth x) (Json.depthMembers kvs)

end

theorem Json.depthList_le (xs : List Json) (n : Nat) :
    Json.depthList xs ≤ n ↔ ∀ x ∈ xs, x.depth ≤ n := by
  induction xs with
  | nil => simp [Json.depthList]
  | cons x xs ih => rw [Json.depthList, Nat.max_le, ih, List.forall_mem_cons]

theorem Json.depthMembers_eq (kvs : Dict) :
    Json.depthMembers kvs = Json.depthList (kvs.map Prod.snd) := by
  induction kvs with
  | nil => rfl
  | cons p kvs ih =>
    obtain ⟨k, x⟩ := p
    rw [Json.depthMembers, ih]
    rfl

theorem Json.depth_children (j : Json) : j.depth = Json.depthList j.children + 1 := by
  cases j with
  | obj kvs => rw [Json.depth, Json.depthMembers_eq]; rfl
  | _ => rfl

/-- the loop ends well when no value on the stack reaches below the limit -/
theorem depthLoop_ok (maxDepth : Nat) (stack : List (Json × Nat)) :
    depthLoop maxDepth stack = .ok () ↔ ∀ p ∈ stack, p.2 + p.1.depth ≤ maxDepth + 1 := by
  fun_induction depthLoop maxDepth stack with
  | case1 => simp
  | case2 item depth stack h =>
    have hd := item.depth_children
    simp only [valueError, reduceCtorEq, List.forall_mem_cons, false_iff]
    intro hall
    have := hall.1
    omega
  | case3 item depth stack h ih =>
    rw [ih, List.forall_mem_append, List.forall_mem_cons, item.depth_children]
    refine and_congr ?_ Iff.rfl
    simp only [List.mem_reverse, List.forall_mem_map]
    rw [show depth + (Json.depthList item.children + 1) ≤ maxDepth + 1
        ↔ Json.depthList item.children ≤ maxDepth - depth by omega, Json.depthList_le]
    refine forall₂_congr fun x _ => ?_
    omega

theorem validateJsonDepth_ok (j : Json) (maxDepth : Nat) (h : 0 < maxDepth) :
    validateJsonDepth j maxDepth = .ok () ↔ j.depth ≤ maxDepth := by
  unfold validateJsonDepth
  rw [if_neg (by omega), depthLoop_ok]
  simp only [List.mem_singleton, forall_eq]
  omega

theorem depthLoop_result (maxDepth : Nat) (stack : List (Json × Nat)) :
    depthLoop maxDepth stack = .ok () ∨
      depthLoop maxDepth stack = valueError s!"JSON value exceeds maximum nesting depth {maxDepth}" := by
  fun_induction depthLoop maxDepth stack with
  | case1 => exact Or.inl rfl
  | case2 => exact Or.inr rfl
  | case3 item depth stack h ih => exact ih

/-- the check depends on the nesting only -/
theorem validateJsonDepth_congr {a b : Json} (h : a.depth = b.depth) (maxDepth : Nat) :
    validateJsonDepth a maxDepth = validateJsonDepth b maxDepth := by
  unfold validateJsonDepth
  split
  · rfl
  · have e : depthLoop maxDepth [(a, 1)] = .ok () ↔ depthLoop maxDepth [(b, 1)] = .ok () := by
      rw [depthLoop_ok, depthLoop_ok]
      simp [h]
    rcases depthLoop_result maxDepth [(a, 1)] with ha | ha
    · rw [ha, e.mp ha]
    · rcases depthLoop_result maxDepth [(b, 1)] with hb | hb
      · rw [e.mpr hb, hb]
      · rw [ha, hb]

/-! ## inversion of `canonText` -/

/-- the texts of the items of a list -/
theorem canonItems_eq (xs : List Json) : canonItems xs = xs.mapM canonText := by
  induction xs with
  | nil => rfl
  | cons x xs ih =>
    rw [canonItems, ih, List.mapM_cons]

theorem canonMembers_eq (kvs : Dict) :
    canonMembers kvs = kvs.map fun p => (p.1, canonText p.2) := by
  induction kvs with
  | nil => rfl
  | cons p kvs ih =>
    obtain ⟨k, x⟩ := p
    rw [canonMembers, ih]
    rfl

/-- the members of a dictionary all of whose keys are strings -/
theorem stringKeys_ok {β : Type} {kvs : List (Key × β)} {ms : List (String × β)}
    (h : stringKeys kvs = .ok ms) :
    List.Forall₂ (fun p m => p = ((.str m.1, m.2) : Key × β)) kvs ms := by
  unfold stringKeys at h
  split at h
  · split at h
    · cases h
      rw [List.isEmpty_iff.mp ‹kvs.isEmpty = true›]
      exact List.Forall₂.nil
    · cases h
  · refine (Fallible.mapM_eq_ok.mp h).imp ?_
    rintro ⟨k, x⟩ m hm
    cases k with
    | str s =>
      cases hm
      rfl
    | none | num f | tup ks => cases hm

/-- a member of a dictionary that ended up in the text: its key, its value and the text of that -/
structure Piece where
  key : String
  value : Json
  text : List Char
  ok : canonText value = .ok text

/-- the member -/
def Piece.member (w : Piece) : Key × Json := (.str w.key, w.value)

/-- its text -/
def Piece.chars (w : Piece) : List Char := memberText (w.key, w.text)

/-- an item of a list with its text -/
structure Item where
  value : Json
  text : List Char
  ok : canonText value = .ok text

theorem canonItems_ok {xs : List Json} {ts : List (List Char)} (h : canonItems xs = .ok ts) :
    ∃ zs : List Item, zs.map Item.value = xs ∧ zs.map Item.text = ts := by
  rw [canonItems_eq, Fallible.mapM_eq_ok] at h
  induction h with
  | nil => exact ⟨[], rfl, rfl⟩
  | cons hx _ ih =>
    obtain ⟨zs, rfl, rfl⟩ := ih
    exact ⟨⟨_, _, hx⟩ :: zs, rfl, rfl⟩

theorem pieces_of_members {ms : List (String × Json)} {ts : List (List Char)}
    (h : (ms.map fun p => (p.1, canonText p.2)).mapM memberPiece = .ok ts) :
    ∃ ws : List Piece, (ws.map fun w => (w.key, w.value)) = ms ∧ ws.map Piece.chars = ts := by
  rw [Fallible.mapM_eq_ok, List.forall₂_map_left_iff] at h
  induction h with
  | nil => exact ⟨[], rfl, rfl⟩
  | @cons m t _ _ hm _ ih =>
    obtain ⟨ws, rfl, rfl⟩ := ih
    obtain ⟨text, ht, rfl⟩ := Fallible.map_eq_ok.mp hm
    exact ⟨⟨m.1, m.2, text, ht⟩ :: ws, rfl, rfl⟩

theorem sortMembers_map {β γ : Type} (f : β → γ) (zs : List (String × β)) :
    sortMembers (zs.map fun p => (p.1, f p.2)) = (sortMembers zs).map fun p => (p.1, f p.2) := by
  unfold sortMembers
  refine (List.map_insertionSort (fun p q : String × β => p.1 ≤ q.1)
    (fun p q : String × γ => p.1 ≤ q.1) (fun p : String × β => (p.1, f p.2)) zs ?_).symm
  intro p _ q _
  exact Iff.rfl

/-- the members behind keys that are all strings -/
theorem members_of_stringKeys {kvs : Dict} {ms : List (String × Except PyError (List Char))}
    (h : stringKeys (canonMembers kvs) = .ok ms) :
    ∃ zs : List (String × Json), kvs = zs.map (fun p => (.str p.1, p.2)) ∧
      ms = zs.map fun p => (p.1, canonText p.2) := by
  have hk := stringKeys_ok h
  rw [canonMembers_eq, List.forall₂_map_left_iff] at hk
  clear h
  induction hk with
  | nil => exact ⟨[], rfl, rfl⟩
  | @cons p m _ _ hpm _ ih =>
    obtain ⟨zs, rfl, rfl⟩ := ih
    obtain ⟨h5, h6⟩ := Prod.mk.inj hpm
    refine ⟨(m.1, p.2) :: zs, ?_, ?_⟩
    · rw [List.map_cons, ← h5]
    · rw [List.map_cons, h6]

/-- the text of a dictionary lists its members in some order -/
theorem canonText_obj_ok {kvs : Dict} {t : List Char} (h : canonText (.obj kvs) = .ok t) :
    ∃ ws : List Piece, (ws.map Piece.member).Perm kvs ∧
      t = Text.joined '\x7b' '\x7d' (ws.map Piece.chars) := by
  rw [canonText] at h
  obtain ⟨ms, hm, h⟩ := Fallible.bind_eq_ok.mp h
  obtain ⟨ts, hts, h⟩ := Fallible.bind_eq_ok.mp h
  obtain ⟨zs, rfl, rfl⟩ := members_of_stringKeys hm
  rw [sortMembers_map] at hts
  obtain ⟨ws, h1, rfl⟩ := pieces_of_members hts
  refine ⟨ws, ?_, (Fallible.pure_eq_ok.mp h).symm⟩
  have e : ws.map Piece.member = (sortMembers zs).map fun p => ((.str p.1, p.2) : Key × Json) := by
    rw [← h1, List.map_map]
    rfl
  rw [e]
  exact (List.perm_insertionSort _ zs).map _

theorem canonText_seq_ok {j : Json} {xs : List Json} {t : List Char} (hj : j.items? = some xs)
    (h : canonText j = .ok t) :
    ∃ zs : List Item, zs.map Item.value = xs ∧ t = Text.joined '[' ']' (zs.map Item.text) := by
  have key : (canonItems xs >>= fun ts => (pure (Text.joined '[' ']' ts) : Except PyError _)) = .ok t := by
    cases j with
    | arr ys => cases hj; rw [← h, canonText]
    | tup ys => cases hj; rw [← h, canonText]
    | null | bool b | int n | float f | str s | obj kvs => cases hj
  obtain ⟨ts, hts, h⟩ := Fallible.bind_eq_ok.mp key
  obtain ⟨zs, h1, rfl⟩ := canonItems_ok hts
  exact ⟨zs, h1, (Fallible.pure_eq_ok.mp h).symm⟩

/-! ## unique readability -/

/-- what the first character of a text tells -/
inductive Kind where
  | null | yes | no | int | str | seq | obj
deriving DecidableEq

/-- the kind of a value that has a text -/
def Json.kind : Json → Kind
  | .null => .null
  | .bool true => .yes
  | .bool false => .no
  | .int _ => .int
  | .float _ => .null
  | .str _ => .str
  | .arr _ | .tup _ => .seq
  | .obj _ => .obj

/-- the kind of a value whose text starts with a character -/
def charKind (c : Char) : Option Kind :=
  if c = '-' ∨ c.isDigit = true then some .int
  else if c = 'n' then some .null
  else if c = 't' then some .yes
  else if c = 'f' then some .no
  else if c = '"' then some .str
  else if c = '[' then some .seq
  else if c = '\x7b' then some .obj
  else none

theorem intRepr_ok {n : Int} {t : List Char} (h : intRepr n = .ok t) : t = Text.intText n := by
  unfold intRepr at h
  split at h
  · cases h
  · exact (Except.ok.inj h).symm

theorem canonText_head {j : Json} {t : List Char} (h : canonText j = .ok t) :
    ∃ c ds, t = c :: ds ∧ charKind c = some j.kind := by
  cases j with
  | null => cases h; exact ⟨_, _, rfl, rfl⟩
  | bool b => cases b <;> cases h <;> exact ⟨_, _, rfl, rfl⟩
  | int n =>
    obtain ⟨c, ds, hc, hk⟩ := Text.head_intText n
    exact ⟨c, ds, by rw [intRepr_ok h, hc], if_pos hk⟩
  | float f => cases h
  | str s => cases h; exact ⟨_, _, rfl, rfl⟩
  | arr xs =>
    obtain ⟨zs, -, rfl⟩ := canonText_seq_ok rfl h
    exact ⟨_, _, rfl, rfl⟩
  | tup xs =>
    obtain ⟨zs, -, rfl⟩ := canonText_seq_ok rfl h
    exact ⟨_, _, rfl, rfl⟩
  | obj kvs =>
    obtain ⟨ws, -, rfl⟩ := canonText_obj_ok h
    exact ⟨_, _, rfl, rfl⟩

/-- two documents that start with texts of values have values of one kind there -/
theorem kind_eq {a b : Json} {ta tb r r' : List Char} (ha : canonText a = .ok ta)
    (hb : canonText b = .ok tb) (h : ta ++ r = tb ++ r') : a.kind = b.kind := by
  obtain ⟨c, ds, rfl, hc⟩ := canonText_head ha
  obtain ⟨d, es, rfl, hd⟩ := canonText_head hb
  rw [(List.cons.inj h).1, hd] at hc
  exact (Option.some.inj hc).symm

theorem canonText_head_ne {j : Json} {t : List Char} (h : canonText j = .ok t) (r : List Char) :
    (t ++ r).head? ≠ some ']' := by
  obtain ⟨c, ds, rfl, hc⟩ := canonText_head h
  intro he
  have e : c = ']' := Option.some.inj he
  rw [e] at hc
  cases hc

/-- the text of a value tells the value, and where it ends -/
def ReadsBack (a : Json) : Prop :=
  ∀ b ta tb r r', canonText a = .ok ta → canonText b = .ok tb → Text.Stops r → Text.Stops r' →
    ta ++ r = tb ++ r' → Json.Same a b ∧ r = r'

theorem readsBack_seq {a b : Json} {xs ys : List Json} (ha : a.items? = some xs)
    (hb : b.items? = some ys) (ih : ∀ x ∈ xs, ReadsBack x) {ta tb r r' : List Char}
    (hta : canonText a = .ok ta) (htb : canonText b = .ok tb) (h : ta ++ r = tb ++ r') :
    Json.SameList xs ys ∧ r = r' := by
  obtain ⟨zs, rfl, rfl⟩ := canonText_seq_ok ha hta
  obtain ⟨ws, rfl, rfl⟩ := canonText_seq_ok hb htb
  obtain ⟨h1, h2⟩ := Text.joined_cancel Item.text (fun z w => Json.Same z.value w.value) '[' ']'
    (by decide) (by decide) zs ws
    (fun z hz w _ r r' hr hr' e =>
      ih z.value (List.mem_map_of_mem hz) w.value z.text w.text r r' z.ok w.ok hr hr' e)
    (fun z _ => canonText_head_ne z.ok) (fun w _ => canonText_head_ne w.ok) r r' h
  refine ⟨?_, h2⟩
  rw [Json.sameList_iff, List.forall₂_map_left_iff, List.forall₂_map_right_iff]
  exact h1

theorem readsBack_obj {kvs kvs' : Dict} (ih : ∀ p ∈ kvs, ReadsBack p.2) {ta tb r r' : List Char}
    (hta : canonText (.obj kvs) = .ok ta) (htb : canonText (.obj kvs') = .ok tb)
    (h : ta ++ r = tb ++ r') : Dict.Same kvs kvs' ∧ r = r' := by
  obtain ⟨zs, hz, rfl⟩ := canonText_obj_ok hta
  obtain ⟨ws, hw, rfl⟩ := canonText_obj_ok htb
  have hne : ∀ (z : Piece) (r : List Char), (z.chars ++ r).head? ≠ some '\x7d' := by
    intro z r he
    cases he
  have hread : Text.Readable Piece.chars (fun z w => SameMember z.member w.member) zs ws := by
    -- one member: its key is quoted, and after the colon comes its value
    intro z hz' w _ r r' hr hr' e
    have e' : Text.quote z.key ++ (':' :: (z.text ++ r))
        = Text.quote w.key ++ (':' :: (w.text ++ r')) := by
      simpa [Piece.chars, memberText] using e
    obtain ⟨h3, h4⟩ := Text.quote_cancel _ _ _ _ e'
    have hmem : z.member ∈ kvs := hz.subset (List.mem_map_of_mem hz')
    obtain ⟨h5, h6⟩ := ih z.member hmem w.value z.text w.text r r' z.ok w.ok hr hr'
      (List.cons.inj h4).2
    exact ⟨⟨congrArg Key.str h3, h5⟩, h6⟩
  obtain ⟨h1, h2⟩ := Text.joined_cancel Piece.chars _ '\x7b' '\x7d' (by decide) (by decide) zs ws
    hread (fun z _ => hne z) (fun w _ => hne w) r r' h
  refine ⟨(Dict.same_iff kvs kvs').mpr ?_, h2⟩
  have h3 : List.Forall₂ SameMember (zs.map Piece.member) (ws.map Piece.member) := by
    rw [List.forall₂_map_left_iff, List.forall₂_map_right_iff]
    exact h1
  obtain ⟨l, h4, h5⟩ := List.perm_comp_forall₂ hz.symm h3
  exact ⟨l, h4, h5.trans hw⟩

/-- **Canonical texts that start two equal documents are texts of the same value.** -/
theorem canonText_cancel (a : Json) : ReadsBack a := by
  induction a using Json.induct with
  | null =>
    intro b ta tb r r' ha hb hr hr' h
    have hk := kind_eq ha hb h
    cases b with
    | null =>
      cases ha
      cases hb
      exact ⟨rfl, List.append_cancel_left h⟩
    | bool b => cases b <;> cases hk
    | float f => cases hb
    | int n | str s | arr xs | tup xs | obj kvs => cases hk
  | bool x =>
    intro b ta tb r r' ha hb hr hr' h
    have hk := kind_eq ha hb h
    cases b with
    | bool y =>
      cases x <;> cases y <;> cases hk <;> cases ha <;> cases hb <;>
        exact ⟨rfl, List.append_cancel_left h⟩
    | float f => cases hb
    | null | int n | str s | arr xs | tup xs | obj kvs => cases x <;> cases hk
  | int m =>
    intro b ta tb r r' ha hb hr hr' h
    have hk := kind_eq ha hb h
    cases b with
    | int n =>
      rw [intRepr_ok ha, intRepr_ok hb] at h
      obtain ⟨rfl, h2⟩ := Text.intText_cancel m n r r' hr hr' h
      exact ⟨rfl, h2⟩
    | bool b => cases b <;> cases hk
    | float f => cases hb
    | null | str s | arr xs | tup xs | obj kvs => cases hk
  | float f =>
    intro b ta tb r r' ha
    cases ha
  | str s =>
    intro b ta tb r r' ha hb hr hr' h
    have hk := kind_eq ha hb h
    cases b with
    | str t =>
      cases ha
      cases hb
      obtain ⟨rfl, h2⟩ := Text.quote_cancel s t r r' h
      exact ⟨rfl, h2⟩
    | bool b => cases b <;> cases hk
    | float f => cases hb
    | null | int n | arr xs | tup xs | obj kvs => cases hk
  | arr xs ih =>
    intro b ta tb r r' ha hb hr hr' h
    have hk := kind_eq ha hb h
    cases b with
    | arr ys | tup ys =>
      obtain ⟨h1, h2⟩ := readsBack_seq rfl rfl ih ha hb h
      exact ⟨⟨ys, rfl, h1⟩, h2⟩
    | bool b => cases b <;> cases hk
    | float f => cases hb
    | null | int n | str s | obj kvs => cases hk
  | tup xs ih =>
    intro b ta tb r r' ha hb hr hr' h
    have hk := kind_eq ha hb h
    cases b with
    | arr ys | tup ys =>
      obtain ⟨h1, h2⟩ := readsBack_seq rfl rfl ih ha hb h
      exact ⟨⟨ys, rfl, h1⟩, h2⟩
    | bool b => cases b <;> cases hk
    | float f => cases hb
    | null | int n | str s | obj kvs => cases hk
  | obj kvs ih =>
    intro b ta tb r r' ha hb hr hr' h
    have hk := kind_eq ha hb h
    cases b with
    | obj kvs' => exact readsBack_obj ih ha hb h
    | bool b => cases b <;> cases hk
    | float f => cases hb
    | null | int n | str s | arr xs | tup xs => cases hk

theorem canonText_inj {a b : Json} {t : List Char} (ha : canonText a = .ok t)
    (hb : canonText b = .ok t) : Json.Same a b :=
  (canonText_cancel a b t t [] [] ha hb Text.stops_nil Text.stops_nil rfl).1

/-! ## nesting of the same value -/

theorem Json.depthList_perm {xs ys : List Json} (h : xs.Perm ys) :
    Json.depthList xs = Json.depthList ys := by
  refine eq_of_forall_ge_iff fun n => ?_
  rw [Json.depthList_le, Json.depthList_le]
  exact ⟨fun hx y hy => hx y (h.symm.subset hy), fun hy x hx => hy x (h.subset hx)⟩

theorem Json.depthList_forall₂ {xs ys : List Json}
    (h : List.Forall₂ (fun x y => x.depth = y.depth) xs ys) :
    Json.depthList xs = Json.depthList ys := by
  induction h with
  | nil => rfl
  | cons hx _ ih => rw [Json.depthList, Json.depthList, hx, ih]

/-- a relation between two lists that holds at members of the first -/
theorem forall₂_imp_mem {α β : Type} {R S : α → β → Prop} {xs : List α} {ys : List β}
    (h : List.Forall₂ R xs ys) (himp : ∀ x ∈ xs, ∀ y, R x y → S x y) : List.Forall₂ S xs ys := by
  induction h with
  | nil => exact List.Forall₂.nil
  | cons hx _ ih =>
    exact List.Forall₂.cons (himp _ List.mem_cons_self _ hx)
      (ih fun x hx' => himp x (List.mem_cons_of_mem _ hx'))

theorem Json.Same.depth {a b : Json} (h : Json.Same a b) : a.depth = b.depth := by
  induction a using Json.induct generalizing b with
  | null | bool x | int n | float f | str s =>
    rw [Json.Same] at h
    rw [h]
  | arr xs ih | tup xs ih =>
    rw [Json.Same] at h
    obtain ⟨ys, hb, hs⟩ := h
    have hd : b.depth = Json.depthList ys + 1 := by
      cases b with
      | arr zs | tup zs => cases hb; rfl
      | null | bool x | int n | float f | str s | obj kvs => cases hb
    rw [Json.depth, hd, Json.depthList_forall₂ (forall₂_imp_mem ((Json.sameList_iff xs ys).mp hs)
      fun x hx y hxy => ih x hx hxy)]
  | obj kvs ih =>
    rw [Json.Same] at h
    obtain ⟨kvs', l, rfl, hp, hm⟩ := h
    have h1 := forall₂_imp_mem ((Json.sameMembers_iff kvs l).mp hm)
      fun p hp q hpq => ih p hp hpq.2
    rw [Json.depth, Json.depth, Json.depthMembers_eq, Json.depthMembers_eq,
      ← Json.depthList_perm (hp.map Prod.snd)]
    refine congrArg (· + 1) (Json.depthList_forall₂ ?_)
    rw [List.forall₂_map_left_iff, List.forall₂_map_right_iff]
    exact h1

/-! ## bytes -/

theorem canonicalizeBytes_ok {P : Platform} {j : Json} {bs : List UInt8}
    (h : canonicalizeBytes P j = .ok bs) :
    ∃ t, canonText j = .ok t ∧ bs = Text.utf8 t ∧ j.depth ≤ P.maxJsonDepth + 1 ∧
      bs.length ≤ maxOutputBytes := by
  unfold canonicalizeBytes canonicalizeJson at h
  obtain ⟨t, ht, h⟩ := Fallible.bind_eq_ok.mp h
  obtain ⟨_, hv, ht⟩ := Fallible.bind_eq_ok.mp ht
  have hd := (validateJsonDepth_ok j _ (Nat.succ_pos _)).mp hv
  refine ⟨t, ht, ?_⟩
  by_cases hl : (Text.utf8 t).length > maxOutputBytes
  · simp only [hl, if_true] at h
    cases h
  · simp only [hl, if_false] at h
    have e : Text.utf8 t = bs := Except.ok.inj h
    exact ⟨e.symm, hd, by rw [← e]; omega⟩

theorem canonicalizeBytes_of_text {P : Platform} {j : Json} {t : List Char} (ht : canonText j = .ok t)
    (hd : j.depth ≤ P.maxJsonDepth + 1) (hl : (Text.utf8 t).length ≤ maxOutputBytes) :
    canonicalizeBytes P j = .ok (Text.utf8 t) := by
  unfold canonicalizeBytes canonicalizeJson
  rw [(validateJsonDepth_ok j _ (Nat.succ_pos _)).mpr hd, Fallible.ok_bind, ht, Fallible.ok_bind]
  exact if_neg (Nat.not_lt.mpr hl)

/-- the texts of the values inside a value are parts of its text -/
theorem canonText_child {j x : Json} {t : List Char} (h : canonText j = .ok t) (hx : x ∈ j.children) :
    ∃ u, canonText x = .ok u ∧ u <:+: t := by
  have hseq : ∀ xs, j.items? = some xs → x ∈ xs → ∃ u, canonText x = .ok u ∧ u <:+: t := by
    intro xs hj hmem
    obtain ⟨zs, rfl, rfl⟩ := canonText_seq_ok hj h
    obtain ⟨z, hz, rfl⟩ := List.mem_map.mp hmem
    exact ⟨z.text, z.ok, Text.infix_joined _ _ (List.mem_map_of_mem hz)⟩
  cases j with
  | arr xs | tup xs => exact hseq xs rfl hx
  | obj kvs =>
    obtain ⟨ws, hp, rfl⟩ := canonText_obj_ok h
    obtain ⟨p, hmem, rfl⟩ := List.mem_map.mp hx
    obtain ⟨w, hw, rfl⟩ := List.mem_map.mp (hp.symm.subset hmem)
    refine ⟨w.text, w.ok, ?_⟩
    have hchars : w.text <:+: w.chars := (List.suffix_append (Text.quote w.key ++ [':']) w.text).isInfix.trans
      (by rw [List.append_assoc]; exact List.infix_refl _)
    exact hchars.trans (Text.infix_joined _ _ (List.mem_map_of_mem hw))
  | null | bool b | int n | float f | str s => cases hx

/-- the values inside a value that has canonical bytes have canonical bytes -/
theorem canonicalizeBytes_child {P : Platform} {j x : Json} {bs : List UInt8}
    (h : canonicalizeBytes P j = .ok bs) (hx : x ∈ j.children) :
    ∃ bs', canonicalizeBytes P x = .ok bs' := by
  obtain ⟨t, ht, rfl, hd, hl⟩ := canonicalizeBytes_ok h
  obtain ⟨u, hu, hpart⟩ := canonText_child ht hx
  have hdepth : x.depth ≤ Json.depthList j.children := (Json.depthList_le j.children _).mp le_rfl x hx
  rw [Json.depth_children] at hd
  refine ⟨_, canonicalizeBytes_of_text hu (by omega) ?_⟩
  exact le_trans (Text.utf8_length_infix hpart) hl

/-- **Values with the same canonical bytes are the same value.** -/
theorem canonicalizeBytes_inj {P : Platform} {a b : Json} {bs : List UInt8}
    (ha : canonicalizeBytes P a = .ok bs) (hb : canonicalizeBytes P b = .ok bs) : Json.Same a b := by
  obtain ⟨t, hta, h1, -⟩ := canonicalizeBytes_ok ha
  obtain ⟨t', htb, h2, -⟩ := canonicalizeBytes_ok hb
  have e : t = t' := Text.utf8_injective (h1.symm.trans h2)
  subst e
  exact canonText_inj hta htb

/-- a value with the same text and nesting has the same bytes -/
theorem canonicalizeBytes_congr {P : Platform} {a b : Json} (ht : canonText a = canonText b)
    (hd : a.depth = b.depth) : canonicalizeBytes P a = canonicalizeBytes P b := by
  unfold canonicalizeBytes canonicalizeJson
  rw [ht, validateJsonDepth_congr hd]

end Actenon
