import Mathlib.Data.List.Nodup
import Mathlib.Data.List.Basic
import Mathlib.Data.List.Sort

/-!
# Tables with a primary key

A table is a list of rows no two of which have the same key.  The statements are those of SQL with a
condition on the rows: an update keeps the keys, a delete removes rows, an insert does nothing on a
conflict.  What a statement does is said of the row with a key.

* `find_update`, `find_delete`, `find_insert_of_none`    the row with a key after a statement;
* `count_eq`           how many rows with one key satisfy a condition;
* `AddedTo`            one more row in a table that may be missing;
* `Matching.put`       assignments to two tables that correspond row by row.
-/

set_option linter.unusedSectionVars false

/-- a table of rows `ρ` with the primary key `key` -/
structure Table {κ ρ : Type} (key : ρ → κ) where
  rows : List ρ
  unique : (rows.map key).Nodup

namespace Table

section
variable {κ ρ : Type} [DecidableEq κ] {key : ρ → κ}

/-- the row with a key -/
def find (t : Table key) (k : κ) : Option ρ := t.rows.find? fun r => key r = k

/-- the number of rows that satisfy a condition -/
def count (t : Table key) (p : ρ → Bool) : Nat := t.rows.countP p

/-- `UPDATE .. SET f WHERE p` -/
def update (t : Table key) (p : ρ → Bool) (f : ρ → ρ) (hf : ∀ r, key (f r) = key r) : Table key where
  rows := t.rows.map fun r => if p r then f r else r
  unique := by
    have h : (t.rows.map fun r => if p r then f r else r).map key = t.rows.map key := by
      rw [List.map_map]
      refine List.map_congr_left fun r _ => ?_
      show key (if p r then f r else r) = key r
      split
      · exact hf r
      · rfl
    rw [h]
    exact t.unique

/-- `DELETE .. WHERE p` -/
def delete (t : Table key) (p : ρ → Bool) : Table key where
  rows := t.rows.filter fun r => !p r
  unique := t.unique.sublist (List.filter_sublist.map key)

theorem key_of_find {t : Table key} {k : κ} {r : ρ} (h : t.find k = some r) : key r = k := by
  have hr := List.find?_some h
  exact of_decide_eq_true hr

theorem find_eq_none {t : Table key} {k : κ} : t.find k = none ↔ k ∉ t.rows.map key := by
  unfold find
  rw [List.find?_eq_none, List.mem_map]
  constructor
  · rintro h ⟨r, hr, rfl⟩
    exact h r hr (decide_eq_true rfl)
  · intro h r hr he
    exact h ⟨r, hr, of_decide_eq_true he⟩

/-- `INSERT .. ON CONFLICT DO NOTHING` -/
def insert (t : Table key) (r : ρ) : Table key :=
  if h : t.find (key r) = none then
    { rows := t.rows ++ [r]
      unique := by
        rw [List.map_append, List.map_singleton, List.nodup_append]
        refine ⟨t.unique, List.nodup_singleton _, ?_⟩
        intro a ha b hb hab
        rw [List.mem_singleton] at hb
        subst hab hb
        exact find_eq_none.mp h ha }
  else t

theorem find_update (t : Table key) (p : ρ → Bool) (f : ρ → ρ) (hf : ∀ r, key (f r) = key r) (k : κ) :
    (t.update p f hf).find k = (t.find k).map fun r => if p r then f r else r := by
  show List.find? _ (t.rows.map _) = (t.rows.find? _).map _
  rw [List.find?_map]
  congr 2
  funext r
  show decide (key (if p r then f r else r) = k) = decide (key r = k)
  split
  · rw [hf]
  · rfl

/-- an update of the row with one key -/
theorem find_update_one {t : Table key} {p : ρ → Bool} {f : ρ → ρ} (hf : ∀ r, key (f r) = key r) {k : κ} {r : ρ}
    (hr : t.find k = some r) (hp : p r = true) (hother : ∀ x, p x = true → key x = k) (k' : κ) :
    (t.update p f hf).find k' = if k = k' then some (f r) else t.find k' := by
  rw [find_update]
  split_ifs with hk
  · rw [← hk, hr, Option.map_some, if_pos hp]
  · cases hx : t.find k' with
    | none => rfl
    | some x =>
      have hkey : key x = k' := key_of_find hx
      rw [Option.map_some, if_neg fun hp => hk ((hother x hp).symm.trans hkey)]

/-- the row with a key is the only one -/
theorem find_of_mem {t : Table key} {r : ρ} (h : r ∈ t.rows) : t.find (key r) = some r := by
  cases hf : t.find (key r) with
  | none => exact absurd (List.mem_map_of_mem h) (find_eq_none.mp hf)
  | some r' =>
    have hk := key_of_find hf
    have hr' : r' ∈ t.rows := List.mem_of_find?_eq_some hf
    exact congrArg some (List.inj_on_of_nodup_map t.unique hr' h hk)

theorem find_delete (t : Table key) (p : ρ → Bool) (k : κ) :
    (t.delete p).find k = (t.find k).filter fun r => !p r := by
  cases hf : t.find k with
  | none =>
    have h : k ∉ (t.delete p).rows.map key := fun hk =>
      find_eq_none.mp hf ((List.filter_sublist.map key).subset hk)
    rw [find_eq_none.mpr h]
    rfl
  | some r =>
    have hk := key_of_find hf
    have hr : r ∈ t.rows := List.mem_of_find?_eq_some hf
    by_cases hp : p r = true
    · rw [Option.filter_some, if_neg (by simp [hp]), find_eq_none, List.mem_map]
      rintro ⟨r', hr', hk'⟩
      obtain ⟨hm, hn⟩ := List.mem_filter.mp hr'
      obtain rfl := List.inj_on_of_nodup_map t.unique hm hr (hk'.trans hk.symm)
      simp [hp] at hn
    · have hm : r ∈ (t.delete p).rows := List.mem_filter.mpr ⟨hr, by simp [hp]⟩
      rw [Option.filter_some, if_pos (by simp [hp]), ← hk]
      exact find_of_mem hm

theorem find_insert_of_none {t : Table key} {r : ρ} (h : t.find (key r) = none) (k : κ) :
    (t.insert r).find k = if key r = k then some r else t.find k := by
  unfold insert
  rw [dif_pos h]
  show (t.rows ++ [r]).find? _ = _
  rw [List.find?_append]
  by_cases hk : key r = k
  · subst hk
    rw [if_pos rfl]
    unfold find at h
    rw [h, List.find?_singleton, decide_eq_true rfl]
    rfl
  · rw [if_neg hk, List.find?_singleton, decide_eq_false hk]
    show Option.or (t.find k) none = t.find k
    rw [Option.or_none]

/-- at most one row has a key -/
theorem count_eq (t : Table key) (k : κ) (q : ρ → Bool) :
    t.count (fun r => key r = k && q r) = if (t.find k).any q then 1 else 0 := by
  have hle : t.rows.countP (fun r => key r = k) ≤ 1 := by
    have h := List.nodup_iff_count_le_one.mp t.unique k
    rw [List.count, List.countP_map] at h
    exact h
  cases hf : t.find k with
  | none =>
    have hno := List.find?_eq_none.mp hf
    show t.rows.countP _ = 0
    rw [List.countP_eq_zero]
    intro r hr
    have hk := hno r hr
    simp_all
  | some r =>
    have hk := key_of_find hf
    have hr : r ∈ t.rows := List.mem_of_find?_eq_some hf
    show t.rows.countP _ = if q r = true then 1 else 0
    have hmono : t.rows.countP (fun r => key r = k && q r) ≤ t.rows.countP (fun r => key r = k) :=
      List.countP_mono_left fun x _ hx => by
        simp only [Bool.and_eq_true] at hx
        exact hx.1
    split
    · rename_i hq
      have hpos : 0 < t.rows.countP (fun r => key r = k && q r) :=
        List.countP_pos_iff.mpr ⟨r, hr, by simp [hk, hq]⟩
      omega
    · rename_i hq
      rw [List.countP_eq_zero]
      intro x hx
      by_cases hxk : key x = k
      · obtain rfl := List.inj_on_of_nodup_map t.unique hx hr (hxk.trans hk.symm)
        simp [hq]
      · simp [hxk]

/-! ## other rows with the same keys -/

section
variable {ρ' : Type} {key' : ρ' → κ} (g : ρ → ρ') (hg : ∀ r, key' (g r) = key r)

theorem ext {t t' : Table key} (h : t.rows = t'.rows) : t = t' := by
  cases t
  cases t'
  cases h
  rfl

/-- every row is told otherwise -/
def map (t : Table key) : Table key' where
  rows := t.rows.map g
  unique := by
    rw [List.map_map, show key' ∘ g = key from funext hg]
    exact t.unique

theorem find_map (t : Table key) (k : κ) : (t.map g hg).find k = (t.find k).map g := by
  unfold find map
  rw [List.find?_map]
  congr 2
  funext r
  show decide (key' (g r) = k) = decide (key r = k)
  rw [hg]

theorem insert_map (t : Table key) (r : ρ) : (t.map g hg).insert (g r) = (t.insert r).map g hg := by
  have hnone : (t.map g hg).find (key' (g r)) = none ↔ t.find (key r) = none := by
    rw [find_map, hg, Option.map_eq_none_iff]
  unfold insert
  split_ifs with h h' h'
  · exact ext (@List.map_append _ _ g t.rows [r]).symm
  · exact absurd (hnone.mp h) h'
  · exact absurd (hnone.mpr h') h
  · rfl

variable {p : ρ → Bool} {p' : ρ' → Bool} (hp : ∀ r, p' (g r) = p r)
include hp

theorem update_map (t : Table key) {f : ρ → ρ} {f' : ρ' → ρ'} (hf : ∀ r, key (f r) = key r)
    (hf' : ∀ r, key' (f' r) = key' r) (hfg : ∀ r, f' (g r) = g (f r)) :
    (t.map g hg).update p' f' hf' = (t.update p f hf).map g hg := by
  refine ext ?_
  show (t.rows.map g).map _ = (t.rows.map _).map g
  rw [List.map_map, List.map_map]
  refine List.map_congr_left fun r _ => ?_
  show (if p' (g r) then f' (g r) else g r) = g (if p r then f r else r)
  rw [hp, hfg]
  split_ifs <;> rfl

theorem count_map (t : Table key) : (t.map g hg).count p' = t.count p := by
  unfold count map
  rw [List.countP_map]
  exact congrArg (fun q => t.rows.countP q) (funext hp)

end

/-! ## assignments -/

/-- `d[key] = r` of a dictionary: a row with the key is replaced where it stands -/
def put (t : Table key) (r : ρ) : Table key where
  rows := if key r ∈ t.rows.map key then t.rows.map fun x => if key x = key r then r else x else t.rows ++ [r]
  unique := by
    split_ifs with h
    · have hkeys : (t.rows.map fun x => if key x = key r then r else x).map key = t.rows.map key := by
        rw [List.map_map]
        refine List.map_congr_left fun x _ => ?_
        show key (if key x = key r then r else x) = key x
        split_ifs with hx
        · exact hx.symm
        · rfl
      rw [hkeys]
      exact t.unique
    · rw [List.map_append, List.map_singleton, List.nodup_append]
      refine ⟨t.unique, List.nodup_singleton _, ?_⟩
      intro a ha b hb hab
      rw [List.mem_singleton] at hb
      subst hab hb
      exact h ha

theorem find_put (t : Table key) {r : ρ} {k₀ : κ} (hr : key r = k₀) (k : κ) :
    (t.put r).find k = if k₀ = k then some r else t.find k := by
  subst hr
  have hkeys : ((fun x => decide (key x = k)) ∘ fun x => if key x = key r then r else x) = fun x => decide (key x = k) := by
    funext y
    show decide (key (if key y = key r then r else y) = k) = decide (key y = k)
    split_ifs with hy
    · rw [hy]
    · rfl
  show List.find? _ (if key r ∈ t.rows.map key then _ else _) = _
  split_ifs with h hk hk
  · -- the row with the key is replaced
    rw [List.find?_map, hkeys]
    show (t.find k).map _ = _
    cases hf : t.find k with
    | none => exact absurd (hk ▸ h) (find_eq_none.mp hf)
    | some x => rw [Option.map_some, if_pos ((key_of_find hf).trans hk.symm)]
  · rw [List.find?_map, hkeys]
    show (t.find k).map _ = _
    cases hf : t.find k with
    | none => rfl
    | some x => rw [Option.map_some, if_neg fun he => hk (he.symm.trans (key_of_find hf))]
  · rw [List.find?_append, List.find?_singleton, if_pos (decide_eq_true hk)]
    show (t.find k).or _ = _
    rw [find_eq_none.mpr (hk ▸ h)]
    rfl
  · rw [List.find?_append, List.find?_singleton, if_neg (by simp [hk])]
    exact Option.or_none

theorem mem_put {t : Table key} {r x : ρ} (h : x ∈ (t.put r).rows) : x = r ∨ x ∈ t.rows := by
  unfold put at h
  dsimp only at h
  split_ifs at h
  · obtain ⟨y, hy, hx⟩ := List.mem_map.mp h
    split_ifs at hx
    · exact Or.inl hx.symm
    · exact Or.inr (hx ▸ hy)
  · rcases List.mem_append.mp h with h | h
    · exact Or.inr h
    · exact Or.inl (List.mem_singleton.mp h)

/-- two tables whose rows correspond one by one -/
def Matching {κ' ρ' : Type} {key' : ρ' → κ'} (R : ρ → ρ' → Prop) (t : Table key) (t' : Table key') : Prop :=
  List.Forall₂ R t.rows t'.rows

section
variable {κ' ρ' : Type} [DecidableEq κ'] {key' : ρ' → κ'} {R : ρ → ρ' → Prop} {t : Table key} {t' : Table key'}

/-- rows that correspond have keys that correspond -/
def KeysMatch (key : ρ → κ) (key' : ρ' → κ') (R : ρ → ρ' → Prop) : Prop :=
  ∀ x y x' y', R x x' → R y y' → (key x = key y ↔ key' x' = key' y')

theorem Matching.mem_keys (hR : KeysMatch key key' R) (h : t.Matching R t') {r : ρ} {r' : ρ'} (hr : R r r') :
    key r ∈ t.rows.map key ↔ key' r' ∈ t'.rows.map key' := by
  have hrows : ∀ {xs xs'}, List.Forall₂ R xs xs' → (key r ∈ xs.map key ↔ key' r' ∈ xs'.map key') := by
    intro xs xs' h
    induction h with
    | nil => exact iff_of_false List.not_mem_nil List.not_mem_nil
    | @cons x x' xs xs' hx _ ih =>
      rw [List.map_cons, List.map_cons, List.mem_cons, List.mem_cons, ih]
      exact or_congr (hR r x r' x' hr hx) Iff.rfl
  exact hrows h

/-- **Assignments keep the correspondence.** -/
theorem Matching.put (hR : KeysMatch key key' R) (h : t.Matching R t') {r : ρ} {r' : ρ'} (hr : R r r') :
    (t.put r).Matching R (t'.put r') := by
  have hmem := h.mem_keys hR hr
  show List.Forall₂ R (if key r ∈ t.rows.map key then _ else _) (if key' r' ∈ t'.rows.map key' then _ else _)
  by_cases hin : key r ∈ t.rows.map key
  · rw [if_pos hin, if_pos (hmem.mp hin), List.forall₂_map_left_iff, List.forall₂_map_right_iff]
    refine h.imp fun x x' hx => ?_
    by_cases hkey : key x = key r
    · rw [if_pos hkey, if_pos ((hR x r x' r' hx hr).mp hkey)]
      exact hr
    · rw [if_neg hkey, if_neg fun hkey' => hkey ((hR x r x' r' hx hr).mpr hkey')]
      exact hx
  · rw [if_neg hin, if_neg fun hin' => hin (hmem.mpr hin')]
    exact List.rel_append h (List.Forall₂.cons hr List.Forall₂.nil)

/-- the rows that correspond to a row -/
theorem Matching.of_mem (h : t.Matching R t') : (∀ x ∈ t.rows, ∃ x' ∈ t'.rows, R x x') ∧
    ∀ x' ∈ t'.rows, ∃ x ∈ t.rows, R x x' := by
  have hrows : ∀ {xs xs'}, List.Forall₂ R xs xs' →
      (∀ x ∈ xs, ∃ x' ∈ xs', R x x') ∧ ∀ x' ∈ xs', ∃ x ∈ xs, R x x' := by
    intro xs xs' h
    induction h with
    | nil => exact ⟨List.forall_mem_nil _, List.forall_mem_nil _⟩
    | @cons x x' xs xs' hx _ ih =>
      refine ⟨List.forall_mem_cons.mpr ⟨⟨x', List.mem_cons_self, hx⟩, fun y hy => ?_⟩,
        List.forall_mem_cons.mpr ⟨⟨x, List.mem_cons_self, hx⟩, fun y' hy' => ?_⟩⟩
      · obtain ⟨y', hy', hyy⟩ := ih.1 y hy
        exact ⟨y', List.mem_cons_of_mem _ hy', hyy⟩
      · obtain ⟨y, hy, hyy⟩ := ih.2 y' hy'
        exact ⟨y, List.mem_cons_of_mem _ hy, hyy⟩
  exact hrows h

/-- rows in an order correspond to rows in an order -/
theorem Matching.insertionSort {le : ρ → ρ → Prop} {le' : ρ' → ρ' → Prop} [DecidableRel le] [DecidableRel le']
    (hle : ∀ x x' y y', R x x' → R y y' → (le x y ↔ le' x' y')) (h : t.Matching R t') :
    List.Forall₂ R (t.rows.insertionSort le) (t'.rows.insertionSort le') := by
  have hone : ∀ {x x' xs xs'}, R x x' → List.Forall₂ R xs xs' →
      List.Forall₂ R (xs.orderedInsert le x) (xs'.orderedInsert le' x') := by
    intro x x' xs xs' hx h
    induction h with
    | nil => exact List.Forall₂.cons hx List.Forall₂.nil
    | @cons y y' ys ys' hy hys ih =>
      by_cases hxy : le x y
      · rw [List.orderedInsert_cons_of_le _ _ hxy, List.orderedInsert_cons_of_le _ _ ((hle x x' y y' hx hy).mp hxy)]
        exact List.Forall₂.cons hx (List.Forall₂.cons hy hys)
      · rw [List.orderedInsert_of_not_le _ _ hxy,
          List.orderedInsert_of_not_le _ _ fun hxy' => hxy ((hle x x' y y' hx hy).mpr hxy')]
        exact List.Forall₂.cons hy ih
  have hrows : ∀ {xs xs'}, List.Forall₂ R xs xs' → List.Forall₂ R (xs.insertionSort le) (xs'.insertionSort le') := by
    intro xs xs' h
    induction h with
    | nil => exact List.Forall₂.nil
    | cons hx _ ih => exact hone hx ih
  exact hrows h

/-- what is found in the one corresponds to what is found in the other -/
theorem Matching.find (h : t.Matching R t') {k : κ} {k' : κ'} (hk : ∀ x x', R x x' → (key x = k ↔ key' x' = k')) :
    Option.Rel R (t.find k) (t'.find k') := by
  have hrows : ∀ {xs xs'}, List.Forall₂ R xs xs' →
      Option.Rel R (xs.find? fun x => key x = k) (xs'.find? fun x' => key' x' = k') := by
    intro xs xs' h
    induction h with
    | nil => exact Option.Rel.none
    | @cons x x' xs xs' hx _ ih =>
      by_cases hkey : key x = k
      · rw [List.find?_cons_of_pos (by simpa using hkey), List.find?_cons_of_pos (by simpa using (hk x x' hx).mp hkey)]
        exact Option.Rel.some hx
      · rw [List.find?_cons_of_neg (by simpa using hkey),
          List.find?_cons_of_neg (by simpa using fun hkey' => hkey ((hk x x' hx).mpr hkey'))]
        exact ih
  exact hrows h

end

/-! ## one more row -/

/-- the rows of a table that may be missing -/
def rowsOf (o : Option (Table key)) : List ρ := (o.map rows).getD []

/-- the second table has one more row, wherever it stands -/
def Added (t : Table key) (r : ρ) (t' : Table key) : Prop :=
  ∃ before after, t.rows = before ++ after ∧ t'.rows = before ++ r :: after

/-- the same of tables that may be missing -/
def AddedTo (o : Option (Table key)) (r : ρ) (o' : Option (Table key)) : Prop :=
  match o, o' with
  | none, none => True
  | some t, some t' => t.Added r t'
  | _, _ => False

/-- what was there is still found -/
theorem Added.find {t t' : Table key} {r x : ρ} (h : t.Added r t') {k : κ} (hx : t.find k = some x) :
    t'.find k = some x := by
  obtain ⟨before, after, hrows, hrows'⟩ := h
  have hmem : x ∈ t.rows := List.mem_of_find?_eq_some hx
  rw [hrows] at hmem
  have hmem' : x ∈ t'.rows := by
    rw [hrows', List.mem_append, List.mem_cons]
    rcases List.mem_append.mp hmem with hb | ha
    · exact Or.inl hb
    · exact Or.inr (Or.inr ha)
  rw [← key_of_find hx]
  exact find_of_mem hmem'

theorem AddedTo.find {o o' : Option (Table key)} {r x : ρ} (h : AddedTo o r o') {k : κ}
    (hx : (o.bind fun t => t.find k) = some x) : (o'.bind fun t => t.find k) = some x := by
  obtain ⟨t, rfl, hx⟩ := Option.bind_eq_some_iff.mp hx
  cases o' with
  | none => exact h.elim
  | some t' => exact Added.find h hx

/-- where the row stands -/
theorem AddedTo.rows {o o' : Option (Table key)} {r : ρ} (h : AddedTo o r o') :
    (o = none ∧ o' = none) ∨ ∃ before after, rowsOf o = before ++ after ∧ rowsOf o' = before ++ r :: after := by
  cases o with
  | none =>
    cases o' with
    | none => exact Or.inl ⟨rfl, rfl⟩
    | some t' => exact h.elim
  | some t =>
    cases o' with
    | none => exact h.elim
    | some t' => exact Or.inr h

/-- a condition that the row does not meet -/
theorem AddedTo.filter {o o' : Option (Table key)} {r : ρ} (h : AddedTo o r o') {p : ρ → Bool}
    (hp : o ≠ none → p r = false) : (rowsOf o').filter p = (rowsOf o).filter p := by
  cases o with
  | none =>
    cases o' with
    | none => rfl
    | some t' => exact h.elim
  | some t =>
    cases o' with
    | none => exact h.elim
    | some t' =>
      obtain ⟨before, after, hrows, hrows'⟩ := h
      show t'.rows.filter p = t.rows.filter p
      rw [hrows, hrows', List.filter_append, List.filter_append,
        List.filter_cons_of_neg (by rw [hp (fun hn => nomatch hn)]; decide)]

end

end Table
