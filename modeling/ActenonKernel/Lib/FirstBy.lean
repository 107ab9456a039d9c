import Mathlib.Data.List.Sort

/-!
# The first element in the order of a key

`sorted(xs, key=key)[0]`.  The sort is stable: of the elements with the least key it is the one that
comes first in the list.

* `sortedHead`          the head of the sorted list;
* `First`               the same without sorting;
* `sortedHead_iff`      they agree.
-/

set_option linter.unusedSectionVars false

namespace FirstBy

section
variable {α κ : Type} [LinearOrder κ] (key : α → κ)

/-- `sorted(xs, key=key)[0]`, where `xs` is not empty -/
def sortedHead (xs : List α) : Option α := (xs.insertionSort fun a b => key a ≤ key b).head?

/-- smaller than everything before and not larger than anything after -/
def First (xs : List α) (x : α) : Prop :=
  ∃ before after, xs = before ++ x :: after ∧ (∀ y ∈ before, key x < key y) ∧ ∀ y ∈ after, key x ≤ key y

variable {key}

theorem sortedHead_eq_none {xs : List α} : sortedHead key xs = none ↔ xs = [] := by
  unfold sortedHead
  rw [List.head?_eq_none_iff, ← List.length_eq_zero_iff, List.length_insertionSort, List.length_eq_zero_iff]

theorem mem_of_sortedHead {xs : List α} {x : α} (h : sortedHead key xs = some x) : x ∈ xs :=
  (List.perm_insertionSort _ xs).mem_iff.mp (List.mem_of_mem_head? h)

theorem exists_sortedHead {xs : List α} {x : α} (h : x ∈ xs) : ∃ y, sortedHead key xs = some y := by
  rw [← Option.isSome_iff_exists, Option.isSome_iff_ne_none]
  intro hn
  rw [sortedHead_eq_none.mp hn] at h
  cases h

/-- one more element in front -/
theorem sortedHead_cons (a : α) (xs : List α) : sortedHead key (a :: xs) =
    match sortedHead key xs with
    | none => some a
    | some b => if key a ≤ key b then some a else some b := by
  unfold sortedHead
  rw [List.insertionSort_cons]
  cases xs.insertionSort fun a b => key a ≤ key b with
  | nil => rfl
  | cons b l =>
    rw [List.orderedInsert_cons]
    by_cases hab : key a ≤ key b
    · simp [hab]
    · simp [hab]

theorem First.cons {xs : List α} {x a : α} (h : First key xs x) (ha : key x < key a) :
    First key (a :: xs) x := by
  obtain ⟨before, after, rfl, hb, hx⟩ := h
  refine ⟨a :: before, after, rfl, ?_, hx⟩
  intro y hy
  rcases List.mem_cons.mp hy with rfl | hy
  · exact ha
  · exact hb y hy

/-- the first element is not larger than any other -/
theorem First.le {xs : List α} {x y : α} (h : First key xs x) (hy : y ∈ xs) : key x ≤ key y := by
  obtain ⟨before, after, rfl, hb, hx⟩ := h
  rcases List.mem_append.mp hy with hy | hy
  · exact (hb y hy).le
  · rcases List.mem_cons.mp hy with rfl | hy
    · exact le_rfl
    · exact hx y hy

/-- one more element with a larger key -/
theorem First.insert {before after : List α} {x y : α} (h : First key (before ++ after) x)
    (hxy : key x < key y) : First key (before ++ y :: after) x := by
  induction before with
  | nil => exact h.cons hxy
  | cons a before ih =>
    obtain ⟨b, l, he, hb, hl⟩ := h
    cases b with
    | nil =>
      obtain ⟨rfl, rfl⟩ := List.cons.inj he
      refine ⟨[], before ++ y :: after, rfl, fun z hz => (nomatch hz), ?_⟩
      intro z hz
      rcases List.mem_append.mp hz with hz | hz
      · exact hl z (List.mem_append_left _ hz)
      · rcases List.mem_cons.mp hz with rfl | hz
        · exact hxy.le
        · exact hl z (List.mem_append_right _ hz)
    | cons c b =>
      obtain ⟨rfl, hrest⟩ := List.cons.inj he
      refine First.cons (ih ⟨b, l, hrest, ?_, hl⟩) (hb a List.mem_cons_self)
      exact fun z hz => hb z (List.mem_cons_of_mem _ hz)

theorem first_of_sortedHead {xs : List α} {x : α} (h : sortedHead key xs = some x) : First key xs x := by
  induction xs generalizing x with
  | nil => cases h
  | cons a xs ih =>
    rw [sortedHead_cons] at h
    cases hb : sortedHead key xs with
    | none =>
      rw [hb] at h
      cases h
      rw [sortedHead_eq_none.mp hb]
      exact ⟨[], [], rfl, fun y hy => (nomatch hy), fun y hy => (nomatch hy)⟩
    | some b =>
      have hfirst := ih hb
      simp only [hb] at h
      split at h
      · rename_i hab
        cases h
        exact ⟨[], xs, rfl, fun y hy => (nomatch hy), fun y hy => hab.trans (hfirst.le hy)⟩
      · rename_i hab
        cases h
        exact hfirst.cons (not_le.mp hab)

theorem First.unique {xs : List α} {x y : α} (hx : First key xs x) (hy : First key xs y) : x = y := by
  obtain ⟨b₁, a₁, h₁, hb₁, -⟩ := id hx
  obtain ⟨b₂, a₂, h₂, hb₂, -⟩ := id hy
  have he := h₁.symm.trans h₂
  have hle : key x ≤ key y := hx.le (by simp [h₂])
  have hle' : key y ≤ key x := hy.le (by simp [h₁])
  rcases List.append_eq_append_iff.mp he with ⟨l, rfl, hl⟩ | ⟨l, rfl, hl⟩
  · cases l with
    | nil => exact (List.cons.inj hl).1
    | cons z l =>
      cases hl
      exact absurd (hb₂ x (by simp)) (not_lt.mpr hle)
  · cases l with
    | nil => exact (List.cons.inj hl).1.symm
    | cons z l =>
      cases hl
      exact absurd (hb₁ y (by simp)) (not_lt.mpr hle')

theorem sortedHead_iff {xs : List α} {x : α} : sortedHead key xs = some x ↔ First key xs x := by
  constructor
  · exact first_of_sortedHead
  · intro h
    obtain ⟨before, after, hxs, -⟩ := id h
    have hmem : x ∈ xs := by simp [hxs]
    obtain ⟨y, hy⟩ : ∃ y, sortedHead key xs = some y := exists_sortedHead hmem
    rw [hy, (first_of_sortedHead hy).unique h]

end

end FirstBy
