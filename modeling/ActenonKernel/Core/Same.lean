import ActenonKernel.Core.Json
import Mathlib.Data.List.Perm.Basic

/-!
# Lookups in dictionaries with the same members

* `Dict.UniqueKeys`     no key occurs twice, which Python's `dict` guarantees;
* `Dict.Same.get`       the same lookups in dictionaries with the same members;
* `Dict.Same.isEmpty`   and both or none are empty.
-/

set_option linter.unusedSectionVars false

namespace Actenon

/-- no key occurs twice -/
def Dict.UniqueKeys (d : Dict) : Prop := (d.map Prod.fst).Nodup

instance (d : Dict) : Decidable d.UniqueKeys := inferInstanceAs (Decidable (List.Nodup _))

@[simp] theorem Dict.find_nil (k : Key) : Dict.find [] k = none := rfl

@[simp] theorem Dict.find_cons (k k' : Key) (v : Json) (d : Dict) :
    Dict.find ((k', v) :: d) k = if k' = k then some v else Dict.find d k := by
  unfold Dict.find
  rw [List.find?_cons]
  by_cases h : k' = k <;> simp [h]

theorem find_of_mem {d : Dict} (hu : d.UniqueKeys) {p : Key × Json} (hp : p ∈ d) :
    Dict.find d p.1 = some p.2 := by
  induction d with
  | nil => cases hp
  | cons q d ih =>
    obtain ⟨k, x⟩ := q
    obtain ⟨hk, hd⟩ := List.nodup_cons.mp hu
    rw [Dict.find_cons]
    rcases List.mem_cons.mp hp with rfl | hmem
    · rw [if_pos rfl]
    · rw [if_neg, ih hd hmem]
      intro heq
      apply hk
      show k ∈ d.map Prod.fst
      rw [heq]
      exact List.mem_map_of_mem hmem

@[simp] theorem find_members_nil (k : Key) : Dict.find (members []) k = none := rfl

@[simp] theorem find_members_cons (n : String) (v : Json) (kvs : List (String × Json)) (k : String) :
    Dict.find (members ((n, v) :: kvs)) (.str k)
      = if n = k then some v else Dict.find (members kvs) (.str k) := by
  show Dict.find ((.str n, v) :: members kvs) _ = _
  rw [Dict.find_cons]
  simp

@[simp] theorem Dict.find_append (d d' : Dict) (k : Key) :
    Dict.find (d ++ d') k = (Dict.find d k).or (Dict.find d' k) := by
  unfold Dict.find
  rw [List.find?_append]
  cases List.find? (fun p => decide (p.1 = k)) d <;> rfl

theorem Dict.find_eq_none {d : Dict} {k : Key} (h : k ∉ d.map Prod.fst) : Dict.find d k = none := by
  induction d with
  | nil => rfl
  | cons p d ih =>
    obtain ⟨k', v⟩ := p
    rw [List.map_cons, List.mem_cons, not_or] at h
    rw [Dict.find_cons, if_neg (fun e => h.1 e.symm), ih h.2]

/-- a lookup does not see the order of members -/
theorem Dict.find_perm {d d' : Dict} (hp : d.Perm d') (hu : d.UniqueKeys) (k : Key) :
    Dict.find d k = Dict.find d' k := by
  induction hp with
  | nil => rfl
  | cons p _ ih =>
    obtain ⟨k', v⟩ := p
    rw [Dict.find_cons, Dict.find_cons, ih (List.nodup_cons.mp hu).2]
  | swap p q l =>
    obtain ⟨k1, v1⟩ := p
    obtain ⟨k2, v2⟩ := q
    rw [Dict.find_cons, Dict.find_cons, Dict.find_cons, Dict.find_cons]
    have hne : k2 ≠ k1 := by
      have h2 := (List.nodup_cons.mp hu).1
      intro e
      exact h2 (by rw [e]; exact List.mem_cons_self)
    by_cases h1 : k1 = k
    · by_cases h2 : k2 = k
      · exact absurd (h2.trans h1.symm) hne
      · rw [if_neg h2, if_pos h1, if_pos h1]
    · rw [if_neg h1, if_neg h1]
  | trans h1 _ ih1 ih2 =>
    rw [ih1 hu, ih2 ((h1.map Prod.fst).nodup_iff.mp hu)]

/-- both lookups fail, or both find the same value -/
def SameFound (x y : Option Json) : Prop := Json.Same (x.getD .null) (y.getD .null) ∧ (x = none ↔ y = none)

theorem Dict.find_forall₂ {d l : Dict} (h : List.Forall₂ SameMember d l) (k : Key) :
    SameFound (Dict.find d k) (Dict.find l k) := by
  induction h with
  | nil => exact ⟨rfl, Iff.rfl⟩
  | @cons p q _ _ hpq _ ih =>
    obtain ⟨k1, v1⟩ := p
    obtain ⟨k2, v2⟩ := q
    obtain ⟨rfl, hv⟩ : k1 = k2 ∧ Json.Same v1 v2 := hpq
    rw [Dict.find_cons, Dict.find_cons]
    split
    · exact ⟨hv, by simp⟩
    · exact ih

section
variable {d d' : Dict} (h : Dict.Same d d') (hu : d'.UniqueKeys)
include h hu

theorem Dict.Same.find (k : Key) : SameFound (Dict.find d k) (Dict.find d' k) := by
  obtain ⟨l, hl, hp⟩ := (Dict.same_iff d d').mp h
  have hul : l.UniqueKeys := (hp.map Prod.fst).nodup_iff.mpr hu
  rw [← Dict.find_perm hp hul k]
  exact Dict.find_forall₂ hl k

theorem Dict.Same.get (name : String) : Json.Same (Dict.get d name) (Dict.get d' name) :=
  (Dict.Same.find h hu (.str name)).1

end

theorem Dict.Same.isEmpty {d d' : Dict} (h : Dict.Same d d') : d.isEmpty = d'.isEmpty := by
  obtain ⟨l, hl, hp⟩ := (Dict.same_iff d d').mp h
  have e := hl.length_eq.trans hp.length_eq
  rw [Bool.eq_iff_iff, List.isEmpty_iff_length_eq_zero, List.isEmpty_iff_length_eq_zero, e]

theorem Dict.same_nil : Dict.Same [] [] := (Dict.same_iff _ _).mpr ⟨[], List.Forall₂.nil, List.Perm.nil⟩

theorem Json.same_str {s t : String} (h : Json.Same (.str s) (.str t)) : s = t := by
  rw [Json.Same] at h
  exact (Json.str.inj h).symm

theorem Json.same_bool {a b : Bool} (h : Json.Same (.bool a) (.bool b)) : a = b := by
  rw [Json.Same] at h
  exact (Json.bool.inj h).symm

theorem Json.not_same_null_obj {d : Dict} (h : Json.Same .null (.obj d)) : False := by
  rw [Json.Same] at h
  cases h

theorem Json.not_same_obj_null {d : Dict} (h : Json.Same (.obj d) .null) : False := by
  rw [Json.Same] at h
  obtain ⟨_, _, h, -⟩ := h
  cases h

end Actenon
