import Mathlib.Order.Bounds.Basic
import Mathlib.Order.ConditionallyCompleteLattice.Basic
import Mathlib.Order.Lattice.Nat

/-!
# A depth-first walk of bounded depth

Nodes with a list of edges each; an edge leads to a node and leaves a mark, or it is broken.  The walk
visits every path from a node.  It stops at a broken edge, at a mark that is already on the path, and
when the path gets too long; otherwise it returns the length of the longest path.

* `walk`          the walk, with what is left of the depth and the marks on the path;
* `Path`          a path with its marks;
* `Sound`         no path has a broken edge or a mark twice, with the length of the longest path;
* `walk_iff`      the walk returns exactly on sound nodes whose paths are short enough.
-/

set_option linter.unusedSectionVars false

namespace BoundedWalk

section
variable {ν ε κ : Type} [DecidableEq κ] (edges : ν → List ε) (follow : ε → Option (κ × ν))

/-- the edges of a node, one after the other; `nested` is the walk from where an edge leads -/
def walkEdges (nested : ν → List κ → Option Nat) (seen : List κ) : List ε → Nat → Option Nat
  | [], depth => some depth
  | e :: es, depth =>
    match follow e with
    | none => none
    | some (k, w) =>
      if k ∈ seen then none
      else
        match nested w (k :: seen) with
        | none => none
        | some c => walkEdges nested seen es (max depth (c + 1))

def walk : Nat → ν → List κ → Option Nat
  | 0, v, _ => if (edges v).isEmpty then some 0 else none
  | n + 1, v, seen => walkEdges follow (walk n) seen (edges v) 0

/-- a path with its marks -/
inductive Path : ν → List κ → ν → Prop
  | here (v : ν) : Path v [] v
  | step {v w u : ν} {e : ε} {k : κ} {ks : List κ} (he : e ∈ edges v) (hf : follow e = some (k, w))
      (rest : Path w ks u) : Path v (k :: ks) u

/-- the lengths of the paths from a node -/
def lengths (v : ν) : Set Nat := {n | ∃ ks u, Path edges follow v ks u ∧ ks.length = n}

/-- every edge on a path can be followed, no path has a mark twice or one that was seen, and the
longest path has length `d` -/
structure Sound (v : ν) (seen : List κ) (d : Nat) : Prop where
  followed : ∀ {ks u}, Path edges follow v ks u → ∀ e ∈ edges u, (follow e).isSome = true
  fresh : ∀ {ks u}, Path edges follow v ks u → ks.Nodup ∧ ∀ k ∈ ks, k ∉ seen
  longest : IsGreatest (lengths edges follow v) d

variable {edges follow} {nested : ν → List κ → Option Nat} {v : ν} {seen : List κ} {es : List ε} {m d n : Nat}

theorem walkEdges_iff : walkEdges follow nested seen es m = some d ↔
    m ≤ d ∧ (∀ e ∈ es, ∃ k w c, follow e = some (k, w) ∧ k ∉ seen ∧ nested w (k :: seen) = some c ∧ c + 1 ≤ d) ∧
      (d = m ∨ ∃ e ∈ es, ∃ k w c, follow e = some (k, w) ∧ nested w (k :: seen) = some c ∧ d = c + 1) := by
  induction es generalizing m with
  | nil =>
    constructor
    · intro h
      cases h
      exact ⟨le_rfl, fun e he => (nomatch he), Or.inl rfl⟩
    · rintro ⟨-, -, rfl | ⟨e, he, -⟩⟩
      · rfl
      · cases he
  | cons e es ih =>
    rw [walkEdges, List.forall_mem_cons, List.exists_mem_cons_iff]
    cases hf : follow e with
    | none => simp
    | some p =>
      obtain ⟨k, w⟩ := p
      dsimp only
      by_cases hk : k ∈ seen
      · simp only [if_pos hk, reduceCtorEq, false_iff]
        rintro ⟨-, ⟨⟨k', w', c, he, hk', -⟩, -⟩, -⟩
        cases he
        exact hk' hk
      cases hc : nested w (k :: seen) with
      | none =>
        simp only [if_neg hk, reduceCtorEq, false_iff]
        rintro ⟨-, ⟨⟨k', w', c, he, -, hc', -⟩, -⟩, -⟩
        cases he
        rw [hc] at hc'
        cases hc'
      | some c =>
        simp only [if_neg hk, ih]
        constructor
        · rintro ⟨hm, hall, hd⟩
          refine ⟨le_trans (le_max_left _ _) hm, ⟨⟨k, w, c, rfl, hk, hc, le_trans (le_max_right _ _) hm⟩, hall⟩, ?_⟩
          rcases hd with hd | hd
          · rcases le_total m (c + 1) with hle | hle
            · exact Or.inr (Or.inl ⟨k, w, c, rfl, hc, by rw [hd, max_eq_right hle]⟩)
            · exact Or.inl (by rw [hd, max_eq_left hle])
          · exact Or.inr (Or.inr hd)
        · rintro ⟨hm, ⟨⟨k', w', c', he, -, hc', hle⟩, hall⟩, hd⟩
          cases he
          cases hc.symm.trans hc'
          refine ⟨max_le hm hle, hall, ?_⟩
          rcases hd with rfl | ⟨k', w', c', he, hc', rfl⟩ | hd
          · exact Or.inl (max_eq_left hle).symm
          · cases he
            cases hc.symm.trans hc'
            exact Or.inl (max_eq_right hm).symm
          · exact Or.inr hd

theorem Path.length_mem {ks : List κ} {u : ν} (h : Path edges follow v ks u) :
    ks.length ∈ lengths edges follow v := ⟨ks, u, h, rfl⟩

/-- a sound node by its edges -/
theorem sound_iff : Sound edges follow v seen d ↔
    (∀ e ∈ edges v, ∃ k w c, follow e = some (k, w) ∧ k ∉ seen ∧ Sound edges follow w (k :: seen) c ∧ c + 1 ≤ d) ∧
      (d = 0 ∨ ∃ e ∈ edges v, ∃ k w c, follow e = some (k, w) ∧ Sound edges follow w (k :: seen) c ∧ d = c + 1) := by
  constructor
  · intro h
    have hbound : ∀ {e k w}, e ∈ edges v → follow e = some (k, w) → ∀ n ∈ lengths edges follow w, n + 1 ≤ d := by
      rintro e k w he hf _ ⟨ks, u, hp, rfl⟩
      exact h.longest.2 (Path.step he hf hp).length_mem
    -- what an edge leads to is sound, with the mark of the edge seen
    have hnext : ∀ {e k w}, e ∈ edges v → follow e = some (k, w) →
        k ∉ seen ∧ ∃ c, Sound edges follow w (k :: seen) c ∧ c + 1 ≤ d := by
      intro e k w he hf
      have hne : (lengths edges follow w).Nonempty := ⟨_, (Path.here w).length_mem⟩
      have hmem := Nat.sSup_mem hne ⟨d, fun n hn => Nat.le_of_succ_le (hbound he hf n hn)⟩
      refine ⟨(h.fresh (Path.step he hf (Path.here w))).2 k List.mem_cons_self, sSup (lengths edges follow w),
        ⟨fun hp => h.followed (Path.step he hf hp), fun hp => ?_, hmem, fun n hn => ?_⟩, hbound he hf _ hmem⟩
      · obtain ⟨hnodup, hseen⟩ := h.fresh (Path.step he hf hp)
        obtain ⟨hk, hks⟩ := List.nodup_cons.mp hnodup
        refine ⟨hks, fun x hx hmem => ?_⟩
        rcases List.mem_cons.mp hmem with rfl | hmem
        · exact hk hx
        · exact hseen x (List.mem_cons_of_mem _ hx) hmem
      · exact le_csSup ⟨d, fun n hn => Nat.le_of_succ_le (hbound he hf n hn)⟩ hn
    constructor
    · intro e he
      obtain ⟨⟨k, w⟩, hf⟩ := Option.isSome_iff_exists.mp (h.followed (Path.here v) e he)
      obtain ⟨hk, c, hc, hle⟩ := hnext he hf
      exact ⟨k, w, c, hf, hk, hc, hle⟩
    · obtain ⟨ks, u, hp, hlen⟩ := h.longest.1
      cases hp with
      | here => exact Or.inl hlen.symm
      | @step _ w _ e k ks he hf rest =>
        obtain ⟨-, c, hc, hle⟩ := hnext he hf
        have hc' := hc.longest.2 rest.length_mem
        rw [List.length_cons] at hlen
        exact Or.inr ⟨e, he, k, w, c, hf, hc, by omega⟩
  · rintro ⟨hall, hd⟩
    refine ⟨fun hp => ?_, fun hp => ?_, ?_, ?_⟩
    · cases hp with
      | here =>
        intro e he
        obtain ⟨k, w, c, hf, -⟩ := hall e he
        rw [hf]
        rfl
      | step he hf rest =>
        obtain ⟨k, w, c, hf', -, hc, -⟩ := hall _ he
        cases hf.symm.trans hf'
        exact hc.followed rest
    · cases hp with
      | here => exact ⟨List.nodup_nil, fun k hk => (nomatch hk)⟩
      | @step _ w _ e k ks he hf rest =>
        obtain ⟨k', w', c, hf', hk, hc, -⟩ := hall e he
        cases hf.symm.trans hf'
        obtain ⟨hnodup, hseen⟩ := hc.fresh rest
        refine ⟨List.nodup_cons.mpr ⟨fun hmem => hseen k hmem List.mem_cons_self, hnodup⟩, fun x hx => ?_⟩
        rcases List.mem_cons.mp hx with rfl | hx
        · exact hk
        · exact fun hmem => hseen x hx (List.mem_cons_of_mem _ hmem)
    · rcases hd with rfl | ⟨e, he, k, w, c, hf, hc, rfl⟩
      · exact (Path.here v).length_mem
      · obtain ⟨ks, u, hp, hlen⟩ := hc.longest.1
        exact ⟨k :: ks, u, Path.step he hf hp, by rw [List.length_cons, hlen]⟩
    · rintro _ ⟨ks, u, hp, rfl⟩
      cases hp with
      | here => exact Nat.zero_le _
      | step he hf rest =>
        obtain ⟨k, w, c, hf', -, hc, hle⟩ := hall _ he
        cases hf.symm.trans hf'
        have hc' := hc.longest.2 rest.length_mem
        rw [List.length_cons]
        omega

/-- **The walk returns the length of the longest path, exactly when the node is sound and the depth
suffices.** -/
theorem walk_iff : walk edges follow n v seen = some d ↔ Sound edges follow v seen d ∧ d ≤ n := by
  induction n generalizing v seen d with
  | zero =>
    rw [walk, sound_iff]
    constructor
    · intro h
      split at h
      · rename_i hnil
        cases h
        rw [List.isEmpty_iff.mp hnil]
        exact ⟨⟨fun e he => (nomatch he), Or.inl rfl⟩, le_rfl⟩
      · cases h
    · rintro ⟨⟨hall, -⟩, hd⟩
      cases Nat.le_zero.mp hd
      have hnil : edges v = [] := by
        rw [List.eq_nil_iff_forall_not_mem]
        intro e he
        obtain ⟨k, w, c, -, -, -, hle⟩ := hall e he
        omega
      rw [hnil]
      rfl
  | succ n ih =>
    rw [walk, walkEdges_iff, sound_iff]
    simp only [ih]
    constructor
    · rintro ⟨-, hall, hd⟩
      refine ⟨⟨fun e he => ?_, ?_⟩, ?_⟩
      · obtain ⟨k, w, c, hf, hk, ⟨hc, -⟩, hle⟩ := hall e he
        exact ⟨k, w, c, hf, hk, hc, hle⟩
      · exact hd.imp_right fun ⟨e, he, k, w, c, hf, ⟨hc, _⟩, h⟩ => ⟨e, he, k, w, c, hf, hc, h⟩
      · rcases hd with rfl | ⟨e, he, k, w, c, hf, ⟨hc, hn⟩, rfl⟩
        · exact Nat.zero_le _
        · exact Nat.succ_le_succ hn
    · rintro ⟨⟨hall, hd⟩, hn⟩
      refine ⟨Nat.zero_le _, fun e he => ?_, ?_⟩
      · obtain ⟨k, w, c, hf, hk, hc, hle⟩ := hall e he
        exact ⟨k, w, c, hf, hk, ⟨hc, by omega⟩, hle⟩
      · exact hd.imp_right fun ⟨e, he, k, w, c, hf, hc, h⟩ => ⟨e, he, k, w, c, hf, ⟨hc, by omega⟩, h⟩

end

end BoundedWalk
