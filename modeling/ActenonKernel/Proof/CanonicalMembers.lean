import ActenonKernel.Proof.Binding

/-!
# Members of canonical documents

Two dictionaries with one canonical text have the same texts under every key; what is put together
again from such members has one text.

* `Json.Alike`               the same text and the same nesting;
* `canonText_members_perm`   the members of one text, with the texts of their values;
* `alike_of_member`, `alike_members`    from the whole to a member, and back.
-/

set_option linter.unusedSectionVars false

namespace Actenon

/-- the same text, or the same exception, and the same nesting -/
structure Json.Alike (a b : Json) : Prop where
  text : canonText a = canonText b
  depth : a.depth = b.depth

theorem Json.Alike.refl (a : Json) : Json.Alike a a := ⟨rfl, rfl⟩

theorem Json.Alike.symm {a b : Json} (h : Json.Alike a b) : Json.Alike b a := ⟨h.text.symm, h.depth.symm⟩

theorem Json.Alike.bytes {P : Platform} {a b : Json} (h : Json.Alike a b) :
    canonicalizeBytes P a = canonicalizeBytes P b := canonicalizeBytes_congr h.text h.depth

/-- one text has one list of members, each with its text -/
theorem canonText_members_perm {d d' : Dict} {t : List Char} (h : canonText (.obj d) = .ok t)
    (h' : canonText (.obj d') = .ok t) :
    (d.map fun p => (p.1, canonText p.2)).Perm (d'.map fun p => (p.1, canonText p.2)) := by
  obtain ⟨zs, hz, hzt⟩ := canonText_obj_ok h
  obtain ⟨ws, hw, hwt⟩ := canonText_obj_ok h'
  have hne : ∀ (z : Piece) (r : List Char), (z.chars ++ r).head? ≠ some '\x7d' := by
    intro z r he
    cases he
  have hread : Text.Readable Piece.chars (fun z w => z.key = w.key ∧ z.text = w.text) zs ws := by
    intro z _ w _ r r' hr hr' e
    have e' : Text.quote z.key ++ (':' :: (z.text ++ r)) = Text.quote w.key ++ (':' :: (w.text ++ r')) := by
      simpa [Piece.chars, memberText] using e
    obtain ⟨hkey, hrest⟩ := Text.quote_cancel _ _ _ _ e'
    have hvalue := (List.cons.inj hrest).2
    obtain ⟨-, rfl⟩ := canonText_cancel z.value w.value z.text w.text r r' z.ok w.ok hr hr' hvalue
    exact ⟨⟨hkey, List.append_cancel_right hvalue⟩, rfl⟩
  obtain ⟨hall, -⟩ := Text.joined_cancel Piece.chars _ '\x7b' '\x7d' (by decide) (by decide) zs ws hread
    (fun z _ => hne z) (fun w _ => hne w) [] [] (by rw [List.append_nil, List.append_nil, ← hzt, hwt])
  have hmap : (zs.map Piece.member).map (fun p => (p.1, canonText p.2))
      = (ws.map Piece.member).map fun p => (p.1, canonText p.2) := by
    clear hz hw hzt hwt hread
    induction hall with
    | nil => rfl
    | @cons z w _ _ hzw _ ih =>
      have hpair : ((Key.str z.key, canonText z.value) : Key × Except PyError (List Char))
          = (Key.str w.key, canonText w.value) := by
        rw [z.ok, w.ok, hzw.1, hzw.2]
      exact congrArg₂ List.cons hpair ih
  exact ((hz.map _).symm.trans (hmap ▸ List.Perm.refl _)).trans (hw.map _)

theorem Dict.mem_of_find {d : Dict} {k : Key} {v : Json} (h : Dict.find d k = some v) : (k, v) ∈ d := by
  obtain ⟨p, hp, rfl⟩ := Option.map_eq_some_iff.mp h
  have hk := List.find?_some hp
  rw [decide_eq_true_iff] at hk
  subst hk
  exact List.mem_of_find?_eq_some hp

/-- a member other than `None` is there -/
theorem Dict.find_of_get {d : Dict} {name : String} {v : Json} (hg : Dict.get d name = v) (hne : v ≠ .null) :
    Dict.find d (.str name) = some v := by
  unfold Dict.get at hg
  cases hf : Dict.find d (.str name) with
  | none =>
    rw [hf] at hg
    exact absurd hg.symm hne
  | some x =>
    rw [hf] at hg
    exact congrArg some hg

/-- the values under one key -/
theorem alike_of_member {P : Platform} {d d' : Dict} {bytes : List UInt8}
    (h : canonicalizeBytes P (.obj d) = .ok bytes) (h' : canonicalizeBytes P (.obj d') = .ok bytes)
    (hu : d'.UniqueKeys) {name : String} {v v' : Json} (hv : Dict.find d (.str name) = some v)
    (hv' : Dict.find d' (.str name) = some v') : Json.Alike v v' := by
  obtain ⟨t, ht, e, -⟩ := canonicalizeBytes_ok h
  obtain ⟨t', ht', e', -⟩ := canonicalizeBytes_ok h'
  obtain rfl := Text.utf8_injective (e.symm.trans e')
  have hmem := (canonText_members_perm ht ht').subset (List.mem_map_of_mem (Dict.mem_of_find hv))
  obtain ⟨p, hp, he⟩ := List.mem_map.mp hmem
  obtain ⟨hkey, htext⟩ := Prod.mk.inj he
  have hpv : p = (.str name, v') := List.inj_on_of_nodup_map hu hp (Dict.mem_of_find hv') hkey
  subst hpv
  have hs : Dict.Same d d' := canonicalizeBytes_inj h h'
  have hget := hs.get hu name
  unfold Dict.get at hget
  rw [hv, hv'] at hget
  exact ⟨htext.symm, hget.depth⟩

/-- dictionaries with the same keys and alike values -/
theorem alike_members {l l' : List (String × Json)}
    (h : List.Forall₂ (fun p q => p.1 = q.1 ∧ Json.Alike p.2 q.2) l l') :
    Json.Alike (.obj (members l)) (.obj (members l')) := by
  have htext : (members l).map (fun p => (p.1, canonText p.2)) = (members l').map fun p => (p.1, canonText p.2) := by
    induction h with
    | nil => rfl
    | cons hpq _ ih =>
      unfold members at ih ⊢
      simp only [List.map_cons, hpq.1, hpq.2.text, ih]
  have hdepth : Json.depthMembers (members l) = Json.depthMembers (members l') := by
    induction h with
    | nil => rfl
    | cons hpq _ ih =>
      unfold members at ih htext ⊢
      simp only [List.map_cons, List.cons.injEq] at htext
      simp only [List.map_cons, Json.depthMembers, hpq.2.depth, ih htext.2]
  refine ⟨canonText_obj_congr htext, ?_⟩
  rw [Json.depth, Json.depth, hdepth]

end Actenon
