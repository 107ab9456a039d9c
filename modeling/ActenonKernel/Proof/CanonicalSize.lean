import ActenonKernel.Proof.CanonicalIff
import Mathlib.Data.List.Perm.Subperm
import Mathlib.Algebra.Order.BigOperators.Group.List

/-!
# The size of canonical texts

The text of a dictionary is as long as the texts of its members with a colon and a comma each, in
whatever order they stand.

* `Dict.bytes`            the members of a dictionary, counted one by one;
* `canonText_members`     a dictionary with string keys has a text when its values have one;
* `canonicalizeBytes_exists`    when a value has canonical bytes;
* `utf8_obj_length`       the bytes of a dictionary;
* `Dict.bytes_le`         a part of the members has no more bytes.
-/

set_option linter.unusedSectionVars false

namespace Text

theorem utf8_append (cs ds : List Char) : utf8 (cs ++ ds) = utf8 cs ++ utf8 ds := List.flatMap_append

/-- a list of texts with a comma after each -/
theorem utf8_following_length (cl : Char) (ts : List (List Char)) :
    (utf8 (following cl ts)).length = (ts.map fun t => (utf8 t).length + 1).sum + (utf8 [cl]).length := by
  induction ts with
  | nil => rw [following, List.map_nil, List.sum_nil, Nat.zero_add]
  | cons t ts ih =>
    have hcons : utf8 (following cl (t :: ts)) = utf8 [','] ++ (utf8 t ++ utf8 (following cl ts)) := by
      rw [← utf8_append, ← utf8_append]
      rfl
    have hcomma : (utf8 [',']).length = 1 := by decide
    rw [hcons, List.length_append, List.length_append, ih, hcomma, List.map_cons, List.sum_cons]
    omega

/-- a list of texts in brackets that are one byte each -/
theorem utf8_joined_length {op cl : Char} (hop : (utf8 [op]).length = 1) (hcl : (utf8 [cl]).length = 1)
    {ts : List (List Char)} (hne : ts ≠ []) :
    (utf8 (joined op cl ts)).length = (ts.map fun t => (utf8 t).length + 1).sum + 1 := by
  cases ts with
  | nil => exact absurd rfl hne
  | cons t ts =>
    have hcons : utf8 (op :: (t ++ following cl ts)) = utf8 [op] ++ (utf8 t ++ utf8 (following cl ts)) := by
      rw [← utf8_append, ← utf8_append]
      rfl
    rw [joined_cons, hcons, List.length_append, List.length_append, utf8_following_length, hop, hcl,
      List.map_cons, List.sum_cons]
    omega

end Text

namespace Actenon

/-! ## bytes -/

/-- the bytes of the text of a value, 0 if there is none -/
def Json.bytes (value : Json) : Nat :=
  match canonText value with
  | .ok t => (Text.utf8 t).length
  | .error _ => 0

theorem Json.bytes_of_text {value : Json} {t : List Char} (h : canonText value = .ok t) :
    value.bytes = (Text.utf8 t).length := by
  unfold Json.bytes
  rw [h]

/-- the bytes of a member, with its colon and a comma -/
def memberBytes (p : Key × Json) : Nat := (Text.utf8 (Text.quote p.1.text)).length + p.2.bytes + 2

def Dict.bytes (d : Dict) : Nat := (d.map memberBytes).sum

theorem Dict.bytes_append (d d' : Dict) : Dict.bytes (d ++ d') = Dict.bytes d + Dict.bytes d' := by
  unfold Dict.bytes
  rw [List.map_append, List.sum_append]

theorem Dict.bytes_cons (p : Key × Json) (d : Dict) : Dict.bytes (p :: d) = memberBytes p + Dict.bytes d := rfl

/-- a part of the members has no more bytes -/
theorem Dict.bytes_le {d d' : Dict} (hd : d.Nodup) (h : d ⊆ d') : Dict.bytes d ≤ Dict.bytes d' := by
  obtain ⟨l, hl, hsub⟩ := List.subperm_of_subset hd h
  unfold Dict.bytes
  rw [(hl.symm.map memberBytes).sum_eq]
  exact (hsub.map memberBytes).sum_le_sum fun _ _ => Nat.zero_le _

/-- a member is a part of a dictionary -/
theorem memberBytes_le {d : Dict} {p : Key × Json} (h : p ∈ d) : memberBytes p ≤ Dict.bytes d := by
  have hle := Dict.bytes_le (List.nodup_singleton p) (List.cons_subset.mpr ⟨h, List.nil_subset d⟩)
  rwa [Dict.bytes_cons] at hle

/-! ## the text of a dictionary -/

/-- a dictionary with string keys has a text when its values have one -/
theorem canonText_members {d : Dict} (h : ∀ p ∈ d, p.1.isText = true ∧ ∃ t, canonText p.2 = .ok t) :
    ∃ t, canonText (.obj d) = .ok t := by
  have hkeys : stringKeys (canonMembers d) = .ok (d.map fun p => (p.1.text, canonText p.2)) := by
    rw [canonMembers_eq, stringKeys_text, List.map_map]
    · rfl
    · intro p hp
      obtain ⟨q, hq, rfl⟩ := List.mem_map.mp hp
      exact (h q hq).1
  have hpieces : ∀ m ∈ sortMembers (d.map fun p => (p.1.text, canonText p.2)), ∃ t, memberPiece m = .ok t := by
    intro m hm
    obtain ⟨p, hp, rfl⟩ := List.mem_map.mp ((List.perm_insertionSort _ _).subset hm)
    obtain ⟨t, ht⟩ := (h p hp).2
    exact ⟨_, by rw [memberPiece, ht]; rfl⟩
  obtain ⟨ts, hts⟩ := Fallible.exists_mapM_ok hpieces
  exact ⟨_, by rw [canonText, hkeys, Fallible.ok_bind, hts]; rfl⟩

/-! ## when there are canonical bytes -/

mutual

/-- what has a text: no fraction, text keys only and no integer of more digits than the interpreter writes -/
def Json.writable : Json → Bool
  | .null | .bool _ | .str _ => true
  | .int n => (Nat.toDigits 10 n.natAbs).length ≤ maxStrDigits
  | .float _ => false
  | .arr xs | .tup xs => Json.writableItems xs
  | .obj kvs => Json.writableMembers kvs

def Json.writableItems : List Json → Bool
  | [] => true
  | x :: xs => x.writable && Json.writableItems xs

def Json.writableMembers : Dict → Bool
  | [] => true
  | (k, x) :: kvs => k.isText && x.writable && Json.writableMembers kvs

end

theorem writableItems_iff (xs : List Json) : Json.writableItems xs = true ↔ ∀ x ∈ xs, x.writable = true := by
  induction xs with
  | nil => simp [Json.writableItems]
  | cons x xs ih => simp [Json.writableItems, ih]

theorem writableMembers_iff (kvs : Dict) :
    Json.writableMembers kvs = true ↔ ∀ p ∈ kvs, p.1.isText = true ∧ p.2.writable = true := by
  induction kvs with
  | nil => simp [Json.writableMembers]
  | cons p kvs ih =>
    obtain ⟨k, x⟩ := p
    simp [Json.writableMembers, ih]

theorem canonText_exists (j : Json) : (∃ t, canonText j = .ok t) ↔ j.writable = true := by
  induction j using Json.induct with
  | null | str s => exact iff_of_true ⟨_, by rw [canonText]⟩ rfl
  | bool b =>
    cases b with
    | true | false => exact iff_of_true ⟨_, by rw [canonText]⟩ rfl
  | int n =>
    rw [canonText, Json.writable, decide_eq_true_iff]
    unfold intRepr
    split
    · refine iff_of_false ?_ (by omega)
      rintro ⟨_, h⟩
      cases h
    · exact iff_of_true ⟨_, rfl⟩ (by omega)
  | float f =>
    rw [canonText]
    refine iff_of_false ?_ ?_
    · rintro ⟨_, h⟩
      cases h
    · rintro ⟨⟩
  | arr xs ih | tup xs ih =>
    rw [Json.writable, writableItems_iff]
    constructor
    · rintro ⟨t, ht⟩ x hx
      obtain ⟨u, hu, -⟩ := canonText_child ht hx
      exact (ih x hx).mp ⟨u, hu⟩
    · intro h
      obtain ⟨ts, hts⟩ := Fallible.exists_mapM_ok fun x hx => (ih x hx).mpr (h x hx)
      exact ⟨_, by rw [canonText, canonItems_eq, hts]; rfl⟩
  | obj kvs ih =>
    rw [Json.writable, writableMembers_iff]
    constructor
    · rintro ⟨t, ht⟩ p hp
      obtain ⟨ws, hperm, -⟩ := canonText_obj_ok ht
      obtain ⟨w, -, rfl⟩ := List.mem_map.mp (hperm.symm.subset hp)
      exact ⟨rfl, (ih _ hp).mp ⟨w.text, w.ok⟩⟩
    · exact fun h => canonText_members fun p hp => ⟨(h p hp).1, (ih p hp).mpr (h p hp).2⟩

/-- a value with canonical bytes: it has a text and is not nested too deep, and the text is not too long -/
structure Json.Canonicalizable (P : Platform) (value : Json) : Prop where
  writable : value.writable = true
  depth : value.depth ≤ P.maxJsonDepth + 1
  size : value.bytes ≤ maxOutputBytes

theorem canonicalizeBytes_exists {P : Platform} {value : Json} :
    (∃ bytes, canonicalizeBytes P value = .ok bytes) ↔ value.Canonicalizable P := by
  constructor
  · rintro ⟨bytes, h⟩
    obtain ⟨t, ht, rfl, hdepth, hsize⟩ := canonicalizeBytes_ok h
    exact ⟨(canonText_exists value).mp ⟨t, ht⟩, hdepth, (Json.bytes_of_text ht).trans_le hsize⟩
  · intro h
    obtain ⟨t, ht⟩ := (canonText_exists value).mpr h.writable
    exact ⟨_, canonicalizeBytes_of_text ht h.depth ((Json.bytes_of_text ht).symm.trans_le h.size)⟩

theorem sha256Hex_exists {P : Platform} {value : Json} :
    (∃ hash, sha256Hex P value = .ok hash) ↔ value.Canonicalizable P := by
  rw [← canonicalizeBytes_exists]
  unfold sha256Hex
  rw [Fallible.exists_bind_ok]
  exact exists_congr fun bytes => and_iff_left ⟨_, rfl⟩

theorem Piece.chars_length (w : Piece) : (Text.utf8 w.chars).length + 1 = memberBytes w.member := by
  have hcolon : Text.utf8 w.chars = Text.utf8 (Text.quote w.key) ++ (Text.utf8 [':'] ++ Text.utf8 w.text) := by
    rw [← Text.utf8_append, ← Text.utf8_append]
    rfl
  have hone : (Text.utf8 [':']).length = 1 := by decide
  unfold memberBytes Piece.member
  rw [Json.bytes_of_text w.ok, hcolon, List.length_append, List.length_append, hone]
  show _ = (Text.utf8 (Text.quote w.key)).length + _ + 2
  omega

/-- **The bytes of a dictionary.** -/
theorem utf8_obj_length {d : Dict} {t : List Char} (h : canonText (.obj d) = .ok t) (hne : d ≠ []) :
    (Text.utf8 t).length = Dict.bytes d + 1 := by
  obtain ⟨ws, hp, rfl⟩ := canonText_obj_ok h
  have hws : ws.map Piece.chars ≠ [] := by
    intro hnil
    rw [List.map_eq_nil_iff] at hnil
    subst hnil
    exact hne (List.nil_perm.mp hp)
  rw [Text.utf8_joined_length (by decide) (by decide) hws, List.map_map]
  have hmap : ws.map ((fun t => (Text.utf8 t).length + 1) ∘ Piece.chars) = (ws.map Piece.member).map memberBytes := by
    rw [List.map_map]
    exact List.map_congr_left fun w _ => w.chars_length
  rw [hmap, (hp.map memberBytes).sum_eq]
  rfl

theorem Json.bytes_obj {d : Dict} {t : List Char} (h : canonText (.obj d) = .ok t) (hne : d ≠ []) :
    (Json.obj d).bytes = Dict.bytes d + 1 := (Json.bytes_of_text h).trans (utf8_obj_length h hne)

end Actenon
