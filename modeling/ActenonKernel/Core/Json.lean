import Mathlib.Data.List.Forall2
import Mathlib.Data.Rat.Init

/-!
# The values the kernel passes around

A document is a Python value made of `None`, booleans, integers, floats, strings, lists, tuples
and dictionaries.  A dictionary is the list of its members in insertion order; lookups take the
first member with the key.  A string is a sequence of Unicode scalar values (the canonicaliser
refuses every other Python string).

* `Json`          the values, `Key` the dictionary keys;
* `Dict.get`      `d.get(name)`, and `Dict.getD` with a default;
* `pyDict`        `dict(x)`, which also takes a sequence of pairs;
* `Json.Same`     the same value up to the order of members, a tuple being like a list;
* `PyError`       an exception of the interpreter or of the kernel.
-/

set_option linter.unusedSectionVars false

namespace Actenon

/-- a float: the exact value of a finite one, an infinity or a NaN -/
inductive PyFloat where
  | finite (q : Rat)
  | inf (neg : Bool)
  | nan
deriving DecidableEq, Repr

/-- a dictionary key (`1`, `1.0` and `True` are the same key) -/
inductive Key where
  | str (s : String)
  | none
  | num (f : PyFloat)
  | tup (ks : List Key)

mutual

def Key.decEq : (a b : Key) → Decidable (a = b)
  | .str s, .str t => decidable_of_iff (s = t) ⟨fun h => h ▸ rfl, fun h => Key.str.inj h⟩
  | .none, .none => isTrue rfl
  | .num f, .num g => decidable_of_iff (f = g) ⟨fun h => h ▸ rfl, fun h => Key.num.inj h⟩
  | .tup ks, .tup ls =>
    match Key.decEqList ks ls with
    | isTrue h => isTrue (h ▸ rfl)
    | isFalse h => isFalse fun e => h (Key.tup.inj e)
  | .str _, .none | .str _, .num _ | .str _, .tup _ | .none, .str _ | .none, .num _
  | .none, .tup _ | .num _, .str _ | .num _, .none | .num _, .tup _ | .tup _, .str _
  | .tup _, .none | .tup _, .num _ => isFalse (by simp)

def Key.decEqList : (a b : List Key) → Decidable (a = b)
  | [], [] => isTrue rfl
  | [], _ :: _ | _ :: _, [] => isFalse (by simp)
  | a :: as, b :: bs =>
    match Key.decEq a b, Key.decEqList as bs with
    | isTrue h, isTrue h' => isTrue (h ▸ h' ▸ rfl)
    | isFalse h, _ => isFalse fun e => h (List.cons.inj e).1
    | _, isFalse h => isFalse fun e => h (List.cons.inj e).2

end

instance : DecidableEq Key := Key.decEq

/-- a value -/
inductive Json where
  | null
  | bool (b : Bool)
  | int (n : Int)
  | float (f : PyFloat)
  | str (s : String)
  | arr (xs : List Json)
  | tup (xs : List Json)
  | obj (kvs : List (Key × Json))

instance : Inhabited Json := ⟨.null⟩

/-- the members of a dictionary in insertion order -/
abbrev Dict := List (Key × Json)

/-- induction over a value and all values inside it -/
@[elab_as_elim]
theorem Json.induct {P : Json → Prop} (null : P .null) (bool : ∀ b, P (.bool b))
    (int : ∀ n, P (.int n)) (float : ∀ f, P (.float f)) (str : ∀ s, P (.str s))
    (arr : ∀ xs, (∀ x ∈ xs, P x) → P (.arr xs)) (tup : ∀ xs, (∀ x ∈ xs, P x) → P (.tup xs))
    (obj : ∀ kvs : Dict, (∀ p ∈ kvs, P p.2) → P (.obj kvs)) (j : Json) : P j :=
  @Json.rec P (fun xs => ∀ x ∈ xs, P x) (fun kvs => ∀ p ∈ kvs, P p.2) (fun p => P p.2)
    null bool int float str arr tup obj
    (by simp) (fun _ _ hx hxs => List.forall_mem_cons.mpr ⟨hx, hxs⟩)
    (by simp) (fun _ _ hx hxs => List.forall_mem_cons.mpr ⟨hx, hxs⟩)
    (fun _ _ h => h) j

/-! ## exceptions -/

/-- the class of an exception, as far as an `except` clause of the kernel tells classes apart -/
inductive ErrKind where
  | valueError
  | typeError
  | keyError
  | attributeError
  | overflowError
  | other (typeName : String)
deriving DecidableEq, Repr

/-- an exception -/
structure PyError where
  kind : ErrKind
  message : String
deriving DecidableEq, Repr

/-- `raise ValueError(message)` -/
def valueError {α : Type} (message : String) : Except PyError α := .error ⟨.valueError, message⟩

def typeError {α : Type} (message : String) : Except PyError α := .error ⟨.typeError, message⟩

/-! ## dictionaries -/

/-- the member with a key -/
def Dict.find (d : Dict) (k : Key) : Option Json := (d.find? fun p => p.1 = k).map Prod.snd

/-- `d.get(name)` -/
def Dict.get (d : Dict) (name : String) : Json := (Dict.find d (.str name)).getD .null

/-- `d.get(name, default)` -/
def Dict.getD (d : Dict) (name : String) (dflt : Json) : Json := (Dict.find d (.str name)).getD dflt

/-- `d[k] = v`: an existing member keeps its place -/
def Dict.set (d : Dict) (k : Key) (v : Json) : Dict :=
  if (Dict.find d k).isSome then d.map fun p => if p.1 = k then (k, v) else p else d ++ [(k, v)]

/-- a dictionary written out with string keys -/
def members (kvs : List (String × Json)) : Dict := kvs.map fun p => (.str p.1, p.2)

/-- `bool(x)` -/
def Json.truthy : Json → Bool
  | .null => false
  | .bool b => b
  | .int n => n ≠ 0
  | .float f => f ≠ .finite 0
  | .str s => s ≠ ""
  | .arr xs | .tup xs => !xs.isEmpty
  | .obj kvs => !kvs.isEmpty

/-- `x == s` for a text `s` -/
def isStr (j : Json) (s : String) : Bool :=
  match j with
  | .str t => t = s
  | _ => false

/-- `isinstance(x, Mapping)` -/
def Json.dict? : Json → Option Dict
  | .obj kvs => some kvs
  | _ => none

/-- the name of the type, for the interpreter's messages -/
def Json.typeName : Json → String
  | .null => "NoneType"
  | .bool _ => "bool"
  | .int _ => "int"
  | .float _ => "float"
  | .str _ => "str"
  | .arr _ => "list"
  | .tup _ => "tuple"
  | .obj _ => "dict"

mutual

/-- the value a key came from -/
def Key.toJson : Key → Json
  | .str s => .str s
  | .none => .null
  | .num (.finite q) => if q.den = 1 then .int q.num else .float (.finite q)
  | .num f => .float f
  | .tup ks => .tup (Key.toJsons ks)

def Key.toJsons : List Key → List Json
  | [] => []
  | k :: ks => Key.toJson k :: Key.toJsons ks

end

mutual

/-- the key a value is, if it can be hashed -/
def Json.toKey : Json → Except PyError Key
  | .null => .ok .none
  | .bool b => .ok (.num (.finite (if b then 1 else 0)))
  | .int n => .ok (.num (.finite n))
  | .float f => .ok (.num f)
  | .str s => .ok (.str s)
  | .arr _ => typeError "unhashable type: 'list'"
  | .tup xs => (Json.toKeys xs).map .tup
  | .obj _ => typeError "unhashable type: 'dict'"

def Json.toKeys : List Json → Except PyError (List Key)
  | [] => .ok []
  | x :: xs => do
    let k ← Json.toKey x
    let ks ← Json.toKeys xs
    return k :: ks

end

/-- `iter(x)` -/
def Json.iterate : Json → Except PyError (List Json)
  | .str s => .ok (s.toList.map fun c => .str (String.ofList [c]))
  | .arr xs | .tup xs => .ok xs
  | .obj kvs => .ok (kvs.map fun p => p.1.toJson)
  | j => typeError s!"'{j.typeName}' object is not iterable"

/-- the pairs of `dict(sequence)`, element after element -/
def pyDictPairs : Nat → List Json → Dict → Except PyError Dict
  | _, [], d => .ok d
  | i, x :: xs, d =>
    match x.iterate with
    | .error _ => typeError s!"cannot convert dictionary update sequence element #{i} to a sequence"
    | .ok [k, v] => do
      let key ← k.toKey
      pyDictPairs (i + 1) xs (Dict.set d key v)
    | .ok ys => valueError
        s!"dictionary update sequence element #{i} has length {ys.length}; 2 is required"

/-- `dict(x)` -/
def pyDict : Json → Except PyError Dict
  | .obj kvs => .ok kvs
  | j => do
    let xs ← j.iterate
    pyDictPairs 0 xs []

/-- `x.get(name)` on any value -/
def Json.getAttr (j : Json) (name : String) : Except PyError Json :=
  match j with
  | .obj kvs => .ok (Dict.get kvs name)
  | j => .error ⟨.attributeError, s!"'{j.typeName}' object has no attribute 'get'"⟩

/-! ## the same value -/

/-- the items of a list or a tuple -/
def Json.items? : Json → Option (List Json)
  | .arr xs | .tup xs => some xs
  | _ => none

mutual

/-- the same value, whatever the order of members, a tuple being like the list of its items -/
def Json.Same : Json → Json → Prop
  | .null, b => b = .null
  | .bool x, b => b = .bool x
  | .int n, b => b = .int n
  | .float f, b => b = .float f
  | .str s, b => b = .str s
  | .arr xs, b => ∃ ys, b.items? = some ys ∧ Json.SameList xs ys
  | .tup xs, b => ∃ ys, b.items? = some ys ∧ Json.SameList xs ys
  | .obj kvs, b => ∃ kvs' l, b = .obj kvs' ∧ l.Perm kvs' ∧ Json.SameMembers kvs l

def Json.SameList : List Json → List Json → Prop
  | [], ys => ys = []
  | x :: xs, ys => ∃ y ys', ys = y :: ys' ∧ Json.Same x y ∧ Json.SameList xs ys'

def Json.SameMembers : Dict → Dict → Prop
  | [], l => l = []
  | (k, x) :: kvs, l => ∃ y l', l = (k, y) :: l' ∧ Json.Same x y ∧ Json.SameMembers kvs l'

end

theorem Json.sameList_iff (xs ys : List Json) :
    Json.SameList xs ys ↔ List.Forall₂ Json.Same xs ys := by
  induction xs generalizing ys with
  | nil => simp [Json.SameList]
  | cons x xs ih =>
    rw [Json.SameList, List.forall₂_cons_left_iff]
    constructor
    · rintro ⟨y, ys', rfl, h, hs⟩
      exact ⟨y, ys', h, (ih ys').mp hs, rfl⟩
    · rintro ⟨y, ys', h, hs, rfl⟩
      exact ⟨y, ys', rfl, h, (ih ys').mpr hs⟩

/-- the same key with the same value -/
def SameMember (p q : Key × Json) : Prop := p.1 = q.1 ∧ Json.Same p.2 q.2

theorem Json.sameMembers_iff (d l : Dict) :
    Json.SameMembers d l ↔ List.Forall₂ SameMember d l := by
  induction d generalizing l with
  | nil => simp [Json.SameMembers]
  | cons p d ih =>
    obtain ⟨k, x⟩ := p
    rw [Json.SameMembers, List.forall₂_cons_left_iff]
    constructor
    · rintro ⟨y, l', rfl, h, hs⟩
      exact ⟨(k, y), l', ⟨rfl, h⟩, (ih l').mp hs, rfl⟩
    · rintro ⟨⟨k', y⟩, l', ⟨rfl, h⟩, hs, rfl⟩
      exact ⟨y, l', rfl, h, (ih l').mpr hs⟩

/-- dictionaries with the same members -/
def Dict.Same (d d' : Dict) : Prop := Json.Same (.obj d) (.obj d')

theorem Dict.same_iff (d d' : Dict) :
    Dict.Same d d' ↔ ∃ l : Dict, List.Forall₂ SameMember d l ∧ l.Perm d' := by
  unfold Dict.Same
  rw [Json.Same]
  constructor
  · rintro ⟨kvs', l, h, hp, hm⟩
    cases h
    exact ⟨l, (Json.sameMembers_iff d l).mp hm, hp⟩
  · rintro ⟨l, hm, hp⟩
    exact ⟨d', l, rfl, hp, (Json.sameMembers_iff d l).mpr hm⟩

end Actenon
