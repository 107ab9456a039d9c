import ActenonKernel.Core.Json

/-!
# Equality of values

`x == y` of the interpreter.  Numbers are compared as numbers (`True == 1 == 1.0`), a NaN equals
nothing, a list never equals a tuple, and the order of the members of a dictionary does not matter.

* `Json.number?`    the number a value is, booleans included;
* `Json.pyEq`       `x == y`;
* `pyEq_str`, `pyEq_int`    equality with a text or an integer;
* `Json.Same.refl`          every value is the same as itself, NaN included.
-/

set_option linter.unusedSectionVars false

namespace Actenon

/-- the number a value is -/
def Json.number? : Json → Option PyFloat
  | .bool b => some (.finite (if b then 1 else 0))
  | .int n => some (.finite n)
  | .float f => some f
  | _ => none

/-- the same number; a NaN is none -/
def sameNumber (f g : PyFloat) : Bool := f ≠ .nan && f = g

mutual

/-- `x == y` -/
def Json.pyEq : Json → Json → Bool
  | .null, .null => true
  | .str s, .str t => s = t
  | .arr xs, .arr ys => Json.pyEqItems xs ys
  | .tup xs, .tup ys => Json.pyEqItems xs ys
  | .obj kvs, .obj d => kvs.length = d.length && Json.pyEqMembers kvs d
  | x, y =>
    match x.number?, y.number? with
    | some f, some g => sameNumber f g
    | _, _ => false

def Json.pyEqItems : List Json → List Json → Bool
  | [], [] => true
  | x :: xs, y :: ys => Json.pyEq x y && Json.pyEqItems xs ys
  | _, _ => false

/-- every member is in the dictionary with an equal value -/
def Json.pyEqMembers : Dict → Dict → Bool
  | [], _ => true
  | (k, x) :: kvs, d =>
    match Dict.find d k with
    | some y => Json.pyEq x y && Json.pyEqMembers kvs d
    | none => false

end

theorem pyEq_str {j : Json} {s : String} : j.pyEq (.str s) = true ↔ j = .str s := by
  cases j <;> simp [Json.pyEq, Json.number?]

/-- equal to an integer: that integer, a float of the same value or a boolean -/
theorem pyEq_int {j : Json} {n : Int} :
    j.pyEq (.int n) = true ↔ j.number? = some (.finite n) := by
  cases j <;> simp [Json.pyEq, Json.number?, sameNumber]
  rintro rfl
  exact PyFloat.noConfusion

theorem Json.Same.refl (j : Json) : Json.Same j j := by
  induction j using Json.induct with
  | null | bool b | int n | float f | str s => rfl
  | arr xs ih | tup xs ih =>
    exact ⟨xs, rfl, (Json.sameList_iff xs xs).mpr (List.forall₂_same.mpr ih)⟩
  | obj kvs ih =>
    exact ⟨kvs, kvs, rfl, List.Perm.refl _,
      (Json.sameMembers_iff kvs kvs).mpr (List.forall₂_same.mpr fun p hp => ⟨rfl, ih p hp⟩)⟩

example : Json.pyEq (.bool true) (.int 1) = true := rfl
example : Json.pyEq (.arr []) (.tup []) = false := rfl

end Actenon
