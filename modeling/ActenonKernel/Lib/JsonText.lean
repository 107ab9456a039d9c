import ActenonKernel.Lib.Fallible
import Mathlib.Algebra.GroupWithZero.Nat

/-!
# JSON texts

The documents of RFC 8259 as concrete trees: a string is the sequence of its characters and
escapes, a number is its lexeme, an object keeps all its members. A text is the list of its codes,
which may be code points or the units of an encoding. One recursive-descent reader serves every
builder, so that what a builder makes of a text is a fold over the tree of the text. The words that
a reader takes beyond the grammar are a table it is given.

* `Value`            documents over any strings and numbers, `Value.nesting` how deep they are;
* `lexString`, `lexNumber`    strings and numbers;
* `Builder`          what a reader makes of each part;
* `value`, `document`    the reader;
* `fold`             a builder applied to a tree;
* `document_fold`    reading with a builder is reading the tree and folding it.
-/

set_option linter.unusedSectionVars false

namespace JsonText

open Fallible

/-! ## documents -/

inductive Value (σ ν : Type) where
  | null
  | bool (b : Bool)
  | num (n : ν)
  | text (s : σ)
  | array (xs : List (Value σ ν))
  | object (kvs : List (σ × Value σ ν))

section
variable {σ ν : Type}

/-- induction over a document and all documents inside it -/
@[elab_as_elim]
theorem Value.induct {P : Value σ ν → Prop} (null : P .null) (bool : ∀ b, P (.bool b)) (num : ∀ n, P (.num n))
    (text : ∀ s, P (.text s)) (array : ∀ xs, (∀ x ∈ xs, P x) → P (.array xs))
    (object : ∀ kvs : List (σ × Value σ ν), (∀ p ∈ kvs, P p.2) → P (.object kvs)) (v : Value σ ν) : P v :=
  @Value.rec σ ν P (fun xs => ∀ x ∈ xs, P x) (fun kvs => ∀ p ∈ kvs, P p.2) (fun p => P p.2)
    null bool num text array object
    (by simp) (fun _ _ hx hxs => List.forall_mem_cons.mpr ⟨hx, hxs⟩)
    (by simp) (fun _ _ hx hxs => List.forall_mem_cons.mpr ⟨hx, hxs⟩)
    (fun _ _ h => h) v

mutual

/-- the depth of a document, 1 for a scalar or an empty one -/
def Value.nesting : Value σ ν → Nat
  | .array xs => nestingItems xs + 1
  | .object kvs => nestingMembers kvs + 1
  | .null | .bool _ | .num _ | .text _ => 1

def nestingItems : List (Value σ ν) → Nat
  | [] => 0
  | x :: xs => max x.nesting (nestingItems xs)

def nestingMembers : List (σ × Value σ ν) → Nat
  | [] => 0
  | (_, x) :: kvs => max x.nesting (nestingMembers kvs)

end

/-- the documents directly inside a document -/
def Value.children : Value σ ν → List (Value σ ν)
  | .array xs => xs
  | .object kvs => kvs.map Prod.snd
  | .null | .bool _ | .num _ | .text _ => []

theorem nestingItems_le (xs : List (Value σ ν)) (n : Nat) : nestingItems xs ≤ n ↔ ∀ x ∈ xs, x.nesting ≤ n := by
  induction xs with
  | nil => simp [nestingItems]
  | cons x xs ih => rw [nestingItems, Nat.max_le, ih, List.forall_mem_cons]

theorem nestingMembers_eq (kvs : List (σ × Value σ ν)) : nestingMembers kvs = nestingItems (kvs.map Prod.snd) := by
  induction kvs with
  | nil => rfl
  | cons p kvs ih =>
    obtain ⟨k, x⟩ := p
    rw [nestingMembers, ih]
    rfl

theorem Value.nesting_children (v : Value σ ν) : v.nesting = nestingItems v.children + 1 := by
  cases v with
  | object kvs => rw [Value.nesting, nestingMembers_eq]; rfl
  | _ => rfl

theorem sum_sizeOf_items [SizeOf σ] [SizeOf ν] (xs : List (Value σ ν)) : (xs.map sizeOf).sum ≤ sizeOf xs := by
  induction xs with
  | nil => exact Nat.zero_le _
  | cons x xs ih =>
    rw [List.map_cons, List.sum_cons, List.cons.sizeOf_spec]
    omega

theorem sum_sizeOf_members [SizeOf σ] [SizeOf ν] (kvs : List (σ × Value σ ν)) :
    ((kvs.map Prod.snd).map sizeOf).sum ≤ sizeOf kvs := by
  induction kvs with
  | nil => exact Nat.zero_le _
  | cons p kvs ih =>
    obtain ⟨k, x⟩ := p
    rw [List.map_cons, List.map_cons, List.sum_cons, List.cons.sizeOf_spec, Prod.mk.sizeOf_spec]
    show sizeOf x + _ ≤ _
    omega

theorem Value.children_sizeOf [SizeOf σ] [SizeOf ν] (v : Value σ ν) : (v.children.map sizeOf).sum < sizeOf v := by
  cases v with
  | array xs =>
    have hsum := sum_sizeOf_items xs
    rw [Value.array.sizeOf_spec]
    show (xs.map sizeOf).sum < _
    omega
  | object kvs =>
    have hsum := sum_sizeOf_members kvs
    rw [Value.object.sizeOf_spec]
    show ((kvs.map Prod.snd).map sizeOf).sum < _
    omega
  | null | bool b | num n | text s =>
    rw [Value.children, List.map_nil, List.sum_nil]
    simp only [Value.null.sizeOf_spec, Value.bool.sizeOf_spec, Value.num.sizeOf_spec, Value.text.sizeOf_spec]
    omega

variable {σ' ν' : Type} (f : σ → σ') (g : ν → ν')

mutual

/-- the same document over other strings and numbers -/
def Value.map : Value σ ν → Value σ' ν'
  | .null => .null
  | .bool b => .bool b
  | .num n => .num (g n)
  | .text s => .text (f s)
  | .array xs => .array (mapItems xs)
  | .object kvs => .object (mapMembers kvs)

def mapItems : List (Value σ ν) → List (Value σ' ν')
  | [] => []
  | x :: xs => x.map :: mapItems xs

def mapMembers : List (σ × Value σ ν) → List (σ' × Value σ' ν')
  | [] => []
  | (k, x) :: kvs => (f k, x.map) :: mapMembers kvs

end

theorem Value.nesting_map (v : Value σ ν) : (v.map f g).nesting = v.nesting := by
  induction v using Value.induct with
  | null | bool b | num n | text s => rfl
  | array xs ih =>
    show nestingItems (mapItems f g xs) + 1 = nestingItems xs + 1
    induction xs with
    | nil => rfl
    | cons x xs ihxs =>
      obtain ⟨hx, hxs⟩ := List.forall_mem_cons.mp ih
      rw [mapItems, nestingItems, nestingItems, hx, Nat.succ.inj (ihxs hxs)]
  | object kvs ih =>
    show nestingMembers (mapMembers f g kvs) + 1 = nestingMembers kvs + 1
    induction kvs with
    | nil => rfl
    | cons p kvs ihkvs =>
      obtain ⟨k, x⟩ := p
      obtain ⟨hx, hkvs⟩ := List.forall_mem_cons.mp ih
      rw [mapMembers, nestingMembers, nestingMembers, hx, Nat.succ.inj (ihkvs hkvs)]

end

/-! ## blanks and words -/

def isBlank (c : Nat) : Bool := c = ' '.toNat ∨ c = '\t'.toNat ∨ c = '\n'.toNat ∨ c = '\r'.toNat

def skipBlanks (s : List Nat) : List Nat := s.dropWhile isBlank

/-- one given code after blanks -/
def expect (c : Nat) (s : List Nat) : Option (List Nat) :=
  match skipBlanks s with
  | [] => none
  | d :: r => if d = c then some r else none

/-- a word and its value; no word is empty -/
structure Literal (κ : Type) where
  head : Nat
  tail : List Nat
  value : κ

/-- the first of the words that the text starts with -/
def findLiteral {κ : Type} (table : List (Literal κ)) (s : List Nat) : Option (κ × List Nat) :=
  table.findSome? fun l =>
    if (l.head :: l.tail).isPrefixOf s then some (l.value, s.drop (l.tail.length + 1)) else none

/-! ## strings -/

/-- a piece of a string: a code as it stands, one that is escaped, or a code unit in hexadecimal -/
inductive Piece where
  | raw (c : Nat)
  | escaped (c : Nat)
  | unit (n : Nat)
deriving DecidableEq, Repr

/-- the value of a hexadecimal digit in either case -/
def hexDigit (c : Nat) : Option Nat :=
  if 48 ≤ c ∧ c ≤ 57 then some (c - 48)
  else if 97 ≤ c ∧ c ≤ 102 then some (c - 87)
  else if 65 ≤ c ∧ c ≤ 70 then some (c - 55)
  else none

/-- the value of four digits -/
def hex4 (a b c d : Nat) : Option Nat := do
  let a ← hexDigit a
  let b ← hexDigit b
  let c ← hexDigit c
  let d ← hexDigit d
  return 4096 * a + 256 * b + 16 * c + d

/-- the code that the one after a backslash stands for -/
def escapeOf (e : Nat) : Option Nat :=
  if e = '"'.toNat then some '"'.toNat
  else if e = '\\'.toNat then some '\\'.toNat
  else if e = '/'.toNat then some '/'.toNat
  else if e = 'b'.toNat then some '\x08'.toNat
  else if e = 'f'.toNat then some '\x0c'.toNat
  else if e = 'n'.toNat then some '\n'.toNat
  else if e = 'r'.toNat then some '\r'.toNat
  else if e = 't'.toNat then some '\t'.toNat
  else none

/-- a string after its opening quote -/
def lexString : List Nat → Option (List Piece × List Nat)
  | [] => none
  | c :: s =>
    if c = '"'.toNat then some ([], s)
    else if c < 0x20 then none
    else if c = '\\'.toNat then
      match s with
      | [] => none
      | e :: s =>
        if e = 'u'.toNat then
          match s with
          | a :: b :: c :: d :: s =>
            match hex4 a b c d with
            | some n => (lexString s).map fun p => (.unit n :: p.1, p.2)
            | none => none
          | _ => none
        else
          match escapeOf e with
          | some c => (lexString s).map fun p => (.escaped c :: p.1, p.2)
          | none => none
    else (lexString s).map fun p => (.raw c :: p.1, p.2)

/-- four hexadecimal digits -/
def unitAt : List Nat → Option (Nat × List Nat)
  | a :: b :: c :: d :: s => (hex4 a b c d).map fun n => (n, s)
  | _ => none

theorem lexString_quote (s : List Nat) : lexString ('"'.toNat :: s) = some ([], s) := by
  rw [lexString.eq_def]
  rfl

theorem lexString_control {c : Nat} (hc : c < 0x20) (s : List Nat) : lexString (c :: s) = none := by
  have hquote : c ≠ '"'.toNat := fun he => absurd (he ▸ hc) (by decide)
  rw [lexString.eq_def]
  dsimp only
  rw [if_neg hquote, if_pos hc]

theorem lexString_unit (s : List Nat) : lexString ('\\'.toNat :: 'u'.toNat :: s) =
    (unitAt s).bind fun p => (lexString p.2).map fun q => (.unit p.1 :: q.1, q.2) := by
  rw [lexString.eq_def]
  dsimp only
  rw [if_neg (by decide), if_neg (by decide), if_pos rfl, if_pos rfl]
  unfold unitAt
  split
  · rename_i a b c d s
    cases hex4 a b c d <;> rfl
  · rfl

theorem lexString_escape {e : Nat} (he : e ≠ 'u'.toNat) (s : List Nat) : lexString ('\\'.toNat :: e :: s) =
    (escapeOf e).bind fun c => (lexString s).map fun q => (.escaped c :: q.1, q.2) := by
  rw [lexString.eq_def]
  dsimp only
  rw [if_neg (by decide), if_neg (by decide), if_pos rfl, if_neg he]
  cases escapeOf e <;> rfl

theorem lexString_raw {c : Nat} (hquote : c ≠ '"'.toNat) (hcontrol : ¬ c < 0x20) (hslash : c ≠ '\\'.toNat)
    (s : List Nat) : lexString (c :: s) = (lexString s).map fun p => (.raw c :: p.1, p.2) := by
  rw [lexString.eq_def]
  dsimp only
  rw [if_neg hquote, if_neg hcontrol, if_neg hslash]

/-! ## numbers -/

/-- an ASCII digit -/
def isDigit (c : Nat) : Bool := 48 ≤ c ∧ c ≤ 57

/-- a number as it stands: the sign, the digits before the dot, the fraction and the exponent -/
structure Lexeme where
  neg : Bool
  digits : List Nat
  tail : List Nat
deriving DecidableEq, Repr

/-- the value of digits -/
def digitsValue (cs : List Nat) : Nat := cs.foldl (fun n c => 10 * n + (c - 48)) 0

/-- the integer of a lexeme without fraction and exponent -/
def Lexeme.value (l : Lexeme) : Int := if l.neg then -(digitsValue l.digits : Int) else digitsValue l.digits

/-- the sign, if it is there -/
def lexSign : List Nat → Bool × List Nat
  | [] => (false, [])
  | c :: r => if c = '-'.toNat then (true, r) else (false, c :: r)

/-- digits without a leading zero -/
def lexDigits : List Nat → Option (List Nat × List Nat)
  | [] => none
  | c :: r =>
    if c = '0'.toNat then some (['0'.toNat], r)
    else if isDigit c then some (c :: r.takeWhile isDigit, r.dropWhile isDigit)
    else none

/-- a fraction, if it is there with its digits -/
def lexFraction : List Nat → List Nat × List Nat
  | [] => ([], [])
  | c :: r =>
    if c = '.'.toNat ∧ (r.takeWhile isDigit).isEmpty = false then (c :: r.takeWhile isDigit, r.dropWhile isDigit)
    else ([], c :: r)

/-- the sign of an exponent -/
def lexExponentSign : List Nat → List Nat × List Nat
  | [] => ([], [])
  | c :: r => if c = '+'.toNat ∨ c = '-'.toNat then ([c], r) else ([], c :: r)

/-- an exponent, if it is there with its digits -/
def lexExponent : List Nat → List Nat × List Nat
  | [] => ([], [])
  | c :: r =>
    if (c = 'e'.toNat ∨ c = 'E'.toNat) ∧ ((lexExponentSign r).2.takeWhile isDigit).isEmpty = false then
      (c :: (lexExponentSign r).1 ++ (lexExponentSign r).2.takeWhile isDigit, (lexExponentSign r).2.dropWhile isDigit)
    else ([], c :: r)

/-- a number, as long as it goes -/
def lexNumber (s : List Nat) : Option (Lexeme × List Nat) :=
  (lexDigits (lexSign s).2).map fun p =>
    (⟨(lexSign s).1, p.1, (lexFraction p.2).1 ++ (lexExponent (lexFraction p.2).2).1⟩,
      (lexExponent (lexFraction p.2).2).2)

/-! ## the reader -/

/-- what a reader makes of the parts of a text -/
structure Builder (ε σ κ α : Type) where
  /-- the text is none of the grammar -/
  fault : ε
  null : α
  bool : Bool → α
  number : Lexeme → Except ε α
  /-- a word beyond the grammar -/
  constant : κ → α
  string : List Piece → σ
  text : σ → α
  array : List α → α
  object : List (σ × α) → Except ε α

section
variable {ε σ κ α : Type} (table : List (Literal κ)) (B : Builder ε σ κ α)

/-- the words of the grammar: the two truth values and null -/
def literals : List (Literal (Option Bool)) :=
  [⟨'t'.toNat, ['r'.toNat, 'u'.toNat, 'e'.toNat], some true⟩,
    ⟨'f'.toNat, ['a'.toNat, 'l'.toNat, 's'.toNat, 'e'.toNat], some false⟩,
    ⟨'n'.toNat, ['u'.toNat, 'l'.toNat, 'l'.toNat], none⟩]

/-- the value of a word of the grammar -/
def Builder.word : Option Bool → α
  | some b => B.bool b
  | none => B.null

/-- a word or a number -/
def scalar (s : List Nat) : Except ε (α × List Nat) :=
  match findLiteral literals s with
  | some (w, r) => .ok (B.word w, r)
  | none =>
    match lexNumber s with
    | some (l, r) => (B.number l).map fun v => (v, r)
    | none =>
      match findLiteral table s with
      | some (k, r) => .ok (B.constant k, r)
      | none => .error B.fault

mutual

/-- a value that starts the text -/
def value : Nat → List Nat → Except ε (α × List Nat)
  | 0, _ => .error B.fault
  | _ + 1, [] => .error B.fault
  | n + 1, c :: s =>
    if c = '\x7b'.toNat then
      match expect '\x7d'.toNat s with
      | some r => (B.object []).map fun v => (v, r)
      | none => do
        let (kvs, r) ← members n s
        let v ← B.object kvs
        return (v, r)
    else if c = '['.toNat then
      match expect ']'.toNat s with
      | some r => .ok (B.array [], r)
      | none => do
        let (xs, r) ← items n s
        return (B.array xs, r)
    else if c = '"'.toNat then
      match lexString s with
      | some (ps, r) => .ok (B.text (B.string ps), r)
      | none => .error B.fault
    else scalar table B (c :: s)

/-- the members of an object up to its end -/
def members : Nat → List Nat → Except ε (List (σ × α) × List Nat)
  | 0, _ => .error B.fault
  | n + 1, s =>
    match (expect '"'.toNat s).bind lexString with
    | none => .error B.fault
    | some (ps, s) =>
      match expect ':'.toNat s with
      | none => .error B.fault
      | some s => do
        let (v, s) ← value n (skipBlanks s)
        match expect '\x7d'.toNat s with
        | some r => .ok ([(B.string ps, v)], r)
        | none =>
          match expect ','.toNat s with
          | none => .error B.fault
          | some s => do
            let (kvs, r) ← members n s
            return ((B.string ps, v) :: kvs, r)

/-- the items of an array up to its end -/
def items : Nat → List Nat → Except ε (List α × List Nat)
  | 0, _ => .error B.fault
  | n + 1, s => do
    let (v, s) ← value n (skipBlanks s)
    match expect ']'.toNat s with
    | some r => .ok ([v], r)
    | none =>
      match expect ','.toNat s with
      | none => .error B.fault
      | some s => do
        let (xs, r) ← items n s
        return (v :: xs, r)

end

/-- enough for every value of a text -/
def fuelFor (s : List Nat) : Nat := 2 * s.length + 2

/-- a text with one value between blanks -/
def document (s : List Nat) : Except ε α := do
  let (v, r) ← value table B (fuelFor s) (skipBlanks s)
  if (skipBlanks r).isEmpty then .ok v else .error B.fault

end

/-! ## the productions -/

section
variable {ε σ κ α : Type} (table : List (Literal κ)) (B : Builder ε σ κ α)

/-- what a value of a text starts with, and how its parts are read -/
inductive ValueRead (n : Nat) : List Nat → α → List Nat → Prop
  | emptyObject {s r v} (hend : expect '\x7d'.toNat s = some r) (hobject : B.object [] = .ok v) :
    ValueRead n ('\x7b'.toNat :: s) v r
  | object {s r kvs v} (hend : expect '\x7d'.toNat s = none) (hmembers : members table B n s = .ok (kvs, r))
    (hobject : B.object kvs = .ok v) : ValueRead n ('\x7b'.toNat :: s) v r
  | emptyArray {s r} (hend : expect ']'.toNat s = some r) : ValueRead n ('['.toNat :: s) (B.array []) r
  | array {s r xs} (hend : expect ']'.toNat s = none) (hitems : items table B n s = .ok (xs, r)) :
    ValueRead n ('['.toNat :: s) (B.array xs) r
  | text {s r ps} (hstring : lexString s = some (ps, r)) : ValueRead n ('"'.toNat :: s) (B.text (B.string ps)) r
  | scalar {c s r v} (hc : c ≠ '\x7b'.toNat ∧ c ≠ '['.toNat ∧ c ≠ '"'.toNat)
    (hscalar : scalar table B (c :: s) = .ok (v, r)) : ValueRead n (c :: s) v r

/-- a last member, or a member and others -/
inductive MembersRead (n : Nat) (s : List Nat) : List (σ × α) → List Nat → Prop
  | last {s₁ s₂ s₃ r ps v} (hname : (expect '"'.toNat s).bind lexString = some (ps, s₁))
    (hcolon : expect ':'.toNat s₁ = some s₂) (hvalue : value table B n (skipBlanks s₂) = .ok (v, s₃))
    (hend : expect '\x7d'.toNat s₃ = some r) : MembersRead n s [(B.string ps, v)] r
  | more {s₁ s₂ s₃ s₄ r ps v kvs} (hname : (expect '"'.toNat s).bind lexString = some (ps, s₁))
    (hcolon : expect ':'.toNat s₁ = some s₂) (hvalue : value table B n (skipBlanks s₂) = .ok (v, s₃))
    (hend : expect '\x7d'.toNat s₃ = none) (hcomma : expect ','.toNat s₃ = some s₄)
    (hmembers : members table B n s₄ = .ok (kvs, r)) : MembersRead n s ((B.string ps, v) :: kvs) r

/-- a last item, or an item and others -/
inductive ItemsRead (n : Nat) (s : List Nat) : List α → List Nat → Prop
  | last {s₁ r v} (hvalue : value table B n (skipBlanks s) = .ok (v, s₁)) (hend : expect ']'.toNat s₁ = some r) :
    ItemsRead n s [v] r
  | more {s₁ s₂ r v vs} (hvalue : value table B n (skipBlanks s) = .ok (v, s₁))
    (hend : expect ']'.toNat s₁ = none) (hcomma : expect ','.toNat s₁ = some s₂)
    (hitems : items table B n s₂ = .ok (vs, r)) : ItemsRead n s (v :: vs) r

variable {table B}

theorem value_ok {n : Nat} {s r : List Nat} {v : α} :
    value table B (n + 1) s = .ok (v, r) ↔ ValueRead table B n s v r := by
  constructor
  · intro h
    cases s with
    | nil => cases h
    | cons c s =>
      unfold value at h
      by_cases hobject : c = '\x7b'.toNat
      · subst hobject
        rw [if_pos rfl] at h
        cases hend : expect '\x7d'.toNat s with
        | some r' =>
          rw [hend] at h
          obtain ⟨v', hv, he⟩ := map_eq_ok.mp h
          cases he
          exact .emptyObject hend hv
        | none =>
          rw [hend] at h
          obtain ⟨⟨kvs, r'⟩, hmembers, h⟩ := bind_eq_ok.mp h
          obtain ⟨v', hv, h⟩ := bind_eq_ok.mp h
          cases h
          exact .object hend hmembers hv
      · rw [if_neg hobject] at h
        by_cases harray : c = '['.toNat
        · subst harray
          rw [if_pos rfl] at h
          cases hend : expect ']'.toNat s with
          | some r' =>
            rw [hend] at h
            cases h
            exact .emptyArray hend
          | none =>
            rw [hend] at h
            obtain ⟨⟨xs, r'⟩, hitems, h⟩ := bind_eq_ok.mp h
            cases h
            exact .array hend hitems
        · rw [if_neg harray] at h
          by_cases hquote : c = '"'.toNat
          · subst hquote
            rw [if_pos rfl] at h
            cases hstring : lexString s with
            | none =>
              rw [hstring] at h
              cases h
            | some p =>
              rw [hstring] at h
              cases h
              exact .text hstring
          · rw [if_neg hquote] at h
            exact .scalar ⟨hobject, harray, hquote⟩ h
  · intro h
    cases h with
    | emptyObject hend hobject =>
      rw [value, if_pos rfl, hend, hobject]
      rfl
    | object hend hmembers hobject =>
      rw [value, if_pos rfl, hend]
      dsimp only
      rw [hmembers, ok_bind, hobject]
      rfl
    | emptyArray hend =>
      rw [value, if_neg (by decide), if_pos rfl, hend]
    | array hend hitems =>
      rw [value, if_neg (by decide), if_pos rfl, hend]
      dsimp only
      rw [hitems]
      rfl
    | text hstring =>
      rw [value, if_neg (by decide), if_neg (by decide), if_pos rfl, hstring]
    | scalar hc hscalar =>
      rw [value, if_neg hc.1, if_neg hc.2.1, if_neg hc.2.2, hscalar]

theorem members_ok {n : Nat} {s r : List Nat} {kvs : List (σ × α)} :
    members table B (n + 1) s = .ok (kvs, r) ↔ MembersRead table B n s kvs r := by
  unfold members
  constructor
  · intro h
    cases hname : (expect '"'.toNat s).bind lexString with
    | none =>
      rw [hname] at h
      cases h
    | some p =>
      obtain ⟨ps, s₁⟩ := p
      rw [hname] at h
      dsimp only at h
      cases hcolon : expect ':'.toNat s₁ with
      | none =>
        rw [hcolon] at h
        cases h
      | some s₂ =>
        rw [hcolon] at h
        obtain ⟨⟨v, s₃⟩, hvalue, h⟩ := bind_eq_ok.mp h
        dsimp only at h
        cases hend : expect '\x7d'.toNat s₃ with
        | some r' =>
          rw [hend] at h
          cases h
          exact .last hname hcolon hvalue hend
        | none =>
          rw [hend] at h
          dsimp only at h
          cases hcomma : expect ','.toNat s₃ with
          | none =>
            rw [hcomma] at h
            cases h
          | some s₄ =>
            rw [hcomma] at h
            obtain ⟨⟨kvs', r'⟩, hmembers, h⟩ := bind_eq_ok.mp h
            cases h
            exact .more hname hcolon hvalue hend hcomma hmembers
  · intro h
    cases h with
    | last hname hcolon hvalue hend =>
      rw [hname]
      dsimp only
      rw [hcolon]
      dsimp only
      rw [hvalue, ok_bind]
      dsimp only
      rw [hend]
    | more hname hcolon hvalue hend hcomma hmembers =>
      rw [hname]
      dsimp only
      rw [hcolon]
      dsimp only
      rw [hvalue, ok_bind]
      dsimp only
      rw [hend]
      dsimp only
      rw [hcomma]
      dsimp only
      rw [hmembers]
      rfl

theorem items_ok {n : Nat} {s r : List Nat} {vs : List α} :
    items table B (n + 1) s = .ok (vs, r) ↔ ItemsRead table B n s vs r := by
  unfold items
  constructor
  · intro h
    obtain ⟨⟨v, s₁⟩, hvalue, h⟩ := bind_eq_ok.mp h
    dsimp only at h
    cases hend : expect ']'.toNat s₁ with
    | some r' =>
      rw [hend] at h
      cases h
      exact .last hvalue hend
    | none =>
      rw [hend] at h
      dsimp only at h
      cases hcomma : expect ','.toNat s₁ with
      | none =>
        rw [hcomma] at h
        cases h
      | some s₂ =>
        rw [hcomma] at h
        obtain ⟨⟨vs', r'⟩, hitems, h⟩ := bind_eq_ok.mp h
        cases h
        exact .more hvalue hend hcomma hitems
  · intro h
    cases h with
    | last hvalue hend =>
      rw [hvalue, ok_bind]
      dsimp only
      rw [hend]
    | more hvalue hend hcomma hitems =>
      rw [hvalue, ok_bind]
      dsimp only
      rw [hend]
      dsimp only
      rw [hcomma]
      dsimp only
      rw [hitems]
      rfl

end

/-! ## folding the tree of a text -/

/-- a number of a tree: a lexeme, or a word beyond the grammar -/
inductive Numeral (κ : Type) where
  | lexeme (l : Lexeme)
  | constant (k : κ)

/-- the tree of a text -/
abbrev ParseTree (κ : Type) := Value (List Piece) (Numeral κ)

/-- the builder of the trees -/
def plain (κ : Type) : Builder Unit (List Piece) κ (ParseTree κ) where
  fault := ()
  null := .null
  bool := .bool
  number l := .ok (.num (.lexeme l))
  constant k := .num (.constant k)
  string ps := ps
  text := .text
  array := .array
  object kvs := .ok (.object kvs)

section
variable {ε σ κ α : Type} (table : List (Literal κ)) (B : Builder ε σ κ α)

mutual

/-- a builder applied to a tree, part after part -/
def fold : ParseTree κ → Except ε α
  | .null => .ok B.null
  | .bool b => .ok (B.bool b)
  | .num (.lexeme l) => B.number l
  | .num (.constant k) => .ok (B.constant k)
  | .text ps => .ok (B.text (B.string ps))
  | .array xs => do
    let xs ← foldItems xs
    return B.array xs
  | .object kvs => do
    let kvs ← foldMembers kvs
    B.object kvs

def foldItems : List (ParseTree κ) → Except ε (List α)
  | [] => .ok []
  | x :: xs => do
    let v ← fold x
    let vs ← foldItems xs
    return v :: vs

def foldMembers : List (List Piece × ParseTree κ) → Except ε (List (σ × α))
  | [] => .ok []
  | (ps, x) :: kvs => do
    let v ← fold x
    let vs ← foldMembers kvs
    return (B.string ps, v) :: vs

end

/-- a computation with what is left of the text -/
def leaving {β : Type} (x : Except ε β) (r : List Nat) : Except ε (β × List Nat) := x.map fun v => (v, r)

theorem leaving_bind {β γ : Type} (x : Except ε β) (r : List Nat) (f : β × List Nat → Except ε γ) :
    (leaving x r >>= f) = x >>= fun v => f (v, r) := by
  cases x <;> rfl

theorem bind_leaving {β γ : Type} (x : Except ε β) (f : β → Except ε γ) (r : List Nat) :
    leaving (x >>= f) r = x >>= fun v => leaving (f v) r := by
  cases x <;> rfl

theorem leaving_pure {β γ : Type} (x : Except ε β) (f : β → γ) (r : List Nat) :
    (x >>= fun v => pure (f v, r)) = leaving (x >>= fun v => pure (f v)) r := by
  cases x <;> rfl

/-- a scalar of the grammar -/
theorem scalar_fold {s r : List Nat} {c : ParseTree κ} (h : scalar table (plain κ) s = .ok (c, r)) :
    scalar table B s = leaving (fold B c) r := by
  unfold scalar at h ⊢
  cases hliteral : findLiteral literals s with
  | some p =>
    obtain ⟨w, rest⟩ := p
    rw [hliteral] at h
    cases h
    cases w <;> rfl
  | none =>
    rw [hliteral] at h
    dsimp only at h ⊢
    cases hnumber : lexNumber s with
    | some p =>
      obtain ⟨l, rest⟩ := p
      rw [hnumber] at h
      cases h
      rfl
    | none =>
      rw [hnumber] at h
      dsimp only at h ⊢
      cases hconstant : findLiteral table s with
      | some p =>
        obtain ⟨k, rest⟩ := p
        rw [hconstant] at h
        cases h
        rfl
      | none =>
        rw [hconstant] at h
        cases h

section
variable {n : Nat} (ihValue : ∀ {s r : List Nat} {c : ParseTree κ}, value table (plain κ) n s = .ok (c, r) →
    value table B n s = leaving (fold B c) r)
  (ihMembers : ∀ {s r : List Nat} {kvs : List (List Piece × ParseTree κ)}, members table (plain κ) n s = .ok (kvs, r) →
    members table B n s = leaving (foldMembers B kvs) r)
  (ihItems : ∀ {s r : List Nat} {cs : List (ParseTree κ)}, items table (plain κ) n s = .ok (cs, r) →
    items table B n s = leaving (foldItems B cs) r)

include ihMembers ihItems in
theorem value_fold_succ {s r : List Nat} {c : ParseTree κ} (h : value table (plain κ) (n + 1) s = .ok (c, r)) :
    value table B (n + 1) s = leaving (fold B c) r := by
  cases value_ok.mp h with
  | emptyObject hend hobject =>
    cases hobject
    rw [value, if_pos rfl, hend]
    rfl
  | object hend hmembers hobject =>
    cases hobject
    rw [value, if_pos rfl, hend]
    dsimp only
    rw [ihMembers hmembers, leaving_bind, fold, bind_leaving]
    rfl
  | emptyArray hend =>
    rw [value, if_neg (by decide), if_pos rfl, hend]
    rfl
  | @array s r cs hend hitems =>
    rw [value, if_neg (by decide), if_pos rfl, hend]
    dsimp only
    rw [ihItems hitems, leaving_bind]
    show _ = leaving (foldItems B cs >>= fun vs => pure (B.array vs)) r
    rw [bind_leaving]
    rfl
  | text hstring =>
    rw [value, if_neg (by decide), if_neg (by decide), if_pos rfl, hstring]
    rfl
  | scalar hc hscalar =>
    rw [value, if_neg hc.1, if_neg hc.2.1, if_neg hc.2.2]
    exact scalar_fold table B hscalar

include ihValue ihMembers in
theorem members_fold_succ {s r : List Nat} {kvs : List (List Piece × ParseTree κ)}
    (h : members table (plain κ) (n + 1) s = .ok (kvs, r)) :
    members table B (n + 1) s = leaving (foldMembers B kvs) r := by
  unfold members
  cases members_ok.mp h with
  | last hname hcolon hvalue hend =>
    rw [hname]
    dsimp only
    rw [hcolon]
    dsimp only
    rw [ihValue hvalue, leaving_bind]
    dsimp only
    rw [hend, foldMembers, bind_leaving]
    rfl
  | @more s₁ s₂ s₃ s₄ r ps x kvs hname hcolon hvalue hend hcomma hmembers =>
    rw [hname]
    dsimp only
    rw [hcolon]
    dsimp only
    rw [ihValue hvalue, leaving_bind]
    dsimp only
    rw [hend]
    dsimp only
    rw [hcomma]
    dsimp only
    rw [ihMembers hmembers, foldMembers, bind_leaving]
    refine congrArg (fold B x >>= ·) (funext fun v => ?_)
    rw [leaving_bind, leaving_pure]
    rfl

include ihValue ihItems in
theorem items_fold_succ {s r : List Nat} {cs : List (ParseTree κ)} (h : items table (plain κ) (n + 1) s = .ok (cs, r)) :
    items table B (n + 1) s = leaving (foldItems B cs) r := by
  unfold items
  cases items_ok.mp h with
  | last hvalue hend =>
    rw [ihValue hvalue, leaving_bind]
    dsimp only
    rw [hend, foldItems, bind_leaving]
    rfl
  | @more s₁ s₂ r x cs hvalue hend hcomma hitems =>
    rw [ihValue hvalue, leaving_bind]
    dsimp only
    rw [hend]
    dsimp only
    rw [hcomma]
    dsimp only
    rw [ihItems hitems, foldItems, bind_leaving]
    refine congrArg (fold B x >>= ·) (funext fun v => ?_)
    rw [leaving_bind, leaving_pure]

end

/-- **Where the tree of a text is read, a builder reads its fold.** -/
theorem value_fold (n : Nat) :
    (∀ {s r : List Nat} {c : ParseTree κ}, value table (plain κ) n s = .ok (c, r) → value table B n s = leaving (fold B c) r) ∧
      (∀ {s r : List Nat} {kvs : List (List Piece × ParseTree κ)}, members table (plain κ) n s = .ok (kvs, r) →
        members table B n s = leaving (foldMembers B kvs) r) ∧
      ∀ {s r : List Nat} {cs : List (ParseTree κ)}, items table (plain κ) n s = .ok (cs, r) →
        items table B n s = leaving (foldItems B cs) r := by
  induction n with
  | zero =>
    refine ⟨fun h => ?_, fun h => ?_, fun h => ?_⟩
    · cases h
    · cases h
    · cases h
  | succ n ih =>
    obtain ⟨ihValue, ihMembers, ihItems⟩ := ih
    refine ⟨fun h => ?_, fun h => ?_, fun h => ?_⟩
    · exact value_fold_succ table B ihMembers ihItems h
    · exact members_fold_succ table B ihValue ihMembers h
    · exact items_fold_succ table B ihValue ihItems h

/-- **Reading a document with a builder is reading its tree and folding it.** -/
theorem document_fold {s : List Nat} {c : ParseTree κ} (h : document table (plain κ) s = .ok c) : document table B s = fold B c := by
  unfold document at h ⊢
  obtain ⟨⟨c', r⟩, hvalue, h⟩ := bind_eq_ok.mp h
  rw [(value_fold table B _).1 hvalue, leaving_bind]
  dsimp only at h ⊢
  cases hend : (skipBlanks r).isEmpty with
  | false =>
    rw [hend] at h
    cases h
  | true =>
    rw [hend] at h
    cases h
    cases fold B c <;> rfl

end

end JsonText
