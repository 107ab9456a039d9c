import Mathlib.Algebra.Order.Ring.Nat
import Mathlib.Data.List.Count
import Mathlib.Data.List.Basic

/-!
# Programs that call the outside world

A program is a tree: it returns, or calls an operation and goes on with the answer.  Nothing is said
about the answers; a run is the list of the calls with their answers.  What a program does is proved
against a monitor, a ghost state that follows the calls: which calls the monitor allows, and which
answers are possible at all.

* `Reaches p t p'`      the calls and answers `t` take `p` to `p'`;
* `wp M p Q g`          under the monitor `M` from the ghost state `g`, every call of `p` is allowed
                        and `p` returns with `Q` only; `wp_reaches` says so of the runs;
* `EndsIn p t o`        the run `t` is the whole run of `p`: `p` returns, or its last call raises what no
                        clause of `p` catches;
* `Act`                 programs with local variables that can raise and keep the variables;
* `exec`                the run against a given world;
* `proj`, `Follows`, `countP_le_of_proj`    runs of many programs over one shared state.
-/

set_option linter.unusedSectionVars false

namespace Program

/-! ## programs and runs -/

/-- a program over operations `Op` with answers `Res` -/
inductive Prog (Op : Type) (Res : Op → Type) (α : Type) : Type where
  | ret (a : α)
  | call (op : Op) (k : Res op → Prog Op Res α)

/-- a call with its answer -/
abbrev Event {Op : Type} (Res : Op → Type) : Type := (op : Op) × Res op

section
variable {Op : Type} {Res : Op → Type} {α β G : Type}

def Prog.bind : Prog Op Res α → (α → Prog Op Res β) → Prog Op Res β
  | .ret a, f => f a
  | .call op k, f => .call op fun r => (k r).bind f

/-- the calls and answers `t` take one program to the other -/
inductive Reaches : Prog Op Res α → List (Event Res) → Prog Op Res α → Prop where
  | nil (p : Prog Op Res α) : Reaches p [] p
  | cons {op : Op} {k : Res op → Prog Op Res α} (r : Res op) {t : List (Event Res)}
      {p' : Prog Op Res α} (h : Reaches (k r) t p') : Reaches (.call op k) (⟨op, r⟩ :: t) p'

/-- a program that has returned makes no calls -/
theorem Reaches.of_ret {a : α} {t : List (Event Res)} {p : Prog Op Res α}
    (h : Reaches (.ret a) t p) : t = [] ∧ p = .ret a := by
  cases h
  exact ⟨rfl, rfl⟩

theorem Reaches.split {p q : Prog Op Res α} {t t' : List (Event Res)} (h : Reaches p (t ++ t') q) :
    ∃ m, Reaches p t m ∧ Reaches m t' q := by
  induction t generalizing p with
  | nil => exact ⟨p, .nil p, h⟩
  | cons e t ih =>
    cases h with
    | cons r h =>
      obtain ⟨m, hm, hq⟩ := ih h
      exact ⟨m, .cons r hm, hq⟩

theorem Reaches.bind {p : Prog Op Res α} {f : α → Prog Op Res β} {q : Prog Op Res β} {a : α}
    {t t' : List (Event Res)} (h : Reaches p t (.ret a)) (h' : Reaches (f a) t' q) :
    Reaches (p.bind f) (t ++ t') q := by
  induction t generalizing p with
  | nil =>
    cases h
    exact h'
  | cons e t ih =>
    cases h with
    | cons r h => exact .cons r (ih h)

/-- a run of a sequence that returns is a run of its first part and one of the rest -/
theorem Reaches.of_bind {p : Prog Op Res α} {f : α → Prog Op Res β} {b : β} {t : List (Event Res)}
    (h : Reaches (p.bind f) t (.ret b)) :
    ∃ a u v, t = u ++ v ∧ Reaches p u (.ret a) ∧ Reaches (f a) v (.ret b) := by
  induction p generalizing t with
  | ret a => exact ⟨a, [], t, rfl, .nil _, h⟩
  | call op k ih =>
    cases h with
    | cons r h =>
      obtain ⟨a, u, v, rfl, hu, hv⟩ := ih r h
      exact ⟨a, ⟨op, r⟩ :: u, v, rfl, .cons r hu, hv⟩

/-- a run leads to one program -/
theorem Reaches.unique {p q q' : Prog Op Res α} {t : List (Event Res)} (h : Reaches p t q)
    (h' : Reaches p t q') : q = q' := by
  induction h with
  | nil p =>
    cases h'
    rfl
  | cons r _ ih =>
    cases h' with
    | cons _ h' => exact ih h'

/-- nothing follows the run of a program that has returned -/
theorem Reaches.done {p q : Prog Op Res α} {a : α} {t t' : List (Event Res)} (h : Reaches p t (.ret a))
    (h' : Reaches p (t ++ t') q) : t' = [] := by
  obtain ⟨m, hm, hq⟩ := h'.split
  rw [← h.unique hm] at hq
  exact hq.of_ret.1

/-! ## monitors -/

/-- a ghost state that follows the calls of a program -/
structure Monitor (Res : Op → Type) (G : Type) where
  /-- the calls that may be made -/
  allow : G → Op → Prop
  /-- the answers that can come back -/
  possible : G → (op : Op) → Res op → Prop
  /-- the ghost state after a call -/
  next : G → (op : Op) → Res op → G

/-- the ghost state after a run -/
def Monitor.run (M : Monitor Res G) : G → List (Event Res) → G
  | g, [] => g
  | g, e :: t => M.run (M.next g e.1 e.2) t

/-- all answers of a run are possible -/
def Monitor.Possible (M : Monitor Res G) : G → List (Event Res) → Prop
  | _, [] => True
  | g, e :: t => M.possible g e.1 e.2 ∧ M.Possible (M.next g e.1 e.2) t

/-- all calls of a run are allowed -/
def Monitor.Allowed (M : Monitor Res G) : G → List (Event Res) → Prop
  | _, [] => True
  | g, e :: t => M.allow g e.1 ∧ M.Allowed (M.next g e.1 e.2) t

theorem Monitor.possible_append {M : Monitor Res G} {g : G} {t t' : List (Event Res)} :
    M.Possible g (t ++ t') ↔ M.Possible g t ∧ M.Possible (M.run g t) t' := by
  induction t generalizing g with
  | nil => exact ⟨fun h => ⟨trivial, h⟩, fun h => h.2⟩
  | cons e t ih =>
    show _ ∧ M.Possible _ (t ++ t') ↔ (_ ∧ _) ∧ _
    rw [ih, and_assoc]
    rfl

/-- where every answer is possible -/
theorem Monitor.possible_of_all {M : Monitor Res G} (h : ∀ g op r, M.possible g op r) (g : G)
    (t : List (Event Res)) : M.Possible g t := by
  induction t generalizing g with
  | nil => trivial
  | cons e t ih => exact ⟨h g e.1 e.2, ih _⟩

theorem Monitor.allowed_append {M : Monitor Res G} {g : G} {t t' : List (Event Res)} :
    M.Allowed g (t ++ t') ↔ M.Allowed g t ∧ M.Allowed (M.run g t) t' := by
  induction t generalizing g with
  | nil => exact ⟨fun h => ⟨trivial, h⟩, fun h => h.2⟩
  | cons e t ih =>
    show _ ∧ M.Allowed _ (t ++ t') ↔ (_ ∧ _) ∧ _
    rw [ih, and_assoc]
    rfl

/-- every call is allowed, and the program returns with `Q` only -/
def wp (M : Monitor Res G) : Prog Op Res α → (α → G → Prop) → G → Prop
  | .ret a, Q, g => Q a g
  | .call op k, Q, g => M.allow g op ∧ ∀ r, M.possible g op r → wp M (k r) Q (M.next g op r)

variable {M : Monitor Res G}

theorem wp_mono {p : Prog Op Res α} {Q Q' : α → G → Prop} {g : G} (h : wp M p Q g)
    (hQ : ∀ a g', Q a g' → Q' a g') : wp M p Q' g := by
  induction p generalizing g with
  | ret a => exact hQ a g h
  | call op k ih => exact ⟨h.1, fun r hr => ih r (h.2 r hr)⟩

theorem wp_bind {p : Prog Op Res α} {f : α → Prog Op Res β} {Q : β → G → Prop} {g : G}
    (h : wp M p (fun a g' => wp M (f a) Q g') g) : wp M (p.bind f) Q g := by
  induction p generalizing g with
  | ret a => exact h
  | call op k ih => exact ⟨h.1, fun r hr => ih r (h.2 r hr)⟩

theorem wp_and {p : Prog Op Res α} {Q Q' : α → G → Prop} {g : G} (h : wp M p Q g)
    (h' : wp M p Q' g) : wp M p (fun a g' => Q a g' ∧ Q' a g') g := by
  induction p generalizing g with
  | ret a => exact ⟨h, h'⟩
  | call op k ih => exact ⟨h.1, fun r hr => ih r (h.2 r hr) (h'.2 r hr)⟩

/-- a monitor that another one contains -/
theorem wp_pull {G' : Type} {M' : Monitor Res G'} (f : G' → G)
    (hallow : ∀ g op, M.allow (f g) op → M'.allow g op)
    (hpossible : ∀ g op r, M'.possible g op r → M.possible (f g) op r)
    (hnext : ∀ g op r, f (M'.next g op r) = M.next (f g) op r) {p : Prog Op Res α}
    {Q : α → G → Prop} {g : G'} (h : wp M p Q (f g)) : wp M' p (fun a g' => Q a (f g')) g := by
  induction p generalizing g with
  | ret a => exact h
  | call op k ih =>
    refine ⟨hallow g op h.1, fun r hr => ih r ?_⟩
    rw [hnext]
    exact h.2 r (hpossible g op r hr)

/-- **A run of a program that meets its specification**: its calls are allowed, and where it stands
it still meets the specification. -/
theorem wp_reaches {p p' : Prog Op Res α} {Q : α → G → Prop} {g : G} {t : List (Event Res)}
    (h : wp M p Q g) (hr : Reaches p t p') (hp : M.Possible g t) :
    M.Allowed g t ∧ wp M p' Q (M.run g t) := by
  induction hr generalizing g with
  | nil p => exact ⟨trivial, h⟩
  | cons r hr ih =>
    obtain ⟨h1, h2⟩ := ih (h.2 r hp.1) hp.2
    exact ⟨⟨h.1, h1⟩, h2⟩

/-- a program meets a specification that all its runs meet -/
theorem wp_of_runs {p : Prog Op Res α} {Q : α → G → Prop} {g : G} (hallow : ∀ g op, M.allow g op)
    (h : ∀ t a, Reaches p t (.ret a) → M.Possible g t → Q a (M.run g t)) : wp M p Q g := by
  induction p generalizing g with
  | ret a => exact h [] a (.nil _) trivial
  | call op k ih =>
    exact ⟨hallow g op, fun r hr => ih r fun t a ht hp => h (⟨op, r⟩ :: t) a (.cons r ht) ⟨hr, hp⟩⟩

/-- the same monitor with other calls allowed -/
def Monitor.allowing (M : Monitor Res G) (allow : G → Op → Prop) : Monitor Res G := { M with allow := allow }

theorem Monitor.run_allowing (M : Monitor Res G) (allow : G → Op → Prop) (g : G) (t : List (Event Res)) :
    (M.allowing allow).run g t = M.run g t := by
  induction t generalizing g with
  | nil => rfl
  | cons e t ih => exact ih _

theorem Monitor.possible_allowing {allow : G → Op → Prop} {g : G} {t : List (Event Res)} :
    (M.allowing allow).Possible g t ↔ M.Possible g t := by
  induction t generalizing g with
  | nil => exact Iff.rfl
  | cons e t ih => exact and_congr_right fun _ => ih

/-! ## how a run ends -/

/-- a program returns, or one of its calls raises what none of its clauses catches -/
inductive End (Op α : Type) where
  | returned (a : α)
  | escaped (op : Op)

/-- something was raised that no clause catches -/
def End.Escaped {Op α : Type} : End Op α → Prop
  | .returned _ => False
  | .escaped _ => True

/-- the whole run of a program: after what escapes from a call nothing of the program runs -/
inductive EndsIn (p : Prog Op Res α) (t : List (Event Res)) : End Op α → Prop where
  | returned {a : α} (h : Reaches p t (.ret a)) : EndsIn p t (.returned a)
  | escaped {op : Op} {k : Res op → Prog Op Res α} (h : Reaches p t (.call op k)) : EndsIn p t (.escaped op)

/-- the program returns with `Q`, or the call was allowed -/
def End.Meets (M : Monitor Res G) (Q : α → G → Prop) (g : G) : End Op α → Prop
  | .returned a => Q a g
  | .escaped op => M.allow g op

/-- **How the runs of a program end that meets its specification.** -/
theorem wp_ends {p : Prog Op Res α} {Q : α → G → Prop} {g : G} {t : List (Event Res)} {o : End Op α}
    (h : wp M p Q g) (he : EndsIn p t o) (hp : M.Possible g t) : o.Meets M Q (M.run g t) := by
  cases he with
  | returned hr => exact (wp_reaches h hr hp).2
  | escaped hr => exact (wp_reaches h hr hp).2.1

/-! ## programs that make some calls only -/

/-- all calls satisfy `I`, and the program returns with `Q` only -/
def Only (I : Op → Prop) (Q : α → Prop) : Prog Op Res α → Prop
  | .ret a => Q a
  | .call op k => I op ∧ ∀ r, Only I Q (k r)

theorem Only.bind {I : Op → Prop} {R : α → Prop} {Q : β → Prop} {p : Prog Op Res α}
    {f : α → Prog Op Res β} (hp : Only I R p) (hf : ∀ a, R a → Only I Q (f a)) :
    Only I Q (p.bind f) := by
  induction p with
  | ret a => exact hf a hp
  | call op k ih => exact ⟨hp.1, fun r => ih r (hp.2 r)⟩

/-- the calls of a run -/
theorem Only.mem {I : Op → Prop} {Q : α → Prop} {p q : Prog Op Res α} {t : List (Event Res)}
    (hp : Only I Q p) (hr : Reaches p t q) : ∀ e ∈ t, I e.1 := by
  induction hr with
  | nil p => exact fun e he => nomatch he
  | cons r _ ih =>
    intro e he
    rcases List.mem_cons.mp he with rfl | he
    · exact hp.1
    · exact ih (hp.2 r) e he

/-- the result of a run -/
theorem Only.returned {I : Op → Prop} {Q : α → Prop} {p : Prog Op Res α} {t : List (Event Res)} {a : α}
    (hp : Only I Q p) (hr : Reaches p t (.ret a)) : Q a := by
  generalize hq : Prog.ret a = q at hr
  induction hr with
  | nil p =>
    subst hq
    exact hp
  | cons r _ ih => exact ih (hp.2 r) hq

/-- an invariant of the ghost state that the calls in `I` keep -/
theorem wp_of_only {I : Op → Prop} {K : G → Prop} {Q : α → Prop} {p : Prog Op Res α}
    (hI : ∀ g op, K g → I op →
      M.allow g op ∧ ∀ r, M.possible g op r → K (M.next g op r))
    (hp : Only I Q p) {g : G} (hg : K g) : wp M p (fun a g' => Q a ∧ K g') g := by
  induction p generalizing g with
  | ret a => exact ⟨hp, hg⟩
  | call op k ih =>
    obtain ⟨h1, h2⟩ := hI g op hg hp.1
    exact ⟨h1, fun r hr => ih r (hp.2 r) (h2 r hr)⟩

/-- a monitor that another one contains, for a program whose calls both see alike -/
theorem wp_pull_only {G' : Type} {M' : Monitor Res G'} {I : Op → Prop} (f : G' → G)
    (hallow : ∀ g op, I op → M'.allow g op)
    (hpossible : ∀ g op r, I op → M'.possible g op r → M.possible (f g) op r)
    (hnext : ∀ g op r, I op → f (M'.next g op r) = M.next (f g) op r) {R : α → Prop}
    {p : Prog Op Res α} (hp : Only I R p) {Q : α → G → Prop} {g : G'} (h : wp M p Q (f g)) :
    wp M' p (fun a g' => Q a (f g')) g := by
  induction p generalizing g with
  | ret a => exact h
  | call op k ih =>
    refine ⟨hallow g op hp.1, fun r hr => ih r (hp.2 r) ?_⟩
    rw [hnext g op r hp.1]
    exact h.2 r (hpossible g op r hp.1 hr)

end

/-! ## local variables and exceptions -/

/-- a program with local variables `S` that can raise `E`; what is raised keeps the variables -/
def Act (Op : Type) (Res : Op → Type) (S E α : Type) : Type := S → Prog Op Res (Except E α × S)

section
variable {Op : Type} {Res : Op → Type} {S E α β G : Type}

/-- go on after a result -/
def Act.resume (f : α → Act Op Res S E β) : Except E α × S → Prog Op Res (Except E β × S)
  | (.ok a, s) => f a s
  | (.error e, s) => .ret (.error e, s)

instance : Monad (Act Op Res S E) where
  pure a := fun s => .ret (.ok a, s)
  bind m f := fun s => (m s).bind (Act.resume f)

/-- `raise e` -/
def Act.raise (e : E) : Act Op Res S E α := fun s => .ret (.error e, s)

/-- a computation without calls -/
def Act.lift (x : Except E α) : Act Op Res S E α := fun s => .ret (x, s)

/-- a call that always answers -/
def Act.ask (op : Op) : Act Op Res S E (Res op) := fun s => .call op fun r => .ret (.ok r, s)

/-- a call whose answer may be an exception -/
def Act.perform (op : Op) (h : Res op = Except E α) : Act Op Res S E α :=
  fun s => .call op fun r => .ret (cast h r, s)

/-- read the variables -/
def Act.vars : Act Op Res S E S := fun s => .ret (.ok s, s)

/-- assign to the variables -/
def Act.assign (f : S → S) : Act Op Res S E Unit := fun s => .ret (.ok (), f s)

/-- go on after an exception -/
def Act.recover (handler : E → Act Op Res S E α) : Except E α × S → Prog Op Res (Except E α × S)
  | (.ok a, s) => .ret (.ok a, s)
  | (.error e, s) => handler e s

/-- `try: m except: handler` -/
def Act.catching (m : Act Op Res S E α) (handler : E → Act Op Res S E α) : Act Op Res S E α :=
  fun s => (m s).bind (Act.recover handler)

variable {M : Monitor Res G}

/-- one statement after the other -/
theorem wp_seq {m : Act Op Res S E α} {f : α → Act Op Res S E β} {s : S} {g : G}
    {Q : Except E β × S → G → Prop} (R : Except E α × S → G → Prop) (h : wp M (m s) R g)
    (hok : ∀ a s' g', R (.ok a, s') g' → wp M (f a s') Q g')
    (herr : ∀ e s' g', R (.error e, s') g' → Q (.error e, s') g') : wp M ((m >>= f) s) Q g := by
  refine wp_bind (wp_mono h ?_)
  rintro ⟨r, s'⟩ g' hR
  cases r with
  | ok a => exact hok a s' g' hR
  | error e => exact herr e s' g' hR

theorem Reaches.seq {m : Act Op Res S E α} {f : α → Act Op Res S E β} {s s' : S} {a : α}
    {q : Prog Op Res (Except E β × S)} {t t' : List (Event Res)} (h : Reaches (m s) t (.ret (.ok a, s')))
    (h' : Reaches (f a s') t' q) : Reaches ((m >>= f) s) (t ++ t') q := h.bind h'

/-- a sequence that returns a result has run both parts -/
theorem Reaches.of_seq {m : Act Op Res S E α} {f : α → Act Op Res S E β} {s s' : S} {b : β} {t : List (Event Res)}
    (h : Reaches ((m >>= f) s) t (.ret (.ok b, s'))) :
    ∃ a s₁ u v, t = u ++ v ∧ Reaches (m s) u (.ret (.ok a, s₁)) ∧ Reaches (f a s₁) v (.ret (.ok b, s')) := by
  obtain ⟨⟨r, s₁⟩, u, v, ht, hu, hv⟩ := h.of_bind
  cases r with
  | ok a => exact ⟨a, s₁, u, v, ht, hu, hv⟩
  | error e => cases hv

theorem Reaches.of_lift {x : Except E α} {s s' : S} {r : Except E α} {t : List (Event Res)}
    (h : Reaches ((Act.lift x : Act Op Res S E α) s) t (.ret (r, s'))) : t = [] ∧ x = r := by
  cases h
  exact ⟨rfl, rfl⟩

theorem Reaches.of_ask {op : Op} {s s' : S} {r : Res op} {t : List (Event Res)}
    (h : Reaches ((Act.ask op : Act Op Res S E (Res op)) s) t (.ret (.ok r, s'))) : t = [⟨op, r⟩] := by
  cases h with
  | cons a h =>
    cases h
    rfl

theorem Reaches.lift {x : Except E α} {a : α} (h : x = .ok a) (s : S) :
    Reaches ((Act.lift x : Act Op Res S E α) s) [] (.ret (.ok a, s)) := by
  subst h
  exact .nil _

theorem Reaches.ask (op : Op) (r : Res op) (s : S) :
    Reaches ((Act.ask op : Act Op Res S E (Res op)) s) [⟨op, r⟩] (.ret (.ok r, s)) := .cons r (.nil _)

theorem wp_vars {f : S → Act Op Res S E β} {s : S} {g : G} {Q : Except E β × S → G → Prop}
    (h : wp M (f s s) Q g) : wp M ((Act.vars >>= f) s) Q g := h

theorem wp_assign {u : S → S} {f : Unit → Act Op Res S E β} {s : S} {g : G}
    {Q : Except E β × S → G → Prop} (h : wp M (f () (u s)) Q g) :
    wp M ((Act.assign u >>= f) s) Q g := h

theorem wp_lift {x : Except E α} {f : α → Act Op Res S E β} {s : S} {g : G}
    {Q : Except E β × S → G → Prop} (hok : ∀ a, x = .ok a → wp M (f a s) Q g)
    (herr : ∀ e, x = .error e → Q (.error e, s) g) : wp M ((Act.lift x >>= f) s) Q g := by
  cases x with
  | ok a => exact hok a rfl
  | error e => exact herr e rfl

theorem wp_perform {op : Op} {h : Res op = Except E α} {f : α → Act Op Res S E β} {s : S} {g : G}
    {Q : Except E β × S → G → Prop} (hallow : M.allow g op)
    (hok : ∀ a, M.possible g op (cast h.symm (.ok a)) →
      wp M (f a s) Q (M.next g op (cast h.symm (.ok a))))
    (herr : ∀ e, M.possible g op (cast h.symm (.error e)) →
      Q (.error e, s) (M.next g op (cast h.symm (.error e)))) :
    wp M ((Act.perform op h >>= f) s) Q g := by
  have hx : ∀ x : Except E α, M.possible g op (cast h.symm x) →
      wp M (Act.resume f (x, s)) Q (M.next g op (cast h.symm x)) := by
    intro x hp
    cases x with
    | ok a => exact hok a hp
    | error e => exact herr e hp
  refine ⟨hallow, fun r hr => ?_⟩
  have hr' := hx (cast h r)
  rw [cast_cast, cast_eq] at hr'
  exact hr' hr

theorem wp_catching {m : Act Op Res S E α} {handler : E → Act Op Res S E α} {s : S} {g : G}
    {Q : Except E α × S → G → Prop} (R : Except E α × S → G → Prop) (h : wp M (m s) R g)
    (hok : ∀ a s' g', R (.ok a, s') g' → Q (.ok a, s') g')
    (herr : ∀ e s' g', R (.error e, s') g' → wp M (handler e s') Q g') :
    wp M (Act.catching m handler s) Q g := by
  refine wp_bind (wp_mono h ?_)
  rintro ⟨r, s'⟩ g' hR
  cases r with
  | ok a => exact hok a s' g' hR
  | error e => exact herr e s' g' hR

/-! ## frames -/

/-- all calls of `m` satisfy `I`, and `m` keeps `J` of the local variables -/
def Frame (I : Op → Prop) (J : S → Prop) (m : Act Op Res S E α) : Prop :=
  ∀ s, J s → Only I (fun r => J r.2) (m s)

section
variable {I : Op → Prop} {J : S → Prop}

theorem frame_pure (a : α) : Frame I J (pure a : Act Op Res S E α) := fun _ hs => hs

theorem frame_raise (e : E) : Frame I J (Act.raise e : Act Op Res S E α) := fun _ hs => hs

theorem frame_lift (x : Except E α) : Frame I J (Act.lift x : Act Op Res S E α) := fun _ hs => hs

theorem frame_vars : Frame I J (Act.vars : Act Op Res S E S) := fun _ hs => hs

theorem frame_assign {f : S → S} (h : ∀ s, J s → J (f s)) :
    Frame I J (Act.assign f : Act Op Res S E Unit) := h

theorem frame_perform {op : Op} {h : Res op = Except E α} (hop : I op) :
    Frame I J (Act.perform op h : Act Op Res S E α) := fun _ hs => ⟨hop, fun _ => hs⟩

theorem frame_seq {m : Act Op Res S E α} {f : α → Act Op Res S E β} (hm : Frame I J m)
    (hf : ∀ a, Frame I J (f a)) : Frame I J (m >>= f) := by
  intro s hs
  refine (hm s hs).bind ?_
  rintro ⟨r, s'⟩ hs'
  cases r with
  | ok a => exact hf a s' hs'
  | error e => exact hs'

theorem frame_catching {m : Act Op Res S E α} {handler : E → Act Op Res S E α} (hm : Frame I J m)
    (hf : ∀ e, Frame I J (handler e)) : Frame I J (Act.catching m handler) := by
  intro s hs
  refine (hm s hs).bind ?_
  rintro ⟨r, s'⟩ hs'
  cases r with
  | ok a => exact hs'
  | error e => exact hf e s' hs'

theorem frame_any (m : Act Op Res S E α) : Frame (fun _ => True) (fun _ => True) m := by
  intro s _
  induction m s with
  | ret a => trivial
  | call op k ih => exact ⟨trivial, ih⟩

/-- the last statement after a frame -/
theorem only_after {Q : Except E β × S → Prop} {m : Act Op Res S E α} {f : α → Act Op Res S E β}
    (hm : Frame I J m) {s : S} (hs : J s) (hf : ∀ a s', J s' → Only I Q (f a s'))
    (herr : ∀ e s', J s' → Q (.error e, s')) : Only I Q ((m >>= f) s) := by
  refine (hm s hs).bind ?_
  rintro ⟨r, s'⟩ hs'
  cases r with
  | ok a => exact hf a s' hs'
  | error e => exact herr e s' hs'

/-- what is caught -/
theorem only_catching {R Q : Except E α × S → Prop} {m : Act Op Res S E α}
    {handler : E → Act Op Res S E α} {s : S} (hm : Only I R (m s))
    (hok : ∀ a s', R (.ok a, s') → Q (.ok a, s'))
    (herr : ∀ e s', R (.error e, s') → Only I Q (handler e s')) :
    Only I Q (Act.catching m handler s) := by
  refine hm.bind ?_
  rintro ⟨r, s'⟩ hR
  cases r with
  | ok a => exact hok a s' hR
  | error e => exact herr e s' hR

/-- a frame under a monitor whose invariant its calls keep -/
theorem wp_frame {m : Act Op Res S E α} {K : G → Prop} (hm : Frame I J m)
    (hI : ∀ g op, K g → I op → M.allow g op ∧ ∀ r, M.possible g op r → K (M.next g op r))
    {s : S} (hs : J s) {g : G} (hg : K g) : wp M (m s) (fun r g' => J r.2 ∧ K g') g :=
  wp_of_only hI (hm s hs) hg

end

end

/-! ## the run against a world -/

section
variable {Op : Type} {Res : Op → Type} {α G W : Type}

/-- the result, the world after the run, and the run -/
def exec (env : (op : Op) → W → Res op × W) : Prog Op Res α → W → α × W × List (Event Res)
  | .ret a, w => (a, w, [])
  | .call op k, w =>
    let next := exec env (k (env op w).1) (env op w).2
    (next.1, next.2.1, ⟨op, (env op w).1⟩ :: next.2.2)

theorem exec_reaches (env : (op : Op) → W → Res op × W) (p : Prog Op Res α) (w : W) :
    Reaches p (exec env p w).2.2 (.ret (exec env p w).1) := by
  induction p generalizing w with
  | ret a => exact .nil _
  | call op k ih => exact .cons _ (ih _ _)

/-- one program after the other -/
theorem exec_bind {β : Type} (env : (op : Op) → W → Res op × W) (p : Prog Op Res α)
    (f : α → Prog Op Res β) (w : W) :
    (exec env (p.bind f) w).1 = (exec env (f (exec env p w).1) (exec env p w).2.1).1 ∧
      (exec env (p.bind f) w).2.1 = (exec env (f (exec env p w).1) (exec env p w).2.1).2.1 := by
  induction p generalizing w with
  | ret a => exact ⟨rfl, rfl⟩
  | call op k ih => exact ih _ _

/-- the same for a result that is a pair -/
theorem exec_reaches_pair {β : Type} (env : (op : Op) → W → Res op × W) (p : Prog Op Res (α × β)) (w : W) :
    Reaches p (exec env p w).2.2 (.ret ((exec env p w).1.1, (exec env p w).1.2)) := by
  rw [Prod.mk.eta]
  exact exec_reaches env p w

/-- a ghost state that stays related to the world sees possible answers only -/
theorem exec_possible {M : Monitor Res G} {env : (op : Op) → W → Res op × W} {R : W → G → Prop}
    (hR : ∀ w g op, R w g →
      M.possible g op (env op w).1 ∧ R (env op w).2 (M.next g op (env op w).1))
    (p : Prog Op Res α) {w : W} {g : G} (h : R w g) :
    M.Possible g (exec env p w).2.2 ∧ R (exec env p w).2.1 (M.run g (exec env p w).2.2) := by
  induction p generalizing w g with
  | ret a => exact ⟨trivial, h⟩
  | call op k ih =>
    obtain ⟨h1, h2⟩ := hR w g op h
    obtain ⟨h3, h4⟩ := ih _ h2
    exact ⟨⟨h1, h3⟩, h4⟩

/-- **The run against a world of a program that meets its specification.** -/
theorem wp_exec {M : Monitor Res G} {env : (op : Op) → W → Res op × W} {R : W → G → Prop}
    (hR : ∀ w g op, R w g →
      M.possible g op (env op w).1 ∧ R (env op w).2 (M.next g op (env op w).1))
    {p : Prog Op Res α} {Q : α → G → Prop} {w : W} {g : G} (hp : wp M p Q g) (h : R w g) :
    Q (exec env p w).1 (M.run g (exec env p w).2.2) ∧
      R (exec env p w).2.1 (M.run g (exec env p w).2.2) := by
  obtain ⟨h1, h2⟩ := exec_possible hR p h
  exact ⟨(wp_reaches hp (exec_reaches env p w) h1).2, h2⟩

end

/-! ## many programs, one state -/

section
variable {ι E W : Type} [DecidableEq ι]

/-- the part of a history that one caller made -/
def proj (i : ι) (h : List (ι × E)) : List E := (h.filter fun e => e.1 = i).map Prod.snd

theorem proj_append (i : ι) (h h' : List (ι × E)) : proj i (h ++ h') = proj i h ++ proj i h' := by
  unfold proj
  rw [List.filter_append, List.map_append]

theorem proj_cons_self (i : ι) (e : E) (h : List (ι × E)) : proj i ((i, e) :: h) = e :: proj i h := by
  simp [proj]

theorem proj_cons_ne {i j : ι} (hij : j ≠ i) (e : E) (h : List (ι × E)) :
    proj i ((j, e) :: h) = proj i h := by
  simp [proj, hij]

/-- a run of one caller -/
theorem proj_tagged (i j : ι) (t : List E) :
    proj j (t.map (Prod.mk i)) = if i = j then t else [] := by
  unfold proj
  rw [List.filter_map, List.map_map]
  by_cases hij : i = j
  · simp [Function.comp_def, hij]
  · simp [Function.comp_def, hij]

theorem mem_proj {i : ι} {h : List (ι × E)} {e : E} : e ∈ proj i h ↔ (i, e) ∈ h := by
  unfold proj
  rw [List.mem_map]
  constructor
  · rintro ⟨⟨j, e'⟩, he, rfl⟩
    rw [List.mem_filter] at he
    obtain rfl : j = i := of_decide_eq_true he.2
    exact he.1
  · intro he
    exact ⟨(i, e), List.mem_filter.mpr ⟨he, decide_eq_true rfl⟩, rfl⟩

/-- where an event of one caller stands in the history -/
theorem proj_eq_append_cons {i : ι} {h : List (ι × E)} {t t' : List E} {e : E}
    (hp : proj i h = t ++ e :: t') :
    ∃ before after, h = before ++ (i, e) :: after ∧ proj i before = t ∧ proj i after = t' := by
  induction h generalizing t with
  | nil => cases t <;> cases hp
  | cons x h ih =>
    obtain ⟨j, e'⟩ := x
    by_cases hj : j = i
    · subst hj
      rw [proj_cons_self] at hp
      cases t with
      | nil =>
        cases hp
        exact ⟨[], h, rfl, rfl, rfl⟩
      | cons a t =>
        obtain ⟨rfl, hp'⟩ := List.cons.inj hp
        obtain ⟨before, after, rfl, hb, ha⟩ := ih hp'
        exact ⟨(j, e') :: before, after, rfl, by rw [proj_cons_self, hb], ha⟩
    · rw [proj_cons_ne hj] at hp
      obtain ⟨before, after, rfl, hb, ha⟩ := ih hp
      exact ⟨(j, e') :: before, after, rfl, by rw [proj_cons_ne hj, hb], ha⟩

/-- two events of one history: one comes first, or they are the same -/
theorem append_cons_cases {x y : E} {a b c d : List E} (h : a ++ x :: b = c ++ y :: d) :
    (a = c ∧ x = y) ∨ (∃ m, c = a ++ x :: m) ∨ ∃ m, a = c ++ y :: m := by
  induction a generalizing c with
  | nil =>
    cases c with
    | nil => exact Or.inl ⟨rfl, (List.cons.inj h).1⟩
    | cons z c =>
      obtain ⟨rfl, -⟩ := List.cons.inj h
      exact Or.inr (Or.inl ⟨c, rfl⟩)
  | cons w a ih =>
    cases c with
    | nil =>
      obtain ⟨rfl, -⟩ := List.cons.inj h
      exact Or.inr (Or.inr ⟨a, rfl⟩)
    | cons z c =>
      obtain ⟨rfl, h'⟩ := List.cons.inj h
      rcases ih h' with ⟨rfl, hxy⟩ | ⟨m, rfl⟩ | ⟨m, rfl⟩
      · exact Or.inl ⟨rfl, hxy⟩
      · exact Or.inr (Or.inl ⟨m, rfl⟩)
      · exact Or.inr (Or.inr ⟨m, rfl⟩)

/-- the steps of a history take one state to the other -/
def Follows (step : W → E → W → Prop) : W → List E → W → Prop
  | w, [], w' => w = w'
  | w, e :: t, w' => ∃ v, step w e v ∧ Follows step v t w'

theorem follows_append {step : W → E → W → Prop} {w w' : W} {t t' : List E} :
    Follows step w (t ++ t') w' ↔ ∃ v, Follows step w t v ∧ Follows step v t' w' := by
  induction t generalizing w with
  | nil =>
    constructor
    · intro h
      exact ⟨w, rfl, h⟩
    · rintro ⟨v, rfl, h⟩
      exact h
  | cons e t ih =>
    constructor
    · rintro ⟨u, hu, h⟩
      obtain ⟨v, hv, h⟩ := ih.mp h
      exact ⟨v, ⟨u, hu, hv⟩, h⟩
    · rintro ⟨v, ⟨u, hu, hv⟩, h⟩
      exact ⟨u, hu, ih.mpr ⟨v, hv, h⟩⟩

/-- what every step keeps, a history keeps -/
theorem follows_invariant {step : W → E → W → Prop} {I : W → Prop}
    (hI : ∀ w e w', step w e w' → I w → I w') {w w' : W} {t : List E} (h : Follows step w t w')
    (hw : I w) : I w' := by
  induction t generalizing w with
  | nil =>
    cases h
    exact hw
  | cons e t ih =>
    obtain ⟨v, hv, h⟩ := h
    exact ih h (hI w e v hv hw)

/-- a ghost state of one caller that stays related to the shared state sees possible answers only;
the others' steps leave the ghost state as it is -/
theorem possible_of_follows {Op G : Type} {Res : Op → Type} {M : Monitor Res G}
    {step : W → Event Res → W → Prop} {R : W → G → Prop}
    (hown : ∀ w e w' g, step w e w' → R w g →
      M.possible g e.1 e.2 ∧ R w' (M.next g e.1 e.2))
    (hother : ∀ w e w' g, step w e w' → R w g → R w' g) (i : ι) {w w' : W} {g : G}
    {h : List (ι × Event Res)} (hf : Follows step w (h.map Prod.snd) w') (hR : R w g) :
    M.Possible g (proj i h) ∧ R w' (M.run g (proj i h)) := by
  induction h generalizing w g with
  | nil =>
    cases hf
    exact ⟨trivial, hR⟩
  | cons x h ih =>
    obtain ⟨j, e⟩ := x
    obtain ⟨v, hv, hf⟩ := hf
    by_cases hj : j = i
    · subst hj
      rw [proj_cons_self]
      obtain ⟨h1, h2⟩ := hown w e v g hv hR
      obtain ⟨h3, h4⟩ := ih hf h2
      exact ⟨⟨h1, h3⟩, h4⟩
    · rw [proj_cons_ne hj]
      exact ih hf (hother w e v g hv hR)

/-- the run against a world follows its steps -/
theorem exec_follows {Op α : Type} {Res : Op → Type} {step : W → Event Res → W → Prop}
    {env : (op : Op) → W → Res op × W} (henv : ∀ op w, step w ⟨op, (env op w).1⟩ (env op w).2)
    (p : Prog Op Res α) (w : W) : Follows step w (exec env p w).2.2 (exec env p w).2.1 := by
  induction p generalizing w with
  | ret a => rfl
  | call op k ih => exact ⟨_, henv op w, ih _ _⟩

theorem filter_ne_filter {i j : ι} (hij : j ≠ i) (h : List (ι × E)) :
    (h.filter fun e => ¬ e.1 = i).filter (fun e => e.1 = j) = h.filter fun e => e.1 = j := by
  rw [List.filter_filter]
  refine List.filter_congr fun e _ => ?_
  by_cases he : e.1 = j
  · simp [he, hij]
  · simp [he]

/-- **Counting caller by caller**: a bound that holds for the part of every caller holds for the
whole history. -/
theorem countP_le_of_proj (p q : ι × E → Bool) (h : List (ι × E))
    (hpq : ∀ i, (h.filter fun e => e.1 = i).countP p ≤ (h.filter fun e => e.1 = i).countP q) :
    h.countP p ≤ h.countP q := by
  induction hn : h.length using Nat.strong_induction_on generalizing h with
  | _ n ih =>
  subst hn
  cases h with
  | nil => simp
  | cons e t =>
    -- the caller of the first event, and all others
    have hlt : ((e :: t).filter fun x => ¬ x.1 = e.1).length < (e :: t).length := by
      rw [List.filter_cons_of_neg (by simp), List.length_cons]
      exact Nat.lt_succ_of_le (List.length_filter_le _ _)
    have hrest := ih _ hlt ((e :: t).filter fun x => ¬ x.1 = e.1) (fun i => by
      by_cases hi : i = e.1
      · subst hi
        have hnil : ((e :: t).filter fun x => ¬ x.1 = e.1).filter (fun x => x.1 = e.1) = [] := by
          rw [List.filter_filter, List.filter_eq_nil_iff]
          intro x _
          simp
        rw [hnil]
        exact Nat.le_refl _
      · rw [filter_ne_filter hi]
        exact hpq i) rfl
    have hsplit : ∀ r : ι × E → Bool, (e :: t).countP r
        = ((e :: t).filter fun x => x.1 = e.1).countP r
          + ((e :: t).filter fun x => ¬ x.1 = e.1).countP r := by
      intro r
      have hc := List.countP_eq_countP_filter_add (e :: t) r (fun x => decide (x.1 = e.1))
      rw [hc]
      congr 1
      refine congrArg _ (List.filter_congr fun x _ => ?_)
      simp
    rw [hsplit p, hsplit q]
    exact Nat.add_le_add (hpq e.1) hrest

end

end Program
