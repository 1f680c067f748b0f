import Mathlib.Data.List.Forall2
import Mathlib.Logic.Function.Basic

/-!
# Programs over a signature of operations

* `Prog Op Ans α` is a program that asks its environment the operations `o : Op`,
  each answered by a value of `Ans o`, and ends with an `α` or panics.
* `Prog.run` executes a program against a handler that owns a state.
* `Prog.traverse` runs a fallible program on a list, up to the first error.
* `Prog.recover` answers for a program that panics, as a server does for its handlers.
* `Prog.interp` replaces every operation by a program over another signature, and
  `run_interp` says that this is the same as composing the handlers; `Prog.embed` is the case
  of one operation for another.
* `Prog.AllOps` bounds the operations that a program asks, whatever their answers.
* `Prog.Yields` is what holds of the values that a program returns, whatever it is answered.
* `Prog.Meets` is the judgement of a program that does not panic, as long as the answers are what
  it relies on, and `Meets.run` is what it says of runs.
* `Prog.logged` is the handler that answers from a fixed table and records the
  operations asked, so that a run's outcome and its trace are one value.
-/

namespace Interact

universe u v

/-- A program over the operations `Op`, answered in `Ans`. -/
inductive Prog (Op : Type u) (Ans : Op → Type v) (α : Type v) : Type (max u v)
  | ret (a : α)
  | panic
  | op (o : Op) (k : Ans o → Prog Op Ans α)

namespace Prog

variable {Op : Type u} {Ans : Op → Type v} {α β γ ε : Type v}

/-- Sequencing: a panic ends the program. -/
def bind : Prog Op Ans α → (α → Prog Op Ans β) → Prog Op Ans β
  | ret a, f => f a
  | panic, _ => panic
  | op o k, f => op o fun x => (k x).bind f

instance : Monad (Prog Op Ans) where
  pure := ret
  bind := bind

/-- Ask one operation. -/
def perform (o : Op) : Prog Op Ans (Ans o) := op o ret

/-- Read a nullable value, as a pointer dereference does: absent is a panic. -/
def deref : Option α → Prog Op Ans α
  | some a => ret a
  | none => panic

/-- Continue on success and hand an error back: `if err != nil { return err }`. -/
def andThen (p : Prog Op Ans (Except ε α)) (f : α → Prog Op Ans (Except ε β)) :
    Prog Op Ans (Except ε β) :=
  p.bind fun
    | .error e => ret (.error e)
    | .ok a => f a

/-- Run for one element after the other, up to the first error. -/
def traverse (f : α → Prog Op Ans (Except ε β)) : List α → Prog Op Ans (Except ε (List β))
  | [] => ret (.ok [])
  | a :: as => (f a).andThen fun b => (traverse f as).andThen fun bs => ret (.ok (b :: bs))

/-- Run in a server that survives a panic: the answer is then `a`. -/
def recover (a : α) : Prog Op Ans α → Prog Op Ans α
  | ret b => ret b
  | panic => ret a
  | op o k => op o fun x => (k x).recover a

@[simp] theorem pure_eq (a : α) : (pure a : Prog Op Ans α) = ret a := rfl

@[simp] theorem bind_eq (p : Prog Op Ans α) (f : α → Prog Op Ans β) : p >>= f = p.bind f := rfl

@[simp] theorem ret_bind (a : α) (f : α → Prog Op Ans β) : (ret a).bind f = f a := rfl

@[simp] theorem panic_bind (f : α → Prog Op Ans β) : (panic : Prog Op Ans α).bind f = panic := rfl

@[simp] theorem op_bind (o : Op) (k : Ans o → Prog Op Ans α) (f : α → Prog Op Ans β) :
    (op o k).bind f = op o fun x => (k x).bind f := rfl

@[simp] theorem perform_bind (o : Op) (f : Ans o → Prog Op Ans β) :
    (perform o).bind f = op o f := rfl

@[simp] theorem deref_some (a : α) : (deref (some a) : Prog Op Ans α) = ret a := rfl

@[simp] theorem deref_none : (deref none : Prog Op Ans α) = panic := rfl

/-- A sequence that asks nothing and comes through. -/
theorem bind_eq_ret {p : Prog Op Ans α} {f : α → Prog Op Ans β} {b : β} :
    p.bind f = ret b ↔ ∃ a, p = ret a ∧ f a = ret b := by
  cases p <;> simp

/-- A dereference that comes through. -/
theorem deref_bind_eq_ret {a : Option α} {f : α → Prog Op Ans β} {b : β} :
    (deref a).bind f = ret b ↔ ∃ x, a = some x ∧ f x = ret b := by
  cases a <;> simp

theorem andThen_eq_ok {p : Prog Op Ans (Except ε α)} {f : α → Prog Op Ans (Except ε β)} {b : β} :
    p.andThen f = ret (.ok b) ↔ ∃ a, p = ret (.ok a) ∧ f a = ret (.ok b) := by
  unfold andThen
  rw [bind_eq_ret]
  constructor
  · rintro ⟨res, hp, hf⟩
    cases res with
    | error e => simp at hf
    | ok a => exact ⟨a, hp, hf⟩
  · rintro ⟨a, hp, hf⟩
    exact ⟨.ok a, hp, hf⟩

/-- A traversal that asks nothing and comes through, element by element. -/
theorem traverse_eq_ok {f : α → Prog Op Ans (Except ε β)} {as : List α} {bs : List β} :
    traverse f as = ret (.ok bs) ↔ List.Forall₂ (fun a b => f a = ret (.ok b)) as bs := by
  induction as generalizing bs with
  | nil =>
    rw [List.forall₂_nil_left_iff]
    unfold traverse
    simp [eq_comm]
  | cons a as ih =>
    unfold traverse
    rw [andThen_eq_ok, List.forall₂_cons_left_iff]
    constructor
    · rintro ⟨b, hb, hrest⟩
      obtain ⟨bs', hbs, hret⟩ := andThen_eq_ok.mp hrest
      cases hret
      exact ⟨b, bs', hb, ih.mp hbs, rfl⟩
    · rintro ⟨b, bs', hb, hbs, rfl⟩
      exact ⟨b, hb, andThen_eq_ok.mpr ⟨bs', ih.mpr hbs, rfl⟩⟩

theorem bind_ret (p : Prog Op Ans α) : p.bind ret = p := by
  induction p with
  | ret a => rfl
  | panic => rfl
  | op o k ih => simp [ih]

theorem bind_assoc (p : Prog Op Ans α) (f : α → Prog Op Ans β) (g : β → Prog Op Ans γ) :
    (p.bind f).bind g = p.bind fun a => (f a).bind g := by
  induction p with
  | ret a => rfl
  | panic => rfl
  | op o k ih => simp [ih]

variable {σ : Type*}

/-- Execute against the handler `h` from the state `s`: `none` is a panic. -/
def run (h : (o : Op) → σ → Ans o × σ) : Prog Op Ans α → σ → Option α × σ
  | ret a, s => (some a, s)
  | panic, s => (none, s)
  | op o k, s => (k (h o s).1).run h (h o s).2

section Run

variable (h : (o : Op) → σ → Ans o × σ) (s : σ)

@[simp] theorem run_ret (a : α) : (ret a : Prog Op Ans α).run h s = (some a, s) := rfl

@[simp] theorem run_panic : (panic : Prog Op Ans α).run h s = (none, s) := rfl

@[simp] theorem run_op (o : Op) (k : Ans o → Prog Op Ans α) :
    (op o k).run h s = (k (h o s).1).run h (h o s).2 := rfl

@[simp] theorem run_perform (o : Op) :
    (perform o : Prog Op Ans (Ans o)).run h s = (some (h o s).1, (h o s).2) := rfl

/-- A run of `p` followed by `f`, in cases on how `p` ends. -/
theorem run_bind (p : Prog Op Ans α) (f : α → Prog Op Ans β) :
    (p.bind f).run h s =
      match p.run h s with
      | (some a, s') => (f a).run h s'
      | (none, s') => (none, s') := by
  induction p generalizing s with
  | ret a => rfl
  | panic => rfl
  | op o k ih => simp [ih]

theorem run_bind_some {p : Prog Op Ans α} {f : α → Prog Op Ans β} {a : α} {s s' : σ}
    (hp : p.run h s = (some a, s')) : (p.bind f).run h s = (f a).run h s' := by
  rw [run_bind, hp]

/-- An operation that is answered `a`, followed by `f`. -/
theorem run_answered {o : Op} {f : Ans o → Prog Op Ans α} {a : Ans o} {s s' : σ}
    (ho : h o s = (a, s')) : ((perform o).bind f).run h s = (f a).run h s' := by
  rw [perform_bind, run_op, ho]

theorem run_bind_none {p : Prog Op Ans α} {f : α → Prog Op Ans β} {s s' : σ}
    (hp : p.run h s = (none, s')) : (p.bind f).run h s = (none, s') := by
  rw [run_bind, hp]

theorem run_andThen_ok {p : Prog Op Ans (Except ε α)} {f : α → Prog Op Ans (Except ε β)} {a : α}
    {s s' : σ} (hp : p.run h s = (some (.ok a), s')) :
    (p.andThen f).run h s = (f a).run h s' := by
  rw [andThen, run_bind_some h hp]

theorem run_andThen_error {p : Prog Op Ans (Except ε α)} {f : α → Prog Op Ans (Except ε β)}
    {e : ε} {s s' : σ} (hp : p.run h s = (some (.error e), s')) :
    (p.andThen f).run h s = (some (.error e), s') := by
  rw [andThen, run_bind_some h hp, run_ret]

/-- Two runs that begin alike are related if what follows is. -/
theorem run_andThen_rel {h' : (o : Op) → σ → Ans o × σ} {p : Prog Op Ans (Except ε α)}
    {f f' : α → Prog Op Ans (Except ε β)}
    {R : Option (Except ε β) × σ → Option (Except ε β) × σ → Prop} (hrefl : ∀ out, R out out)
    (hp : p.run h s = p.run h' s) (hf : ∀ a s', R ((f a).run h s') ((f' a).run h' s')) :
    R ((p.andThen f).run h s) ((p.andThen f').run h' s) := by
  unfold andThen
  rw [run_bind, run_bind, ← hp]
  obtain ⟨_ | res, s'⟩ := p.run h s
  · exact hrefl _
  · cases res with
    | error e => exact hrefl _
    | ok a => exact hf a s'

/-- A recovered run never panics, and ends in the same state. -/
theorem run_recover (a : α) (p : Prog Op Ans α) :
    (p.recover a).run h s = (some ((p.run h s).1.getD a), (p.run h s).2) := by
  induction p generalizing s with
  | ret b => rfl
  | panic => rfl
  | op o k ih => simp [recover, ih]

end Run

variable {Op' : Type u} {Ans' : Op' → Type v}

/-- Answer every operation of `Op` by a program over `Op'`. -/
def interp (f : (o : Op) → Prog Op' Ans' (Ans o)) : Prog Op Ans α → Prog Op' Ans' α
  | ret a => ret a
  | panic => panic
  | op o k => (f o).bind fun x => (k x).interp f

section Interp

variable (f : (o : Op) → Prog Op' Ans' (Ans o))

@[simp] theorem interp_ret (a : α) : (ret a : Prog Op Ans α).interp f = ret a := rfl

@[simp] theorem interp_panic : (panic : Prog Op Ans α).interp f = panic := rfl

@[simp] theorem interp_op (o : Op) (k : Ans o → Prog Op Ans α) :
    (op o k).interp f = (f o).bind fun x => (k x).interp f := rfl

theorem interp_perform (o : Op) : (perform o : Prog Op Ans (Ans o)).interp f = f o :=
  bind_ret (f o)

theorem interp_bind (p : Prog Op Ans α) (g : α → Prog Op Ans β) :
    (p.bind g).interp f = (p.interp f).bind fun a => (g a).interp f := by
  induction p with
  | ret a => rfl
  | panic => rfl
  | op o k ih => simp [ih, bind_assoc]

/-- Interpreting by programs that always answer is the same as composing the handlers. -/
theorem run_interp {h : (o : Op') → σ → Ans' o × σ} {h' : (o : Op) → σ → Ans o × σ}
    (hf : ∀ o s, (f o).run h s = (some (h' o s).1, (h' o s).2)) (p : Prog Op Ans α) (s : σ) :
    (p.interp f).run h s = p.run h' s := by
  induction p generalizing s with
  | ret a => rfl
  | panic => rfl
  | op o k ih => rw [interp_op, run_bind_some h (hf o s), ih, run_op]

end Interp

/-- Rename the operations into a larger signature. -/
def embed (e : Op → Op') : Prog Op (fun o => Ans' (e o)) α → Prog Op' Ans' α
  | ret a => ret a
  | panic => panic
  | op o k => op (e o) fun x => (k x).embed e

section Embed

variable (Ans') (e : Op → Op')

@[simp] theorem embed_ret (a : α) :
    (ret a : Prog Op (fun o => Ans' (e o)) α).embed e = ret a := rfl

@[simp] theorem embed_panic :
    (panic : Prog Op (fun o => Ans' (e o)) α).embed e = panic := rfl

@[simp] theorem embed_op (o : Op) (k : Ans' (e o) → Prog Op (fun o => Ans' (e o)) α) :
    (op o k).embed e = op (e o) fun x => (k x).embed e := rfl

theorem embed_bind (p : Prog Op (fun o => Ans' (e o)) α)
    (f : α → Prog Op (fun o => Ans' (e o)) β) :
    (p.bind f).embed e = (p.embed e).bind fun a => (f a).embed e := by
  induction p with
  | ret a => rfl
  | panic => rfl
  | op o k ih => simp [ih]

end Embed

/-- Every operation that the program can ask is in `C`. -/
def AllOps (C : Op → Prop) : Prog Op Ans α → Prop
  | ret _ => True
  | panic => True
  | op o k => C o ∧ ∀ x, (k x).AllOps C

section AllOps

variable {C : Op → Prop}

@[simp] theorem allOps_ret (a : α) : (ret a : Prog Op Ans α).AllOps C := trivial

@[simp] theorem allOps_panic : (panic : Prog Op Ans α).AllOps C := trivial

@[simp] theorem allOps_op (o : Op) (k : Ans o → Prog Op Ans α) :
    (op o k).AllOps C ↔ C o ∧ ∀ x, (k x).AllOps C := Iff.rfl

@[simp] theorem allOps_deref (a : Option α) : (deref a : Prog Op Ans α).AllOps C := by
  cases a <;> trivial

theorem allOps_true (p : Prog Op Ans α) : p.AllOps fun _ => True := by
  induction p with
  | ret a => trivial
  | panic => trivial
  | op o k ih => exact ⟨trivial, ih⟩

theorem AllOps.mono {D : Op → Prop} {p : Prog Op Ans α} (hp : p.AllOps C) (h : ∀ o, C o → D o) :
    p.AllOps D := by
  induction p with
  | ret a => trivial
  | panic => trivial
  | op o k ih => exact ⟨h o hp.1, fun x => ih x (hp.2 x)⟩

theorem AllOps.bind {p : Prog Op Ans α} {f : α → Prog Op Ans β} (hp : p.AllOps C)
    (hf : ∀ a, (f a).AllOps C) : (p.bind f).AllOps C := by
  induction p with
  | ret a => exact hf a
  | panic => trivial
  | op o k ih => exact ⟨hp.1, fun x => ih x (hp.2 x)⟩

theorem AllOps.andThen {p : Prog Op Ans (Except ε α)} {f : α → Prog Op Ans (Except ε β)}
    (hp : p.AllOps C) (hf : ∀ a, (f a).AllOps C) : (p.andThen f).AllOps C := by
  refine hp.bind fun res => ?_
  cases res with
  | error e => trivial
  | ok a => exact hf a

theorem AllOps.traverse {f : α → Prog Op Ans (Except ε β)} (hf : ∀ a, (f a).AllOps C)
    (as : List α) : (Prog.traverse f as).AllOps C := by
  induction as with
  | nil => trivial
  | cons a as ih => exact (hf a).andThen fun b => ih.andThen fun bs => trivial

theorem AllOps.recover {p : Prog Op Ans α} (hp : p.AllOps C) (a : α) :
    (p.recover a).AllOps C := by
  induction p with
  | ret b => trivial
  | panic => trivial
  | op o k ih => exact ⟨hp.1, fun x => ih x (hp.2 x)⟩

/-- A program that asks nothing has its outcome. -/
theorem AllOps.outcome {p : Prog Op Ans α} (hp : p.AllOps fun _ => False) :
    (∃ a, p = ret a) ∨ p = panic := by
  cases p with
  | ret a => exact Or.inl ⟨a, rfl⟩
  | panic => exact Or.inr rfl
  | op o k => exact hp.1.elim

/-- What the handler keeps at the operations of a program holds after its run. -/
theorem AllOps.run_inv {h : (o : Op) → σ → Ans o × σ} {I : σ → Prop}
    (hI : ∀ o s, C o → I s → I (h o s).2) {p : Prog Op Ans α} (hp : p.AllOps C) {s : σ} (hs : I s) :
    I (p.run h s).2 := by
  induction p generalizing s with
  | ret a => exact hs
  | panic => exact hs
  | op o k ih => exact ih _ (hp.2 _) (hI o s hp.1 hs)

variable (Ans') in
theorem AllOps.embed {e : Op → Op'} {D : Op' → Prop} {p : Prog Op (fun o => Ans' (e o)) α}
    (hp : p.AllOps C) (h : ∀ o, C o → D (e o)) : (p.embed e).AllOps D := by
  induction p with
  | ret a => trivial
  | panic => trivial
  | op o k ih => exact ⟨h o hp.1, fun x => ih x (hp.2 x)⟩

theorem AllOps.interp {f : (o : Op) → Prog Op' Ans' (Ans o)} {D : Op' → Prop} {p : Prog Op Ans α}
    (hp : p.AllOps C) (hf : ∀ o, C o → (f o).AllOps D) : (p.interp f).AllOps D := by
  induction p with
  | ret a => trivial
  | panic => trivial
  | op o k ih => exact (hf o hp.1).bind fun x => ih x (hp.2 x)

end AllOps

/-- Every value that the program can return is in `Q`, whatever its operations answer. -/
def Yields (Q : α → Prop) : Prog Op Ans α → Prop
  | ret a => Q a
  | panic => True
  | op _ k => ∀ x, (k x).Yields Q

section Yields

variable {Q : α → Prop} {R : β → Prop}

theorem Yields.bind {p : Prog Op Ans α} {f : α → Prog Op Ans β} (hp : p.Yields Q)
    (hf : ∀ a, Q a → (f a).Yields R) : (p.bind f).Yields R := by
  induction p with
  | ret a => exact hf a hp
  | panic => trivial
  | op o k ih => exact fun x => ih x (hp x)

theorem Yields.mono {Q' : α → Prop} {p : Prog Op Ans α} (hp : p.Yields Q)
    (h : ∀ a, Q a → Q' a) : p.Yields Q' := by
  induction p with
  | ret a => exact h a hp
  | panic => trivial
  | op o k ih => exact fun x => ih x (hp x)

theorem yields_true (p : Prog Op Ans α) : p.Yields fun _ => True := by
  induction p with
  | ret a => trivial
  | panic => trivial
  | op o k ih => exact ih

theorem Yields.and {Q' : α → Prop} {p : Prog Op Ans α} (hp : p.Yields Q) (hp' : p.Yields Q') :
    p.Yields fun a => Q a ∧ Q' a := by
  induction p with
  | ret a => exact ⟨hp, hp'⟩
  | panic => trivial
  | op o k ih => exact fun x => ih x (hp x) (hp' x)

/-- After a program of which nothing is known. -/
theorem yields_bind {p : Prog Op Ans α} {f : α → Prog Op Ans β} (hf : ∀ a, (f a).Yields R) :
    (p.bind f).Yields R :=
  (yields_true p).bind fun a _ => hf a

theorem yields_deref {a : Option α} {f : α → Prog Op Ans β}
    (hf : ∀ x, a = some x → (f x).Yields R) : ((deref a).bind f).Yields R := by
  cases a with
  | none => trivial
  | some x => exact hf x rfl

/-- What answers the operations does not matter. -/
theorem Yields.interp {f : (o : Op) → Prog Op' Ans' (Ans o)} {p : Prog Op Ans α}
    (hp : p.Yields Q) : (p.interp f).Yields Q := by
  induction p with
  | ret a => exact hp
  | panic => trivial
  | op o k ih => exact yields_bind fun x => ih x (hp x)

variable (Ans') in
theorem Yields.embed {e : Op → Op'} {p : Prog Op (fun o => Ans' (e o)) α} (hp : p.Yields Q) :
    (p.embed e).Yields Q := by
  induction p with
  | ret a => exact hp
  | panic => trivial
  | op o k ih => exact fun x => ih x (hp x)

end Yields

/-- As long as every answer satisfies `A`, the program does not panic, asks only operations of `C`
and ends with a value of `Q`. -/
def Meets (C : Op → Prop) (A : (o : Op) → Ans o → Prop) (Q : α → Prop) : Prog Op Ans α → Prop
  | ret a => Q a
  | panic => False
  | op o k => C o ∧ ∀ x, A o x → (k x).Meets C A Q

/-- What holds of the value of a success. -/
def IfOk (P : α → Prop) : Except ε α → Prop
  | .ok a => P a
  | .error _ => True

theorem ifOk_true (res : Except ε α) : IfOk (fun _ => True) res := by
  cases res <;> trivial

section Meets

variable {C : Op → Prop} {A : (o : Op) → Ans o → Prop} {P : α → Prop} {Q : α → Prop} {R : β → Prop}

theorem Meets.mono {Q' : α → Prop} {p : Prog Op Ans α} (hp : p.Meets C A Q)
    (h : ∀ a, Q a → Q' a) : p.Meets C A Q' := by
  induction p with
  | ret a => exact h a hp
  | panic => exact hp.elim
  | op o k ih => exact ⟨hp.1, fun x hx => ih x (hp.2 x hx)⟩

theorem Meets.bind {p : Prog Op Ans α} {f : α → Prog Op Ans β} (hp : p.Meets C A Q)
    (hf : ∀ a, Q a → (f a).Meets C A R) : (p.bind f).Meets C A R := by
  induction p with
  | ret a => exact hf a hp
  | panic => exact hp.elim
  | op o k ih => exact ⟨hp.1, fun x hx => ih x (hp.2 x hx)⟩

/-- Whatever the program returns, it returns as it should. -/
theorem Meets.yields {P : α → Prop} {p : Prog Op Ans α} (hp : p.Meets C A Q) (hy : p.Yields P) :
    p.Meets C A fun a => Q a ∧ P a := by
  induction p with
  | ret a => exact ⟨hp, hy⟩
  | panic => exact hp.elim
  | op o k ih => exact ⟨hp.1, fun x hx => ih x (hp.2 x hx) (hy x)⟩

/-- A dereference of what is there. -/
theorem Meets.deref {a : Option α} {f : α → Prog Op Ans β} (ha : a.isSome)
    (hf : ∀ x, a = some x → (f x).Meets C A R) : ((Prog.deref a).bind f).Meets C A R := by
  obtain ⟨x, rfl⟩ := Option.isSome_iff_exists.mp ha
  exact hf x rfl

theorem Meets.andThen {p : Prog Op Ans (Except ε α)} {f : α → Prog Op Ans (Except ε β)}
    (hp : p.Meets C A (IfOk P)) (hf : ∀ a, P a → (f a).Meets C A (IfOk R)) :
    (p.andThen f).Meets C A (IfOk R) := by
  refine hp.bind fun res hres => ?_
  cases res with
  | error e => trivial
  | ok a => exact hf a hres

theorem Meets.traverse {f : α → Prog Op Ans (Except ε β)} {as : List α}
    (hf : ∀ a ∈ as, (f a).Meets C A (IfOk R)) :
    (Prog.traverse f as).Meets C A (IfOk fun bs => ∀ b ∈ bs, R b) := by
  induction as with
  | nil => exact fun b hb => by cases hb
  | cons a as ih =>
    have htail := ih fun a' ha' => hf a' (List.mem_cons_of_mem a ha')
    refine (hf a List.mem_cons_self).andThen fun b hb => htail.andThen fun bs hbs => ?_
    exact List.forall_mem_cons.mpr ⟨hb, hbs⟩

/-- A run on a handler that answers as the program relies on, in states that it keeps. -/
theorem Meets.run {h : (o : Op) → σ → Ans o × σ} {I : σ → Prop}
    (hI : ∀ o s, C o → I s → A o (h o s).1 ∧ I (h o s).2) {p : Prog Op Ans α}
    (hp : p.Meets C A Q) {s : σ} (hs : I s) :
    (∃ a, (p.run h s).1 = some a ∧ Q a) ∧ I (p.run h s).2 := by
  induction p generalizing s with
  | ret a => exact ⟨⟨a, rfl, hp⟩, hs⟩
  | panic => exact hp.elim
  | op o k ih =>
    obtain ⟨hans, hnext⟩ := hI o s hp.1 hs
    exact ih _ (hp.2 _ hans) hnext

/-- A program behind a server. -/
theorem meets_recover (p : Prog Op Ans α) (a : α) :
    (p.recover a).Meets (fun _ => True) A fun _ => True := by
  induction p with
  | ret b => trivial
  | panic => trivial
  | op o k ih => exact ⟨trivial, fun x _ => ih x⟩

theorem Meets.embed {e : Op → Op'} {D : Op' → Prop} {A' : (o : Op') → Ans' o → Prop}
    {p : Prog Op (fun o => Ans' (e o)) α} (hp : p.Meets C (fun o x => A' (e o) x) Q)
    (h : ∀ o, C o → D (e o)) : (p.embed e).Meets D A' Q := by
  induction p with
  | ret a => exact hp
  | panic => exact hp.elim
  | op o k ih => exact ⟨h o hp.1, fun x hx => ih x (hp.2 x hx)⟩

theorem Meets.interp {f : (o : Op) → Prog Op' Ans' (Ans o)} {D : Op' → Prop}
    {A' : (o : Op') → Ans' o → Prop} {p : Prog Op Ans α} (hp : p.Meets C (fun _ _ => True) Q)
    (hf : ∀ o, C o → (f o).Meets D A' fun _ => True) : (p.interp f).Meets D A' Q := by
  induction p with
  | ret a => exact hp
  | panic => exact hp.elim
  | op o k ih => exact (hf o hp.1).bind fun x _ => ih x (hp.2 x trivial)

theorem Meets.allOps {p : Prog Op Ans α} (hp : p.Meets C (fun _ _ => True) Q) : p.AllOps C := by
  induction p with
  | ret a => trivial
  | panic => trivial
  | op o k ih => exact ⟨hp.1, fun x => ih x (hp.2 x trivial)⟩

end Meets

/-- As long as every answer satisfies `A`, the program asks only operations of `C` and, unless it
panics, ends with a value of `Q`. -/
def Respects (C : Op → Prop) (A : (o : Op) → Ans o → Prop) (Q : α → Prop) : Prog Op Ans α → Prop
  | ret a => Q a
  | panic => True
  | op o k => C o ∧ ∀ x, A o x → (k x).Respects C A Q

section Respects

variable {C : Op → Prop} {A : (o : Op) → Ans o → Prop} {P : α → Prop} {Q : α → Prop} {R : β → Prop}

theorem Respects.mono {Q' : α → Prop} {p : Prog Op Ans α} (hp : p.Respects C A Q)
    (h : ∀ a, Q a → Q' a) : p.Respects C A Q' := by
  induction p with
  | ret a => exact h a hp
  | panic => trivial
  | op o k ih => exact ⟨hp.1, fun x hx => ih x (hp.2 x hx)⟩

/-- A program may rely on more, and ask less of its operations. -/
theorem Respects.weaken {C' : Op → Prop} {A' : (o : Op) → Ans o → Prop} {p : Prog Op Ans α}
    (hp : p.Respects C A Q) (hC : ∀ o, C o → C' o) (hA : ∀ o x, A' o x → A o x) :
    p.Respects C' A' Q := by
  induction p with
  | ret a => exact hp
  | panic => trivial
  | op o k ih => exact ⟨hC o hp.1, fun x hx => ih x (hp.2 x (hA o x hx))⟩

/-- Whatever the answers are. -/
theorem AllOps.respects {p : Prog Op Ans α} (hp : p.AllOps C) : p.Respects C A fun _ => True := by
  induction p with
  | ret a => trivial
  | panic => trivial
  | op o k ih => exact ⟨hp.1, fun x _ => ih x (hp.2 x)⟩

theorem Respects.bind {p : Prog Op Ans α} {f : α → Prog Op Ans β} (hp : p.Respects C A Q)
    (hf : ∀ a, Q a → (f a).Respects C A R) : (p.bind f).Respects C A R := by
  induction p with
  | ret a => exact hf a hp
  | panic => trivial
  | op o k ih => exact ⟨hp.1, fun x hx => ih x (hp.2 x hx)⟩

theorem respects_deref {a : Option α} {f : α → Prog Op Ans β}
    (hf : ∀ x, a = some x → (f x).Respects C A R) :
    ((Prog.deref a).bind f).Respects C A R := by
  cases a with
  | none => trivial
  | some x => exact hf x rfl

theorem Respects.andThen {p : Prog Op Ans (Except ε α)} {f : α → Prog Op Ans (Except ε β)}
    (hp : p.Respects C A (IfOk P)) (hf : ∀ a, P a → (f a).Respects C A (IfOk R)) :
    (p.andThen f).Respects C A (IfOk R) := by
  refine hp.bind fun res hres => ?_
  cases res with
  | error e => trivial
  | ok a => exact hf a hres

theorem Respects.recover {p : Prog Op Ans α} {b : α} (hp : p.Respects C A Q) (hb : Q b) :
    (p.recover b).Respects C A Q := by
  induction p with
  | ret a => exact hp
  | panic => exact hb
  | op o k ih => exact ⟨hp.1, fun x hx => ih x (hp.2 x hx)⟩

theorem Respects.embed {e : Op → Op'} {D : Op' → Prop} {A' : (o : Op') → Ans' o → Prop}
    {p : Prog Op (fun o => Ans' (e o)) α} (hp : p.Respects C (fun o x => A' (e o) x) Q)
    (h : ∀ o, C o → D (e o)) : (p.embed e).Respects D A' Q := by
  induction p with
  | ret a => exact hp
  | panic => trivial
  | op o k ih => exact ⟨h o hp.1, fun x hx => ih x (hp.2 x hx)⟩

theorem Respects.interp {f : (o : Op) → Prog Op' Ans' (Ans o)} {D : Op' → Prop}
    {A' : (o : Op') → Ans' o → Prop} (hf : ∀ o, (f o).Respects D A' fun _ => True)
    (p : Prog Op Ans α) : (p.interp f).Respects D A' fun _ => True := by
  induction p with
  | ret a => trivial
  | panic => trivial
  | op o k ih => exact (hf o).bind fun x _ => ih x

end Respects

/-- No path of the program asks an operation twice. -/
def AsksOnce : Prog Op Ans α → Prop
  | ret _ => True
  | panic => True
  | op o k => ∀ x, (k x).AllOps (· ≠ o) ∧ (k x).AsksOnce

/-- Two programs that have no operation in common. -/
theorem AsksOnce.bind {C : Op → Prop} {p : Prog Op Ans α} {f : α → Prog Op Ans β}
    (hp : p.AsksOnce) (hC : p.AllOps C) (hf : ∀ a, (f a).AsksOnce)
    (hd : ∀ a, (f a).AllOps fun o => ¬ C o) : (p.bind f).AsksOnce := by
  induction p with
  | ret a => exact hf a
  | panic => trivial
  | op o k ih =>
    refine fun x =>
      ⟨(hp x).1.bind fun a => (hd a).mono fun o' hno heq => ?_, ih x (hp x).2 (hC.2 x)⟩
    subst heq
    exact hno hC.1

/-- Answer each operation from the table `out` and append it to the trace. -/
def logged (out : (o : Op) → Ans o) (o : Op) (trace : List Op) : Ans o × List Op :=
  (out o, trace ++ [o])

@[simp] theorem logged_fst (out : (o : Op) → Ans o) (o : Op) (trace : List Op) :
    (logged out o trace).1 = out o := rfl

@[simp] theorem logged_snd (out : (o : Op) → Ans o) (o : Op) (trace : List Op) :
    (logged out o trace).2 = trace ++ [o] := rfl

/-- The trace only grows. -/
theorem run_logged_grows (out : (o : Op) → Ans o) (p : Prog Op Ans α) (trace : List Op) :
    trace <+: (p.run (logged out) trace).2 := by
  induction p generalizing trace with
  | ret a => exact List.prefix_rfl
  | panic => exact List.prefix_rfl
  | op o k ih => exact (List.prefix_append trace [o]).trans (ih _ _)

/-- The outcome depends on the answers to the operations that are asked. -/
theorem run_logged_congr {out out' : (o : Op) → Ans o} {p : Prog Op Ans α}
    (h : p.AllOps fun o => out o = out' o) (trace : List Op) :
    p.run (logged out) trace = p.run (logged out') trace := by
  induction p generalizing trace with
  | ret a => rfl
  | panic => rfl
  | op o k ih =>
    have ho : out o = out' o := h.1
    simp only [run_op, logged_fst, logged_snd, ho]
    exact ih _ (h.2 _) _

/-- **A run is a run on a table**, when no operation is asked twice: on the answers that the
handler gives in states that satisfy what it keeps. -/
theorem exists_table [DecidableEq Op] {h : (o : Op) → σ → Ans o × σ} {I : σ → Prop}
    (hI : ∀ o s, I s → I (h o s).2) {p : Prog Op Ans α} (hp : p.AsksOnce) {s : σ} (hs : I s)
    (trace : List Op) :
    ∃ out : (o : Op) → Ans o, (p.run (logged out) trace).1 = (p.run h s).1 ∧
      ∀ o, ∃ s', I s' ∧ out o = (h o s').1 := by
  induction p generalizing s trace with
  | ret a => exact ⟨fun o => (h o s).1, rfl, fun o => ⟨s, hs, rfl⟩⟩
  | panic => exact ⟨fun o => (h o s).1, rfl, fun o => ⟨s, hs, rfl⟩⟩
  | op o k ih =>
    obtain ⟨out, hrun, hout⟩ := ih (h o s).1 (hp _).2 (hI o s hs) (trace ++ [o])
    -- the rest does not ask `o`, so its entry is free for the answer given here
    let out' := Function.update out o (h o s).1
    have hself : out' o = (h o s).1 := Function.update_self ..
    have hrest : ∀ o', o' ≠ o → out' o' = out o' := fun o' hne => Function.update_of_ne hne ..
    refine ⟨out', ?_, fun o' => ?_⟩
    · simp only [run_op, logged_fst, logged_snd, hself]
      rw [run_logged_congr ((hp (h o s).1).1.mono hrest), hrun]
    · by_cases ho : o' = o
      · subst ho
        exact ⟨s, hs, hself⟩
      · rw [hrest o' ho]
        exact hout o'

/-- An operation that is asked is in the trace. -/
theorem mem_run_logged_op (out : (o : Op) → Ans o) (o : Op) (k : Ans o → Prog Op Ans α)
    (trace : List Op) : o ∈ ((op o k).run (logged out) trace).2 :=
  (run_logged_grows out (k (out o)) (trace ++ [o])).subset
    (List.mem_append_right trace (List.mem_singleton_self o))

end Prog

end Interact
