import TrinoGateway.Lib.Record

/-!
# Programs that clean up

* `Prog.deferring fin p` is `p` with `fin` deferred, as `defer` does it: `fin` is run once `p` has
  returned, and also when `p` panics, which then goes on.
* `Prog.Leaves` is the judgement of a program on a state that its operations change: **what it
  leaves when it returns, and what it leaves when it panics**. `Leaves.deferring` is the rule for a
  deferred program, and `Leaves.run` says what a run leaves.
* `Records.deferring` is the rule for records.
-/

namespace Interact

namespace Prog

universe u v

variable {Op : Type u} {Ans : Op → Type v} {α β γ ε : Type v}

/-- A program with another one deferred: that one is run after a value, and after a panic. -/
def deferring (fin : Prog Op Ans γ) : Prog Op Ans α → Prog Op Ans α
  | ret a => fin.bind fun _ => ret a
  | panic => fin.bind fun _ => panic
  | op o k => op o fun x => deferring fin (k x)

theorem AllOps.deferring {C : Op → Prop} {fin : Prog Op Ans γ} {p : Prog Op Ans α}
    (hfin : fin.AllOps C) (hp : p.AllOps C) : (deferring fin p).AllOps C := by
  induction p with
  | ret a => exact hfin.bind fun _ => trivial
  | panic => exact hfin.bind fun _ => trivial
  | op o k ih => exact ⟨hp.1, fun x => ih x (hp.2 x)⟩

theorem Yields.deferring {Q : α → Prop} {fin : Prog Op Ans γ} {p : Prog Op Ans α}
    (hp : p.Yields Q) : (deferring fin p).Yields Q := by
  induction p with
  | ret a => exact (yields_true fin).bind fun _ _ => hp
  | panic => exact (yields_true fin).bind fun _ _ => trivial
  | op o k ih => exact fun x => ih x (hp x)

/-- From a state, whatever is answered: a value is in `Q` with the state that is left, and a panic
leaves a state of `P`. -/
def Leaves {σ : Type*} (sem : (o : Op) → σ → Ans o → σ → Prop) (Q : α → σ → Prop) (P : σ → Prop) :
    Prog Op Ans α → σ → Prop
  | ret a, s => Q a s
  | panic, s => P s
  | op o k, s => ∀ x s', sem o s x s' → (k x).Leaves sem Q P s'

section Leaves

variable {σ τ : Type*} {sem : (o : Op) → σ → Ans o → σ → Prop} {Q Q' : α → σ → Prop} {P : σ → Prop}
  {R : β → σ → Prop} {s : σ}

theorem Leaves.mono {P' : σ → Prop} {p : Prog Op Ans α} (hp : p.Leaves sem Q P s)
    (hQ : ∀ a s, Q a s → Q' a s) (hP : ∀ s, P s → P' s) : p.Leaves sem Q' P' s := by
  induction p generalizing s with
  | ret a => exact hQ a s hp
  | panic => exact hP s hp
  | op o k ih => exact fun x s' hs => ih x (hp x s' hs)

theorem Leaves.bind {p : Prog Op Ans α} {f : α → Prog Op Ans β} (hp : p.Leaves sem Q P s)
    (hf : ∀ a s, Q a s → (f a).Leaves sem R P s) : (p.bind f).Leaves sem R P s := by
  induction p generalizing s with
  | ret a => exact hf a s hp
  | panic => exact hp
  | op o k ih => exact fun x s' hs => ih x (hp x s' hs)

theorem Leaves.andThen {p : Prog Op Ans (Except ε α)} {f : α → Prog Op Ans (Except ε β)}
    {Q : Except ε α → σ → Prop} {R : Except ε β → σ → Prop} (hp : p.Leaves sem Q P s)
    (herr : ∀ e s, Q (.error e) s → R (.error e) s)
    (hok : ∀ a s, Q (.ok a) s → (f a).Leaves sem R P s) : (p.andThen f).Leaves sem R P s := by
  refine hp.bind fun res s hq => ?_
  cases res with
  | error e => exact herr e s hq
  | ok a => exact hok a s hq

/-- **A deferred program** goes on from what either end leaves. -/
theorem Leaves.deferring {P' : σ → Prop} {fin : Prog Op Ans γ} {p : Prog Op Ans α}
    (hp : p.Leaves sem Q P s) (hret : ∀ a s, Q a s → fin.Leaves sem (fun _ => Q' a) P' s)
    (hpanic : ∀ s, P s → fin.Leaves sem (fun _ => P') P' s) :
    (deferring fin p).Leaves sem Q' P' s := by
  induction p generalizing s with
  | ret a => exact (hret a s hp).bind fun _ _ h => h
  | panic => exact (hpanic s hp).bind fun _ _ h => h
  | op o k ih => exact fun x s' hs => ih x (hp x s' hs)

/-- What a run leaves, whose handler owns a state that it shows. -/
theorem Leaves.run {h : (o : Op) → τ → Ans o × τ} {view : τ → σ}
    (hh : ∀ o t, sem o (view t) (h o t).1 (view (h o t).2)) {p : Prog Op Ans α} {t : τ}
    (hp : p.Leaves sem Q P (view t)) :
    (∀ a, (p.run h t).1 = some a → Q a (view (p.run h t).2)) ∧
      ((p.run h t).1 = none → P (view (p.run h t).2)) := by
  induction p generalizing t with
  | ret a =>
    refine ⟨fun b hb => ?_, fun hn => ?_⟩
    · obtain rfl := Option.some.inj hb
      exact hp
    · cases hn
  | panic =>
    refine ⟨fun b hb => ?_, fun _ => hp⟩
    cases hb
  | op o k ih => exact ih _ (hp _ _ (hh o t))

end Leaves

/-- A deferred program owes nothing but its own, and tells what it leaves of the record. -/
theorem Records.deferring {σ : Type*} {A : Event Op Ans σ → Prop}
    {C : Record Op Ans σ → Event Op Ans σ → Prop} {Q R : α → Record Op Ans σ → Prop}
    {fin : Prog Op Ans γ} {p : Prog Op Ans α} {es : Record Op Ans σ} (hp : p.Records A C Q es)
    (hret : ∀ a new, Q a (es ++ new) → fin.Records A C (fun _ => R a) (es ++ new))
    (hpanic : ∀ new, fin.Records A C (fun _ _ => True) (es ++ new)) :
    (deferring fin p).Records A C R es := by
  induction p generalizing es with
  | ret a =>
    have hfin := hret a []
    rw [List.append_nil] at hfin
    exact (hfin hp).bind fun _ _ h => h
  | panic =>
    have hfin := hpanic []
    rw [List.append_nil] at hfin
    exact hfin.bind fun _ _ _ => trivial
  | op o k ih =>
    intro s x s' hA
    obtain ⟨hC, hk⟩ := hp s x s' hA
    refine ⟨hC, ih x hk (fun a new hq => ?_) fun new => ?_⟩
    · rw [List.append_assoc] at hq ⊢
      exact hret a _ hq
    · rw [List.append_assoc]
      exact hpanic _

end Prog

end Interact
