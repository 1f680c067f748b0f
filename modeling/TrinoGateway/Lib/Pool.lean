import TrinoGateway.Lib.Prog
import Mathlib.Logic.Relation
import Mathlib.Logic.Function.Basic

/-!
# Pools of interleaved programs

* `Pool` is a family of programs over one shared state, and `System` says what each
  operation may do to it (`sem`) and what the environment may do (`env`). `System.Step`
  lets any program perform its next operation, or the environment move.
* `Protocol` adds what a proof about a system fixes: an invariant of the state, and for
  each program what it relies on (`rely`) and what its operations guarantee (`guar`).
* `Sat` is the rely–guarantee judgement of one program, with the rules `Sat.ret`,
  `Sat.op`, `Sat.bind`, `Sat.mono`, `Sat.frame` for what the program and the others keep,
  `Sat.of_allOps` for a program whose operations all do no harm, and `Sat.recover`, `Sat.embed`
  and `Sat.interp` for what `Prog` makes of programs.
* `reachable_sat` is the soundness theorem: **programs that satisfy their judgement one
  at a time keep the invariant together**, and `step_guar` gives each reachable
  operation's guarantee.
-/

namespace Interact

universe u v w

/-- Programs `procs i` over one shared state. -/
structure Pool (ι : Type w) (Op : Type u) (Ans : Op → Type v) (α : Type v) (σ : Type*) where
  procs : ι → Prog Op Ans α
  state : σ

/-- What the operations of each program, and the environment, may do to the state. -/
structure System (ι : Type w) (Op : Type u) (Ans : Op → Type v) (σ : Type*) where
  sem : ι → (o : Op) → σ → Ans o → σ → Prop
  env : σ → σ → Prop

namespace System

variable {ι : Type w} {Op : Type u} {Ans : Op → Type v} {σ : Type*} {α : Type v}

variable [DecidableEq ι] (S : System ι Op Ans σ)

/-- One step of a pool. -/
inductive Step : Pool ι Op Ans α σ → Pool ι Op Ans α σ → Prop
  | op {P : Pool ι Op Ans α σ} (i : ι) {o : Op} {k : Ans o → Prog Op Ans α} {a : Ans o} {s' : σ}
      (hp : P.procs i = .op o k) (hs : S.sem i o P.state a s') :
      Step P ⟨Function.update P.procs i (k a), s'⟩
  | env {P : Pool ι Op Ans α σ} {s' : σ} (he : S.env P.state s') : Step P ⟨P.procs, s'⟩

/-- The pools that interleavings of steps reach. -/
def Reachable (P Q : Pool ι Op Ans α σ) : Prop := Relation.ReflTransGen (Step S) P Q

/-- Let program `i` perform its next operation, answered by the handler `h`, if it is allowed. -/
def performIf (ok : ι → (o : Op) → σ → Bool) (h : ι → (o : Op) → σ → Ans o × σ)
    (P : Pool ι Op Ans α σ) (i : ι) : Pool ι Op Ans α σ :=
  match P.procs i with
  | .op o k =>
    if ok i o P.state then ⟨Function.update P.procs i (k (h i o P.state).1), (h i o P.state).2⟩
    else P
  | _ => P

/-- A schedule under a handler that the system allows where `ok` does reaches its pool. -/
theorem foldl_performIf_reachable {ok : ι → (o : Op) → σ → Bool}
    {h : ι → (o : Op) → σ → Ans o × σ}
    (hh : ∀ i o s, ok i o s = true → S.sem i o s (h i o s).1 (h i o s).2) (sched : List ι)
    (P : Pool ι Op Ans α σ) : S.Reachable P (sched.foldl (performIf ok h) P) := by
  induction sched generalizing P with
  | nil => exact Relation.ReflTransGen.refl
  | cons i sched ih =>
    refine Relation.ReflTransGen.trans ?_ (ih (performIf ok h P i))
    unfold performIf
    split
    · rename_i o k hp
      split
      · exact Relation.ReflTransGen.single (Step.op i hp (hh i o P.state ‹_›))
      · exact Relation.ReflTransGen.refl
    · exact Relation.ReflTransGen.refl

/-- Let program `i` perform its next operation, answered by the handler `h`. -/
def perform (h : ι → (o : Op) → σ → Ans o × σ) (P : Pool ι Op Ans α σ) (i : ι) :
    Pool ι Op Ans α σ :=
  match P.procs i with
  | .op o k => ⟨Function.update P.procs i (k (h i o P.state).1), (h i o P.state).2⟩
  | _ => P

/-- A schedule under a handler that the system allows reaches its pool. -/
theorem foldl_perform_reachable {h : ι → (o : Op) → σ → Ans o × σ}
    (hh : ∀ i o s, S.sem i o s (h i o s).1 (h i o s).2) (sched : List ι)
    (P : Pool ι Op Ans α σ) : S.Reachable P (sched.foldl (perform h) P) := by
  have hperform : (perform h : Pool ι Op Ans α σ → ι → _) = performIf (fun _ _ _ => true) h := by
    funext P i
    unfold perform performIf
    cases P.procs i <;> rfl
  rw [hperform]
  exact S.foldl_performIf_reachable (fun i o s _ => hh i o s) sched P

end System

/-- What a proof about a system fixes. The laws say that the relies are preorders, and
that a program's guarantee and the environment's moves are within every other's rely. -/
structure Protocol (ι : Type w) (Op : Type u) (Ans : Op → Type v) (σ : Type*) extends
    System ι Op Ans σ where
  inv : σ → Prop
  rely : ι → σ → σ → Prop
  guar : ι → (o : Op) → σ → Ans o → σ → Prop
  rely_refl : ∀ i s, rely i s s
  rely_trans : ∀ i s₁ s₂ s₃, rely i s₁ s₂ → rely i s₂ s₃ → rely i s₁ s₃
  guar_rely : ∀ i j o s a s', i ≠ j → inv s → inv s' → guar i o s a s' → rely j s s'
  env_inv : ∀ s s', inv s → env s s' → inv s'
  env_rely : ∀ j s s', inv s → env s s' → rely j s s'

namespace Protocol

variable {ι : Type w} {Op : Type u} {Ans : Op → Type v} {σ : Type*} {α β : Type v}

variable (π : Protocol ι Op Ans σ)

/-- Program `p` of process `i`, about to continue in a state that its rely reaches from
`s`, keeps the invariant, meets the guarantee at each operation, and ends in `Q`. -/
def Sat (i : ι) : Prog Op Ans α → σ → (α → σ → Prop) → Prop
  | .ret a, s, Q => ∀ s', π.rely i s s' → π.inv s' → Q a s'
  | .panic, _, _ => True
  | .op o k, s, Q => ∀ s₁, π.rely i s s₁ → π.inv s₁ → ∀ a s₂, π.sem i o s₁ a s₂ →
      π.guar i o s₁ a s₂ ∧ π.inv s₂ ∧ Sat i (k a) s₂ Q

variable {π} {i : ι} {p : Prog Op Ans α} {s s' : σ} {Q Q' : α → σ → Prop}

theorem Sat.ret {a : α} (h : ∀ s', π.rely i s s' → π.inv s' → Q a s') :
    π.Sat i (.ret a) s Q := h

theorem Sat.panic : π.Sat i (.panic : Prog Op Ans α) s Q := trivial

theorem Sat.op {o : Op} {k : Ans o → Prog Op Ans α}
    (h : ∀ s₁, π.rely i s s₁ → π.inv s₁ → ∀ a s₂, π.sem i o s₁ a s₂ →
      π.guar i o s₁ a s₂ ∧ π.inv s₂ ∧ π.Sat i (k a) s₂ Q) :
    π.Sat i (.op o k) s Q := h

/-- A judgement survives what the other programs do. -/
theorem Sat.stable (h : π.Sat i p s Q) (hr : π.rely i s s') : π.Sat i p s' Q := by
  cases p with
  | ret a => exact fun s₁ h₁ hi => h s₁ (π.rely_trans i _ _ _ hr h₁) hi
  | panic => trivial
  | op o k => exact fun s₁ h₁ hi => h s₁ (π.rely_trans i _ _ _ hr h₁) hi

theorem Sat.mono (h : π.Sat i p s Q) (hQ : ∀ a s', π.inv s' → Q a s' → Q' a s') :
    π.Sat i p s Q' := by
  induction p generalizing s with
  | ret a => exact fun s₁ h₁ hi => hQ a s₁ hi (h s₁ h₁ hi)
  | panic => trivial
  | op o k ih =>
    intro s₁ h₁ hi a s₂ hs
    obtain ⟨hg, hi₂, hk⟩ := h s₁ h₁ hi a s₂ hs
    exact ⟨hg, hi₂, ih a hk⟩

/-- A property that the others keep, and the guarantee too, still holds at the end. -/
theorem Sat.frame {R : σ → Prop} (hrely : ∀ s s', R s → π.rely i s s' → R s')
    (hguar : ∀ o s a s', R s → π.guar i o s a s' → R s') (h : π.Sat i p s Q) (hR : R s) :
    π.Sat i p s fun a s' => Q a s' ∧ R s' := by
  induction p generalizing s with
  | ret a => exact fun s₁ h₁ hi => ⟨h s₁ h₁ hi, hrely s s₁ hR h₁⟩
  | panic => trivial
  | op o k ih =>
    intro s₁ h₁ hi a s₂ hs
    obtain ⟨hg, hi₂, hk⟩ := h s₁ h₁ hi a s₂ hs
    exact ⟨hg, hi₂, ih a hk (hguar o s₁ a s₂ (hrely s s₁ hR h₁) hg)⟩

/-- Sequencing: the second program starts where the first one's postcondition holds. -/
theorem Sat.bind {f : α → Prog Op Ans β} {Q₂ : β → σ → Prop} (hs : π.inv s)
    (h : π.Sat i p s Q) (hf : ∀ a s', π.inv s' → Q a s' → π.Sat i (f a) s' Q₂) :
    π.Sat i (p.bind f) s Q₂ := by
  induction p generalizing s with
  | ret a => exact hf a s hs (h s (π.rely_refl i s) hs)
  | panic => trivial
  | op o k ih =>
    intro s₁ h₁ hi a s₂ hsem
    obtain ⟨hg, hi₂, hk⟩ := h s₁ h₁ hi a s₂ hsem
    exact ⟨hg, hi₂, ih a hi₂ hk⟩

/-- Sequencing of fallible programs: an error goes past the second one. -/
theorem Sat.andThen {ε : Type v} {p : Prog Op Ans (Except ε α)}
    {f : α → Prog Op Ans (Except ε β)} {Q : Except ε α → σ → Prop} {Q₂ : Except ε β → σ → Prop}
    (hs : π.inv s) (h : π.Sat i p s Q)
    (herr : ∀ e s', π.inv s' → Q (.error e) s' → π.Sat i (.ret (.error e)) s' Q₂)
    (hok : ∀ a s', π.inv s' → Q (.ok a) s' → π.Sat i (f a) s' Q₂) :
    π.Sat i (p.andThen f) s Q₂ := by
  refine Sat.bind hs h fun res s' hi hq => ?_
  cases res with
  | error e => exact herr e s' hi hq
  | ok a => exact hok a s' hi hq

/-- A dereference panics or comes through. -/
theorem Sat.deref {a : Option α} {f : α → Prog Op Ans β} {Q₂ : β → σ → Prop}
    (h : ∀ x, a = some x → π.Sat i (f x) s Q₂) : π.Sat i ((Prog.deref a).bind f) s Q₂ := by
  cases a with
  | none => exact Sat.panic
  | some x => exact h x rfl

/-- A program whose operations all keep the invariant, within the guarantee, in states of a
property `R` that they and the others keep. -/
theorem Sat.of_allOps {C : Op → Prop} {R : σ → Prop} (hrely : ∀ s s', R s → π.rely i s s' → R s')
    (hop : ∀ o, C o → ∀ s a s', R s → π.inv s → π.sem i o s a s' →
      π.guar i o s a s' ∧ π.inv s' ∧ R s')
    (hp : p.AllOps C) (hs : R s) : π.Sat i p s fun _ _ => True := by
  induction p generalizing s with
  | ret a => exact Sat.ret fun _ _ _ => trivial
  | panic => trivial
  | op o k ih =>
    refine Sat.op fun s₁ h₁ hi a s₂ hsem => ?_
    obtain ⟨hg, hi₂, hR⟩ := hop o hp.1 s₁ a s₂ (hrely _ _ hs h₁) hi hsem
    exact ⟨hg, hi₂, ih a (hp.2 a) hR⟩

/-- A program behind a server: where it panics its answer is `b`, which satisfies `Q` anywhere. -/
theorem Sat.recover {b : α} (hb : ∀ s, Q b s) (h : π.Sat i p s Q) : π.Sat i (p.recover b) s Q := by
  induction p generalizing s with
  | ret a => exact h
  | panic => exact Sat.ret fun s' _ _ => hb s'
  | op o k ih =>
    intro s₁ h₁ hi a s₂ hsem
    obtain ⟨hg, hi₂, hk⟩ := h s₁ h₁ hi a s₂ hsem
    exact ⟨hg, hi₂, ih a hk⟩

section Embed

variable {Op₀ : Type u} (e : Op₀ → Op)

variable (π) in
/-- The protocol on the operations that `e` names. -/
def comap : Protocol ι Op₀ (fun o => Ans (e o)) σ where
  sem i o := π.sem i (e o)
  env := π.env
  inv := π.inv
  rely := π.rely
  guar i o := π.guar i (e o)
  rely_refl := π.rely_refl
  rely_trans := π.rely_trans
  guar_rely i j o := π.guar_rely i j (e o)
  env_inv := π.env_inv
  env_rely := π.env_rely

/-- A renamed program has the judgement that it has for the protocol on its own operations. -/
theorem Sat.embed {p : Prog Op₀ (fun o => Ans (e o)) α} (h : (π.comap e).Sat i p s Q) :
    π.Sat i (p.embed e) s Q := by
  induction p generalizing s with
  | ret a => exact h
  | panic => trivial
  | op o k ih =>
    intro s₁ h₁ hi a s₂ hsem
    obtain ⟨hg, hi₂, hk⟩ := h s₁ h₁ hi a s₂ hsem
    exact ⟨hg, hi₂, ih a hk⟩

/-- Programs for the operations that never leave the invariant make one that never does. -/
theorem Sat.interp {Ans₀ : Op₀ → Type v} {f : (o : Op₀) → Prog Op Ans (Ans₀ o)}
    (hf : ∀ o s, π.inv s → π.Sat i (f o) s fun _ _ => True) {p : Prog Op₀ Ans₀ α} (hs : π.inv s) :
    π.Sat i (p.interp f) s fun _ _ => True := by
  induction p generalizing s with
  | ret a => exact Sat.ret fun _ _ _ => trivial
  | panic => trivial
  | op o k ih => exact Sat.bind hs (hf o s hs) fun x s' hi _ => ih x hi

end Embed

variable (π) [DecidableEq ι]

/-- What holds of every reachable pool: the invariant, and each program's judgement from
the current state. -/
structure Good (Q : ι → α → σ → Prop) (P : Pool ι Op Ans α σ) : Prop where
  inv : π.inv P.state
  sat : ∀ i, π.Sat i (P.procs i) P.state (Q i)

variable {π} {Qs : ι → α → σ → Prop} {P P' : Pool ι Op Ans α σ}

/-- One step keeps the invariant and every judgement. -/
theorem Good.step (h : π.Good Qs P) (hs : π.toSystem.Step P P') : π.Good Qs P' := by
  cases hs with
  | op i hp hsem =>
    rename_i o k a s'
    have hi := h.sat i
    rw [hp] at hi
    obtain ⟨hg, hinv, hk⟩ := hi _ (π.rely_refl i _) h.inv _ _ hsem
    refine ⟨hinv, fun j => ?_⟩
    by_cases hj : j = i
    · subst hj
      simpa using hk
    -- another program's judgement survives, as it relies on this guarantee
    · simp only [Function.update_of_ne hj]
      exact (h.sat j).stable (π.guar_rely i j _ _ _ _ (Ne.symm hj) h.inv hinv hg)
  | env he =>
    exact ⟨π.env_inv _ _ h.inv he, fun j => (h.sat j).stable (π.env_rely j _ _ h.inv he)⟩

/-- **Soundness.** Programs that satisfy their judgements one at a time satisfy them in
every pool that an interleaving reaches. -/
theorem reachable_sat (h : π.Good Qs P) (hr : π.toSystem.Reachable P P') : π.Good Qs P' := by
  induction hr with
  | refl => exact h
  | tail _ hs ih => exact ih.step hs

/-- Every operation performed in a reachable pool meets its guarantee. -/
theorem step_guar (h : π.Good Qs P) (hr : π.toSystem.Reachable P P') {i : ι} {o : Op}
    {k : Ans o → Prog Op Ans α} (hp : P'.procs i = .op o k) {a : Ans o} {s' : σ}
    (hs : π.sem i o P'.state a s') : π.guar i o P'.state a s' := by
  have hg := reachable_sat h hr
  have hi := hg.sat i
  rw [hp] at hi
  exact (hi _ (π.rely_refl i _) hg.inv _ _ hs).1

end Protocol

end Interact
