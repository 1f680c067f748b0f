import Mathlib.Data.List.Basic
import TrinoGateway.Lib.Cleanup

/-!
# Traces and refinement

* `Prog.Trace`: the operations of a program with their answers, up to its value or its panic.
* `Prog.Refines`: **every value that a program returns is matched by one of another program, over
  other operations, with the same visible steps**. It has the rules `op`, `bind` and `deferring` of
  what programs are made from; a part without visible steps refines a single
  invisible operation that may be answered in the same way (`refines_op`).
-/

namespace Interact

namespace Prog

universe u v

/-- An operation with its answer. -/
abbrev Call (Op : Type u) (Ans : Op → Type v) := (o : Op) × Ans o

variable {Op Op' : Type u} {Ans : Op → Type v} {Ans' : Op' → Type v} {α β γ δ : Type v}

/-- The calls of a program, up to its value, or to a panic. -/
def Trace : Prog Op Ans α → List (Call Op Ans) → Option α → Prop
  | ret a, es, r => es = [] ∧ r = some a
  | panic, es, r => es = [] ∧ r = none
  | op o k, es, r => ∃ x es', es = ⟨o, x⟩ :: es' ∧ (k x).Trace es' r

theorem trace_bind {p : Prog Op Ans α} {f : α → Prog Op Ans β} {es : List (Call Op Ans)}
    {r : Option β} (h : (p.bind f).Trace es r) :
    (∃ a es₁ es₂, p.Trace es₁ (some a) ∧ (f a).Trace es₂ r ∧ es = es₁ ++ es₂) ∨
      p.Trace es none ∧ r = none := by
  induction p generalizing es with
  | ret a => exact Or.inl ⟨a, [], es, ⟨rfl, rfl⟩, h, rfl⟩
  | panic => exact Or.inr ⟨⟨h.1, rfl⟩, h.2⟩
  | op o k ih =>
    obtain ⟨x, es', rfl, hk⟩ := h
    rcases ih x hk with ⟨a, es₁, es₂, hp, hf, rfl⟩ | ⟨hp, hr⟩
    · exact Or.inl ⟨a, _, es₂, ⟨x, es₁, rfl, hp⟩, hf, rfl⟩
    · exact Or.inr ⟨⟨x, es', rfl, hp⟩, hr⟩

theorem Trace.bind {p : Prog Op Ans α} {f : α → Prog Op Ans β} {es₁ es₂ : List (Call Op Ans)}
    {a : α} {r : Option β} (hp : p.Trace es₁ (some a)) (hf : (f a).Trace es₂ r) :
    (p.bind f).Trace (es₁ ++ es₂) r := by
  induction p generalizing es₁ with
  | ret b =>
    obtain ⟨rfl, hb⟩ := hp
    obtain rfl := Option.some.inj hb
    exact hf
  | panic => cases hp.2
  | op o k ih =>
    obtain ⟨x, es', rfl, hk⟩ := hp
    exact ⟨x, _, rfl, ih x hk⟩

/-- What is deferred comes last. -/
theorem trace_deferring {fin : Prog Op Ans γ} {p : Prog Op Ans α} {es : List (Call Op Ans)} {a : α}
    (h : (deferring fin p).Trace es (some a)) :
    ∃ c es₁ es₂, p.Trace es₁ (some a) ∧ fin.Trace es₂ (some c) ∧ es = es₁ ++ es₂ := by
  induction p generalizing es with
  | ret b =>
    rcases trace_bind h with ⟨c, es₁, es₂, hfin, ⟨rfl, hb⟩, rfl⟩ | ⟨-, hnone⟩
    · exact ⟨c, [], es₁, ⟨rfl, hb⟩, hfin, List.append_nil es₁⟩
    · cases hnone
  | panic =>
    rcases trace_bind h with ⟨c, es₁, es₂, -, ⟨-, hnone⟩, -⟩ | ⟨-, hnone⟩
    · cases hnone
    · cases hnone
  | op o k ih =>
    obtain ⟨x, es', rfl, hk⟩ := h
    obtain ⟨c, es₁, es₂, hp, hfin, rfl⟩ := ih x hk
    exact ⟨c, _, es₂, ⟨x, es₁, rfl, hp⟩, hfin, rfl⟩

/-- The calls of a program whose operations satisfy `C`. -/
theorem AllOps.trace {C : Op → Prop} {p : Prog Op Ans α} (hp : p.AllOps C)
    {es : List (Call Op Ans)} {r : Option α} (h : p.Trace es r) : ∀ e ∈ es, C e.1 := by
  induction p generalizing es with
  | ret a =>
    rw [h.1]
    exact fun e he => absurd he List.not_mem_nil
  | panic =>
    rw [h.1]
    exact fun e he => absurd he List.not_mem_nil
  | op o k ih =>
    obtain ⟨x, es', rfl, hk⟩ := h
    rintro e he
    rcases List.mem_cons.mp he with rfl | he
    · exact hp.1
    · exact ih x (hp.2 x) hk e he

/-- What is returned has what every value has. -/
theorem Yields.trace {Q : α → Prop} {p : Prog Op Ans α} (hp : p.Yields Q)
    {es : List (Call Op Ans)} {a : α} (h : p.Trace es (some a)) : Q a := by
  induction p generalizing es with
  | ret b =>
    rw [Option.some.inj h.2]
    exact hp
  | panic => cases h.2
  | op o k ih =>
    obtain ⟨x, es', rfl, hk⟩ := h
    exact ih x (hp x) hk

section Refines

variable {V : Type*} (vis : Call Op Ans → Option V) (vis' : Call Op' Ans' → Option V)

/-- Every value is matched by one in `R`, after the same visible steps. -/
def Refines (R : α → β → Prop) (p : Prog Op Ans α) (q : Prog Op' Ans' β) : Prop :=
  ∀ es a, p.Trace es (some a) →
    ∃ es' b, q.Trace es' (some b) ∧ es.filterMap vis = es'.filterMap vis' ∧ R a b

variable {vis vis'} {R : α → β → Prop} {S : γ → δ → Prop}

theorem Refines.ret {a : α} {b : β} (h : R a b) :
    Refines vis vis' R (ret a : Prog Op Ans α) (ret b : Prog Op' Ans' β) := by
  rintro es a' ⟨rfl, ha⟩
  obtain rfl := Option.some.inj ha
  exact ⟨[], b, ⟨rfl, rfl⟩, rfl, h⟩

theorem Refines.bind {p : Prog Op Ans α} {q : Prog Op' Ans' β} {f : α → Prog Op Ans γ}
    {g : β → Prog Op' Ans' δ} (hp : Refines vis vis' R p q)
    (hf : ∀ a b, R a b → Refines vis vis' S (f a) (g b)) :
    Refines vis vis' S (p.bind f) (q.bind g) := by
  intro es c h
  rcases trace_bind h with ⟨a, es₁, es₂, htp, htf, rfl⟩ | ⟨-, hnone⟩
  · obtain ⟨es₁', b, hq, hvis₁, hR⟩ := hp es₁ a htp
    obtain ⟨es₂', d, hg, hvis₂, hS⟩ := hf a b hR es₂ c htf
    refine ⟨es₁' ++ es₂', d, hq.bind hg, ?_, hS⟩
    rw [List.filterMap_append, List.filterMap_append, hvis₁, hvis₂]
  · cases hnone

/-- The same visible operation on both sides. -/
theorem Refines.op {o : Op} {o' : Op'} {k : Ans o → Prog Op Ans γ} {l : Ans' o' → Prog Op' Ans' δ}
    (h : ∀ x, ∃ y, vis ⟨o, x⟩ = vis' ⟨o', y⟩ ∧ Refines vis vis' S (k x) (l y)) :
    Refines vis vis' S (Prog.op o k) (Prog.op o' l) := by
  rintro es c ⟨x, es₁, rfl, hk⟩
  obtain ⟨y, hvis, hkl⟩ := h x
  obtain ⟨es', d, hl, hrest, hS⟩ := hkl es₁ c hk
  refine ⟨⟨o', y⟩ :: es', d, ⟨y, es', rfl, hl⟩, ?_, hS⟩
  rw [List.filterMap_cons, List.filterMap_cons, hvis, hrest]

/-- An operation that is not visible. -/
theorem Refines.skip {o : Op} {k : Ans o → Prog Op Ans γ} {q : Prog Op' Ans' δ}
    (ho : ∀ x, vis ⟨o, x⟩ = none) (h : ∀ x, Refines vis vis' S (k x) q) :
    Refines vis vis' S (Prog.op o k) q := by
  rintro es c ⟨x, es₁, rfl, hk⟩
  obtain ⟨es', d, hq, hvis, hS⟩ := h x es₁ c hk
  refine ⟨es', d, hq, ?_, hS⟩
  rw [List.filterMap_cons, ho x]
  exact hvis

/-- Invisible steps leave nothing to see. -/
theorem filterMap_invisible {es : List (Call Op Ans)} (h : ∀ e ∈ es, ∀ x, vis ⟨e.1, x⟩ = none) :
    es.filterMap vis = [] :=
  List.filterMap_eq_nil_iff.mpr fun e he => h e he e.2

/-- What is deferred is not visible. -/
theorem Refines.deferring {fin : Prog Op Ans γ} {p : Prog Op Ans α} {q : Prog Op' Ans' β}
    (hfin : fin.AllOps fun o => ∀ x, vis ⟨o, x⟩ = none) (hp : Refines vis vis' R p q) :
    Refines vis vis' R (deferring fin p) q := by
  intro es a h
  obtain ⟨c, es₁, es₂, htp, htfin, rfl⟩ := trace_deferring h
  obtain ⟨es', b, hq, hvis, hR⟩ := hp es₁ a htp
  refine ⟨es', b, hq, ?_, hR⟩
  rw [List.filterMap_append, filterMap_invisible (hfin.trace htfin), List.append_nil, hvis]

/-- A part without visible steps refines an operation that may be answered so that its value is
matched. -/
theorem refines_op {p : Prog Op Ans α} {o : Op'} {k : Ans' o → Prog Op' Ans' β} {Q : α → Prop}
    (hp : p.AllOps fun o => ∀ x, vis ⟨o, x⟩ = none) (hQ : p.Yields Q)
    (ho : ∀ y, vis' ⟨o, y⟩ = none) (hk : ∀ a, Q a → ∃ y b, k y = Prog.ret b ∧ R a b) :
    Refines vis vis' R p (Prog.op o k) := by
  intro es a h
  obtain ⟨y, b, hret, hR⟩ := hk a (hQ.trace h)
  refine ⟨[⟨o, y⟩], b, ⟨y, [], rfl, ?_⟩, ?_, hR⟩
  · rw [hret]
    exact ⟨rfl, rfl⟩
  · rw [filterMap_invisible (hp.trace h), List.filterMap_cons, ho y]
    rfl

end Refines

end Prog

end Interact
