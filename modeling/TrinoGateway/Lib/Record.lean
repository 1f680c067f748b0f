import TrinoGateway.Lib.Pool

/-!
# Records of interleaved programs

What a program of a pool learns about the shared state are the answers to its own operations,
each given in the state of that moment, while the others move the state in between.

* `Event` is an operation as it was performed, with the states around it. `System.recording` is
  the system that writes down each program's events.
* `Prog.Records` is the judgement of one program on its own record: **as long as its events
  satisfy `A`, each of them meets `C` after those before it, and the program ends with a value and
  a record of `Q`**. It has the rules `bind`, `andThen`, `deref`, `recover` and `embed` of what
  programs are made from; `Prog.Hears` is the judgement of a program whose operations are programs.
* `recording_sound`: in a reachable pool a program's record is as its judgement says.
  `reachable_records` is the rule for what the events of all programs keep, of the state and of the
  records together, and `reachable_respects` the one for what their operations keep of the state,
  with `reachable_meets` and `recorded_meets` for programs that do not panic.
-/

namespace Interact

universe u v w

/-- An operation as it was performed: the state it found, its answer and the state it left. -/
structure Event (Op : Type u) (Ans : Op → Type v) (σ : Type*) where
  op : Op
  before : σ
  answer : Ans op
  after : σ

/-- The record of a program: its events, in order. -/
abbrev Record (Op : Type u) (Ans : Op → Type v) (σ : Type*) := List (Event Op Ans σ)

/-- A shared state, with the record of each program. -/
structure Recorded (ι : Type w) (Op : Type u) (Ans : Op → Type v) (σ : Type*) where
  now : σ
  record : ι → Record Op Ans σ

/-- A property held in a state that one of the events found. -/
def Record.Found {Op : Type u} {Ans : Op → Type v} {σ : Type*} (es : Record Op Ans σ)
    (φ : σ → Prop) : Prop :=
  ∃ e ∈ es, φ e.before

/-- The event of an operation that was performed as number `n`. -/
theorem Record.exists_event {Op : Type u} {Ans : Op → Type v} {σ : Type*} {es : Record Op Ans σ}
    {n : ℕ} {o : Op} (h : (es.map Event.op)[n]? = some o) :
    ∃ e, es = es.take n ++ e :: es.drop (n + 1) ∧ e.op = o := by
  rw [List.getElem?_map] at h
  obtain ⟨e, he, ho⟩ := Option.map_eq_some_iff.mp h
  obtain ⟨hn, hget⟩ := List.getElem?_eq_some_iff.mp he
  refine ⟨e, ?_, ho⟩
  rw [← hget, ← List.drop_eq_getElem_cons hn, List.take_append_drop]

section Found

variable {Op : Type u} {Ans : Op → Type v} {σ : Type*} {es es' : Record Op Ans σ} {φ ψ : σ → Prop}

theorem Record.Found.mono (h : es.Found φ) (hes : es ⊆ es') (hφ : ∀ s, φ s → ψ s) :
    es'.Found ψ := by
  obtain ⟨e, he, hs⟩ := h
  exact ⟨e, hes he, hφ _ hs⟩

theorem Record.Found.imp (h : es.Found φ) (hφ : ∀ s, φ s → ψ s) : es.Found ψ :=
  h.mono (List.Subset.refl es) hφ

theorem Record.Found.append_right (h : es.Found φ) (es' : Record Op Ans σ) :
    Record.Found (es ++ es') φ :=
  h.mono (List.subset_append_left es es') fun _ hs => hs

theorem Record.Found.append_left (h : es.Found φ) (es' : Record Op Ans σ) :
    Record.Found (es' ++ es) φ :=
  h.mono (List.subset_append_right es' es) fun _ hs => hs

/-- What the last event found. -/
theorem Record.Found.last {e : Event Op Ans σ} (h : φ e.before) : Record.Found (es ++ [e]) φ :=
  ⟨e, List.mem_append_right es (List.mem_singleton_self e), h⟩

end Found

namespace Prog

variable {Op : Type u} {Ans : Op → Type v} {σ : Type*} {α β ε : Type v}

/-- A program that goes on after the record `es`: each event that satisfies `A` meets `C` after
the record before it, and a value at the end satisfies `Q` with the whole record. -/
def Records (A : Event Op Ans σ → Prop) (C : Record Op Ans σ → Event Op Ans σ → Prop)
    (Q : α → Record Op Ans σ → Prop) : Prog Op Ans α → Record Op Ans σ → Prop
  | ret a, es => Q a es
  | panic, _ => True
  | op o k, es => ∀ s x s', A ⟨o, s, x, s'⟩ →
      C es ⟨o, s, x, s'⟩ ∧ (k x).Records A C Q (es ++ [⟨o, s, x, s'⟩])

section Records

variable {A : Event Op Ans σ → Prop} {C : Record Op Ans σ → Event Op Ans σ → Prop}
  {Q Q' : α → Record Op Ans σ → Prop} {R : β → Record Op Ans σ → Prop} {p : Prog Op Ans α}
  {es : Record Op Ans σ}

theorem Records.ret {a : α} (h : Q a es) : (Prog.ret a : Prog Op Ans α).Records A C Q es := h

theorem Records.op {o : Op} {k : Ans o → Prog Op Ans α}
    (h : ∀ s x s', A ⟨o, s, x, s'⟩ →
      C es ⟨o, s, x, s'⟩ ∧ (k x).Records A C Q (es ++ [⟨o, s, x, s'⟩])) :
    (Prog.op o k).Records A C Q es := h

theorem Records.mono (h : p.Records A C Q es)
    (hQ : ∀ a new, Q a (es ++ new) → Q' a (es ++ new)) : p.Records A C Q' es := by
  induction p generalizing es with
  | ret a =>
    have ha := hQ a []
    rw [List.append_nil] at ha
    exact ha h
  | panic => trivial
  | op o k ih =>
    intro s x s' hA
    obtain ⟨hC, hk⟩ := h s x s' hA
    refine ⟨hC, ih x hk fun a new => ?_⟩
    rw [List.append_assoc]
    exact hQ a _

/-- A program may count on more about its events than its judgement asks, and owe less. -/
theorem Records.weaken {A' : Event Op Ans σ → Prop} {C' : Record Op Ans σ → Event Op Ans σ → Prop}
    (h : p.Records A C Q es) (hA : ∀ e, A' e → A e) (hC : ∀ es e, A' e → C es e → C' es e) :
    p.Records A' C' Q es := by
  induction p generalizing es with
  | ret a => exact h
  | panic => trivial
  | op o k ih =>
    intro s x s' he
    obtain ⟨hc, hk⟩ := h s x s' (hA _ he)
    exact ⟨hC _ _ he hc, ih x hk⟩

/-- Sequencing: the second program goes on after the record of the first. -/
theorem Records.bind {f : α → Prog Op Ans β} (h : p.Records A C Q es)
    (hf : ∀ a new, Q a (es ++ new) → (f a).Records A C R (es ++ new)) :
    (p.bind f).Records A C R es := by
  induction p generalizing es with
  | ret a =>
    have ha := hf a []
    rw [List.append_nil] at ha
    exact ha h
  | panic => trivial
  | op o k ih =>
    intro s x s' hA
    obtain ⟨hC, hk⟩ := h s x s' hA
    refine ⟨hC, ih x hk fun a new => ?_⟩
    rw [List.append_assoc]
    exact hf a _

/-- Sequencing of fallible programs: an error goes past the second one. -/
theorem Records.andThen {p : Prog Op Ans (Except ε α)} {f : α → Prog Op Ans (Except ε β)}
    {Q : Except ε α → Record Op Ans σ → Prop} {R : Except ε β → Record Op Ans σ → Prop}
    (h : p.Records A C Q es) (herr : ∀ e new, Q (.error e) (es ++ new) → R (.error e) (es ++ new))
    (hok : ∀ a new, Q (.ok a) (es ++ new) → (f a).Records A C R (es ++ new)) :
    (p.andThen f).Records A C R es := by
  refine h.bind fun res new hq => ?_
  cases res with
  | error e => exact herr e new hq
  | ok a => exact hok a new hq

theorem Records.deref {a : Option α} {f : α → Prog Op Ans β}
    (h : ∀ x, a = some x → (f x).Records A C R es) :
    ((Prog.deref a).bind f).Records A C R es := by
  cases a with
  | none => trivial
  | some x => exact h x rfl

/-- A program behind a server, whose answer to a panic satisfies `Q` after any record. -/
theorem Records.recover {b : α} (hb : ∀ es, Q b es) (h : p.Records A C Q es) :
    (p.recover b).Records A C Q es := by
  induction p generalizing es with
  | ret a => exact h
  | panic => exact hb es
  | op o k ih =>
    intro s x s' hA
    obtain ⟨hC, hk⟩ := h s x s' hA
    exact ⟨hC, ih x hk⟩

/-- A program whose operations keep a property of the record, and owe no more than it gives. -/
theorem Records.of_allOps {D : Op → Prop} {J : Record Op Ans σ → Prop} (hp : p.AllOps D)
    (hC : ∀ es e, J es → D e.op → A e → C es e ∧ J (es ++ [e])) (hes : J es) :
    p.Records A C (fun _ es' => J es') es := by
  induction p generalizing es with
  | ret a => exact hes
  | panic => trivial
  | op o k ih =>
    intro s x s' hA
    obtain ⟨hc, hnext⟩ := hC es ⟨o, s, x, s'⟩ hes hp.1 hA
    exact ⟨hc, ih x (hp.2 x) hnext⟩

/-- What holds of the values holds of the value at the end. -/
theorem Records.yields {P : α → Prop} (h : p.Records A C Q es) (hp : p.Yields P) :
    p.Records A C (fun a es' => Q a es' ∧ P a) es := by
  induction p generalizing es with
  | ret a => exact ⟨h, hp⟩
  | panic => trivial
  | op o k ih =>
    intro s x s' hA
    exact ⟨(h s x s' hA).1, ih x (h s x s' hA).2 (hp x)⟩

/-- A program that goes on after the record `es`, as others perform its operations: whatever it is
told, and `T` says what an answer tells, a value at the end satisfies `Q`. -/
def Hears {Op₀ : Type u} {Ans₀ : Op₀ → Type v}
    (T : (o : Op₀) → Ans₀ o → Record Op Ans σ → Prop) (Q : α → Record Op Ans σ → Prop) :
    Prog Op₀ Ans₀ α → Record Op Ans σ → Prop
  | ret a, es => Q a es
  | panic, _ => True
  | op o k, es => ∀ x new, T o x (es ++ new) → (k x).Hears T Q (es ++ new)

/-- A program whose operations are programs that tell what it relies on. -/
theorem Hears.interp {Op₀ : Type u} {Ans₀ : Op₀ → Type v} {f : (o : Op₀) → Prog Op Ans (Ans₀ o)}
    {T : (o : Op₀) → Ans₀ o → Record Op Ans σ → Prop} (hf : ∀ o es, (f o).Records A C (T o) es)
    {p : Prog Op₀ Ans₀ α} (hp : p.Hears T Q es) : (p.interp f).Records A C Q es := by
  induction p generalizing es with
  | ret a => exact hp
  | panic => trivial
  | op o k ih => exact (hf o es).bind fun x new hx => ih x (hp x new hx)

theorem Hears.mono {Op₀ : Type u} {Ans₀ : Op₀ → Type v}
    {T : (o : Op₀) → Ans₀ o → Record Op Ans σ → Prop} {p : Prog Op₀ Ans₀ α} (hp : p.Hears T Q es)
    (hQ : ∀ a new, Q a (es ++ new) → Q' a (es ++ new)) : p.Hears T Q' es := by
  induction p generalizing es with
  | ret a =>
    have ha := hQ a []
    rw [List.append_nil] at ha
    exact ha hp
  | panic => trivial
  | op o k ih =>
    refine fun x new hx => ih x (hp x new hx) fun a new' => ?_
    rw [List.append_assoc]
    exact hQ a _

theorem Hears.bind {Op₀ : Type u} {Ans₀ : Op₀ → Type v}
    {T : (o : Op₀) → Ans₀ o → Record Op Ans σ → Prop} {p : Prog Op₀ Ans₀ α}
    {f : α → Prog Op₀ Ans₀ β} (hp : p.Hears T Q es)
    (hf : ∀ a new, Q a (es ++ new) → (f a).Hears T R (es ++ new)) : (p.bind f).Hears T R es := by
  induction p generalizing es with
  | ret a =>
    have ha := hf a []
    rw [List.append_nil] at ha
    exact ha hp
  | panic => trivial
  | op o k ih =>
    refine fun x new hx => ih x (hp x new hx) fun a new' => ?_
    rw [List.append_assoc]
    exact hf a _

theorem Hears.deref {Op₀ : Type u} {Ans₀ : Op₀ → Type v}
    {T : (o : Op₀) → Ans₀ o → Record Op Ans σ → Prop} {a : Option α} {f : α → Prog Op₀ Ans₀ β}
    (h : ∀ x, a = some x → (f x).Hears T R es) : ((Prog.deref a).bind f).Hears T R es := by
  cases a with
  | none => trivial
  | some x => exact h x rfl

/-- A program that respects `D`, as long as the answers are as `B` says, owes no more than that. -/
theorem Respects.records {D : Op → Prop} {B : (o : Op) → Ans o → Prop} {P : α → Prop}
    (h : p.Respects D B P) (hA : ∀ e, A e → B e.op e.answer) :
    p.Records A (fun _ e => D e.op) (fun a _ => P a) es := by
  induction p generalizing es with
  | ret a => exact h
  | panic => trivial
  | op o k ih => exact fun s x s' he => ⟨h.1, ih x (h.2 x (hA _ he))⟩

/-- Two judgements of one program are one of both. -/
theorem Records.and {Q₂ : α → Record Op Ans σ → Prop} (h : p.Records A C Q es)
    (h₂ : p.Records A C Q₂ es) : p.Records A C (fun a es => Q a es ∧ Q₂ a es) es := by
  induction p generalizing es with
  | ret a => exact ⟨h, h₂⟩
  | panic => trivial
  | op o k ih =>
    intro s x s' hA
    exact ⟨(h s x s' hA).1, ih x (h s x s' hA).2 (h₂ s x s' hA).2⟩

end Records

end Prog

section Embed

variable {Op₀ Op : Type u} {Ans : Op → Type v} {σ : Type*} {α : Type v} (e : Op₀ → Op)

/-- An event of a renamed operation. -/
def Event.embed (ev : Event Op₀ (fun o => Ans (e o)) σ) : Event Op Ans σ :=
  ⟨e ev.op, ev.before, ev.answer, ev.after⟩

/-- The record of a renamed program. -/
def Record.embed (es : Record Op₀ (fun o => Ans (e o)) σ) : Record Op Ans σ :=
  es.map (Event.embed e)

variable {e}

theorem Record.Found.embed {es : Record Op₀ (fun o => Ans (e o)) σ} {φ : σ → Prop}
    (h : es.Found φ) : (Record.embed e es : Record Op Ans σ).Found φ := by
  obtain ⟨ev, hev, hs⟩ := h
  exact ⟨ev.embed e, List.mem_map_of_mem hev, hs⟩

/-- A renamed program, after the record `pre`, has the judgement that it has on its own
operations. -/
theorem Prog.Records.embed {A : Event Op Ans σ → Prop}
    {C : Record Op Ans σ → Event Op Ans σ → Prop} {Q : α → Record Op Ans σ → Prop}
    {p : Prog Op₀ (fun o => Ans (e o)) α} {pre : Record Op Ans σ}
    (h : p.Records (fun ev => A (ev.embed e)) (fun es ev => C (pre ++ Record.embed e es) (ev.embed e))
      (fun a es => Q a (pre ++ Record.embed e es)) []) : (p.embed e).Records A C Q pre := by
  suffices hgen : ∀ (p : Prog Op₀ (fun o => Ans (e o)) α) (es : Record Op₀ (fun o => Ans (e o)) σ),
      p.Records (fun ev => A (ev.embed e))
        (fun es ev => C (pre ++ Record.embed e es) (ev.embed e))
        (fun a es => Q a (pre ++ Record.embed e es)) es →
      (p.embed e).Records A C Q (pre ++ Record.embed e es) by
    have hstart := hgen p [] h
    unfold Record.embed at hstart
    rwa [List.map_nil, List.append_nil] at hstart
  intro p
  induction p with
  | ret a => exact fun _ h => h
  | panic => exact fun _ _ => trivial
  | op o k ih =>
    intro es h s x s' hA
    obtain ⟨hC, hk⟩ := h s x s' hA
    refine ⟨hC, ?_⟩
    have hnext := ih x _ hk
    unfold Record.embed at hnext
    rw [List.map_append, ← List.append_assoc] at hnext
    exact hnext

end Embed

namespace System

variable {ι : Type w} {Op : Type u} {Ans : Op → Type v} {σ : Type*} {α : Type v} [DecidableEq ι]

/-- The system that writes down the events of each program. -/
def recording (S : System ι Op Ans σ) : System ι Op Ans (Recorded ι Op Ans σ) where
  sem i o r a r' := S.sem i o r.now a r'.now ∧
    r'.record = Function.update r.record i (r.record i ++ [⟨o, r.now, a, r'.now⟩])
  env r r' := S.env r.now r'.now ∧ r'.record = r.record

/-- The pool of programs of which none has begun. -/
def begin (procs : ι → Prog Op Ans α) (s : σ) : Pool ι Op Ans α (Recorded ι Op Ans σ) :=
  ⟨procs, ⟨s, fun _ => []⟩⟩

/-- A handler that also writes down the events. -/
def recordingHandler (h : ι → (o : Op) → σ → Ans o × σ) (i : ι) (o : Op)
    (r : Recorded ι Op Ans σ) : Ans o × Recorded ι Op Ans σ :=
  let x := h i o r.now
  (x.1, ⟨x.2, Function.update r.record i (r.record i ++ [⟨o, r.now, x.1, x.2⟩])⟩)

theorem recordingHandler_sem {S : System ι Op Ans σ} {h : ι → (o : Op) → σ → Ans o × σ}
    (hh : ∀ i o s, S.sem i o s (h i o s).1 (h i o s).2) (i : ι) (o : Op)
    (r : Recorded ι Op Ans σ) :
    S.recording.sem i o r (recordingHandler h i o r).1 (recordingHandler h i o r).2 :=
  ⟨hh i o r.now, rfl⟩

variable {S : System ι Op Ans σ} {A : Event Op Ans σ → Prop}
  {C : Record Op Ans σ → Event Op Ans σ → Prop} {Q : α → Record Op Ans σ → Prop} {i : ι}

/-- What holds of program `i` in every reachable pool: its judgement on its record so far. -/
structure Sound (i : ι) (A : Event Op Ans σ → Prop)
    (C : Record Op Ans σ → Event Op Ans σ → Prop) (Q : α → Record Op Ans σ → Prop)
    (P : Pool ι Op Ans α (Recorded ι Op Ans σ)) : Prop where
  sat : (P.procs i).Records A C Q (P.state.record i)
  events : ∀ e ∈ P.state.record i, A e
  due : ∀ pre e post, P.state.record i = pre ++ e :: post → C pre e

/-- The last event of a record is the new one, or one of those before. -/
theorem append_singleton_split {es pre post : Record Op Ans σ} {e ev : Event Op Ans σ}
    (h : es ++ [ev] = pre ++ e :: post) :
    (pre = es ∧ e = ev ∧ post = []) ∨ ∃ post', es = pre ++ e :: post' ∧ post = post' ++ [ev] := by
  rcases List.eq_nil_or_concat post with hpost | ⟨post', last, hpost⟩
  · subst hpost
    have hsplit := List.append_inj' h rfl
    exact Or.inl ⟨hsplit.1.symm, (List.cons.inj hsplit.2).1.symm, rfl⟩
  · subst hpost
    rw [List.concat_eq_append, ← List.cons_append, ← List.append_assoc] at h
    have hsplit := List.append_inj' h rfl
    refine Or.inr ⟨post', hsplit.1, ?_⟩
    rw [List.concat_eq_append, (List.cons.inj hsplit.2).1]

/-- One step keeps the judgement, if the event of the program satisfies `A`. -/
theorem Sound.step {P P' : Pool ι Op Ans α (Recorded ι Op Ans σ)}
    (hA : ∀ o a s', S.sem i o P.state.now a s' → A ⟨o, P.state.now, a, s'⟩)
    (h : Sound i A C Q P) (hs : S.recording.Step P P') : Sound i A C Q P' := by
  cases hs with
  | env he =>
    obtain ⟨-, hrec⟩ := he
    refine ⟨?_, ?_, ?_⟩
    · simpa only [hrec] using h.sat
    · simpa only [hrec] using h.events
    · simpa only [hrec] using h.due
  | op j hp hsem =>
    rename_i o k a r'
    obtain ⟨hstate, hrec⟩ := hsem
    by_cases hj : j = i
    · subst hj
      have hnew := hA o a _ hstate
      have hsat := h.sat
      rw [hp] at hsat
      obtain ⟨hC, hk⟩ := hsat _ a _ hnew
      have hself : r'.record j = P.state.record j ++ [⟨o, P.state.now, a, r'.now⟩] := by
        rw [hrec, Function.update_self]
      refine ⟨?_, fun e he => ?_, fun pre e post hsplit => ?_⟩
      · simpa only [Function.update_self, hself] using hk
      · rw [hself] at he
        rcases List.mem_append.mp he with he | he
        · exact h.events e he
        · rw [List.mem_singleton.mp he]
          exact hnew
      · rw [hself] at hsplit
        rcases append_singleton_split hsplit with ⟨rfl, rfl, -⟩ | ⟨post', hes, -⟩
        · exact hC
        · exact h.due pre e post' hes
    -- another program's step leaves this one and its record alone
    · have hother : r'.record i = P.state.record i := by
        rw [hrec, Function.update_of_ne (Ne.symm hj)]
      refine ⟨?_, ?_, ?_⟩
      · simpa only [Function.update_of_ne (Ne.symm hj), hother] using h.sat
      · simpa only [hother] using h.events
      · simpa only [hother] using h.due

/-- **Soundness.** In every pool that an interleaving reaches, the record of a program is as its
judgement says, whatever the other programs are. -/
theorem recording_sound {procs : ι → Prog Op Ans α} {s : σ}
    (hA : ∀ P : Pool ι Op Ans α (Recorded ι Op Ans σ), S.recording.Reachable (begin procs s) P →
      ∀ o a s', S.sem i o P.state.now a s' → A ⟨o, P.state.now, a, s'⟩)
    (hp : (procs i).Records A C Q []) {P : Pool ι Op Ans α (Recorded ι Op Ans σ)}
    (hr : S.recording.Reachable (begin procs s) P) : Sound i A C Q P := by
  induction hr with
  | refl =>
    refine ⟨hp, fun e he => ?_, fun pre e post h => ?_⟩
    · cases he
    · exact absurd h (by simp [begin])
  | tail hreach hstep ih => exact ih.step (hA _ hreach) hstep

omit [DecidableEq ι] in
/-- What the program returned, once it has ended, with its record. -/
theorem Sound.result {P : Pool ι Op Ans α (Recorded ι Op Ans σ)} (h : Sound i A C Q P) {a : α}
    (hi : P.procs i = .ret a) : Q a (P.state.record i) := by
  have hsat := h.sat
  rw [hi] at hsat
  exact hsat

omit [DecidableEq ι] in
/-- What the last event owes holds of the record, once there is one. -/
theorem Sound.last {P : Pool ι Op Ans α (Recorded ι Op Ans σ)} (h : Sound i A C Q P)
    {J : Record Op Ans σ → Prop} (hJ : J []) (hC : ∀ pre e, C pre e → J (pre ++ [e])) :
    J (P.state.record i) := by
  rcases List.eq_nil_or_concat (P.state.record i) with hnil | ⟨pre, e, hlast⟩
  · rw [hnil]
    exact hJ
  · rw [List.concat_eq_append] at hlast
    rw [hlast]
    exact hC pre e (h.due pre e [] hlast)

/-- What every event that is due keeps, of the state and of the records together, holds in every
pool that an interleaving reaches. -/
theorem reachable_records {C : ι → Record Op Ans σ → Event Op Ans σ → Prop}
    {Q : ι → α → Record Op Ans σ → Prop} {I : Recorded ι Op Ans σ → Prop}
    {procs : ι → Prog Op Ans α} {s : σ}
    (hA : ∀ i o s a s', S.sem i o s a s' → A ⟨o, s, a, s'⟩)
    (hp : ∀ i, (procs i).Records A (C i) (Q i) [])
    (hI : ∀ i r e, A e → C i (r.record i) e → e.before = r.now → I r →
      I ⟨e.after, Function.update r.record i (r.record i ++ [e])⟩)
    (henv : ∀ r s', I r → S.env r.now s' → I ⟨s', r.record⟩) (h : I ⟨s, fun _ => []⟩)
    {P : Pool ι Op Ans α (Recorded ι Op Ans σ)} (hr : S.recording.Reachable (begin procs s) P) :
    I P.state := by
  induction hr with
  | refl => exact h
  | tail hreach hstep ih =>
    cases hstep with
    | env he =>
      rename_i P r'
      obtain ⟨now', record'⟩ := r'
      obtain ⟨hnow, rfl⟩ := he
      exact henv _ now' ih hnow
    | op j hj hsem =>
      rename_i P o k a r'
      obtain ⟨now', record'⟩ := r'
      obtain ⟨hnow, hrec⟩ := hsem
      dsimp only at hrec
      subst hrec
      have hevent : A ⟨o, P.state.now, a, now'⟩ := hA j o _ a now' hnow
      have hsound : Sound j A (C j) (Q j) P :=
        recording_sound (fun P _ o a s' => hA j o P.state.now a s') (hp j) hreach
      have hsat := hsound.sat
      rw [hj] at hsat
      exact hI j P.state ⟨o, P.state.now, a, now'⟩ hevent (hsat _ a now' hevent).1 rfl ih

/-- A property that no operation of the programs destroys holds in every state reached, if the
answers in such states are as the programs rely on. -/
theorem reachable_respects {D : ι → Op → Prop} {A : (o : Op) → Ans o → Prop} {Q : ι → α → Prop}
    {σ : Type*} {S : System ι Op Ans σ} {I : σ → Prop}
    (hI : ∀ j o s a s', D j o → I s → S.sem j o s a s' → A o a ∧ I s')
    (henv : ∀ s s', I s → S.env s s' → I s') {P P' : Pool ι Op Ans α σ}
    (hp : ∀ j, (P.procs j).Respects (D j) A (Q j)) (hs : I P.state) (hr : S.Reachable P P') :
    I P'.state ∧ ∀ j, (P'.procs j).Respects (D j) A (Q j) := by
  induction hr with
  | refl => exact ⟨hs, hp⟩
  | tail _ hstep ih =>
    obtain ⟨hinv, hall⟩ := ih
    cases hstep with
    | env he => exact ⟨henv _ _ hinv he, hall⟩
    | op j hj hsem =>
      rename_i o k a s'
      have hj' := hall j
      rw [hj] at hj'
      obtain ⟨hans, hnext⟩ := hI j o _ a s' hj'.1 hinv hsem
      refine ⟨hnext, fun l => ?_⟩
      by_cases hl : l = j
      · subst hl
        simpa only [Function.update_self] using hj'.2 a hans
      · simpa only [Function.update_of_ne hl] using hall l

/-- The same for programs that do not panic. -/
theorem reachable_meets {D : ι → Op → Prop} {B : (o : Op) → Ans o → Prop} {Q : ι → α → Prop}
    {σ : Type*} {S : System ι Op Ans σ} {I : σ → Prop}
    (hI : ∀ j o s a s', D j o → I s → S.sem j o s a s' → B o a ∧ I s')
    (henv : ∀ s s', I s → S.env s s' → I s') {P P' : Pool ι Op Ans α σ}
    (hp : ∀ j, (P.procs j).Meets (D j) B (Q j)) (hs : I P.state) (hr : S.Reachable P P') :
    I P'.state ∧ ∀ j, (P'.procs j).Meets (D j) B (Q j) := by
  induction hr with
  | refl => exact ⟨hs, hp⟩
  | tail _ hstep ih =>
    obtain ⟨hinv, hall⟩ := ih
    cases hstep with
    | env he => exact ⟨henv _ _ hinv he, hall⟩
    | op j hj hsem =>
      rename_i o k a s'
      have hj' := hall j
      rw [hj] at hj'
      obtain ⟨hans, hnext⟩ := hI j o _ a s' hj'.1 hinv hsem
      refine ⟨hnext, fun l => ?_⟩
      by_cases hl : l = j
      · subst hl
        simpa only [Function.update_self] using hj'.2 a hans
      · simpa only [Function.update_of_ne hl] using hall l

/-- A program whose answers have been as it relies on goes on as it should. -/
theorem recorded_meets {D : Op → Prop} {B : (o : Op) → Ans o → Prop} {Q : α → Prop}
    {procs : ι → Prog Op Ans α} {s : σ} (hp : (procs i).Meets D B Q)
    {P : Pool ι Op Ans α (Recorded ι Op Ans σ)} (hr : S.recording.Reachable (begin procs s) P)
    (hB : ∀ e ∈ P.state.record i, B e.op e.answer) : (P.procs i).Meets D B Q := by
  induction hr with
  | refl => exact hp
  | tail hreach hstep ih =>
    clear hreach
    cases hstep with
    | env he =>
      rw [he.2] at hB
      exact ih hB
    | op j hj hsem =>
      rename_i P o k a r'
      rw [hsem.2] at hB
      by_cases hji : j = i
      · subst hji
        rw [Function.update_self] at hB
        have hmeets := ih fun e he => hB e (List.mem_append_left _ he)
        rw [hj] at hmeets
        have hlast : B o a := hB ⟨o, P.state.now, a, r'.now⟩
          (List.mem_append_right _ (List.mem_singleton_self _))
        simpa only [Function.update_self] using hmeets.2 a hlast
      · rw [Function.update_of_ne (Ne.symm hji)] at hB
        simpa only [Function.update_of_ne (Ne.symm hji)] using ih hB

end System

end Interact
