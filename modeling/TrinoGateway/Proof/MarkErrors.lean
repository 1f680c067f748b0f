import TrinoGateway.Spec.Marking

/-!
# Which error the goroutines of `Execute` log

All goroutines store into the one variable `err`, so what one of them reads back may be what
another one stored.

* `At` lists where a goroutine can be, with what it needs of the variable there: nil or its own
  error before its test, its own error between its test and its log line.
* `Calm` is a step that leaves the variable to the goroutines that are about to read it.
  `CalmRun.at` says that calm steps keep every goroutine at its place, so each logs the error that
  it got.
* A step that is not calm is all it takes: `exists_not_logsOwn` lets the goroutine go on.
* `execute_logsOwn_iff` puts them together, with the outcomes of the RPCs for which no
  interleaving goes wrong: **all goroutines return the same**.
-/

namespace TrinoGateway

open Interact Prog

namespace Marking

variable {ι : Type} (m : ι → BackendMsg × Bool) (answer : ι → (o : MonitorOp) → o.Ans)

/-- What the RPC of goroutine `i` returns. -/
abbrev own (i : ι) : Option GoErr := returned (m i) (answer i)

/-- No goroutine has panicked, and one that is about to call `WithError` has the error that its own
RPC returned, which is not nil. -/
def LogsOwn (P : Pool ι MarkingOp MarkingOp.Ans Unit (Option GoErr)) : Prop :=
  ∀ i, P.procs i ≠ .panic ∧
    ∀ err k, P.procs i = .op (.withError err) k → err = own m answer i ∧ err ≠ none

/-- A step that changes the variable only to nil or the own error of each goroutine that is about
to test it, and only to the own error of each that is about to read it for its log line. -/
def Calm (P Q : Pool ι MarkingOp MarkingOp.Ans Unit (Option GoErr)) : Prop :=
  Q.state ≠ P.state → ∀ j,
    (P.procs j = testErr (m j) → Q.state = none ∨ Q.state = own m answer j) ∧
    (P.procs j = logErr (m j) → Q.state = own m answer j)

/-- Where a goroutine that marks `b`, and whose RPC returns `res`, can be while the variable
is `err`. -/
inductive At (b : BackendMsg × Bool) (res err : Option GoErr) : Marking Unit → Prop
  | calling : At b res err (goroutine b)
  | storing : At b res err (storeErr b res)
  | testing (h : err = none ∨ err = res) : At b res err (testErr b)
  | reading (h : err = res) (hne : res ≠ none) : At b res err (logErr b)
  | logging (hne : res ≠ none) : At b res err (withError b res)
  | printing : At b res err (errorw b)
  | finished : At b res err (ret ())

section At

variable {b : BackendMsg × Bool} {res err err' : Option GoErr} {p : Marking Unit}

/-- The goroutine begins with its RPC, and goes on with what that returns. -/
theorem goroutine_eq (b : BackendMsg × Bool) :
    ∃ (o : MonitorOp) (f : o.Ans → Option GoErr),
      goroutine b = .op (.rpc o) (fun a => storeErr b (f a)) ∧
        ∀ answer, f (answer o) = returned b answer := by
  obtain ⟨backend, healthy⟩ := b
  cases healthy with
  | true =>
    exact ⟨.markHealthyBackend backend.id, Result.err, rfl, fun answer => rfl⟩
  | false =>
    exact ⟨.markUnhealthyBackend backend.id, Result.err, rfl, fun answer => rfl⟩

theorem testErr_eq (b : BackendMsg × Bool) :
    testErr b = .op .getErr fun err => if err ≠ none then logErr b else ret () := rfl

/-- A goroutine that does not move needs something of the variable at two places only. -/
theorem At.of_state (h : At b res err p)
    (ht : p = testErr b → err' = none ∨ err' = res) (hl : p = logErr b → err' = res) :
    At b res err' p := by
  cases h with
  | calling => exact .calling
  | storing => exact .storing
  | testing => exact .testing (ht rfl)
  | reading _ hne => exact .reading (hl rfl) hne
  | logging hne => exact .logging hne
  | printing => exact .printing
  | finished => exact .finished

theorem At.ne_panic (h : At b res err p) : p ≠ .panic := by
  intro hp
  cases h with
  | calling =>
    obtain ⟨o, f, heq, -⟩ := goroutine_eq b
    rw [heq] at hp
    cases hp
  | _ => cases hp

/-- A goroutine calls `WithError` with the error that it got. -/
theorem At.withError {e : Option GoErr} {k : Option Unit → Marking Unit} (h : At b res err p)
    (hp : p = .op (.withError e) k) : e = res ∧ e ≠ none := by
  cases h with
  | calling =>
    obtain ⟨o, f, heq, -⟩ := goroutine_eq b
    rw [heq] at hp
    cases hp
  | logging hne =>
    cases hp
    exact ⟨rfl, hne⟩
  | _ => cases hp

variable {answer : ι → (o : MonitorOp) → o.Ans}

/-- One operation of a goroutine: where it is afterwards, and what it makes of the variable. -/
theorem At.op {i : ι} {o : MarkingOp} {k : o.Ans → Marking Unit} {a : o.Ans}
    (h : At b (returned b (answer i)) err p) (hp : p = .op o k)
    (hs : (system answer).sem i o err a err') :
    At b (returned b (answer i)) err' (k a) ∧
      (err' = err ∨ p = storeErr b (returned b (answer i)) ∧ err' = returned b (answer i)) := by
  cases h with
  | calling =>
    obtain ⟨o', f, heq, hf⟩ := goroutine_eq b
    rw [heq] at hp
    cases hp
    obtain ⟨rfl, rfl⟩ := hs
    refine ⟨?_, Or.inl rfl⟩
    show At b _ _ (storeErr b (f (answer i o')))
    rw [hf]
    exact .storing
  | storing =>
    cases hp
    cases hs
    exact ⟨.testing (Or.inr rfl), Or.inr ⟨rfl, rfl⟩⟩
  | testing h =>
    rw [testErr_eq] at hp
    cases hp
    obtain ⟨rfl, rfl⟩ := hs
    refine ⟨?_, Or.inl rfl⟩
    show At b _ err' (if err' ≠ none then logErr b else ret ())
    by_cases hnil : err' = none
    · rw [if_neg (not_not.mpr hnil)]
      exact .finished
    · rw [if_pos hnil]
      -- the test read what the goroutine had stored
      have hown := h.resolve_left hnil
      exact .reading hown (hown ▸ hnil)
  | reading h hne =>
    cases hp
    obtain ⟨rfl, rfl⟩ := hs
    subst h
    exact ⟨.logging hne, Or.inl rfl⟩
  | logging hne =>
    cases hp
    obtain ⟨rfl, rfl⟩ := hs
    refine ⟨?_, Or.inl rfl⟩
    obtain ⟨e, he⟩ := Option.ne_none_iff_exists'.mp hne
    rw [he]
    exact .printing
  | printing =>
    cases hp
    cases hs
    exact ⟨.finished, Or.inl rfl⟩
  | finished => cases hp

end At

section Runs

variable {m answer} [DecidableEq ι]
variable {P Q : Pool ι MarkingOp MarkingOp.Ans Unit (Option GoErr)}

/-- A calm step keeps every goroutine at its place. -/
theorem at_step (h : ∀ i, At (m i) (own m answer i) P.state (P.procs i))
    (hs : (system answer).Step P Q) (hc : Calm m answer P Q) :
    ∀ i, At (m i) (own m answer i) Q.state (Q.procs i) := by
  cases hs with
  | op i hp hsem =>
    rename_i o k a err'
    intro j
    by_cases hj : j = i
    · subst hj
      simp only [Function.update_self]
      exact ((h j).op hp hsem).1
    · simp only [Function.update_of_ne hj]
      by_cases hsame : err' = P.state
      · subst hsame
        exact h j
      · obtain ⟨ht, hl⟩ := hc hsame j
        exact (h j).of_state ht hl
  | env he => exact he.elim

/-- The runs of calm steps. -/
def CalmRun (m : ι → BackendMsg × Bool) (answer : ι → (o : MonitorOp) → o.Ans) :
    (P Q : Pool ι MarkingOp MarkingOp.Ans Unit (Option GoErr)) → Prop :=
  Relation.ReflTransGen fun P Q => (system answer).Step P Q ∧ Calm m answer P Q

theorem CalmRun.at (h : CalmRun m answer ⟨fun i => goroutine (m i), none⟩ P) :
    ∀ i, At (m i) (own m answer i) P.state (P.procs i) := by
  induction h with
  | refl => exact fun i => .calling
  | tail _ hs ih => exact at_step ih hs.1 hs.2

omit [DecidableEq ι] in
theorem logsOwn_of_at (h : ∀ i, At (m i) (own m answer i) P.state (P.procs i)) :
    LogsOwn m answer P :=
  fun i => ⟨(h i).ne_panic, fun _ _ hp => (h i).withError hp⟩

/-- Goroutines that all get the same only take calm steps. -/
theorem calm_of_own_eq (hown : ∀ i j, own m answer i = own m answer j)
    (h : ∀ i, At (m i) (own m answer i) P.state (P.procs i)) (hs : (system answer).Step P Q) :
    Calm m answer P Q := by
  intro hne j
  cases hs with
  | op i hp hsem =>
    obtain hsame | ⟨-, hown_i⟩ := ((h i).op hp hsem).2
    · exact absurd hsame hne
    · have hj := hown_i.trans (hown i j)
      exact ⟨fun _ => Or.inr hj, fun _ => hj⟩
  | env he => exact he.elim

/-- One goroutine moves. -/
theorem reachable_op {procs : ι → Marking Unit} {err err' : Option GoErr} {i : ι} {o : MarkingOp}
    {k : o.Ans → Marking Unit} {a : o.Ans} (hp : procs i = .op o k)
    (hs : (system answer).sem i o err a err') :
    (system answer).Reachable ⟨procs, err⟩ ⟨Function.update procs i (k a), err'⟩ :=
  Relation.ReflTransGen.single (System.Step.op i hp hs)

/-- A goroutine that is about to read an error that is not its own goes on to log it. -/
theorem exists_of_reading {j : ι} (hp : P.procs j = logErr (m j))
    (herr : P.state ≠ own m answer j) :
    ∃ R, (system answer).Reachable P R ∧ ¬ LogsOwn m answer R := by
  have hread : (system answer).Reachable P
      ⟨Function.update P.procs j (withError (m j) P.state), P.state⟩ := reachable_op hp ⟨rfl, rfl⟩
  refine ⟨_, hread, fun h => ?_⟩
  have hlogs := (h j).2 P.state
  simp only [Function.update_self] at hlogs
  exact herr (hlogs _ rfl).1

theorem exists_of_testing {j : ι} (hp : P.procs j = testErr (m j)) (hnil : P.state ≠ none)
    (herr : P.state ≠ own m answer j) :
    ∃ R, (system answer).Reachable P R ∧ ¬ LogsOwn m answer R := by
  have htest : (system answer).Reachable P
      ⟨Function.update P.procs j (if P.state ≠ none then logErr (m j) else ret ()), P.state⟩ :=
    reachable_op hp ⟨rfl, rfl⟩
  rw [if_pos hnil] at htest
  obtain ⟨R, hreach, hR⟩ : ∃ R, (system answer).Reachable
      ⟨Function.update P.procs j (logErr (m j)), P.state⟩ R ∧ ¬ LogsOwn m answer R :=
    exists_of_reading (Function.update_self ..) herr
  exact ⟨R, htest.trans hreach, hR⟩

/-- After a step that is not calm, one goroutine is enough to log an error of another. -/
theorem exists_not_logsOwn (hs : (system answer).Step P Q) (hc : ¬ Calm m answer P Q) :
    ∃ R, (system answer).Reachable Q R ∧ ¬ LogsOwn m answer R := by
  unfold Calm at hc
  push Not at hc
  obtain ⟨hne, j, hj⟩ := hc
  cases hs with
  | op i hp hsem =>
    rename_i o k a err'
    -- the goroutine that reads next is not the one that stored
    have hother : P.procs j = testErr (m j) ∨ P.procs j = logErr (m j) → j ≠ i := by
      rintro (hread | hread) rfl
      · rw [hread] at hp
        cases hp
        exact hne hsem.2
      · rw [hread] at hp
        cases hp
        exact hne hsem.2
    by_cases ht : P.procs j = testErr (m j) ∧ err' ≠ none ∧ err' ≠ own m answer j
    · obtain ⟨hread, hnil, herr⟩ := ht
      refine exists_of_testing (j := j) ?_ hnil herr
      simpa only [Function.update_of_ne (hother (Or.inl hread))] using hread
    · obtain ⟨hread, herr⟩ := hj fun hread => by
        by_contra hcon
        push Not at hcon
        exact ht ⟨hread, hcon⟩
      refine exists_of_reading (j := j) ?_ herr
      simpa only [Function.update_of_ne (hother (Or.inr hread))] using hread
  | env he => exact he.elim

/-- A goroutine can run up to its test. -/
theorem reachable_testing {procs : ι → Marking Unit} {err : Option GoErr} {i : ι}
    (hp : procs i = goroutine (m i)) :
    (system answer).Reachable ⟨procs, err⟩
      ⟨Function.update procs i (testErr (m i)), own m answer i⟩ := by
  obtain ⟨o, f, heq, hf⟩ := goroutine_eq (m i)
  have hcall : (system answer).Reachable ⟨procs, err⟩
      ⟨Function.update procs i (storeErr (m i) (f (answer i o))), err⟩ :=
    reachable_op (hp.trans heq) ⟨rfl, rfl⟩
  have hstore : (system answer).Reachable
      ⟨Function.update procs i (storeErr (m i) (own m answer i)), err⟩
      ⟨Function.update (Function.update procs i (storeErr (m i) (own m answer i))) i
        (testErr (m i)), own m answer i⟩ :=
    reachable_op (a := ()) (Function.update_self ..) rfl
  rw [Function.update_idem] at hstore
  rw [hf] at hcall
  exact hcall.trans hstore

/-- A goroutine whose RPC failed can run up to its log line. -/
theorem reachable_reading {procs : ι → Marking Unit} {err : Option GoErr} {i : ι}
    (hp : procs i = goroutine (m i)) (hne : own m answer i ≠ none) :
    (system answer).Reachable ⟨procs, err⟩
      ⟨Function.update procs i (logErr (m i)), own m answer i⟩ := by
  have htest : (system answer).Reachable
      ⟨Function.update procs i (testErr (m i)), own m answer i⟩
      ⟨Function.update (Function.update procs i (testErr (m i))) i
        (if own m answer i ≠ none then logErr (m i) else ret ()), own m answer i⟩ :=
    reachable_op (Function.update_self ..) ⟨rfl, rfl⟩
  rw [if_pos hne, Function.update_idem] at htest
  exact (reachable_testing hp).trans htest

/-- A goroutine that failed, and another one with another outcome: the second one overwrites what
the first one is about to log. -/
theorem exists_of_own_ne {i j : ι} (hi : own m answer i ≠ none)
    (hne : own m answer i ≠ own m answer j) :
    ∃ R, (system answer).Reachable ⟨fun i => goroutine (m i), none⟩ R ∧
      ¬ LogsOwn m answer R := by
  have hij : j ≠ i := by
    rintro rfl
    exact hne rfl
  let reading : ι → Marking Unit := Function.update (fun i => goroutine (m i)) i (logErr (m i))
  have hfirst : (system answer).Reachable ⟨fun i => goroutine (m i), none⟩
      ⟨reading, own m answer i⟩ := reachable_reading rfl hi
  have hsecond : (system answer).Reachable ⟨reading, own m answer i⟩
      ⟨Function.update reading j (testErr (m j)), own m answer j⟩ :=
    reachable_testing (Function.update_of_ne hij ..)
  obtain ⟨R, hreach, hR⟩ : ∃ R, (system answer).Reachable
      ⟨Function.update reading j (testErr (m j)), own m answer j⟩ R ∧ ¬ LogsOwn m answer R :=
    exists_of_reading ((Function.update_of_ne hij.symm ..).trans (Function.update_self ..)) hne.symm
  exact ⟨R, (hfirst.trans hsecond).trans hreach, hR⟩

theorem reachable_logsOwn_iff :
    (∀ P, (system answer).Reachable ⟨fun i => goroutine (m i), none⟩ P → LogsOwn m answer P) ↔
      ∀ i j, own m answer i = own m answer j := by
  constructor
  · intro h i j
    by_contra hne
    by_cases hi : own m answer i = none
    · have hj : own m answer j ≠ none := fun hj => hne (hi.trans hj.symm)
      obtain ⟨R, hreach, hR⟩ := exists_of_own_ne hj (Ne.symm hne)
      exact hR (h R hreach)
    · obtain ⟨R, hreach, hR⟩ := exists_of_own_ne hi hne
      exact hR (h R hreach)
  · intro hown P hreach
    refine logsOwn_of_at ?_
    induction hreach with
    | refl => exact fun i => .calling
    | tail _ hs ih => exact at_step ih hs (calm_of_own_eq hown ih hs)

end Runs

section Execute

variable (newStates : BackendsNewState)
variable (answer : Fin (Monitor.marks newStates).length → (o : MonitorOp) → o.Ans)

/-- **The error that a goroutine of `Execute` logs.** In every run of calm steps each goroutine
logs the error that its own RPC returned; any other step is one after which some goroutine can log
another's error, or panic on nil. All runs are right exactly if all RPCs return the same. -/
theorem execute_logsOwn_iff :
    (∀ P, CalmRun (Monitor.marks newStates).get answer (start newStates) P →
      LogsOwn (Monitor.marks newStates).get answer P) ∧
    (∀ P Q, CalmRun (Monitor.marks newStates).get answer (start newStates) P →
      (system answer).Step P Q → ¬ Calm (Monitor.marks newStates).get answer P Q →
      ∃ R, (system answer).Reachable Q R ∧ ¬ LogsOwn (Monitor.marks newStates).get answer R) ∧
    ((∀ P, (system answer).Reachable (start newStates) P →
        LogsOwn (Monitor.marks newStates).get answer P) ↔
      ∀ i j, own (Monitor.marks newStates).get answer i =
        own (Monitor.marks newStates).get answer j) := by
  refine ⟨fun P hrun => ?_, fun P Q _ hs hc => ?_, ?_⟩
  · exact logsOwn_of_at (CalmRun.at hrun)
  · exact exists_not_logsOwn hs hc
  · exact reachable_logsOwn_iff

end Execute

/-- An `Execute` that marks one backend as unhealthy and one as healthy. -/
def oneOfEach : BackendsNewState where
  unhealthy := [{ id := "down" }]
  healthy := [{ id := "up" }]

/-- `MarkUnhealthyBackend` fails and every other RPC succeeds. -/
def markUnhealthyFails : (o : MonitorOp) → o.Ans
  | .check (.isTimeInCron _) | .check (.isClusterUp _) | .check (.isClusterHealthy _) => .ok true
  | .check (.runQuery _ _) => .ok ⟨[], none⟩
  | .listAllBackends => .ok []
  | .updateClusterLoadBackend _ _ | .markHealthyBackend _ => .ok ()
  | .markUnhealthyBackend _ => .error (.text "timeout")

/-- The system's one way to perform an operation that has no choice left. -/
def handler (answer : ι → (o : MonitorOp) → o.Ans) (i : ι) :
    (o : MarkingOp) → Option GoErr → o.Ans × Option GoErr
  | .rpc o, err => (answer i o, err)
  | .setErr e, _ => ((), e)
  | .getErr, err => (err, err)
  | .withError e, err => (e.map fun _ => (), err)
  | .errorw _ _, err => ((), err)

/-- The two goroutines overlap: the one that failed has tested `err`, the other one stores nil, and
`WithError` gets nil. -/
theorem overlap_panics :
    ∃ P, (system fun _ => markUnhealthyFails).Reachable (start oneOfEach) P ∧
      P.procs ⟨0, by decide⟩ = .panic ∧
      ¬ LogsOwn (Monitor.marks oneOfEach).get (fun _ => markUnhealthyFails) P := by
  have hhandler : ∀ (i : Fin (Monitor.marks oneOfEach).length) o err,
      (system fun _ => markUnhealthyFails).sem i o err
        (handler (fun _ => markUnhealthyFails) i o err).1
        (handler (fun _ => markUnhealthyFails) i o err).2 := by
    intro i o err
    cases o <;> simp [system, handler]
  have hreach := (system fun _ => markUnhealthyFails).foldl_perform_reachable hhandler
    [⟨0, by decide⟩, ⟨0, by decide⟩, ⟨0, by decide⟩, ⟨1, by decide⟩, ⟨1, by decide⟩,
      ⟨0, by decide⟩, ⟨0, by decide⟩] (start oneOfEach)
  refine ⟨_, hreach, rfl, fun h => ?_⟩
  exact (h ⟨0, by decide⟩).1 rfl

end Marking

end TrinoGateway
