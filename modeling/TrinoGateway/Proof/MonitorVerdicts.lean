import TrinoGateway.Spec.Monitor

/-!
# The verdicts of the monitor

A run of the evaluation in which everything that is asked about a backend may have any outcome, also
a different one for each time that the backend is in the list.

`evaluateBackendNewState_splits`: **the list is split in order, by whether a backend's own outcomes
are all good**. The outcome of the report of the load is not among those (`healthy_of_sameChecks`).
-/

namespace TrinoGateway.Monitor

open Interact Prog

/-- What becomes of everything that may be asked, while one backend is evaluated. -/
abbrev Outcomes := (o : MonitorOp) → o.Ans

/-- The client that probes a backend. -/
def probeClient (cfg : MonitorConfig) (b : BackendMsg) : TrinoClient :=
  { scheme := BackendApi.schemeName b.scheme, host := b.hostname, user := cfg.user }

/-- The load that a backend's query yields. -/
def measured (cfg : MonitorConfig) (b : BackendMsg) (out : Outcomes) : Result Int32 :=
  (out (.check (.runQuery { probeClient cfg b with pass := cfg.password } (loadQuery cfg)))).bind
    fun rows => rows.scan.map fun stats => computeClusterLoad (stats.foldl ClusterLoadStats.count {})

/-- Everything that the verdict on a backend depends on is good. -/
structure Healthy (cfg : MonitorConfig) (b : BackendMsg) (out : Outcomes) : Prop where
  scheduled : out (.check (.isTimeInCron b.uptimeSchedule)) = .ok true
  up : out (.check (.isClusterUp (probeClient cfg b))) = .ok true
  healthy : out (.check (.isClusterHealthy (probeClient cfg b))) = .ok true
  load : ∃ load, measured cfg b out = .ok load ∧
    (b.thresholdClusterLoad = 0 ∨ load.toInt ≤ b.thresholdClusterLoad)

variable {cfg : MonitorConfig}

/-- The load is obtained and within the threshold. -/
def loadGood (cfg : MonitorConfig) (b : BackendMsg) (out : Outcomes) : Bool :=
  match measured cfg b out with
  | .error _ => false
  | .ok load => b.thresholdClusterLoad = 0 ∨ load.toInt ≤ b.thresholdClusterLoad

theorem loadGood_iff {b : BackendMsg} {out : Outcomes} : loadGood cfg b out = true ↔
    ∃ load, measured cfg b out = .ok load ∧
      (b.thresholdClusterLoad = 0 ∨ load.toInt ≤ b.thresholdClusterLoad) := by
  unfold loadGood
  cases measured cfg b out with
  | error e => simp
  | ok load => simp

instance (b : BackendMsg) (out : Outcomes) : Decidable (Healthy cfg b out) :=
  decidable_of_iff
    (out (.check (.isTimeInCron b.uptimeSchedule)) = .ok true ∧
      out (.check (.isClusterUp (probeClient cfg b))) = .ok true ∧
      out (.check (.isClusterHealthy (probeClient cfg b))) = .ok true ∧ loadGood cfg b out = true)
    ⟨fun h => ⟨h.1, h.2.1, h.2.2.1, loadGood_iff.mp h.2.2.2⟩,
      fun h => ⟨h.1, h.2, h.3, loadGood_iff.mpr h.4⟩⟩

/-- Only the checks count. -/
theorem healthy_of_sameChecks {b : BackendMsg} {out out' : Outcomes}
    (h : ∀ c, out (.check c) = out' (.check c)) : Healthy cfg b out ↔ Healthy cfg b out' := by
  have hload : measured cfg b out = measured cfg b out' := by
    unfold measured
    rw [h]
  constructor
  · intro ⟨hs, hu, hh, hl⟩
    exact ⟨h _ ▸ hs, h _ ▸ hu, h _ ▸ hh, hload ▸ hl⟩
  · intro ⟨hs, hu, hh, hl⟩
    exact ⟨h _ ▸ hs, h _ ▸ hu, h _ ▸ hh, hload ▸ hl⟩

/-- The answers for some backends, one after the other: the check of a schedule begins the next one
of the outcomes. -/
def inTurn (items : List BackendMsg) :
    (o : MonitorOp) → Outcomes × List Outcomes → o.Ans × (Outcomes × List Outcomes)
  | .listAllBackends, st => (.ok (items.map some), st)
  | .check (.isTimeInCron sched), (_, out :: rest) =>
    (out (.check (.isTimeInCron sched)), (out, rest))
  | o, (out, rest) => (out o, (out, rest))

section Run

variable (items : List BackendMsg) (b : BackendMsg) (out : Outcomes) (rest : List Outcomes)

theorem getBackendLoad_run : (getBackendLoad cfg b).run (inTurn items) (out, rest) =
    (some (measured cfg b out), (out, rest)) := by
  simp only [getBackendLoad, check, bind_eq, perform_bind, run_op, inTurn, measured, probeClient]
  cases out (.check (.runQuery _ (loadQuery cfg))) with
  | error e => rfl
  | ok rows =>
    simp only [Except.bind]
    cases rows.scan with
    | error e => rfl
    | ok stats => rfl

theorem isBackendUp_run : ∃ res,
    (isBackendUp cfg b).run (inTurn items) (out, rest) = (some res, (out, rest)) ∧
      (res = .ok true ↔ out (.check (.isClusterUp (probeClient cfg b))) = .ok true ∧
        out (.check (.isClusterHealthy (probeClient cfg b))) = .ok true) := by
  simp only [isBackendUp, check, bind_eq, perform_bind, run_op, inTurn]
  rw [← probeClient.eq_def]
  cases out (.check (.isClusterUp (probeClient cfg b))) with
  | error e => exact ⟨.error e, rfl, by simp⟩
  | ok isUp =>
    cases isUp with
    | false => exact ⟨.ok false, rfl, by simp⟩
    | true => exact ⟨_, rfl, by simp [inTurn]⟩

/-- The error of the report of the load is dropped. -/
theorem isBackendHealthy_run : ∃ res,
    (isBackendHealthy cfg b).run (inTurn items) (out, rest) = (some res, (out, rest)) ∧
      (res = .ok true ↔ out (.check (.isClusterUp (probeClient cfg b))) = .ok true ∧
        out (.check (.isClusterHealthy (probeClient cfg b))) = .ok true ∧
        loadGood cfg b out = true) := by
  obtain ⟨up, hrun, hup⟩ := @isBackendUp_run cfg items b out rest
  unfold isBackendHealthy
  rw [← and_assoc, ← hup]
  rcases up with e | isUp
  · exact ⟨_, run_andThen_error _ hrun, by simp⟩
  · rw [run_andThen_ok _ hrun]
    cases isUp with
    | false => exact ⟨.ok false, rfl, by simp⟩
    | true =>
      simp only [if_true, bind_eq]
      rw [run_bind_some _ (getBackendLoad_run items b out rest), loadGood]
      cases measured cfg b out with
      | error e => exact ⟨.error e, rfl, by simp⟩
      | ok load => exact ⟨_, rfl, by simp⟩

/-- **One backend**: what it is appended to is decided by its own outcomes. -/
theorem isHealthy_run (prev : Outcomes) :
    (isHealthy cfg b).run (inTurn items) (prev, out :: rest) =
      (some (decide (Healthy cfg b out)), (out, rest)) := by
  have hiff : Healthy cfg b out ↔ out (.check (.isTimeInCron b.uptimeSchedule)) = .ok true ∧
      out (.check (.isClusterUp (probeClient cfg b))) = .ok true ∧
      out (.check (.isClusterHealthy (probeClient cfg b))) = .ok true ∧
      loadGood cfg b out = true := by
    rw [loadGood_iff]
    exact ⟨fun h => ⟨h.1, h.2, h.3, h.4⟩, fun h => ⟨h.1, h.2.1, h.2.2.1, h.2.2.2⟩⟩
  obtain ⟨res, hrun, hres⟩ := @isBackendHealthy_run cfg items b out rest
  rw [← hres] at hiff
  simp only [isHealthy, isCurrentTimeInCron, check, bind_eq, perform_bind, run_op, inTurn]
  cases hs : out (.check (.isTimeInCron b.uptimeSchedule)) with
  | error e => simp [hiff, hs, pure_eq]
  | ok isEligible =>
    cases isEligible with
    | false => simp [hiff, hs, pure_eq]
    | true =>
      simp only [if_true]
      rw [run_bind_some _ hrun]
      rcases res with e | isHealthy
      · simp [hiff, pure_eq]
      · simp [hiff, hs, pure_eq]

end Run

/-- The loop appends each backend to one of the two lists. -/
theorem evaluateBackends_run (items : List BackendMsg) (st : BackendsNewState) (prev : Outcomes)
    (runs : List (BackendMsg × Outcomes)) :
    ((evaluateBackends cfg st (runs.map fun x => some x.1)).run (inTurn items)
        (prev, runs.map Prod.snd)).1 =
      some (.ok
        { healthy := st.healthy ++ (runs.filter fun x => Healthy cfg x.1 x.2).map Prod.fst
          unhealthy := st.unhealthy ++ (runs.filter fun x => ¬ Healthy cfg x.1 x.2).map Prod.fst }) := by
  induction runs generalizing st prev with
  | nil => simp [evaluateBackends, pure_eq]
  | cons x runs ih =>
    obtain ⟨b, out⟩ := x
    simp only [List.map_cons, evaluateBackends, bind_eq]
    rw [run_bind_some _ (isHealthy_run items b out _ prev)]
    by_cases h : Healthy cfg b out
    · simp only [h, decide_true, if_true]
      rw [ih]
      simp [h]
    · simp only [h, decide_false, Bool.false_eq_true, if_false]
      rw [ih]
      simp [h]

/-- **How the backends are split**: each time that a backend is in the list it goes to one of the two
lists, in order, by its own outcomes; whatever becomes of the reports of loads, the verdict is the
same. -/
theorem evaluateBackendNewState_splits (cfg : MonitorConfig) (runs : List (BackendMsg × Outcomes))
    (first : Outcomes) :
    ∃ newStates, ((evaluateBackendNewState cfg).run (inTurn (runs.map Prod.fst))
        (first, runs.map Prod.snd)).1 = some (.ok newStates) ∧
      newStates.healthy = (runs.filter fun x => Healthy cfg x.1 x.2).map Prod.fst ∧
      newStates.unhealthy = (runs.filter fun x => ¬ Healthy cfg x.1 x.2).map Prod.fst ∧
      (newStates.healthy ++ newStates.unhealthy).Perm (runs.map Prod.fst) ∧
      ∀ b out out', (∀ c, out (.check c) = out' (.check c)) →
        (Healthy cfg b out ↔ Healthy cfg b out') := by
  refine ⟨⟨_, _⟩, ?_, rfl, rfl, ?_, fun b out out' h => healthy_of_sameChecks h⟩
  · have hitems : (getAllBackends.run (inTurn (runs.map Prod.fst)) (first, runs.map Prod.snd)) =
        (some (.ok (runs.map fun x => some x.1)), (first, runs.map Prod.snd)) := by
      simp [getAllBackends, bind_eq, inTurn, pure_eq]
    rw [evaluateBackendNewState, run_andThen_ok _ hitems, evaluateBackends_run]
    rfl
  · have hperm := List.filter_append_perm (fun x : BackendMsg × Outcomes => Healthy cfg x.1 x.2) runs
    rw [← List.map_append]
    refine List.Perm.map _ ?_
    simpa using hperm

end TrinoGateway.Monitor
