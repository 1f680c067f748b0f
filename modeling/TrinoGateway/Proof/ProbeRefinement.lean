import TrinoGateway.Lib.Traces
import TrinoGateway.Spec.Probes

/-!
# The probes do what the monitor takes them for

`Monitor` is the evaluation with a single answer for each check of a cluster.
`Probe.evaluateBackendNewState_refines`: **every result of the evaluation with all its calls to the
clusters is one of that simple one, after the same schedules, RPCs and answers**. What holds of all
runs of `Monitor` holds of the monitor as it is written.
-/

namespace TrinoGateway

open Interact Prog

/-- What the gateway server and the clock see of the monitor. -/
def Monitor.seen : Call MonitorOp MonitorOp.Ans → Option (Call MonitorOp MonitorOp.Ans)
  | ⟨.check (.isTimeInCron sched), x⟩ => some ⟨.check (.isTimeInCron sched), x⟩
  | ⟨.check (.isClusterUp _), _⟩ | ⟨.check (.isClusterHealthy _), _⟩
  | ⟨.check (.runQuery _ _), _⟩ => none
  | ⟨.listAllBackends, x⟩ => some ⟨.listAllBackends, x⟩
  | ⟨.updateClusterLoadBackend id load, x⟩ => some ⟨.updateClusterLoadBackend id load, x⟩
  | ⟨.markHealthyBackend id, x⟩ => some ⟨.markHealthyBackend id, x⟩
  | ⟨.markUnhealthyBackend id, x⟩ => some ⟨.markUnhealthyBackend id, x⟩

namespace Probe

/-- What they see of the monitor with its probes. -/
def seen : Call ProbeOp ProbeOp.Ans → Option (Call MonitorOp MonitorOp.Ans)
  | ⟨.isTimeInCron sched, x⟩ => some ⟨.check (.isTimeInCron sched), x⟩
  | ⟨.listAllBackends, x⟩ => some ⟨.listAllBackends, x⟩
  | ⟨.updateClusterLoadBackend id load, x⟩ => some ⟨.updateClusterLoadBackend id load, x⟩
  | _ => none

/-- A call to a cluster, or within the monitor. -/
abbrev Unseen (o : ProbeOp) : Prop := ∀ x, seen ⟨o, x⟩ = none

theorem unseen_isClusterUp (t : TrinoClient) : (isClusterUp t).AllOps Unseen := by
  refine ⟨fun _ => rfl, fun res => ?_⟩
  cases res with
  | error err => trivial
  | ok resp =>
    show AllOps Unseen (if ¬ (200 ≤ resp.statusCode ∨ resp.statusCode ≤ 300) then _ else _)
    split
    · trivial
    · refine AllOps.deferring ⟨fun _ => rfl, fun _ => trivial⟩ ?_
      split
      · trivial
      · refine (allOps_deref _).bind fun info => ?_
        split
        · trivial
        · split
          · trivial
          · trivial

theorem unseen_runQuery (t : TrinoClient) (q : String) : (runQuery t q).AllOps Unseen := by
  have hinit : (initTrinoDbClient t).AllOps Unseen :=
    AllOps.andThen ⟨fun _ => rfl, fun _ => trivial⟩ fun _ => ⟨fun _ => rfl, fun _ => trivial⟩
  refine AllOps.andThen ⟨fun _ => rfl, fun hasDb => ?_⟩ fun _ => ?_
  · cases hasDb with
    | false => exact hinit
    | true => trivial
  · exact AllOps.andThen ⟨fun _ => rfl, fun _ => trivial⟩ fun _ => ⟨fun _ => rfl, fun _ => trivial⟩

theorem unseen_isClusterHealthy (sql : String) (t : TrinoClient) :
    (isClusterHealthy sql t).AllOps Unseen := by
  have hdrain : ∀ rows, (drain rows).AllOps Unseen := by
    intro rows
    induction rows with
    | nil => exact ⟨fun _ => rfl, fun _ => trivial⟩
    | cons row rows ih => exact ⟨fun _ => rfl, fun _ => ih⟩
  refine (unseen_runQuery t sql).andThen fun rows => ?_
  refine AllOps.deferring ⟨fun _ => rfl, fun _ => trivial⟩ ((hdrain _).bind fun _ => ?_)
  split
  · trivial
  · trivial

theorem unseen_scanRows (rows : List (Result StateStat)) (acc : List StateStat) :
    (scanRows acc rows).AllOps Unseen := by
  induction rows generalizing acc with
  | nil => exact ⟨fun _ => rfl, fun _ => trivial⟩
  | cons row rows ih =>
    refine ⟨fun _ => rfl, fun _ => ⟨fun _ => rfl, fun _ => ?_⟩⟩
    cases row with
    | error err => trivial
    | ok res => exact ih _

theorem unseen_teardown : teardown.AllOps Unseen := by
  refine ⟨fun _ => rfl, fun hasDb => ?_⟩
  cases hasDb with
  | false => trivial
  | true => exact ⟨fun _ => rfl, fun _ => trivial⟩

theorem unseen_getBackendLoad (cfg : ProbeConfig) (b : BackendMsg) :
    (getBackendLoad cfg b).AllOps Unseen := by
  refine ⟨fun _ => rfl, fun _ => AllOps.deferring unseen_teardown ?_⟩
  refine (unseen_runQuery _ _).andThen fun rows => ?_
  refine AllOps.deferring ⟨fun _ => rfl, fun _ => trivial⟩ ((unseen_scanRows _ _).andThen fun _ => ?_)
  split
  · trivial
  · trivial

/-- Scanning row after row gives all rows, or the first error. -/
theorem scanRows_yields (rows : List (Result StateStat)) (acc : List StateStat) :
    (scanRows acc rows).Yields fun res => res = (rows.mapM id).map (acc ++ ·) := by
  induction rows generalizing acc with
  | nil =>
    intro _
    show Except.ok acc = Except.ok (acc ++ [])
    rw [List.append_nil]
  | cons row rows ih =>
    intro _ _
    cases row with
    | error err => exact rfl
    | ok res =>
      refine (ih (acc ++ [res])).mono fun r hr => ?_
      rw [hr, List.mapM_cons]
      cases hall : rows.mapM id with
      | error err => rfl
      | ok stats =>
        show Except.ok (acc ++ [res] ++ stats) = Except.ok (acc ++ res :: stats)
        rw [List.append_assoc]
        rfl

/-- What `Monitor` makes of the rows. -/
def rowsLoad (rows : Rows) : Result Int32 :=
  match Rows.scan rows with
  | .error err => .error err
  | .ok stats => .ok (computeClusterLoad (stats.foldl ClusterLoadStats.count {}))

def loadOf : Result Rows → Result Int32
  | .error err => .error err
  | .ok rows => rowsLoad rows

/-- The load of rows that were scanned, and then ended with an error or without one. -/
def scannedLoad (err : Option GoErr) : Result (List StateStat) → Result Int32
  | .error e => .error e
  | .ok stats =>
    match err with
    | some e => .error e
    | none => .ok (computeClusterLoad (stats.foldl ClusterLoadStats.count {}))

theorem rowsLoad_eq (rows : Rows) :
    rowsLoad rows = scannedLoad rows.err ((rows.scans.mapM id).map ([] ++ ·)) := by
  unfold rowsLoad Rows.scan
  cases rows.scans.mapM id with
  | error err => rfl
  | ok stats =>
    show _ = scannedLoad rows.err (.ok stats)
    unfold scannedLoad
    cases rows.err with
    | some err => rfl
    | none => rfl

/-- The load is that of the rows that some answer to the query could give at once. -/
theorem getBackendLoad_yields (cfg : ProbeConfig) (b : BackendMsg) :
    (getBackendLoad cfg b).Yields fun res => ∃ rows, res = loadOf rows := by
  intro _
  refine Yields.deferring ((yields_true (runQuery _ _)).bind fun res _ => ?_)
  cases res with
  | error err => exact ⟨.error err, rfl⟩
  | ok rows =>
    refine Yields.deferring ((scanRows_yields rows.scans []).bind fun res hres => ?_)
    have hload : loadOf (.ok rows) = scannedLoad rows.err res := by
      rw [hres]
      exact rowsLoad_eq rows
    cases res with
    | error err => exact ⟨.ok rows, hload.symm⟩
    | ok stats =>
      unfold scannedLoad at hload
      cases herr : rows.err with
      | some err =>
        rw [herr] at hload
        exact ⟨.ok rows, hload.symm⟩
      | none =>
        rw [herr] at hload
        exact ⟨.ok rows, hload.symm⟩

/-- A part of the monitor, and what the monitor takes it for. -/
abbrev Does {α : Type} (p : Probe α) (q : Monitor α) : Prop :=
  Refines seen Monitor.seen (fun a b => a = b) p q

variable (cfg : ProbeConfig)

theorem isBackendUp_does (b : BackendMsg) :
    Does (isBackendUp cfg b) (Monitor.isBackendUp cfg.toMonitorConfig b) := by
  refine Refines.skip (fun _ => rfl) fun _ => Refines.deferring unseen_teardown ?_
  have hup : Does (isClusterUp (upClient cfg b)) (Monitor.check (.isClusterUp (upClient cfg b))) :=
    refines_op (unseen_isClusterUp _) (yields_true _) (fun _ => rfl) fun a _ => ⟨a, a, rfl, rfl⟩
  refine hup.bind fun res res' hres => ?_
  subst hres
  cases res with
  | error err => exact Refines.ret rfl
  | ok isUp =>
    cases isUp with
    | false => exact Refines.ret rfl
    | true =>
      exact refines_op (unseen_isClusterHealthy _ _) (yields_true _) (fun _ => rfl)
        fun a _ => ⟨a, a, rfl, rfl⟩

theorem getBackendLoad_does (b : BackendMsg) :
    Does (getBackendLoad cfg b) (Monitor.getBackendLoad cfg.toMonitorConfig b) := by
  refine refines_op (unseen_getBackendLoad cfg b) (getBackendLoad_yields cfg b) (fun _ => rfl) ?_
  rintro res ⟨rows, rfl⟩
  refine ⟨rows, loadOf rows, ?_, rfl⟩
  cases rows with
  | error err => rfl
  | ok rows =>
    show (match Rows.scan rows with
      | .error err => (return .error err : Monitor (Result Int32))
      | .ok stats => return .ok (computeClusterLoad (stats.foldl ClusterLoadStats.count {}))) =
        Prog.ret (rowsLoad rows)
    unfold rowsLoad
    cases Rows.scan rows with
    | error err => rfl
    | ok stats => rfl

theorem isBackendHealthy_does (b : BackendMsg) :
    Does (isBackendHealthy cfg b) (Monitor.isBackendHealthy cfg.toMonitorConfig b) := by
  refine (isBackendUp_does cfg b).bind fun res res' hres => ?_
  subst hres
  cases res with
  | error err => exact Refines.ret rfl
  | ok isUp =>
    cases isUp with
    | false => exact Refines.ret rfl
    | true =>
      refine (getBackendLoad_does cfg b).bind fun res res' hres => ?_
      subst hres
      cases res with
      | error err => exact Refines.ret rfl
      | ok load =>
        have hupdate : Does (updateBackendClusterLoad b.id load)
            (perform (MonitorOp.updateClusterLoadBackend b.id load.toInt)) := by
          refine Refines.deferring ⟨fun _ => rfl, fun _ => trivial⟩ ?_
          exact Refines.op fun x => ⟨x, rfl, Refines.ret rfl⟩
        exact hupdate.bind fun _ _ _ => Refines.ret rfl

theorem isHealthy_does (b : BackendMsg) :
    Does (isHealthy cfg b) (Monitor.isHealthy cfg.toMonitorConfig b) := by
  refine Refines.op fun x => ⟨x, rfl, ?_⟩
  cases x with
  | error err => exact Refines.ret rfl
  | ok isEligible =>
    cases isEligible with
    | false => exact Refines.ret rfl
    | true =>
      refine (isBackendHealthy_does cfg b).bind fun res res' hres => ?_
      subst hres
      cases res with
      | error err => exact Refines.ret rfl
      | ok isHealthy => exact Refines.ret rfl

theorem evaluateBackends_does (bs : List (Option BackendMsg)) (st : BackendsNewState) :
    Does (evaluateBackends cfg st bs) (Monitor.evaluateBackends cfg.toMonitorConfig st bs) := by
  induction bs generalizing st with
  | nil => exact Refines.ret rfl
  | cons b bs ih =>
    cases b with
    | none => exact Refines.ret rfl
    | some b =>
      refine (isHealthy_does cfg b).bind fun isHealthy isHealthy' hsame => ?_
      subst hsame
      cases isHealthy with
      | false => exact ih _
      | true => exact ih _

/-- **The probes do what the monitor takes them for**: a result of the evaluation with all its calls
is one of the evaluation with single answers, and the gateway server and the clock have seen and
answered the same. -/
theorem evaluateBackendNewState_refines :
    Does (evaluateBackendNewState cfg) (Monitor.evaluateBackendNewState cfg.toMonitorConfig) := by
  have hall : Does getAllBackends Monitor.getAllBackends := by
    refine Refines.op fun x => ⟨x, rfl, ?_⟩
    cases x with
    | error err => exact Refines.ret rfl
    | ok items =>
      have hnil : items.any Option.isNone = true ↔ none ∈ items := by
        rw [List.any_eq_true]
        constructor
        · rintro ⟨b, hb, hnone⟩
          rwa [Option.isNone_iff_eq_none.mp hnone] at hb
        · exact fun hb => ⟨none, hb, rfl⟩
      show Does (if items.any Option.isNone then _ else _) (if none ∈ items then _ else _)
      by_cases hmem : none ∈ items
      · rw [if_pos (hnil.mpr hmem), if_pos hmem]
        exact Refines.ret rfl
      · rw [if_neg (mt hnil.mp hmem), if_neg hmem]
        exact Refines.ret rfl
  refine hall.bind fun res res' hres => ?_
  subst hres
  cases res with
  | error err => exact Refines.ret rfl
  | ok items => exact evaluateBackends_does cfg items {}

end Probe

end TrinoGateway
