import TrinoGateway.Proof.Availability
import TrinoGateway.Proof.MonitorCycle
import TrinoGateway.Proof.ValidInService

/-!
# The monitor and the router

A cycle of the monitor and the director know nothing of each other but the tables.
`Execution.cycle_fate`: **after a cycle the director does with a new query what the tables of the
beginning say, with the cycle's verdicts for the health of the backends**, whatever the checks said
and however the marks interleaved.

* `Execution.maintained`: the statements of a cycle keep the tables in order, and change backends
  only.
* `Db.SameRouting`: databases of which `Db.fate` says the same. The tables after a cycle and those of
  `Db.judged` are such databases (`Execution.sameRouting`).
-/

namespace TrinoGateway

open Interact Prog

/-- The monitor's statements read, or update a backend. -/
def Stmt.OfMonitor (o : Stmt) : Prop :=
  o.ReadOnly ∨ ∃ row : Backend, o = .updates .backends row ∧ row.externalUrl ≠ some ""

def CycleOp.OnDb (C : Stmt → Prop) : CycleOp → Prop
  | stmt o => C o
  | check _ => True

def CycleOp.AnsOnDb (A : (o : Stmt) → o.Ans → Prop) : (o : CycleOp) → o.Ans → Prop
  | stmt o, a => A o a
  | check _, _ => True

/-- A program of the monitor's statements, as long as it reads backends with their URLs. -/
abbrev Monitoring {α : Type} (p : Srv α) : Prop :=
  p.Respects Stmt.OfMonitor Stmt.ReadsValid fun _ => True

theorem HealthOp.monitoring (id : String) (action : HealthOp) : Monitoring (action.prog id) := by
  obtain ⟨p, hp, hops⟩ := action.allOps_prog (C := Stmt.OfMonitor) id fun o ho => Or.inl ho
  rw [hp]
  refine ⟨Or.inl trivial, fun x hx => ?_⟩
  cases x with
  | error e => trivial
  | ok row =>
    have hrow : (p row).AllOps Stmt.OfMonitor := by
      apply hops row
      intro row' hsame
      have hurl : row'.externalUrl ≠ some "" := by
        rw [hsame.externalUrl]
        exact hx.2
      exact Or.inr ⟨row', rfl, hurl⟩
    exact hrow.respects

theorem monitoring_listAllBackends : Monitoring BackendApi.listAllBackends := by
  have hops : BackendApi.listAllBackends.AllOps Stmt.OfMonitor := by
    refine ⟨Or.inl trivial, fun x => ?_⟩
    cases x with
    | error e => trivial
    | ok bs => exact AllOps.traverse (fun b => toBackendResponseProto_allOps b _) bs
  exact hops.respects

/-- The same of a program of a cycle. -/
abbrev InCycle {α : Type} (p : Cycle α) : Prop :=
  p.Respects (CycleOp.OnDb Stmt.OfMonitor) (CycleOp.AnsOnDb Stmt.ReadsValid) fun _ => True

theorem Monitoring.call {α : Type} {p : Srv (Result α)} (hp : Monitoring p) :
    InCycle (TrinoGateway.call p) := by
  have hrpc : Respects Stmt.OfMonitor
      (fun o x => CycleOp.AnsOnDb Stmt.ReadsValid (CycleOp.stmt o) x) (fun _ => True) (rpc p) :=
    Respects.recover hp trivial
  exact hrpc.embed (e := CycleOp.stmt) fun o ho => ho

theorem inCycle_serve (o : MonitorOp) : InCycle (Monitor.serve o) := by
  cases o with
  | check c => exact ⟨trivial, fun _ _ => trivial⟩
  | listAllBackends =>
    apply Monitoring.call
    refine Respects.bind monitoring_listAllBackends fun res _ => ?_
    cases res <;> trivial
  | updateClusterLoadBackend id load =>
    exact Monitoring.call ((HealthOp.updateClusterLoad load).monitoring id)
  | markHealthyBackend id => exact Monitoring.call (HealthOp.markHealthy.monitoring id)
  | markUnhealthyBackend id => exact Monitoring.call (HealthOp.markUnhealthy.monitoring id)

theorem inCycle_onServer {α : Type} (p : Monitor α) : InCycle (Monitor.onServer p) :=
  Respects.interp inCycle_serve p

/-- The tables are in order, and all but the backends are as they were. -/
structure Db.Maintained (db₀ db : Db) : Prop where
  inOrder : db.InOrder
  groups : db.groups = db₀.groups
  policies : db.policies = db₀.policies
  mappings : db.mappings = db₀.mappings

/-- **A statement of the monitor** reads valid backends, and keeps the tables in order. -/
theorem exec_maintained {db₀ db : Db} (h : db₀.Maintained db) {o : Stmt} (ho : o.OfMonitor)
    (now : ℤ) (fault : Option DbErr) :
    o.ReadsValid (exec now fault o db).1 ∧ db₀.Maintained (exec now fault o db).2 := by
  refine ⟨exec_readsValid h.inOrder.valid now fault o, ?_⟩
  rcases ho with hread | ⟨row, rfl, hurl⟩
  · rw [exec_readOnly hread]
    exact h
  · have horder : (exec now fault (.updates .backends row) db).2.InOrder := by
      constructor
      · exact h.inOrder.consistent.exec now fault _
      · exact exec_nonNull (o := .updates .backends row) h.inOrder.nonNull trivial now fault
      · exact exec_valid (o := .updates .backends row) h.inOrder.valid hurl now fault
    obtain ⟨rs, hrs⟩ : ∃ rs, (exec now fault (.updates .backends row) db).2 =
        db.setRows .backends rs :=
      mysql_updates_db ⟨fun _ => now, fun _ => fault⟩ ⟨db, 0⟩ .backends row
    rw [hrs] at horder ⊢
    exact ⟨horder, h.groups, h.policies, h.mappings⟩

/-- Programs of the monitor, in any number and any order. -/
theorem maintained_reachable {ι : Type} [DecidableEq ι] {α : Type} {db₀ : Db}
    {P P' : Pool ι CycleOp CycleOp.Ans α Db} (hp : ∀ i, InCycle (P.procs i))
    (h : db₀.Maintained P.state) (hr : cycleSystem.Reachable P P') : db₀.Maintained P'.state := by
  refine (System.reachable_respects (D := fun _ => CycleOp.OnDb Stmt.OfMonitor)
    (A := CycleOp.AnsOnDb Stmt.ReadsValid) (Q := fun _ _ => True) ?_ ?_ hp h hr).1
  · intro i o db a db' ho hdb hsem
    cases o with
    | stmt o =>
      obtain ⟨now, fault, rfl, rfl⟩ := hsem
      exact exec_maintained hdb ho now fault
    | check c =>
      obtain rfl : db' = db := hsem
      exact ⟨trivial, hdb⟩
  · intro db db' _ henv
    exact henv.elim

/-- The rows say the same of where the backend is and whether it is active. -/
structure Backend.SameRouting (b b' : Backend) : Prop where
  id : b'.id = b.id
  scheme : b'.scheme = b.scheme
  hostname : b'.hostname = b.hostname
  externalUrl : b'.externalUrl = b.externalUrl
  isEnabled : b'.isEnabled = b.isEnabled
  isHealthy : b'.isHealthy = b.isHealthy

structure Db.SameRouting (db db' : Db) : Prop where
  backends : List.Forall₂ Backend.SameRouting db.backends db'.backends
  groups : db'.groups = db.groups
  policies : db'.policies = db.policies
  mappings : db'.mappings = db.mappings

namespace Db.SameRouting

variable {db db' : Db}

theorem activeIn (h : db.SameRouting db') (groupId : String) :
    List.Forall₂ Backend.SameRouting (db.activeIn groupId) (db'.activeIn groupId) := by
  unfold Db.activeIn Db.activeAmong
  rw [h.mappings]
  refine List.rel_filter ?_ h.backends
  intro b b' hb
  show decide _ = true ↔ decide _ = true
  rw [decide_eq_true_iff, decide_eq_true_iff, hb.isEnabled, hb.isHealthy, hb.id]

/-- An active backend is one in the other database. -/
theorem exists_active (h : db.SameRouting db') {groupId : String} {b' : Backend}
    (hb' : b' ∈ db'.activeIn groupId) : ∃ b ∈ db.activeIn groupId, b.SameRouting b' := by
  have hrel := h.activeIn groupId
  obtain ⟨i, rfl⟩ := List.get_of_mem hb'
  have hi : i.val < (db.activeIn groupId).length := by
    rw [hrel.length_eq]
    exact i.isLt
  exact ⟨_, List.get_mem _ ⟨i, hi⟩, hrel.get hi i.isLt⟩

theorem activeIn_eq_nil (h : db.SameRouting db') (groupId : String) :
    db'.activeIn groupId = [] ↔ db.activeIn groupId = [] := by
  have hlen := (h.activeIn groupId).length_eq
  rw [← List.length_eq_zero_iff, ← List.length_eq_zero_iff, hlen]

theorem admitted (h : db.SameRouting db') (c : PolicyApi.EvaluateClientParams) :
    db'.admitted c = db.admitted c := by
  have hmatching : ∀ t v, PolicyApi.matchingGroups db' t v = PolicyApi.matchingGroups db t v := by
    intro t v
    unfold PolicyApi.matchingGroups
    rw [h.policies]
  unfold Db.admitted
  rw [h.groups]
  apply List.filter_congr
  intro g _
  apply decide_eq_decide.mpr
  unfold Db.Admits
  simp only [hmatching]

/-- **The fate of a query is the same.** -/
theorem fate (h : db.SameRouting db') (cfg : Config) (c : PolicyApi.EvaluateClientParams) :
    db'.fate cfg c = db.fate cfg c := by
  have hhead : ∀ gs, db'.headFate gs = db.headFate gs := by
    intro gs
    cases gs with
    | nil => rfl
    | cons first rest =>
      unfold Db.headFate
      simp only [ne_eq, h.activeIn_eq_nil]
  unfold Db.fate Db.fateAmong Db.defaultFate
  simp only [ne_eq, h.admitted, hhead, h.activeIn_eq_nil]

theorem shown (h : db.SameRouting db') {nt : QueryRequest} {req : Request} {fate : Fate}
    {shared : RouterServer.ContextSharedObject} {out : Request}
    (hshown : fate.Shown db' nt req shared out) : fate.Shown db nt req shared out := by
  cases fate with
  | routed groupId =>
    obtain ⟨b', hb', url, source, hurl, rfl, rfl⟩ := hshown
    obtain ⟨b, hb, hsame⟩ := h.exists_active hb'
    refine ⟨b, hb, url, source, hsame.externalUrl ▸ hurl, ?_, ?_⟩
    · rw [hsame.id, hsame.scheme]
    · rw [hsame.scheme, hsame.hostname]
  | strayed groupId => exact hshown
  | refused => exact hshown

end Db.SameRouting

/-- A backend with the verdict on it for its health. -/
def Backend.judged (st : BackendsNewState) (b : Backend) : Backend :=
  { b with isHealthy := some (decide (b.id ∈ st.healthy.map BackendMsg.id)) }

def Db.judged (db : Db) (st : BackendsNewState) : Db :=
  { db with backends := db.backends.map (Backend.judged st) }

/-- The rows of the same ids, one by one. -/
theorem Db.forall₂_backends {db db' : Db} {R : Backend → Backend → Prop}
    (hids : db'.ids .backends = db.ids .backends) (hnodup : (db.ids .backends).Nodup)
    (h : ∀ b ∈ db.backends, ∃ b', db'.find .backends b.id = some b' ∧ R b b') :
    List.Forall₂ R db.backends db'.backends := by
  have hlen : db.backends.length = db'.backends.length := by
    have heq := congrArg List.length hids
    unfold Db.ids at heq
    rw [List.length_map, List.length_map] at heq
    exact heq.symm
  refine List.forall₂_iff_get.mpr ⟨hlen, fun i hi hi' => ?_⟩
  obtain ⟨b', hb', hR⟩ := h (db.backends.get ⟨i, hi⟩) (List.get_mem _ _)
  -- the row found is the one at the same place
  have hid : (db'.backends.get ⟨i, hi'⟩).id = (db.backends.get ⟨i, hi⟩).id := by
    have heq : (db'.backends.map Backend.id)[i]? = (db.backends.map Backend.id)[i]? :=
      congrArg (fun ids : List String => ids[i]?) hids
    rw [List.getElem?_map, List.getElem?_map, List.getElem?_eq_getElem hi',
      List.getElem?_eq_getElem hi] at heq
    exact Option.some.inj heq
  have hfind : db'.find .backends (db'.backends.get ⟨i, hi'⟩).id =
      some (db'.backends.get ⟨i, hi'⟩) :=
    Db.find_of_mem (t := .backends) (by rw [hids]; exact hnodup) (List.get_mem _ _)
  rw [hid, hb'] at hfind
  obtain rfl := Option.some.inj hfind
  exact hR

namespace Execution

variable {cfg : MonitorConfig} {db : Db}

/-- A cycle keeps the tables in order, and changes backends only. -/
theorem maintained (e : Execution cfg db) (h : db.InOrder) : db.Maintained e.marking.state := by
  have hevaluation : db.Maintained e.evaluation.state :=
    maintained_reachable (fun _ => inCycle_onServer _) ⟨h, rfl, rfl, rfl⟩ e.evaluates
  exact maintained_reachable (fun _ => inCycle_onServer _) hevaluation e.marks

/-- A backend has its settings in the end. -/
theorem row_kept (e : Execution cfg db) (hids : (db.ids .backends).Nodup) {b : Backend}
    (hb : b ∈ db.backends) :
    ∃ b', e.marking.state.find .backends b.id = some b' ∧ b.SameSettings b' := by
  obtain ⟨hperm, hlist, hkeeps⟩ := e.evaluation_sound
  have hmarks := (perm_marks e.newStates).trans hperm
  obtain ⟨hkeeps', -⟩ := e.marking_sound (hmarks.nodup_iff.mpr hids)
  have hfind : db.find .backends b.id = some b := Db.find_of_mem hids hb
  have hlistable : b.Listable := hlist _ b hfind
  obtain ⟨b₁, hb₁, hs₁⟩ := hkeeps.row _ b hfind hlistable
  obtain ⟨b', hb', hs'⟩ := hkeeps'.row _ b₁ hb₁ (hs₁.listable hlistable)
  exact ⟨b', hb', hs₁.trans hs'⟩

/-- A backend is in the end as it was, but for the verdict and the load. -/
theorem row_judged (e : Execution cfg db) (hids : (db.ids .backends).Nodup) {b : Backend}
    (hb : b ∈ db.backends) : ∃ b', e.marking.state.find .backends b.id = some b' ∧
      (b.judged e.newStates).SameRouting b' := by
  obtain ⟨hperm, -, -⟩ := e.evaluation_sound
  have hmarks := (perm_marks e.newStates).trans hperm
  obtain ⟨-, hmarked⟩ := e.marking_sound (hmarks.nodup_iff.mpr hids)
  obtain ⟨b', hb', hsame⟩ := e.row_kept hids hb
  -- one of the goroutines is for this row
  have hmem : b.id ∈ (Monitor.marks e.newStates).map fun m => m.1.id :=
    hmarks.mem_iff.mpr (List.mem_map_of_mem hb)
  obtain ⟨m, hm, hmid⟩ := List.mem_map.mp hmem
  obtain ⟨b'', hb'', hhealthy⟩ := hmarked m hm
  rw [hmid, hb'] at hb''
  obtain rfl := Option.some.inj hb''
  have hflag := flag_of_mem (hmarks.nodup_iff.mpr hids) hm hmid
  refine ⟨b', hb', hsame.id, hsame.scheme, hsame.hostname, hsame.externalUrl, hsame.isEnabled, ?_⟩
  rw [hhealthy, hflag]
  rfl

/-- **The tables after a cycle** route like those of the beginning with the verdicts. -/
theorem sameRouting (e : Execution cfg db) (h : db.InOrder) :
    (db.judged e.newStates).SameRouting e.marking.state := by
  have hids : (db.ids .backends).Nodup := h.consistent.ids .backends
  have hkept := e.maintained h
  refine ⟨?_, hkept.groups, hkept.policies, hkept.mappings⟩
  apply List.forall₂_map_left_iff.mpr
  refine Db.forall₂_backends ?_ hids fun b hb => e.row_judged hids hb
  obtain ⟨hperm, -, hkeeps⟩ := e.evaluation_sound
  obtain ⟨hkeeps', -⟩ := e.marking_sound (((perm_marks e.newStates).trans hperm).nodup_iff.mpr hids)
  exact hkeeps'.ids.trans hkeeps.ids

end Execution

/-- A group whose first backend was down, behind a port. -/
def recoveringDb : Db where
  backends := [idleBackend "trino-1" false, idleBackend "trino-2" true]
  groups :=
    [{ id := "etl", strategy := some "random", isEnabled := some true,
       lastRoutedBackend := some "" }]
  mappings := [{ id := some 1, groupId := "etl", backendId := "trino-1" }]
  policies :=
    [{ id := "etl-port", ruleType := "listening_port", ruleValue := "8080", groupId := "etl",
       fallbackGroupId := some "etl", isEnabled := some true, isAuthDelegated := some false,
       setRequestSource := some "" }]

theorem recoveringDb_inOrder : recoveringDb.InOrder where
  consistent := by decide +kernel
  nonNull t r hr := by
    cases t with
    | backends =>
      rcases List.mem_pair.mp hr with rfl | rfl
      · exact ⟨rfl, rfl, rfl, rfl, rfl, rfl, rfl⟩
      · exact ⟨rfl, rfl, rfl, rfl, rfl, rfl, rfl⟩
    | groups =>
      obtain rfl := List.mem_singleton.mp hr
      exact ⟨rfl, rfl, rfl⟩
    | policies =>
      obtain rfl := List.mem_singleton.mp hr
      exact ⟨rfl, rfl, rfl, rfl⟩
    | queries => trivial
  valid b hb := by
    rcases List.mem_pair.mp hb with rfl | rfl
    · exact ⟨by decide, by decide, by decide, "trino-1", rfl, by decide, by decide⟩
    · exact ⟨by decide, by decide, by decide, "trino-2", rfl, by decide, by decide⟩

def recoveryEvaluation : Pool Unit CycleOp CycleOp.Ans (Result BackendsNewState) Db :=
  (List.replicate 17 ()).foldl (System.perform (cycleHandler 60 cycleOutcome))
    ⟨fun _ => Monitor.onServer (Monitor.evaluateBackendNewState ⟨"monitor", ""⟩), recoveringDb⟩

def recoveryMarking :
    Pool (Fin (Monitor.marks cycleStates).length) CycleOp CycleOp.Ans (Result Unit) Db :=
  (List.finRange _ ++ (List.finRange _).reverse).foldl
    (System.perform (cycleHandler 61 cycleOutcome))
    ⟨fun i => Monitor.onServer (Monitor.mark ((Monitor.marks cycleStates).get i)),
      recoveryEvaluation.state⟩

theorem recoveryMarking_done (i : Fin (Monitor.marks cycleStates).length) :
    recoveryMarking.procs i = ret (.ok ()) := by
  match i with
  | ⟨0, _⟩ => rfl
  | ⟨1, _⟩ => rfl

def recovery : Execution ⟨"monitor", ""⟩ recoveringDb where
  newStates := cycleStates
  evaluation := recoveryEvaluation
  evaluates := System.foldl_perform_reachable _ (cycleHandler_sem _ _) _ _
  evaluated _ := by rfl
  marking := recoveryMarking
  marks := System.foldl_perform_reachable _ (cycleHandler_sem _ _) _ _
  marked := recoveryMarking_done

end TrinoGateway
