import TrinoGateway.Proof.OpenProxy
import TrinoGateway.Proof.Routes

/-!
# The director on the server

The results about the director are for a table of outcomes of the RPCs. `director_table`:
**what the director does on the server, in any world and with any failures, is what it does on
a table**, whose `GetBackend` answers from the stored backends: the director asks no RPC twice,
and no RPC changes the hosts of backends.
-/

namespace TrinoGateway

open Interact Prog

variable (g : GatewayServer) (env : Env)

/-- Behind HTTP the server always answers. -/
theorem serve_run (o : RouterOp) (w : World) :
    ∃ a, ((g.serve o).run (mysql env) w).1 = some a := by
  cases o with
  | unixNow => exact ⟨env.clock w.tick, by simp [GatewayServer.serve]⟩
  | _ => exact ⟨_, by rw [GatewayServer.serve, rpc, run_recover]⟩

/-- The server as a handler of RPCs. -/
def GatewayServer.answer (o : RouterOp) (w : World) : o.Ans × World :=
  let x := (g.serve o).run (mysql env) w
  (x.1.get (Option.isSome_iff_exists.mpr (serve_run g env o w)), x.2)

theorem serve_run_answer (o : RouterOp) (w : World) :
    (g.serve o).run (mysql env) w = (some (g.answer env o w).1, (g.answer env o w).2) := by
  unfold GatewayServer.answer
  rw [Option.some_get]

/-- A program of the router, on the server. -/
theorem run_onServer {α : Type} (p : Router α) (w : World) :
    (g.onServer p).run (mysql env) w = p.run (g.answer env) w :=
  run_interp g.serve (serve_run_answer g env) p w

variable {g env}

/-- The statement keeps the hosts of backends. -/
def Stmt.KeepsRoutes (routes : String → Option Route) (o : Stmt) : Prop :=
  o.Steady routes ∨ ¬ o.writes .backends

theorem serve_keepsRoutes (routes : String → Option Route) (o : RouterOp) :
    (g.serve o).AllOps (Stmt.KeepsRoutes routes) := by
  have hsteady : ∀ {α : Type} {p : Srv (Result α)}, SteadyProg routes p →
      (rpc p).AllOps (Stmt.KeepsRoutes routes) :=
    fun hp => (hp.mono fun _ => Or.inl).recover _
  cases o with
  | evaluateGroupsForClient req => exact hsteady (PolicyApi.steady_evaluateGroupsForClient _ _)
  | evaluateBackendForGroups ids => exact hsteady (GroupApi.steady_evaluateBackendForGroups _ _)
  | findBackendForQuery id => exact hsteady (QueryApi.steady_findBackendForQuery _)
  | getBackend id => exact hsteady (BackendApi.steady_getBackend _)
  | evaluateRequestSourceForClient port =>
    exact hsteady (PolicyApi.steady_evaluateRequestSourceForClient _)
  | evaluateAuthDelegationForClient port =>
    exact hsteady (PolicyApi.steady_evaluateAuthDelegationForClient _)
  | createOrUpdateQuery req =>
    have hsave := QueryApi.allOps_createOrUpdateQuery (C := Stmt.KeepsRoutes routes) req
      (fun _ => Or.inl) (Or.inr (by simp [Stmt.writes]))
      (Or.inr (by simp [Stmt.writes]))
    exact hsave.recover _
  | unixNow => exact ⟨Or.inl trivial, fun _ => trivial⟩

/-- No RPC changes the hosts of backends. -/
theorem answer_routes (o : RouterOp) (w : World) :
    (g.answer env o w).2.db.routes = w.db.routes := by
  have hprog := serve_keepsRoutes (g := g) w.db.routes o
  refine hprog.run_inv (I := fun w' : World => w'.db.routes = w.db.routes) ?_ rfl
  intro st w' hst hw'
  rcases hst with hst | hst
  · exact (exec_steady hw' hst _ _).1
  · exact (Db.routes_congr (exec_rows hst _ _ _)).trans hw'

/-- A run of `getBackend` that answers well has read a stored backend. -/
theorem run_getBackend_ok {w : World} {id : String} {msg : BackendMsg}
    (h : ((BackendApi.getBackend id).run (mysql env) w).1 = some (.ok msg)) :
    w.db.routes id = some { hostname := msg.hostname, externalUrl := some msg.externalUrl } := by
  unfold BackendApi.getBackend BackendRepo.find Repo.find at h
  rcases read_run (Spine.run_findByID env w .backends id) with ⟨e, -, hfind⟩ | hfind
  · rw [run_andThen_error _ hfind] at h
    cases h
  · cases hb : w.db.find .backends id with
    | none =>
      rw [hb] at hfind
      rw [run_andThen_error _ hfind] at h
      cases h
    | some b =>
      rw [hb] at hfind
      rw [run_andThen_ok _ hfind] at h
      rcases (toBackendResponseProto_allOps b fun _ => False).outcome with ⟨res, hres⟩ | hpanic
      · rw [hres] at h
        cases h
        rw [Db.routes, hb, Option.map_some, route_of_encoded hres]
      · rw [hpanic] at h
        cases h

/-- `GetBackend` answers with the hosts of a stored backend. -/
theorem answer_getBackend {w : World} {id : String} {msg : BackendMsg}
    (h : (g.answer env (.getBackend id) w).1 = .ok msg) :
    w.db.routes id = some { hostname := msg.hostname, externalUrl := some msg.externalUrl } := by
  have hrun := serve_run_answer g env (.getBackend id) w
  rw [h, GatewayServer.serve, rpc, run_recover] at hrun
  have hfst := congrArg Prod.fst hrun
  simp only [Option.some.injEq] at hfst
  have hok : ((BackendApi.getBackend id).run (mysql env) w).1 = some (.ok msg) := by
    cases hx : ((BackendApi.getBackend id).run (mysql env) w).1 with
    | none =>
      -- a panic is answered by an error
      rw [hx] at hfst
      cases hfst
    | some res =>
      rw [hx, Option.getD_some] at hfst
      rw [hfst]
  exact run_getBackend_ok hok

namespace RouterServer

variable {gunzip : Gunzip} {r : RouterServer}

/-- The RPCs of the preparation. -/
def PreparesWith : RouterOp → Prop
  | .getBackend _ | .evaluateRequestSourceForClient _ => True
  | _ => False

theorem prepare_allOps (req : Request) (id : String) (cReq : ClientRequest) :
    (r.prepareReqForRouting req id cReq).AllOps PreparesWith := by
  refine ⟨trivial, fun res => ?_⟩
  cases res with
  | error err => trivial
  | ok backend =>
    simp only
    split
    · trivial
    · refine ⟨trivial, fun res => ?_⟩
      cases res <;> trivial

theorem prepare_asksOnce (req : Request) (id : String) (cReq : ClientRequest) :
    (r.prepareReqForRouting req id cReq).AsksOnce := by
  intro res
  cases res with
  | error err => exact ⟨trivial, trivial⟩
  | ok backend =>
    simp only
    split
    · exact ⟨trivial, trivial⟩
    · refine ⟨⟨by simp, fun res => ?_⟩, fun res => ?_⟩
      · cases res <;> trivial
      · cases res <;> exact ⟨trivial, trivial⟩

/-- A preparation that is followed by an answer, after other RPCs. -/
theorem asksOnce_prepare {α : Type} {C : RouterOp → Prop} (hC : ∀ o, PreparesWith o → C o)
    (req : Request) (id : String) (cReq : ClientRequest) (f : Prepared → Router α)
    (hf : ∀ p, ∃ a, f p = ret a) :
    ((r.prepareReqForRouting req id cReq).bind f).AllOps C ∧
      ((r.prepareReqForRouting req id cReq).bind f).AsksOnce := by
  have hret : ∀ (D : RouterOp → Prop) p, (f p).AllOps D ∧ (f p).AsksOnce := by
    intro D p
    obtain ⟨a, ha⟩ := hf p
    rw [ha]
    exact ⟨trivial, trivial⟩
  constructor
  · exact ((prepare_allOps req id cReq).mono hC).bind fun p => (hret C p).1
  · exact (prepare_asksOnce req id cReq).bind (prepare_allOps req id cReq)
      (fun p => (hret C p).2) fun p => (hret _ p).1

theorem routeUi_asksOnce (req : Request) (queryId : String) :
    (r.routeUi req queryId).AsksOnce := by
  intro res
  cases res with
  | error err => exact ⟨trivial, trivial⟩
  | ok pair =>
    refine asksOnce_prepare (fun o ho heq => ?_) req _ _ _ fun p => ⟨_, rfl⟩
    subst heq
    exact ho

theorem routeKnown_asksOnce (req : Request) (kind : QueryRequest → ClientRequest)
    (nt : QueryRequest) : (r.routeKnown req kind nt).AsksOnce := by
  intro res
  refine asksOnce_prepare (fun o ho heq => ?_) req _ _ _ fun p => ⟨_, rfl⟩
  subst heq
  exact ho

/-- The RPCs of the evaluation. -/
def EvaluatesWith : RouterOp → Prop
  | .evaluateGroupsForClient _ | .evaluateBackendForGroups _ => True
  | _ => False

theorem evaluate_asksOnce (nt : QueryRequest) :
    (evaluateRoutingBackend nt).AllOps EvaluatesWith ∧ (evaluateRoutingBackend nt).AsksOnce := by
  constructor
  · refine ⟨trivial, fun res => ?_⟩
    cases res with
    | error err => trivial
    | ok ids => exact ⟨trivial, fun _ => trivial⟩
  · intro res
    cases res with
    | error err => exact ⟨trivial, trivial⟩
    | ok ids => exact ⟨⟨by simp, fun _ => trivial⟩, fun _ => ⟨trivial, trivial⟩⟩

theorem routeSubmission_asksOnce (req : Request) (nt : QueryRequest) :
    (r.routeSubmission req nt).AsksOnce := by
  obtain ⟨hops, honce⟩ := evaluate_asksOnce nt
  -- the evaluation and the preparation have no RPC in common
  have hdisj : ∀ o, PreparesWith o → ¬ EvaluatesWith o := by
    intro o hp he
    cases o <;> first | exact hp | exact he
  refine honce.bind hops (fun res => (asksOnce_prepare hdisj req _ _ _ fun p => ?_).2)
    fun res => (asksOnce_prepare hdisj req _ _ _ fun p => ?_).1
  all_goals
    cases res with
    | error err => exact ⟨_, rfl⟩
    | ok pair => cases p.cReq <;> exact ⟨_, rfl⟩

theorem routeRequest_asksOnce (req : Request) (cReq : ClientRequest) :
    (r.routeRequest req cReq).AsksOnce := by
  cases cReq with
  | api => trivial
  | ui queryId => exact routeUi_asksOnce req queryId
  | query nt =>
    by_cases hid : nt.query.id ≠ ""
    · rw [routeRequest, if_pos hid]
      exact routeKnown_asksOnce req _ nt
    · rw [routeRequest, if_neg hid]
      exact routeSubmission_asksOnce req nt
  | queryApi nt => exact routeKnown_asksOnce req _ nt

variable (gunzip r) in
theorem handleClientRequest_asksOnce (req : Request) :
    (r.handleClientRequest gunzip req).AsksOnce := by
  have hprocess : (r.processRequest gunzip req).AsksOnce := by
    unfold processRequest
    cases r.parseClientRequest gunzip req with
    | none => trivial
    | some x =>
      obtain ⟨parsed, req₁⟩ := x
      cases parsed with
      | error err => trivial
      | ok cReq =>
        simp only [bind_eq, deref_some, ret_bind]
        cases cReq.validate with
        | error err => trivial
        | ok u => exact routeRequest_asksOnce req₁ cReq
  refine hprocess.bind (allOps_true _) (fun x => ?_) fun x => ?_
  all_goals
    obtain ⟨res, req₁⟩ := x
    cases res <;> trivial

end RouterServer

/-- **The director on the server is the director on a table.** -/
theorem director_table (gunzip : Gunzip) (r : RouterServer) (g : GatewayServer) (env : Env)
    (w : World) (req : Request) :
    ∃ a : Answers, a.stored = w.db.backends ∧
      ((g.onServer (r.handleClientRequest gunzip req)).run (mysql env) w).1 =
        (RouterServer.directorRun gunzip r a.out req).1 := by
  obtain ⟨out, hrun, hout⟩ := exists_table (h := g.answer env)
    (I := fun w' : World => w'.db.routes = w.db.routes)
    (fun o w' hw' => (answer_routes o w').trans hw')
    (RouterServer.handleClientRequest_asksOnce gunzip r req) rfl []
  refine ⟨{ out := out, stored := w.db.backends, getBackend_stored := ?_ }, rfl, ?_⟩
  · intro id msg hmsg
    obtain ⟨w', hw', ha⟩ := hout (.getBackend id)
    have hroute := answer_getBackend (ha.symm.trans hmsg)
    rw [hw'] at hroute
    obtain ⟨b, hb, hshown⟩ := Option.map_eq_some_iff.mp hroute
    simp only [Backend.route, Route.mk.injEq] at hshown
    exact ⟨b, Db.mem_of_find hb, hshown.1, hshown.2⟩
  · rw [run_onServer]
    exact hrun.symm

end TrinoGateway
