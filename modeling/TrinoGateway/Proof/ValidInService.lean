import TrinoGateway.Proof.Isolation

/-!
# Valid backends in service

Only an `INSERT` passes `Backend.validate`. The health operations write back a row that they have
read some time before, while other calls come between, and `CreateOrUpdateBackend` writes the URL of
its message over any other.

* `GatewayServer.handle_keepsValid`: a call that does not carry an empty URL keeps the backends
  valid, as long as what it reads is.
* `Run.backends_valid`: **in every interleaving of requests and calls, whatever fails, the stored
  backends stay valid, if no call carries an empty URL**.
-/

namespace TrinoGateway

open Interact Prog

/-- The row has no empty URL. -/
def Tbl.UrlKept : (t : Tbl) → t.Row → Prop
  | backends, r => r.externalUrl ≠ some ""
  | groups, _ | policies, _ | queries, _ => True

/-- A row that is read by its id is the one of this id, and it has no empty URL. -/
def Stmt.ReadsValid : (o : Stmt) → o.Ans → Prop
  | first t id, a => IfOk (fun row => t.id row = id ∧ t.UrlKept row) a
  | _, _ => True

theorem Stmt.ReadsValid.byId {o : Stmt} {x : o.Ans} (h : o.ReadsValid x) : o.ReadsById x := by
  cases o with
  | first t id =>
    cases x with
    | error e => trivial
    | ok row => exact And.left h
  | _ => trivial

theorem exec_readsValid {db : Db} (hdb : db.BackendsValid) (now : ℤ) (fault : Option DbErr)
    (o : Stmt) : o.ReadsValid (exec now fault o db).1 := by
  cases o with
  | first t id =>
    cases hrow : (exec now fault (.first t id) db).1 with
    | error e => trivial
    | ok row =>
      have hfind : db.find t id = some row := (exec_first_ok hrow).2
      refine ⟨Db.find_id hfind, ?_⟩
      cases t with
      | backends =>
        obtain ⟨u, hu, hne, -⟩ := (hdb row (Db.mem_of_find hfind)).externalUrl
        show row.externalUrl ≠ some ""
        rw [hu]
        exact fun heq => hne (Option.some.inj heq)
      | groups => trivial
      | policies => trivial
      | queries => trivial
  | _ => trivial

/-- Statements that name no backend keep the backends valid. -/
theorem Stmt.Within.keepsValid {S : Scope} (hS : ∀ id, ¬ S .backends id) {o : Stmt}
    (h : o.Within S) : o.KeepsValid := by
  cases o with
  | insert t row =>
    cases t with
    | backends => exact h.2
    | groups => trivial
    | policies => trivial
    | queries => trivial
  | updates t row =>
    cases t with
    | backends =>
      rcases h with hrow | hturn
      · exact absurd hrow (hS _)
      · exact hturn.elim
    | groups => trivial
    | policies => trivial
    | queries => trivial
  | _ => trivial

/-- A program of statements that keep the backends valid, as long as what it reads is. -/
abbrev KeepsUrls {α : Type} (p : Srv α) : Prop :=
  p.Respects Stmt.KeepsValid Stmt.ReadsValid fun _ => True

/-- A health operation writes back the URL that it read. -/
theorem HealthOp.keepsUrls (id : String) (action : HealthOp) : KeepsUrls (action.prog id) := by
  obtain ⟨p, hp, hops⟩ := action.allOps_prog (C := Stmt.KeepsValid) id
    fun o ho => by cases o <;> trivial
  rw [hp]
  refine ⟨trivial, fun x hx => ?_⟩
  cases x with
  | error e => trivial
  | ok row =>
    refine (hops row fun row' hsame => ?_).respects
    show row'.externalUrl ≠ some ""
    rw [hsame.externalUrl]
    exact hx.2

/-- The calls that name a backend, one by one, and the others. -/
theorem Method.backend_cases {motive : (m : Method) → m.Req → Prop}
    (createOrUpdate : ∀ req, motive .createOrUpdateBackend req)
    (delete : ∀ id, motive .deleteBackend id) (enable : ∀ id, motive .enableBackend id)
    (disable : ∀ id, motive .disableBackend id) (markHealthy : ∀ id, motive .markHealthyBackend id)
    (markUnhealthy : ∀ id, motive .markUnhealthyBackend id)
    (updateClusterLoad : ∀ req, motive .updateClusterLoadBackend req)
    (other : ∀ m req, (∀ id, m.target req ≠ some (.backends, id)) → motive m req) (m : Method)
    (req : m.Req) : motive m req := by
  cases m with
  | createOrUpdateBackend => exact createOrUpdate req
  | deleteBackend => exact delete req
  | enableBackend => exact enable req
  | disableBackend => exact disable req
  | markHealthyBackend => exact markHealthy req
  | markUnhealthyBackend => exact markUnhealthy req
  | updateClusterLoadBackend => exact updateClusterLoad req
  | _ => exact other _ req fun _ => nofun

/-- The call carries no empty URL. -/
def Method.CarriesUrl : (m : Method) → m.Req → Prop
  | createOrUpdateBackend, req => req.externalUrl ≠ ""
  | _, _ => True

namespace GatewayServer

variable (g : GatewayServer)

/-- **A call that carries no empty URL keeps the backends valid**, as long as what it reads is. -/
theorem handle_keepsUrls (m : Method) (req : m.Req) (h : m.CarriesUrl req) :
    KeepsUrls (g.handle m req) := by
  induction m, req using Method.backend_cases with
  | createOrUpdate req =>
    refine ⟨trivial, fun x _ => ?_⟩
    have hne : some req.externalUrl ≠ some "" := fun heq => h (Option.some.inj heq)
    cases x with
    | error e => exact (BackendCall.keepsValid_create _).respects
    | ok row => exact (Spine.allOps_repo_update (t := .backends) (absurd rfl) hne).respects
  | delete id =>
    refine ⟨trivial, fun x _ => ?_⟩
    cases x with
    | error e => trivial
    | ok row => exact ⟨trivial, fun _ _ => trivial⟩
  | enable id => exact HealthOp.enable.keepsUrls id
  | disable id => exact HealthOp.disable.keepsUrls id
  | markHealthy id => exact HealthOp.markHealthy.keepsUrls id
  | markUnhealthy id => exact HealthOp.markUnhealthy.keepsUrls id
  | updateClusterLoad req => exact (HealthOp.updateClusterLoad req.2).keepsUrls req.1
  | other m req hne =>
    exact (g.handle_within m req).weaken (fun o ho => Stmt.Within.keepsValid hne ho)
      fun o x hx => hx.byId

end GatewayServer

/-- The arrival carries no empty URL. -/
def Arrival.CarriesUrl : Arrival → Prop
  | client _ _ => True
  | api m req => m.CarriesUrl req

theorem Arrival.prog_keepsUrls (gunzip : Gunzip) (g : GatewayServer) (a : Arrival)
    (h : a.CarriesUrl) : (a.prog gunzip g).Respects (DeployOp.OnDb Stmt.KeepsValid)
      (DeployOp.AnsOnDb Stmt.ReadsValid) fun _ => True := by
  cases a with
  | client r req =>
    have hserve : ∀ o, (g.serve o).AllOps Stmt.KeepsValid := by
      intro o
      have hwithin := g.serve_within (S := fun t _ => t = .queries) o fun _ _ => rfl
      exact hwithin.mono fun o ho => Stmt.Within.keepsValid (fun _ => nofun) ho
    exact (serveClient_allOps hserve req).respects
  | api m req =>
    have hrpc : KeepsUrls (rpc (g.handle m req)) := (g.handle_keepsUrls m req h).recover trivial
    have hdone : Respects Stmt.KeepsValid
        (fun o x => DeployOp.AnsOnDb Stmt.ReadsValid (DeployOp.stmt o) x) (fun _ => True) (do
          let _ ← rpc (g.handle m req)
          return ()) := hrpc.bind fun _ _ => trivial
    exact hdone.embed (e := DeployOp.stmt) fun _ ho => ho

namespace Run

variable {ι : Type} [DecidableEq ι] (R : Run ι)

/-- **Backends stay valid in service.** If the backends are valid in the beginning and no call
carries an empty URL, then they are valid in every state of every interleaving. -/
theorem backends_valid (hdb : R.db.BackendsValid) (hurl : ∀ i, (R.arrivals i).CarriesUrl) :
    R.now.BackendsValid := by
  refine R.always_respects (C := fun _ => Stmt.KeepsValid)
    (fun i => (R.arrivals i).prog_keepsUrls _ _ (hurl i)) ?_ hdb R.pool R.reached
  intro i o now fault db ho hvalid
  exact ⟨exec_readsValid hvalid now fault o, exec_valid hvalid ho now fault⟩

/-- A backend's URL is moved between the read and the write of a health operation. -/
def urlMoved : Run Bool :=
  Run.play RouterServer.sortedServer
    (fun moves => if moves then .api .createOrUpdateBackend (trinoMsg "trino.test")
      else .api .markUnhealthyBackend "trino-1")
    { backends := [BackendApi.backendOf (trinoMsg "trino.dev")] } 0 (fun _ => none)
    [false, true, true, false]

theorem urlMoved_valid : urlMoved.now.BackendsValid := by
  refine urlMoved.backends_valid (fun b hb => ?_) fun moves => ?_
  · obtain rfl := List.mem_singleton.mp hb
    exact (Backend.validate_ok_iff _).mp (by decide)
  · cases moves with
    | false => exact trivial
    | true => exact (by decide : "trino.test" ≠ "")

end Run

end TrinoGateway
