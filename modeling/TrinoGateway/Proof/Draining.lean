import TrinoGateway.Proof.Panics
import TrinoGateway.Proof.ValidInService

/-!
# Draining a backend

An operator disables a backend to take it out of service, while the monitor goes on marking it and
writing its load: each of these calls reads the whole row, and writes it back some time later.

* `GatewayServer.handle_leavesDisabled`: a call that does not enable the backend leaves it disabled,
  as long as it reads it so.
* `Run.drained`: **from then on no new query is routed to it, in any interleaving**.
-/

namespace TrinoGateway

open Interact Prog

/-- A row that does not show this backend enabled. -/
def Tbl.NotEnabled (id : String) : (t : Tbl) → t.Row → Prop
  | backends, r => r.id = id → r.isEnabled ≠ some true
  | groups, _ | policies, _ | queries, _ => True

/-- The backend is disabled, or there is none. -/
def Db.Disabled (db : Db) (id : String) : Prop := ∀ b ∈ db.backends, Tbl.NotEnabled id .backends b

/-- The statement does not write the backend enabled. -/
def Stmt.LeavesDisabled (id : String) : Stmt → Prop
  | insert t row | updates t row => t.NotEnabled id row
  | _ => True

/-- A row that is read by its id is the one of this id, and does not show the backend enabled. -/
def Stmt.ReadsDisabled (id : String) : (o : Stmt) → o.Ans → Prop
  | first t rowId, a => IfOk (fun row => t.id row = rowId ∧ t.NotEnabled id row) a
  | _, _ => True

variable {id : String}

theorem Stmt.ReadsDisabled.byId {o : Stmt} {x : o.Ans} (h : o.ReadsDisabled id x) :
    o.ReadsById x := by
  cases o with
  | first t rowId =>
    cases x with
    | error e => trivial
    | ok row => exact And.left h
  | _ => trivial

theorem exec_readsDisabled {db : Db} (hdb : db.Disabled id) (now : ℤ) (fault : Option DbErr)
    (o : Stmt) : o.ReadsDisabled id (exec now fault o db).1 := by
  cases o with
  | first t rowId =>
    cases hrow : (exec now fault (.first t rowId) db).1 with
    | error e => trivial
    | ok row =>
      have hfind : db.find t rowId = some row := (exec_first_ok hrow).2
      refine ⟨Db.find_id hfind, ?_⟩
      cases t with
      | backends => exact hdb row (Db.mem_of_find hfind)
      | groups => trivial
      | policies => trivial
      | queries => trivial
  | _ => trivial

/-- An update writes the flag of its row, or leaves the one that is stored. -/
theorem exec_disabled {db : Db} (hdb : db.Disabled id) {o : Stmt} (ho : o.LeavesDisabled id)
    (now : ℤ) (fault : Option DbErr) : (exec now fault o db).2.Disabled id := by
  intro b hb hid
  rcases exec_mem_rows (t := .backends) hb with hb | ⟨row, rfl, ha⟩ | ⟨row, old, rfl, hold, ha⟩
  · exact hdb b hb hid
  · obtain ⟨rfl, -⟩ := Db.accept_ok ha
    exact ho hid
  · obtain ⟨rfl, -⟩ := Db.accept_ok ha
    have hstored : old.isEnabled ≠ some true := hdb old (Db.mem_of_find hold) hid
    have hwritten : row.isEnabled ≠ some true := ho ((Db.find_id hold).symm.trans hid)
    show row.isEnabled.or old.isEnabled ≠ some true
    cases henabled : row.isEnabled with
    | none => exact hstored
    | some v =>
      rw [henabled] at hwritten
      exact hwritten

/-- Statements that name no backend leave it disabled. -/
theorem Stmt.Within.leavesDisabled {S : Scope} (hS : ∀ id, ¬ S .backends id) {o : Stmt}
    (h : o.Within S) : o.LeavesDisabled id := by
  cases o with
  | insert t row =>
    cases t with
    | backends => exact absurd h.1 (hS _)
    | groups => trivial
    | policies => trivial
    | queries => trivial
  | updates t row =>
    cases t with
    | backends =>
      rcases h with hrow | hturn
      · exact absurd hrow (hS _)
      · exact hturn.elim
    | groups => trivial
    | policies => trivial
    | queries => trivial
  | _ => trivial

/-- A program that leaves the backend disabled, as long as it reads it so. -/
abbrev LeavesDisabled {α : Type} (id : String) (p : Srv α) : Prop :=
  p.Respects (Stmt.LeavesDisabled id) (Stmt.ReadsDisabled id) fun _ => True

/-- A flag is set on the row that was read. -/
theorem leavesDisabled_setFlag {rowId : String} {flag : Backend → Option Bool}
    {withFlag : Backend → Bool → Backend} {v : Bool} {already : Result Unit}
    (h : ∀ row : Backend, row.id = rowId → Tbl.NotEnabled id .backends row →
      Tbl.NotEnabled id .backends (withFlag row v)) :
    LeavesDisabled id (Repo.setFlag .backends BackendRepo.find flag withFlag v already rowId) := by
  refine ⟨trivial, fun x hx => ?_⟩
  cases x with
  | error e => trivial
  | ok row =>
    refine AllOps.respects ((allOps_deref (flag row)).bind fun cur => ?_)
    split
    · trivial
    · exact Spine.allOps_update (absurd rfl) (h row hx.1 hx.2)

/-- A call that enables the backend. -/
def Method.Enables (id : String) : (m : Method) → m.Req → Prop
  | enableBackend, rowId => rowId = id
  | createOrUpdateBackend, req => req.id = id ∧ req.isEnabled = true
  | _, _ => False

namespace GatewayServer

variable (g : GatewayServer)

/-- **A call that does not enable the backend leaves it disabled**, as long as it reads it so. -/
theorem handle_leavesDisabled (m : Method) (req : m.Req) (h : ¬ m.Enables id req) :
    LeavesDisabled id (g.handle m req) := by
  induction m, req using Method.backend_cases with
  | createOrUpdate req =>
    have hrow : Tbl.NotEnabled id .backends (BackendApi.backendOf req) :=
      fun hid henabled => h ⟨hid, Option.some.inj henabled⟩
    refine ⟨trivial, fun x _ => ?_⟩
    cases x with
    | error e => exact (Spine.allOps_create (t := .backends) (absurd rfl) hrow).respects
    | ok row => exact (Spine.allOps_repo_update (t := .backends) (absurd rfl) hrow).respects
  | delete rowId =>
    refine ⟨trivial, fun x _ => ?_⟩
    cases x with
    | error e => trivial
    | ok row => exact ⟨trivial, fun _ _ => trivial⟩
  | enable rowId =>
    exact leavesDisabled_setFlag fun row hrow _ hid => absurd (hrow.symm.trans hid) h
  | disable rowId =>
    refine leavesDisabled_setFlag fun row _ _ _ => ?_
    show some false ≠ some true
    decide
  | markHealthy rowId => exact leavesDisabled_setFlag fun row _ hdisabled => hdisabled
  | markUnhealthy rowId => exact leavesDisabled_setFlag fun row _ hdisabled => hdisabled
  | updateClusterLoad req =>
    refine ⟨trivial, fun x hx => ?_⟩
    cases x with
    | error e => trivial
    | ok row =>
      -- the flag that is written back is the one that was read
      refine AllOps.respects ((allOps_deref _).bind fun _ => (allOps_deref _).bind fun _ => ?_)
      refine ⟨trivial, fun now => (Spine.allOps_findByID trivial).andThen fun _ => ?_⟩
      exact Spine.allOps_repo_update (t := .backends) (absurd rfl) hx.2
  | other m req hne =>
    exact (g.handle_within m req).weaken (fun o ho => Stmt.Within.leavesDisabled hne ho)
      fun o x hx => hx.byId

end GatewayServer

/-- The arrival enables the backend. -/
def Arrival.Enables (id : String) : Arrival → Prop
  | client _ _ => False
  | api m req => m.Enables id req

theorem Arrival.prog_leavesDisabled (gunzip : Gunzip) (g : GatewayServer) (a : Arrival)
    (h : ¬ a.Enables id) : (a.prog gunzip g).Respects (DeployOp.OnDb (Stmt.LeavesDisabled id))
      (DeployOp.AnsOnDb (Stmt.ReadsDisabled id)) fun _ => True := by
  cases a with
  | client r req =>
    have hserve : ∀ o, (g.serve o).AllOps (Stmt.LeavesDisabled id) := by
      intro o
      have hwithin := g.serve_within (S := fun t _ => t = .queries) o fun _ _ => rfl
      exact hwithin.mono fun o ho => Stmt.Within.leavesDisabled (fun _ => nofun) ho
    exact (serveClient_allOps hserve req).respects
  | api m req =>
    have hrpc : LeavesDisabled id (rpc (g.handle m req)) :=
      (g.handle_leavesDisabled m req h).recover trivial
    have hdone : Respects (Stmt.LeavesDisabled id)
        (fun o x => DeployOp.AnsOnDb (Stmt.ReadsDisabled id) (DeployOp.stmt o) x) (fun _ => True)
        (do
          let _ ← rpc (g.handle m req)
          return ()) := hrpc.bind fun _ _ => trivial
    exact hdone.embed (e := DeployOp.stmt) fun _ ho => ho

/-- In states in which it is disabled, the backend has not been found active. -/
theorem Serves.ne_of_disabled {es : Record DeployOp DeployOp.Ans Db} {groupId backendId : String}
    (h : Serves es groupId backendId) (hes : ∀ e ∈ es, e.before.Disabled id) : backendId ≠ id := by
  obtain ⟨e, he, b, hb, hid, henabled, -⟩ := h.active
  rintro rfl
  exact hes e he b hb hid henabled

namespace Run

variable {ι : Type} [DecidableEq ι] (R : Run ι)

theorem always_disabled (hdb : R.db.Disabled id) (hcalls : ∀ i, ¬ (R.arrivals i).Enables id) :
    R.Always fun db => db.Disabled id := by
  refine R.always_respects (C := fun _ => Stmt.LeavesDisabled id)
    (fun i => (R.arrivals i).prog_leavesDisabled _ _ (hcalls i)) ?_ hdb
  intro i o now fault db ho hdisabled
  exact ⟨exec_readsDisabled hdisabled now fault o, exec_disabled hdisabled ho now fault⟩

/-- **A drained backend gets no new query.** If it is disabled in the beginning and no call enables
it, then it stays so in every interleaving, and each new query that is routed goes to another
backend, under the host of that one. It is passed on as it came if the backend that was chosen, one
other than this or none, could not be read. -/
theorem drained (hnamed : R.db.Named) (hdb : R.db.Disabled id)
    (hcalls : ∀ i, ¬ (R.arrivals i).Enables id) :
    R.now.Disabled id ∧
    ∀ {i r req}, R.arrivals i = .client r req →
      ∀ {pre e post shared out nt}, R.record i = pre ++ e :: post → e.op = .roundTrip shared out →
        shared.clientRequest = some (.query nt) → nt.query.id = "" →
          (nt.query.backendId ≠ id ∧ HostOf pre (.query nt) nt.query.backendId out.url.host) ∨
          ((nt.query.backendId = "" ∨ nt.query.backendId ≠ id) ∧
            BackendApi.Unread (statements pre) nt.query.backendId ∧
            out.url.host = req.url.host) := by
  have halways := R.always_disabled hdb hcalls
  refine ⟨halways R.pool R.reached, fun {i r req} h => ?_⟩
  intro pre e post shared out nt hrec he hquery hnew
  have hsent : Sent (R.server i).cfg r req (statements pre) shared out.url.host :=
    (R.sound_client h (R.always_named hnamed) (RouterServer.serveClient_justified req)).due
      pre e post hrec shared out he
  have hany : (r.serveClient R.gunzip (R.server i) req).Records
      (fun e => Explained e ∧ e.before.Disabled id) (fun _ _ => True) (fun _ _ => True) [] :=
    Records.of_allOps (allOps_true _) (fun _ _ _ _ _ => ⟨trivial, trivial⟩) trivial
  have hevents := (R.sound_client h halways hany).events
  have hpre : ∀ e ∈ pre, e.before.Disabled id := by
    intro e' he'
    refine (hevents e' ?_).2
    show e' ∈ R.record i
    rw [hrec]
    exact List.mem_append_left _ he'
  have hother : ∀ {groupId backendId}, Serves (statements pre) groupId backendId → backendId ≠ id :=
    fun h => (h.transfer fun _ => found_of_statements).ne_of_disabled hpre
  generalize out.url.host = host at hsent ⊢
  cases hsent with
  | failed err => cases hquery
  | api method path => cases hquery
  | unprepared nt' _ hchosen hunread =>
    obtain rfl := ClientRequest.query.inj (Option.some.inj hquery)
    have hserves := hchosen.serves.imp_right fun h => (hother h)
    exact Or.inr ⟨hserves, hunread, rfl⟩
  | routed cReq host hgrounds =>
    obtain rfl := Option.some.inj hquery
    obtain ⟨hhost, hserves, -⟩ := hgrounds
    exact Or.inl ⟨hother (hserves hnew).1, hhost.transfer fun _ => found_of_statements⟩

/-- The default group, with a second backend, which is disabled. -/
def twoBackends : Db where
  backends := oneBackend.backends ++
    [{ id := "trino-2", hostname := "trino-2:8080", scheme := "http",
       externalUrl := some "trino.test", isEnabled := some false, isHealthy := some false,
       uptimeSchedule := some "* * * * *", clusterLoad := some 0, thresholdClusterLoad := some 0,
       statsUpdatedAt := some 0 }]
  groups := oneBackend.groups
  mappings := oneBackend.mappings ++ [{ id := some 2, groupId := "adhoc", backendId := "trino-2" }]
  policies := oneBackend.policies

/-- The monitor marks it healthy, as a new query is routed. -/
def draining : Run Bool :=
  Run.play RouterServer.sortedServer
    (fun marks => if marks then .api .markHealthyBackend "trino-2"
      else .client { port := 8080, routerHostname := "" }
        { RouterServer.selectOne with host := "gateway" })
    twoBackends 0 (fun _ => none)
    ([true, false, true, true] ++ List.replicate 18 false)

theorem twoBackends_named : twoBackends.Named := by
  intro b hb
  rcases List.mem_cons.mp hb with rfl | hb
  · decide
  · obtain rfl := List.mem_singleton.mp hb
    decide

theorem twoBackends_disabled : twoBackends.Disabled "trino-2" := by
  intro b hb
  rcases List.mem_cons.mp hb with rfl | hb
  · exact fun hid => absurd hid (by decide)
  · obtain rfl := List.mem_singleton.mp hb
    exact fun _ => by decide

/-- The new query goes to the other backend. -/
theorem draining_spares : draining.now.Disabled "trino-2" ∧
    (RouterServer.routedQuery "SELECT 1").query.backendId ≠ "trino-2" := by
  have hcalls : ∀ i, ¬ (draining.arrivals i).Enables "trino-2" := by
    intro i
    cases i with
    | false => exact not_false
    | true => exact not_false
  have hdrained := draining.drained twoBackends_named twoBackends_disabled hcalls
  have hop : ((draining.record false).map Event.op)[14]? =
      some (.roundTrip garbledExchange.shared garbledExchange.req) := by
    decide +kernel
  obtain ⟨e, hrec, he⟩ := Record.exists_event hop
  refine ⟨hdrained.1, ?_⟩
  rcases hdrained.2 rfl hrec he rfl rfl with ⟨hne, -⟩ | ⟨-, -, hstray⟩
  · exact hne
  · exact absurd hstray (by decide)

end Run

end TrinoGateway
