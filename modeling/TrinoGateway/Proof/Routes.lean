import TrinoGateway.Proof.Statements
import TrinoGateway.Spec.Lifecycle

/-!
# What leaves the backends' hosts alone

A statement is `Steady` when it changes neither the hosts of backends nor the queries, and the
policy and group calls, and the choice of a backend, send steady statements only. A write of a
backend is steady when the row written has the hosts that the table has.
-/

namespace TrinoGateway

open Interact Prog

/-- Where a backend is reached. -/
structure Route where
  hostname : String
  externalUrl : Option String
deriving DecidableEq, Repr

def Backend.route (b : Backend) : Route := { hostname := b.hostname, externalUrl := b.externalUrl }

def Db.routes (db : Db) (id : String) : Option Route := (db.find .backends id).map Backend.route

theorem Db.routes_congr {db db' : Db} (h : db'.rows .backends = db.rows .backends) :
    db'.routes = db.routes := by
  funext id
  simp only [Db.routes, Db.find, h]

/-- Replacing a backend by one with the same hosts. -/
theorem Db.routes_put {db : Db} {id : String} {old row : Backend}
    (hold : db.find .backends id = some old) (hid : row.id = id) (hroute : row.route = old.route) :
    (db.put .backends id row).routes = db.routes := by
  funext id'
  unfold Db.routes
  by_cases hid' : id' = id
  · subst hid'
    rw [Db.find_put hold hid, hold, Option.map_some, Option.map_some, hroute]
  · rw [Db.find_put_ne (t := .backends) hid hid']

variable {routes : String → Option Route}

/-- A statement that changes neither the hosts of backends nor the queries. -/
def Stmt.Steady (routes : String → Option Route) : Stmt → Prop
  | insert t _ | delete t _ => t = .groups ∨ t = .policies
  | updates .backends row => routes row.id = some row.route
  | updates .queries _ => False
  | _ => True

/-- What `Updates` makes of a backend whose hosts are those of the row it is given. -/
theorem route_onUpdate {now : ℤ} {old r : Backend} (h : r.route = old.route) :
    (Tbl.stored .backends (Tbl.onUpdate now .backends old r)).route = old.route := by
  simp only [Backend.route, Route.mk.injEq] at h
  obtain ⟨hn, hu⟩ := h
  simp only [Tbl.stored, Tbl.onUpdate, Backend.route, Route.mk.injEq]
  exact ⟨textField_of_eq hn, textPointer_of_eq hu⟩

theorem routes_updates {db : Db} (hdb : db.routes = routes) {row : Backend}
    (h : routes row.id = some row.route) (now : ℤ) :
    (db.updates now .backends row).2.routes = routes := by
  subst hdb
  unfold Db.updates
  split
  · rfl
  -- the merged row has the id and the hosts of the old one
  · cases hold : db.find .backends (Tbl.id .backends row) with
    | none => rfl
    | some old =>
      have hold' : db.find .backends row.id = some old := hold
      have hroute : row.route = old.route := by
        rw [Db.routes, hold', Option.map_some, Option.some.injEq] at h
        exact h.symm
      simp only
      split
      · rfl
      · rename_i r ha
        have hr := (Db.accept_ok ha).1
        have hid : r.id = row.id := by
          rw [hr]
          exact (Db.find_id hold' : old.id = row.id)
        refine Db.routes_put hold hid ?_
        rw [hr]
        exact route_onUpdate hroute

/-- A steady statement that writes backends is an update with the hosts that are stored. -/
theorem Stmt.Steady.writes_backends {o : Stmt} (h : o.Steady routes) (hw : o.writes .backends) :
    ∃ row : Backend, o = .updates .backends row ∧ routes row.id = some row.route := by
  cases o with
  | insert t row =>
    obtain rfl : t = .backends := hw
    simp [Stmt.Steady] at h
  | updates t row =>
    obtain rfl : t = .backends := hw
    exact ⟨row, rfl, h⟩
  | delete t id =>
    obtain rfl : t = .backends := hw
    simp [Stmt.Steady] at h
  | _ => exact hw.elim

theorem Stmt.Steady.not_writes_queries {o : Stmt} (h : o.Steady routes) : ¬ o.writes .queries := by
  intro hw
  cases o with
  | insert t row =>
    obtain rfl : t = .queries := hw
    simp [Stmt.Steady] at h
  | updates t row =>
    obtain rfl : t = .queries := hw
    exact h
  | delete t id =>
    obtain rfl : t = .queries := hw
    simp [Stmt.Steady] at h
  | _ => exact hw

/-- **A steady statement keeps the hosts of backends and the queries**, whatever its fate. -/
theorem exec_steady {db : Db} (hdb : db.routes = routes) {o : Stmt} (h : o.Steady routes) (now : ℤ)
    (fault : Option DbErr) :
    (exec now fault o db).2.routes = routes ∧ (exec now fault o db).2.queries = db.queries := by
  refine ⟨?_, exec_rows (u := .queries) h.not_writes_queries now fault db⟩
  by_cases hb : o.writes .backends
  · obtain ⟨row, rfl, hrow⟩ := h.writes_backends hb
    cases fault with
    | some e => exact hdb
    | none => exact routes_updates hdb hrow now
  · rw [Db.routes_congr (exec_rows hb now fault db), hdb]

/-- A backend's message shows its hosts. -/
theorem route_of_encoded {b : Backend} {msg : BackendMsg}
    (h : BackendApi.toBackendResponseProto b = ret (.ok msg)) :
    b.route = { hostname := msg.hostname, externalUrl := some msg.externalUrl } := by
  rw [(toBackendResponseProto_ok h).2]
  rfl

/-- Every statement of the program is steady. -/
abbrev SteadyProg (routes : String → Option Route) {α : Type} (p : Srv α) : Prop :=
  p.AllOps (Stmt.Steady routes)

/-- The tables of the routing configuration. -/
def Tbl.isConfig (t : Tbl) : Prop := t = .groups ∨ t = .policies

theorem steady_updates {t : Tbl} (ht : t.isConfig) (row : t.Row) :
    (Stmt.updates t row).Steady routes := by
  rcases ht with rfl | rfl
  · trivial
  · trivial

theorem Stmt.ReadOnly.steady {o : Stmt} (h : o.ReadOnly) : o.Steady routes := by
  cases o <;> trivial

namespace Spine

theorem steady_findByID (t : Tbl) (id : String) : SteadyProg routes (findByID t id) :=
  allOps_findByID trivial

theorem steady_findMany (t : Tbl) (condition : List (String × SqlVal)) :
    SteadyProg routes (findMany t condition) :=
  allOps_findMany trivial

theorem steady_create {t : Tbl} (ht : t.isConfig) (row : t.Row) :
    SteadyProg routes (create t row) :=
  allOps_create (fun _ => trivial) ht

theorem steady_update {t : Tbl} {row : t.Row} (h : (Stmt.updates t row).Steady routes) :
    SteadyProg routes (update t row) :=
  allOps_update (fun _ => trivial) h

theorem steady_delete {t : Tbl} (ht : t.isConfig) (row : t.Row) :
    SteadyProg routes (delete t row) := by
  have hdel : ∀ id, SteadyProg routes (do
      let q ← Gorm.delete t id
      return getDBError q.error) := fun id => ⟨ht, fun q => trivial⟩
  unfold delete
  split
  · refine ⟨trivial, fun q => ?_⟩
    cases hq : q.error with
    | some e => simp [hq]
    | none => simpa [hq] using hdel (t.id row)
  · exact hdel (t.id row)

theorem steady_replaceAssociations (groupId : String) (ms : List GroupBackendsMapping) :
    SteadyProg routes (replaceAssociations groupId ms) :=
  allOps_replaceAssociations trivial (fun _ => trivial) trivial

end Spine

namespace Repo

theorem steady_update {t : Tbl} {row : t.Row} (h : (Stmt.updates t row).Steady routes) :
    SteadyProg routes (Repo.update t row) :=
  Spine.allOps_repo_update (fun _ => trivial) h

/-- What follows the read of a flag operation. -/
theorem steady_setFlag {t : Tbl} (ht : t.isConfig) {find : String → Srv (Result t.Row)}
    {id : String} (hfind : SteadyProg routes (find id)) (flag : t.Row → Option Bool)
    (withFlag : t.Row → Bool → t.Row) (v : Bool) (already : Result Unit) :
    SteadyProg routes (Repo.setFlag t find flag withFlag v already id) := by
  refine hfind.andThen fun row => (allOps_deref _).bind fun cur => ?_
  split
  · trivial
  · exact Spine.steady_update (steady_updates ht _)

end Repo

namespace GroupRepo

theorem steady_find (id : String) : SteadyProg routes (find id) :=
  allOps_find (fun _ h => h.steady) id

theorem steady_update (group : Group) : SteadyProg routes (update group) := by
  have hup : SteadyProg routes (Repo.update .groups group) := Repo.steady_update trivial
  unfold update
  split
  · exact (Spine.steady_replaceAssociations _ _).andThen fun _ => hup
  · exact hup

end GroupRepo

/-- **The changes of policies and groups are steady.** -/
theorem ConfigChange.steady_prog (change : ConfigChange) : SteadyProg routes change.prog := by
  have hp : Tbl.isConfig .policies := Or.inr rfl
  have hg : Tbl.isConfig .groups := Or.inl rfl
  have hfind : ∀ id, SteadyProg routes (PolicyRepo.find id) := fun id => Spine.steady_findByID _ id
  cases change with
  | createOrUpdatePolicy params =>
    refine (hfind params.id).bind fun res => ?_
    cases res with
    | error e => exact Spine.steady_create hp _
    | ok row => exact Repo.steady_update (steady_updates hp _)
  | deletePolicy id => exact (hfind id).andThen fun row => Spine.steady_delete hp row
  | enablePolicy id => exact Repo.steady_setFlag hp (hfind id) _ _ _ _
  | disablePolicy id => exact Repo.steady_setFlag hp (hfind id) _ _ _ _
  | createOrUpdateGroup params =>
    refine (GroupRepo.steady_find params.id).bind fun res => ?_
    cases res with
    | error e => exact Spine.steady_create hg _
    | ok group => exact GroupRepo.steady_update _
  | deleteGroup id =>
    exact (GroupRepo.steady_find id).andThen fun group => Spine.steady_delete hg group
  | enableGroup id => exact Repo.steady_setFlag hg (GroupRepo.steady_find id) _ _ _ _
  | disableGroup id => exact Repo.steady_setFlag hg (GroupRepo.steady_find id) _ _ _ _

namespace GroupApi

variable (cfg : Config)

/-- **The choice of a backend is steady**: it writes the last routed backend of groups. -/
theorem steady_evaluateBackendForGroups (groups : List String) :
    SteadyProg routes (evaluateBackendForGroups cfg groups) :=
  allOps_evaluateBackendForGroups cfg (fun _ h => h.steady)
    (fun _ _ => steady_updates (Or.inl rfl) _) groups

end GroupApi

namespace PolicyApi

theorem steady_findMany (params : FindManyParams) : SteadyProg routes (findMany params) :=
  Spine.steady_findMany _ _

theorem steady_findGroupsForPolicyTypes (ruleType ruleValue : String) :
    SteadyProg routes (findGroupsForPolicyTypes ruleType ruleValue) := by
  refine (steady_findMany _).andThen fun ps => ?_
  simp only
  split <;> trivial

theorem steady_evaluateGroupsForClient (ord : MapOrder) (params : EvaluateClientParams) :
    SteadyProg routes (evaluateGroupsForClient ord params) := by
  refine (steady_findGroupsForPolicyTypes _ _).andThen fun _ => ?_
  refine (steady_findGroupsForPolicyTypes _ _).andThen fun _ => ?_
  refine (steady_findGroupsForPolicyTypes _ _).andThen fun _ => ?_
  exact (steady_findGroupsForPolicyTypes _ _).andThen fun _ => trivial

theorem steady_evaluateRequestSourceForClient (port : ℤ) :
    SteadyProg routes (evaluateRequestSourceForClient port) := by
  unfold evaluateRequestSourceForClient
  split
  · trivial
  · refine (steady_findMany _).andThen fun ps => ?_
    cases ps with
    | nil => trivial
    | cons p ps => exact (allOps_deref _).bind fun _ => trivial

theorem steady_evaluateAuthDelegationForClient (port : ℤ) :
    SteadyProg routes (evaluateAuthDelegationForClient port) := by
  unfold evaluateAuthDelegationForClient
  split
  · trivial
  · exact (steady_findMany _).andThen fun _ => trivial

end PolicyApi

theorem BackendApi.steady_getBackend (id : String) : SteadyProg routes (getBackend id) :=
  (Spine.steady_findByID _ _).andThen fun b => toBackendResponseProto_allOps b _

theorem QueryApi.steady_findBackendForQuery (queryId : String) :
    SteadyProg routes (findBackendForQuery queryId) :=
  (Spine.steady_findByID _ _).andThen fun _ => trivial

/-- An upsert of a query reads, and inserts or updates its row. -/
theorem QueryApi.allOps_createOrUpdateQuery {C : Stmt → Prop} (params : QueryCreateParams)
    (hs : ∀ o : Stmt, o.Steady routes → C o) (hi : C (.insert .queries (queryOf params)))
    (hu : C (.updates .queries (queryOf params))) : (createOrUpdateQuery params).AllOps C := by
  refine ((Spine.steady_findByID _ _).mono hs).bind fun res => ?_
  cases res with
  | error e => exact Spine.allOps_create (absurd rfl) hi
  | ok old => exact Spine.allOps_repo_update (absurd rfl) hu

variable (routes) in
/-- What a health operation does after its read: it writes back a row with the hosts that it
read. -/
theorem HealthOp.steady_prog (id : String) (action : HealthOp) :
    ∃ p : Backend → Srv (Result Unit),
      action.prog id = (BackendRepo.find id).andThen p ∧
        ∀ row : Backend, routes row.id = some row.route → SteadyProg routes (p row) := by
  obtain ⟨p, hp, hops⟩ := action.allOps_prog (C := Stmt.Steady routes) id
    fun _ ho => ho.steady
  refine ⟨p, hp, fun row hrow => hops row fun row' hsame => ?_⟩
  have hroute : row'.route = row.route := by
    simp only [Backend.route, hsame.hostname, hsame.externalUrl]
  change routes row'.id = some row'.route
  rw [hsame.id, hroute, hrow]

end TrinoGateway
