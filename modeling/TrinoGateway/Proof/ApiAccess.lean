import TrinoGateway.Proof.Routes
import TrinoGateway.Proof.Saves
import TrinoGateway.Spec.Api

/-!
# What a caller without the token can do

* `exempt_isRead`: a path that the hook exempts and that is a method's path is the path of a
  method that only reads.
* `handle_readOnly`: these methods send no writing statement.
* `serveAll_unauthenticated`: **requests without the token leave the tables as they are**.
-/

namespace TrinoGateway

open Interact Prog

/-- A program that only reads leaves the database as it is, whatever fails. -/
theorem run_readOnly {α : Type} {p : Srv α} (hp : p.AllOps Stmt.ReadOnly) (env : Env) (w : World) :
    (p.run (mysql env) w).2.db = w.db := by
  refine hp.run_inv (I := fun w' : World => w'.db = w.db) (fun o w' ho hw' => ?_) rfl
  exact (exec_readOnly ho _ _ _).trans hw'

namespace Method

/-- The methods that get or list records. -/
def isRead : Method → Bool
  | getBackend | listAllBackends | getGroup | listAllGroups | getPolicy | listAllPolicies
  | getQuery | listQueries => true
  | _ => false

end Method

theorem toGroupResponseProto_allOps (group : Group) (C : Stmt → Prop) :
    (GroupApi.toGroupResponseProto group).AllOps C := by
  refine (allOps_deref _).bind fun strategy => ?_
  split
  · trivial
  · exact (allOps_deref _).bind fun _ => (allOps_deref _).bind fun _ => trivial

theorem toPolicyResponseProto_allOps (policy : Policy) (C : Stmt → Prop) :
    (PolicyApi.toPolicyResponseProto policy).AllOps C := by
  unfold PolicyApi.toPolicyResponseProto
  split
  · trivial
  · refine (allOps_deref _).bind fun _ => (allOps_deref _).bind fun _ => ?_
    exact (allOps_deref _).bind fun _ => (allOps_deref _).bind fun _ => trivial

theorem QueryApi.readOnly_findMany (params : QueriesListRequest) :
    (QueryApi.findMany params).AllOps Stmt.ReadOnly := by
  refine ⟨trivial, fun x => ?_⟩
  cases x <;> trivial

/-- **The get and list methods only read**, in every branch. -/
theorem handle_readOnly (g : GatewayServer) {m : Method} (hm : m.isRead = true) (req : m.Req) :
    (g.handle m req).AllOps Stmt.ReadOnly := by
  have hfind : ∀ (t : Tbl) (id : String), (Spine.findByID t id).AllOps Stmt.ReadOnly :=
    fun t id => Spine.allOps_findByID trivial
  have hall : ∀ t : Tbl, (Spine.findMany t []).AllOps Stmt.ReadOnly :=
    fun t => Spine.allOps_findMany trivial
  have hpreload : ∀ gs : List Group, (Spine.preload gs).AllOps Stmt.ReadOnly :=
    fun gs => Spine.allOps_preload trivial
  cases m with
  | getBackend => exact (hfind _ _).andThen fun b => toBackendResponseProto_allOps b _
  | listAllBackends =>
    exact (hall _).andThen fun bs => AllOps.traverse (fun b => toBackendResponseProto_allOps b _) bs
  | getGroup =>
    have hget : (GroupApi.getGroup req).AllOps Stmt.ReadOnly :=
      (hfind _ _).andThen fun group => (hpreload _).andThen fun gs => trivial
    exact hget.andThen fun group => toGroupResponseProto_allOps group _
  | listAllGroups =>
    have hget : GroupApi.getAllGroups.AllOps Stmt.ReadOnly :=
      (hall _).andThen fun groups => hpreload groups
    exact hget.andThen fun gs => AllOps.traverse (fun group => toGroupResponseProto_allOps group _) gs
  | getPolicy => exact (hfind _ _).andThen fun p => toPolicyResponseProto_allOps p _
  | listAllPolicies =>
    exact (hall _).andThen fun ps => AllOps.traverse (fun p => toPolicyResponseProto_allOps p _) ps
  | getQuery => exact (hfind _ _).andThen fun q => trivial
  | listQueries => exact (QueryApi.readOnly_findMany _).andThen fun qs => trivial
  | _ => cases hm

/-- The paths that the hook lets through without a token. -/
def exempt (path : List Char) : Bool :=
  Text.isInfix "/Get".toList path || Text.isInfix "/List".toList path

/-- The characters of a method's path. -/
theorem toList_path (s : Service) (name : String) :
    (s.pathPrefix ++ name).toList =
      "/twirp/razorpay.gateway.".toList ++ s.name.toList ++ "/".toList ++ name.toList := by
  have happend : ∀ a b c d : String,
      (a ++ b ++ c ++ d).toList = a.toList ++ b.toList ++ c.toList ++ d.toList := by
    intro a b c d
    simp only [String.toList_append]
  exact happend _ s.name _ name

set_option maxRecDepth 8000 in
/-- **A method whose path the hook exempts only reads**, as a check of all paths. -/
theorem exempt_isRead : ∀ s ∈ Service.all, ∀ e ∈ Method.ofService s,
    exempt ("/twirp/razorpay.gateway.".toList ++ s.name.toList ++ "/".toList ++ e.1.toList) = true →
      e.2.isRead = true := by
  decide +kernel

namespace ApiServer

variable (api : ApiServer)

/-- Without the token the hook lets exempt paths through and no others. -/
theorem exempt_of_authHook {path token : String} (ht : token ≠ api.token)
    (h : api.authHook path token = .ok ()) : exempt path.toList = true := by
  unfold authHook at h
  split at h
  · rename_i hpath
    simpa [exempt, Text.contains] using hpath
  · split at h
    · cases h
    · rw [if_neg (Ne.symm ht)] at h
      cases h

/-- A dispatch sends what the methods of its path send. -/
theorem dispatch_readOnly {s : Service} {req : Request}
    (h : ∀ e ∈ Method.ofService s, s.pathPrefix ++ e.1 = req.url.path →
      ∀ message, (api.gateway.handle e.2 message).AllOps Stmt.ReadOnly) :
    (api.dispatch s req).AllOps Stmt.ReadOnly := by
  unfold dispatch
  split
  · trivial
  · split
    · trivial
    · rename_i name m hfind
      have hpath : s.pathPrefix ++ name = req.url.path := by simpa using List.find?_some hfind
      have hmem : (name, m) ∈ Method.ofService s := List.mem_of_find?_eq_some hfind
      split
      · trivial
      · rename_i message _
        exact ((h _ hmem hpath message).recover _).bind fun res => trivial

/-- **One request without the token sends no writing statement**, whatever its path. -/
theorem serve_readOnly {req : Request} (ht : req.header.get api.tokenHeaderKey ≠ api.token) :
    (api.serve req).AllOps Stmt.ReadOnly := by
  unfold serve
  split
  · trivial
  · -- the health check reads nothing
    refine api.dispatch_readOnly fun e he _ message => ?_
    obtain rfl : e = ("Check", .check) := List.mem_singleton.mp he
    trivial
  · rename_i s _ hfind
    have hs : s ∈ Service.all := List.mem_of_find?_eq_some hfind
    unfold withAuth
    split
    · trivial
    · rename_i hook
      have hexempt := api.exempt_of_authHook ht hook
      refine api.dispatch_readOnly fun e he hpath message => ?_
      -- the path names the method, so the exemption is the method's
      rw [← hpath, toList_path] at hexempt
      exact handle_readOnly api.gateway (exempt_isRead s hs e he hexempt) message

theorem serveAll_readOnly {reqs : List Request}
    (h : ∀ req ∈ reqs, req.header.get api.tokenHeaderKey ≠ api.token) :
    (api.serveAll reqs).AllOps Stmt.ReadOnly := by
  induction reqs with
  | nil => trivial
  | cons req reqs ih =>
    have hfirst := api.serve_readOnly (h req (List.mem_cons_self ..))
    have hrest := ih fun r hr => h r (List.mem_cons_of_mem _ hr)
    exact hfirst.bind fun resp => hrest.bind fun resps => trivial

/-- **Requests without the token leave every table as it is**, whatever their paths and
bodies, whatever statements fail. -/
theorem serveAll_unauthenticated (env : Env) (w : World) (reqs : List Request)
    (h : ∀ req ∈ reqs, req.header.get api.tokenHeaderKey ≠ api.token) :
    ((api.serveAll reqs).run (mysql env) w).2.db = w.db :=
  run_readOnly (api.serveAll_readOnly h) env w

/-- A server whose token is `secret`, for requests about one backend. -/
def guarded : ApiServer where
  gateway := RouterServer.sortedServer
  token := "secret"
  tokenHeaderKey := "X-Auth-Key"
  decode
    | _, .getBackend | _, .deleteBackend => some "trino-1"
    | _, _ => none

/-- A call of a method of the backend service, with a token. -/
def backendCall (name token : String) : Request :=
  { method := "POST"
    url := { path := "/twirp/razorpay.gateway.BackendApi/" ++ name }
    header := [("X-Auth-Key", token)] }

/-- A delete with a wrong token and a get without one. -/
theorem guarded_unauthenticated :
    ((guarded.serveAll [backendCall "DeleteBackend" "guess", backendCall "GetBackend" ""]).run
      (mysql (.available fun _ => 0)) RouterServer.oneCluster).2.db = RouterServer.oneCluster.db :=
  serveAll_unauthenticated guarded (.available fun _ => 0) RouterServer.oneCluster
    [backendCall "DeleteBackend" "guess", backendCall "GetBackend" ""] (by decide)

end ApiServer

end TrinoGateway
