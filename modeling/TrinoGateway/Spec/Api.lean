import TrinoGateway.Spec.Gateway

/-!
# The API server

The five Twirp services that `startApiServer` registers: `Method` are their methods, `handle`
the server's function for each, and `serve` a request that comes to the mux. Four services are
behind the hook `authHook` of `internal/gatewayserver/hooks`, which looks at the token and the
path before the method is dispatched.
-/

namespace TrinoGateway

open Interact Prog

inductive Service
  | healthCheckAPI
  | backendApi
  | groupApi
  | policyApi
  | queryApi
deriving DecidableEq, Repr

namespace Service

def name : Service → String
  | healthCheckAPI => "HealthCheckAPI"
  | backendApi => "BackendApi"
  | groupApi => "GroupApi"
  | policyApi => "PolicyApi"
  | queryApi => "QueryApi"

def all : List Service := [healthCheckAPI, backendApi, groupApi, policyApi, queryApi]

/-- The prefix under which the mux has the service. -/
def pathPrefix (s : Service) : String := "/twirp/razorpay.gateway." ++ s.name ++ "/"

end Service

inductive Method
  | check
  | createOrUpdateBackend
  | getBackend
  | listAllBackends
  | deleteBackend
  | enableBackend
  | disableBackend
  | markHealthyBackend
  | markUnhealthyBackend
  | updateClusterLoadBackend
  | createOrUpdateGroup
  | getGroup
  | listAllGroups
  | deleteGroup
  | enableGroup
  | disableGroup
  | evaluateBackendForGroups
  | createOrUpdatePolicy
  | getPolicy
  | listAllPolicies
  | deletePolicy
  | enablePolicy
  | disablePolicy
  | evaluateGroupsForClient
  | evaluateAuthDelegationForClient
  | evaluateRequestSourceForClient
  | createOrUpdateQuery
  | getQuery
  | listQueries
  | findBackendForQuery
deriving DecidableEq, Repr

namespace Method

/-- The methods of a service, as the generated code switches on their names. -/
def ofService : Service → List (String × Method)
  | .healthCheckAPI => [("Check", check)]
  | .backendApi =>
    [("CreateOrUpdateBackend", createOrUpdateBackend), ("GetBackend", getBackend),
      ("ListAllBackends", listAllBackends), ("DeleteBackend", deleteBackend),
      ("EnableBackend", enableBackend), ("DisableBackend", disableBackend),
      ("MarkHealthyBackend", markHealthyBackend), ("MarkUnhealthyBackend", markUnhealthyBackend),
      ("UpdateClusterLoadBackend", updateClusterLoadBackend)]
  | .groupApi =>
    [("CreateOrUpdateGroup", createOrUpdateGroup), ("GetGroup", getGroup),
      ("ListAllGroups", listAllGroups), ("DeleteGroup", deleteGroup), ("EnableGroup", enableGroup),
      ("DisableGroup", disableGroup), ("EvaluateBackendForGroups", evaluateBackendForGroups)]
  | .policyApi =>
    [("CreateOrUpdatePolicy", createOrUpdatePolicy), ("GetPolicy", getPolicy),
      ("ListAllPolicies", listAllPolicies), ("DeletePolicy", deletePolicy),
      ("EnablePolicy", enablePolicy), ("DisablePolicy", disablePolicy),
      ("EvaluateGroupsForClient", evaluateGroupsForClient),
      ("EvaluateAuthDelegationForClient", evaluateAuthDelegationForClient),
      ("EvaluateRequestSourceForClient", evaluateRequestSourceForClient)]
  | .queryApi =>
    [("CreateOrUpdateQuery", createOrUpdateQuery), ("GetQuery", getQuery),
      ("ListQueries", listQueries), ("FindBackendForQuery", findBackendForQuery)]

/-- The request message: an id alone where it holds nothing else. -/
abbrev Req : Method → Type
  | check | getBackend | deleteBackend | enableBackend | disableBackend | markHealthyBackend
  | markUnhealthyBackend | getGroup | deleteGroup | enableGroup | disableGroup | getPolicy
  | deletePolicy | enablePolicy | disablePolicy | getQuery | findBackendForQuery => String
  | listAllBackends | listAllGroups | listAllPolicies => Unit
  | createOrUpdateBackend => BackendMsg
  | updateClusterLoadBackend => String × ℤ
  | createOrUpdateGroup => GroupMsg
  | evaluateBackendForGroups => List String
  | createOrUpdatePolicy => PolicyMsg
  | evaluateGroupsForClient => PolicyApi.EvaluateClientParams
  | evaluateAuthDelegationForClient | evaluateRequestSourceForClient => ℤ
  | createOrUpdateQuery => QueryApi.QueryMsg
  | listQueries => QueryApi.QueriesListRequest

/-- The response message. -/
abbrev Resp : Method → Type
  | check | evaluateAuthDelegationForClient => Bool
  | createOrUpdateBackend | deleteBackend | enableBackend | disableBackend | markHealthyBackend
  | markUnhealthyBackend | updateClusterLoadBackend | createOrUpdateGroup | deleteGroup
  | enableGroup | disableGroup | createOrUpdatePolicy | deletePolicy | enablePolicy
  | disablePolicy | createOrUpdateQuery => Unit
  | getBackend => BackendMsg
  | listAllBackends => List BackendMsg
  | getGroup => GroupMsg
  | listAllGroups => List GroupMsg
  | evaluateBackendForGroups | findBackendForQuery => String × String
  | getPolicy => PolicyMsg
  | listAllPolicies => List PolicyMsg
  | evaluateGroupsForClient => List String
  | evaluateRequestSourceForClient => String
  | getQuery => QueryApi.QueryMsg
  | listQueries => QueryApi.QueriesListResponse

end Method

/-- The server's function for a method. -/
def GatewayServer.handle (g : GatewayServer) : (m : Method) → m.Req → Srv (Result m.Resp)
  | .check, _ => return .ok true
  | .createOrUpdateBackend, req => BackendApi.createOrUpdateBackend req
  | .getBackend, id => BackendApi.getBackend id
  | .listAllBackends, _ => BackendApi.listAllBackends
  | .deleteBackend, id => BackendApi.deleteBackend id
  | .enableBackend, id => BackendApi.enableBackend id
  | .disableBackend, id => BackendApi.disableBackend id
  | .markHealthyBackend, id => BackendApi.markHealthyBackend id
  | .markUnhealthyBackend, id => BackendApi.markUnhealthyBackend id
  | .updateClusterLoadBackend, req => BackendApi.updateClusterLoadBackend req.1 req.2
  | .createOrUpdateGroup, req => GroupApi.Server.createOrUpdateGroup req
  | .getGroup, id => GroupApi.Server.getGroup id
  | .listAllGroups, _ => GroupApi.Server.listAllGroups
  | .deleteGroup, id => GroupApi.deleteGroup id
  | .enableGroup, id => GroupApi.enableGroup id
  | .disableGroup, id => GroupApi.disableGroup id
  | .evaluateBackendForGroups, ids => GroupApi.evaluateBackendForGroups g.cfg ids
  | .createOrUpdatePolicy, req => PolicyApi.Server.createOrUpdatePolicy req
  | .getPolicy, id => PolicyApi.Server.getPolicy id
  | .listAllPolicies, _ => PolicyApi.Server.listAllPolicies
  | .deletePolicy, id => PolicyApi.deletePolicy id
  | .enablePolicy, id => PolicyApi.enablePolicy id
  | .disablePolicy, id => PolicyApi.disablePolicy id
  | .evaluateGroupsForClient, req => PolicyApi.evaluateGroupsForClient g.ord req
  | .evaluateAuthDelegationForClient, port => PolicyApi.evaluateAuthDelegationForClient port
  | .evaluateRequestSourceForClient, port => PolicyApi.evaluateRequestSourceForClient port
  | .createOrUpdateQuery, req => QueryApi.createOrUpdateQuery req
  | .getQuery, id => QueryApi.Server.getQuery id
  | .listQueries, req => QueryApi.Server.listQueries req
  | .findBackendForQuery, id => QueryApi.findBackendForQuery id

/-- The answer to a request; `page` are the texts and redirects that no service answers. -/
inductive ApiResponse
  | unauthenticated (msg : String)
  | badRoute
  | malformed
  | answer (m : Method) (res : Result m.Resp)
  | page

/-- The API server: the gateway server, `boot.Config.Auth`, and the decoding of a body as the
message of a method. -/
structure ApiServer where
  gateway : GatewayServer
  token : String
  tokenHeaderKey : String
  decode : Body → (m : Method) → Option m.Req

namespace ApiServer

variable (api : ApiServer)

/-- The hook `RequestReceived` of `Auth`. -/
def authHook (urlPath token : String) : Except String Unit :=
  if Text.contains urlPath "/Get" ∨ Text.contains urlPath "/List" then .ok ()
  else if token = "" then
    .error ("empty/undefined apiToken in header: " ++ api.tokenHeaderKey)
  else if api.token = token then .ok ()
  else .error "invalid apiToken for authentication"

/-- The service's switch: a method is dispatched for its path only. -/
def dispatch (s : Service) (req : Request) : Srv ApiResponse :=
  if req.method ≠ "POST" then return .badRoute
  else
    match (Method.ofService s).find? fun m => s.pathPrefix ++ m.1 = req.url.path with
    | none => return .badRoute
    | some (_, m) =>
      match api.decode req.body m with
      | none => return .malformed
      | some message => do
        let res ← rpc (api.gateway.handle m message)
        return .answer m res

/-- A service behind `WithAuth`. -/
def withAuth (s : Service) (req : Request) : Srv ApiResponse :=
  match api.authHook req.url.path (req.header.get api.tokenHeaderKey) with
  | .error msg => return .unauthenticated msg
  | .ok () => api.dispatch s req

/-- The mux. -/
def serve (req : Request) : Srv ApiResponse :=
  match Service.all.find? fun s => Text.hasPrefix req.url.path s.pathPrefix with
  | none => return .page
  | some .healthCheckAPI => api.dispatch .healthCheckAPI req
  | some s => api.withAuth s req

/-- One request after the other. -/
def serveAll : List Request → Srv (List ApiResponse)
  | [] => return []
  | req :: reqs => do
    let resp ← api.serve req
    let resps ← serveAll reqs
    return resp :: resps

end ApiServer

end TrinoGateway
