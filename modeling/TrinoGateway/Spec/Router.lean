import TrinoGateway.Lib.Json
import TrinoGateway.Lib.Regex
import TrinoGateway.Spec.BackendApi
import TrinoGateway.Spec.Http
import TrinoGateway.Spec.PolicyApi
import TrinoGateway.Spec.QueryApi

/-!
# The router, `internal/router`

The director of the reverse proxy and what follows the backend's answer. The router's state
is the gateway server's database, which it reaches by RPC: a function of the router is a
program over the RPCs, each answered by a value or an error.

* `parseClientRequest` tells four kinds of requests apart.
* `processRequest` resolves the backend of a request and points the request at it;
  `handleClientRequest` is the director, which marks a request that failed.
* `processResponse` hands the submission's record to a goroutine, `saveQuery`.
-/

namespace TrinoGateway

open Interact Prog

/-- The `Query` message: it has the fields of the params that the server makes of it. -/
abbrev QueryMsg := QueryApi.QueryCreateParams

/-- What the router asks outside itself: RPCs of the gateway server, and the clock. -/
inductive RouterOp
  | evaluateGroupsForClient (req : PolicyApi.EvaluateClientParams)
  | evaluateBackendForGroups (groupIds : List String)
  | findBackendForQuery (queryId : String)
  | getBackend (id : String)
  | evaluateRequestSourceForClient (incomingPort : ℤ)
  | evaluateAuthDelegationForClient (incomingPort : ℤ)
  | createOrUpdateQuery (req : QueryMsg)
  | unixNow
deriving DecidableEq

abbrev RouterOp.Ans : RouterOp → Type
  | evaluateGroupsForClient _ => Result (List String)
  | evaluateBackendForGroups _ => Result (String × String)
  | findBackendForQuery _ => Result (String × String)
  | getBackend _ => Result BackendMsg
  | evaluateRequestSourceForClient _ => Result String
  | evaluateAuthDelegationForClient _ => Result Bool
  | createOrUpdateQuery _ => Result Unit
  | unixNow => ℤ

/-- Programs of the router. -/
abbrev Router := Prog RouterOp RouterOp.Ans

structure RouterServer where
  port : ℤ
  routerHostname : String
deriving DecidableEq, Repr

/-- The port in a message: `int32(r.port)`. -/
def RouterServer.incomingPort (r : RouterServer) : ℤ := r.port.bmod (2 ^ 32)

/-- A submission, and a request to the query API, which has the same fields. -/
structure QueryRequest where
  headerConnectionProperties : String
  headerClientTags : String
  incomingPort : ℤ
  transactionId : String
  clientHost : String
  query : QueryMsg
  /-- The bytes of the query's text are UTF-8. -/
  utf8 : Bool := true
deriving DecidableEq, Repr

inductive ClientRequest
  | api
  | ui (queryId : String)
  | query (nt : QueryRequest)
  | queryApi (nt : QueryRequest)
deriving DecidableEq, Repr

/-- Transactions are not supported: the header is absent or says so. -/
def QueryRequest.checkTransaction (tag : String) (r : QueryRequest) : Except String Unit :=
  if r.transactionId = "" ∨ r.transactionId = "NONE" then .ok ()
  else .error (tag ++ ": Transactions are not supported in gateway.")

/-- `ClientRequest.Validate`. -/
def ClientRequest.validate : ClientRequest → Except String Unit
  | api => .ok ()
  | ui queryId => if queryId = "" then .error "ui: Missing query id" else .ok ()
  | query r =>
    let tag := "query submission"
    if r.query.username = "" then .error (tag ++ ": Missing Trino Username header")
    else if r.query.text = "" then .error (tag ++ ": Missing Query text")
    else r.checkTransaction tag
  | queryApi r =>
    let tag := "query api"
    if r.query.username = "" then .error (tag ++ ": Missing Trino Username header")
    else if r.query.id = "" then .error (tag ++ ": Missing Query Id")
    else r.checkTransaction tag

section Extract

open Regex

/-- A word, bare or in double quotes. -/
def quotable (w : String) : Regex := alt (lit w) (lit ("\"" ++ w ++ "\""))

def callKillQuery : Regex :=
  concat [alt (lit "call") (lit "CALL"), plus (chr ' '), quotable "system", any,
    quotable "runtime", any, quotable "kill_query"]

/-- The quoted query id, as group `n`. -/
def quotedId (n : ℕ) : Regex :=
  concat [star (chr ' '), chr '\'', group n (star (set fun c => word c || c = '-')), chr '\'']

def killQueryId : Regex :=
  alt (concat [quotable "kill_query", star (chr ' '), chr '(', quotedId 1])
    (concat [lit "query_id", star (chr ' '), lit "=>", quotedId 2])

/-- The query id that a call of `kill_query` names. -/
def extractQueryId (body : String) : String :=
  if (callKillQuery.submatch body).any fun groups => groups 0 ≠ "" then
    match killQueryId.submatch body with
    | none => ""
    | some groups => if groups 1 = "" then groups 2 else groups 1
  else ""

example : extractQueryId "CALL system.runtime.kill_query('20240101_1-a')" = "20240101_1-a" := by
  decide

end Extract

section Parse

variable (gunzip : Gunzip)

/-- The text of a request, and the request with its body restored. `none` is a panic. -/
def constructQueryFromReq (req : Request) : Option (Except String String × Request) :=
  if req.method = "GET" then some (.ok "", req)
  else if req.method = "POST" then
    -- reading from a nil body panics
    if req.nilBody then none
    else
      (parseHttpPayloadBody gunzip req.body (req.header.get "Content-Encoding")).map fun res =>
        match res with
        | (.ok body, restored) => (.ok body, { req with body := restored })
        | (.error _, restored) => (.error "unreadable body", { req with body := restored })
  else
    some (.error ("unsupported request method '" ++ req.method ++
      "' for extracting query ID from request body"), req)

/-- The fields that a submission and a query API request take from the request. -/
def RouterServer.queryRequestOf (r : RouterServer) (req : Request) (query : QueryMsg) :
    QueryRequest :=
  { incomingPort := r.incomingPort
    headerConnectionProperties := TrinoHeaders.get TrinoHeaders.connectionProperties req
    headerClientTags := TrinoHeaders.get TrinoHeaders.clientTags req
    transactionId := TrinoHeaders.get TrinoHeaders.transactionId req
    query := query
    clientHost := req.host }

/-- The kind of a request, and the request with its body restored. `none` is a panic. -/
def RouterServer.parseClientRequest (r : RouterServer) (req : Request) :
    Option (Except String ClientRequest × Request) :=
  let unsupported : Except String ClientRequest :=
    .error "client request type not supported by gateway"
  if req.method = "GET" then
    -- a path with both words is a UI request
    if Text.contains req.url.path "ui/" then some (.ok (.ui req.url.rawQuery), req)
    else if Text.contains req.url.path "v1/info" ∨ Text.contains req.url.path "v1/status" then
      some (.ok .api, req)
    else some (unsupported, req)
  else if req.method = "POST" then
    -- whatever the path
    (constructQueryFromReq gunzip req).map fun res =>
      -- a text that cannot be read is logged and counts as empty
      let qText := res.1.toOption.getD ""
      let nt := r.queryRequestOf req
        { id := extractQueryId qText
          text := qText
          username := TrinoHeaders.get TrinoHeaders.user req
          clientIp := req.remoteAddr }
      (.ok (.query { nt with
        utf8 := isUtf8Payload gunzip req.body (req.header.get "Content-Encoding") }), res.2)
  else if req.method = "DELETE" ∧ Text.hasPrefix req.url.path "/v1/query" then
    -- a path without the slash is kept whole as the id
    some (.ok (.queryApi (r.queryRequestOf req
      { id := Text.trimPrefix req.url.path "/v1/query/"
        username := TrinoHeaders.get TrinoHeaders.user req
        clientIp := req.remoteAddr })), req)
  else some (unsupported, req)

end Parse

/-- The request and its parsed form, as a call leaves them, with the call's error. -/
structure Prepared where
  err : Result Unit
  cReq : ClientRequest
  req : Request

/-- The host that a backend is reached at by a kind of request. -/
def ClientRequest.hostOf (backend : BackendMsg) : ClientRequest → String
  | api => ""
  | ui _ => backend.externalUrl
  | query _ => backend.hostname
  | queryApi _ => backend.hostname

/-- The record of where the query runs, for the kinds that keep one. -/
def ClientRequest.withServerHost (serverHost : String) : ClientRequest → ClientRequest
  | api => api
  | ui queryId => ui queryId
  | query nt => query { nt with query := { nt.query with serverHost := serverHost } }
  | queryApi nt => queryApi { nt with query := { nt.query with serverHost := serverHost } }

/-- The request pointed at a host. -/
def Request.setHost (req : Request) (scheme host : String) : Request :=
  { req with url := { req.url with host := host, scheme := scheme }, host := host }

/-- The headers of a forwarded request: the port's source, if it has one, and the host. -/
def Request.setForwarded (req : Request) (source host : String) : Request :=
  let header := if source ≠ "" then req.header.set "X-Trino-Source" source else req.header
  { req with header := header.set "X-Forwarded-Host" host }

variable (gunzip : Gunzip) (r : RouterServer)

namespace RouterServer

/-- Point the request at the backend. The request is changed in place, before the last RPC. -/
def prepareReqForRouting (req : Request) (backendId : String) (cReq : ClientRequest) :
    Router Prepared := do
  match ← perform (RouterOp.getBackend backendId) with
  | .error err => return { err := .error err, cReq := cReq, req := req }
  | .ok backend =>
    -- the type switch has no case for an `ApiRequest`
    if cReq = .api then
      return { err := .error (.text "unexpected type *router.ApiRequest"), cReq := cReq, req := req }
    else
      let host := cReq.hostOf backend
      let scheme := BackendApi.schemeName backend.scheme
      let cReq := cReq.withServerHost (scheme ++ "://" ++ backend.externalUrl)
      -- from here on the request points at the backend, also on the error path
      let req := req.setHost scheme host
      match ← perform (RouterOp.evaluateRequestSourceForClient r.incomingPort) with
      | .error err => return { err := .error err, cReq := cReq, req := req }
      | .ok source => return { err := .ok (), cReq := cReq, req := req.setForwarded source host }

/-- The backend and the group for a new submission. -/
def evaluateRoutingBackend (clientReq : QueryRequest) : Router (Result (String × String)) := do
  match ← perform (RouterOp.evaluateGroupsForClient
      { listeningPort := clientReq.incomingPort
        hostname := clientReq.clientHost
        headerConnectionProperties := clientReq.headerConnectionProperties
        headerClientTags := clientReq.headerClientTags }) with
  | .error err => return .error err
  | .ok groupIds => perform (RouterOp.evaluateBackendForGroups groupIds)

/-- A call's outcome, as its caller returns it: the parsed request unless there is an error. -/
def returned (p : Prepared) : Result (Option ClientRequest) × Request :=
  (p.err.map fun () => some p.cReq, p.req)

/-- The record with the backend and the group it is routed to. -/
def withBackend (nt : QueryRequest) (backendId groupId : String) : QueryRequest :=
  { nt with query := { nt.query with backendId := backendId, groupId := groupId } }

/-- A request for the UI of a query. -/
def routeUi (req : Request) (queryId : String) :
    Router (Result (Option ClientRequest) × Request) := do
  match ← perform (RouterOp.findBackendForQuery queryId) with
  | .error err => return (.error err, req)
  | .ok pair => return returned (← r.prepareReqForRouting req pair.1 (.ui queryId))

/-- What the getters read from an answer that may be nil. -/
def pairOf (res : Result (String × String)) : String × String := res.toOption.getD ("", "")

/-- A request about a query that has an id, a call of `kill_query` or a query API request. An
error of the lookup is logged. -/
def routeKnown (req : Request) (kind : QueryRequest → ClientRequest) (nt : QueryRequest) :
    Router (Result (Option ClientRequest) × Request) := do
  let pair := pairOf (← perform (RouterOp.findBackendForQuery nt.query.id))
  return returned (← r.prepareReqForRouting req pair.1 (kind (withBackend nt pair.1 pair.2)))

/-- A new submission. The error of the preparation is dropped. -/
def routeSubmission (req : Request) (nt : QueryRequest) :
    Router (Result (Option ClientRequest) × Request) := do
  let resolved ← evaluateRoutingBackend nt
  let pair := pairOf resolved
  -- prepared even if there is no backend: then `GetBackend` is asked for the empty id
  let p ← r.prepareReqForRouting req pair.1 (.query nt)
  match resolved, p.cReq with
  | .error err, _ => return (.error err, p.req)
  | .ok _, .query nt => return (.ok (some (.query (withBackend nt pair.1 pair.2))), p.req)
  | .ok _, cReq => return (.ok (some cReq), p.req)

/-- The part of `ProcessRequest` after validation, by the kind of the request. -/
def routeRequest (req : Request) : ClientRequest → Router (Result (Option ClientRequest) × Request)
  -- marked `TODO` in the source: the request is passed on as it came
  | .api => return (.ok none, req)
  | .ui queryId => r.routeUi req queryId
  | .query nt =>
    if nt.query.id ≠ "" then r.routeKnown req .query nt else r.routeSubmission req nt
  | .queryApi nt => r.routeKnown req .queryApi nt

def processRequest (req : Request) : Router (Result (Option ClientRequest) × Request) := do
  let (parsed, req) ← deref (r.parseClientRequest gunzip req)
  match parsed with
  | .error err => return (.error (.text ("unable to parse Trino Request - " ++ err)), req)
  | .ok cReq =>
    match cReq.validate with
    | .error err => return (.error (.text ("invalid Trino Request - " ++ err)), req)
    | .ok () => r.routeRequest req cReq

/-- What the director leaves in the request's context. -/
structure ContextSharedObject where
  clientRequest : Option ClientRequest
  preRoutingErr : Option GoErr
deriving DecidableEq

/-- The host of a request that could not be routed. -/
def invalidHost : String := "http://invalid:8080"

def handleClientRequest (req : Request) : Router (ContextSharedObject × Request) := do
  let (res, req) ← r.processRequest gunzip req
  match res with
  | .error err =>
    return ({ clientRequest := none, preRoutingErr := some err },
      { req with url := { req.url with host := invalidHost } })
  | .ok cReq => return ({ clientRequest := cReq, preRoutingErr := none }, req)

open Regex in
/-- The scheme and the authority of a location, and the rest as group `1`. -/
def authority : Regex :=
  concat [plus (set word), lit "://", star (set (· ≠ '/')), group 1 (star any)]

def handleRedirect (resp : Response) : Response :=
  let oldLoc := resp.header.get "Location"
  if oldLoc ≠ "" then
    let newLoc := "http://" ++ r.routerHostname ++
      authority.replaceAll (fun groups => groups.get 1) oldLoc
    { resp with header := resp.header.set "Location" newLoc }
  else resp

/-- What the goroutine that saves a query has captured. -/
structure QuerySave where
  body : String
  req : QueryMsg
  utf8 : Bool
deriving DecidableEq, Repr

/-- The response as it is passed on, and the save that is started. `none` is a panic. -/
def processResponse (resp : Response) (cReq : Option ClientRequest) :
    Option (Response × Option QuerySave) :=
  if 200 ≤ resp.statusCode ∧ resp.statusCode < 400 then
    -- redirects proper, the 3xx answers, are passed on unchanged
    let resp := if resp.statusCode < 300 then r.handleRedirect resp else resp
    match cReq with
    | some (.query nt) =>
      (parseHttpPayloadBody gunzip resp.body (resp.header.get "Content-Encoding")).map fun res =>
        -- a body that cannot be read is logged and counts as empty
        ({ resp with body := res.2 },
          some { body := res.1.toOption.getD "", req := nt.query, utf8 := nt.utf8 })
    | _ => some (resp, none)
  else some (resp, none)

/-- The `Id` of the response, as `json.Unmarshal` finds it: empty when there is none. -/
def extractQueryIdFromServerResponse (body : String) : String :=
  match Json.parse body with
  | none => ""
  | some resp => resp.stringField "Id"

/-- The goroutine. An error of the save is logged; so is that of a message which is not sent, since
one of its strings is not UTF-8. -/
def saveQuery (save : QuerySave) : Router Unit := do
  let now ← perform RouterOp.unixNow
  if save.utf8 then
    let _ ← perform (RouterOp.createOrUpdateQuery
      { save.req with id := extractQueryIdFromServerResponse save.body, submittedAt := now })
    return ()
  else return ()

end RouterServer

end TrinoGateway
