import TrinoGateway.Lib.Record
import TrinoGateway.Spec.Api
import TrinoGateway.Spec.Auth
import TrinoGateway.Spec.Lifecycle
import TrinoGateway.Spec.ReverseProxy

/-!
# The gateway in service

`router.Server` puts the reverse proxy behind `AuthHandler`: `serveHTTP` is a request of a client
from its arrival to the reply. The metrics of `internal/router` are counted on the way; the
histograms of delays are left out.

* `deploySystem` runs any number of these requests and of calls of the API, statement by statement,
  on the gateway server's database. The monitor and the operators reach the database by the API
  alone, so its calls stand for them.
* The goroutine that saves a query comes after the reply, which it does not touch.
-/

namespace TrinoGateway

open Interact Prog

/-- The counters of `internal/router`, by their labels. -/
inductive Metric
  | requestsReceivedTotal (method port : String)
  | requestsRoutedTotal (method port group backend : String)
  | responsesSentTotal (method code : String)
deriving DecidableEq, Repr

/-- What is written to the client: `http.Error`, what `ErrorHandler` writes, the backend's response
as it is passed on, or one with which the connection becomes that of the backend. For a handler that
writes nothing, `net/http` answers with an empty 200. -/
inductive Reply
  | httpError (code : ℕ) (msg : String)
  | errorHandler (status : ℕ) (msg : String)
  | passed (resp : Response)
  | switched (resp : Response)
  | nothing
deriving DecidableEq, Repr

inductive DeployOp
  | stmt (o : Stmt)
  | authenticate (username password : String)
  | roundTrip (shared : RouterServer.ContextSharedObject) (req : Request)
  | withLabelValues (m : Metric)
  | inc (m : Metric)
  | respond (reply : Reply)
deriving DecidableEq

abbrev DeployOp.Ans : DeployOp → Type
  | stmt o => o.Ans
  | authenticate _ _ => Result Bool
  | roundTrip _ _ => Option Response
  | withLabelValues _ | inc _ => Unit
  -- whether the client has taken all of it
  | respond _ => Bool

abbrev Deploy := Prog DeployOp DeployOp.Ans

namespace Deploy

/-- A program of the gateway server. -/
def onDb {α : Type} (p : Srv α) : Deploy α := p.embed DeployOp.stmt

/-- What `AuthHandler` asks. -/
def handlerOp (g : GatewayServer) : (o : HandlerOp) → Deploy o.Ans
  | .rpc o => onDb (g.serve o)
  | .authenticate username password => perform (DeployOp.authenticate username password)

abbrev withLabelValues (m : Metric) : Deploy Unit := perform (DeployOp.withLabelValues m)

/-- `WithLabelValues(..).Inc()`. -/
abbrev inc (m : Metric) : Deploy Unit := do
  withLabelValues m
  perform (DeployOp.inc m)

abbrev respond (reply : Reply) : Deploy Bool := perform (DeployOp.respond reply)

end Deploy

namespace RouterServer

open Deploy

/-- `ContextSharedObject`, with what `handleServerResponse` adds. -/
structure SharedObject extends ContextSharedObject where
  postRoutingErr : Option GoErr := none
deriving DecidableEq

def handlePreRoutingError : ℕ × String := (400, "Gateway couldn't process this request")

def handlePostRoutingError : ℕ × String :=
  (502, "Gateway encountered an error parsing server response")

def handleServerError : ℕ × String := (502, "Trino Server unreachable")

/-- `ErrorHandler`: the status and the text, by the errors in the context. -/
def errorStatus (shared : SharedObject) : ℕ × String :=
  if shared.preRoutingErr ≠ none then handlePreRoutingError
  else if shared.postRoutingErr ≠ none then handlePostRoutingError
  else handleServerError

/-- The type switch after `ProcessRequest`. -/
def routedMetric (r : RouterServer) (method : String) : ClientRequest → Option Metric
  | .api | .ui _ => none
  | .query nt | .queryApi nt =>
    some (.requestsRoutedTotal method (toString r.port) nt.query.groupId nt.query.backendId)

section Serve

variable (gunzip : Gunzip) (r : RouterServer) (g : GatewayServer)

/-- `Director`, with its metrics. -/
def director (req : Request) : Deploy (SharedObject × Request) := do
  -- the counter of the requests received is looked up and not incremented
  withLabelValues (.requestsReceivedTotal req.method (toString r.port))
  let (shared, outreq) ← onDb (g.onServer (r.handleClientRequest gunzip req))
  match shared.clientRequest.bind (r.routedMetric req.method) with
  | none => return ({ toContextSharedObject := shared }, outreq)
  | some m => do
    inc m
    return ({ toContextSharedObject := shared }, outreq)

/-- `ErrorHandler`, on a request with the director's context. -/
def errorHandler (shared : SharedObject) (method : String) : Deploy Unit := do
  let (status, msg) := errorStatus shared
  let _ ← respond (.errorHandler status msg)
  inc (.responsesSentTotal method (toString status))

/-- `ProcessResponse` with the error that it returns, which is nil on every path. -/
def processResponseErr (resp : Response) (cReq : Option ClientRequest) :
    Option (Result Unit × Response × Option QuerySave) :=
  (r.processResponse gunzip resp cReq).map fun res => (.ok (), res)

/-- `handleServerResponse`, the `ModifyResponse` of the proxy. Its error also goes into the
context. -/
def handleServerResponse (shared : SharedObject) (method : String) (resp : Response) :
    Deploy (SharedObject × Result Unit × Response × Option QuerySave) := do
  let (err, resp, save) ← deref (r.processResponseErr gunzip resp shared.clientRequest)
  match err with
  | .error e => return ({ shared with postRoutingErr := some e }, .error e, resp, save)
  | .ok () => do
    -- counted as a 200, whatever the backend's status
    inc (.responsesSentTotal method (toString 200))
    return ({ shared with postRoutingErr := none }, .ok (), resp, save)

/-- `modifyResponse` of the proxy: whether it may go on with the response. -/
def modifyResponse (shared : SharedObject) (method : String) (resp : Response) :
    Deploy (Bool × SharedObject × Response × Option QuerySave) := do
  let (shared, err, resp, save) ← r.handleServerResponse gunzip shared method resp
  match err with
  | .error _ => do
    errorHandler shared method
    return (false, shared, resp, save)
  | .ok () => return (true, shared, resp, save)

/-- `handleUpgradeResponse`: the connection is handed to a backend that switches to the protocol
which was asked for. -/
def handleUpgradeResponse (shared : SharedObject) (req : Request) (resp : Response) :
    Deploy Unit := do
  let reqUpType := req.header.upgradeType
  let resUpType := resp.header.upgradeType
  if !isPrint resUpType then errorHandler shared req.method
  -- the check above does not return
  if !Text.eqFold reqUpType resUpType then errorHandler shared req.method
  else if !resp.isConnection then errorHandler shared req.method
  else do
    let written ← respond (.switched resp)
    if !written then errorHandler shared req.method

/-- The proxy after `RoundTrip`: the save that is started, and whether the reply breaks off. -/
def afterRoundTrip (shared : SharedObject) (outreq : Request) :
    Option Response → Deploy (Option QuerySave × Bool)
  | none => do
    errorHandler shared outreq.method
    return (none, false)
  | some resp =>
    if resp.statusCode = 101 then do
      let (ok, shared, resp, save) ← modifyResponse gunzip r shared outreq.method resp
      if ok then handleUpgradeResponse shared outreq resp
      return (save, false)
    else do
      let (ok, _, resp, save) ← modifyResponse gunzip r shared outreq.method resp.endToEnd
      if ok then do
        let written ← respond (.passed resp)
        return (save, !written || resp.body.err ≠ none)
      else return (save, false)

/-- `httputil.ReverseProxy`: the director, the transport, and the handler of the response or of the
error. Informational responses that come before the answer, and trailers, are left out. -/
def reverseProxy (req : Request) : Deploy (Option QuerySave × Bool) := do
  let (shared, outreq) ← r.director gunzip g req.cloned
  if !isPrint outreq.header.upgradeType then do
    -- `ErrorHandler` finds no context in the client's own request, and writes nothing
    let _ ← respond .nothing
    return (none, false)
  else do
    let outreq := req.leaving outreq
    let answer ← perform (DeployOp.roundTrip shared.toContextSharedObject outreq)
    r.afterRoundTrip gunzip shared outreq answer

def serveHTTP (req : Request) : Deploy (Option QuerySave × Bool) := do
  match ← (r.authHandler req).interp (handlerOp g) with
  | .refused code msg => do
    let _ ← respond (.httpError code msg)
    return (none, false)
  | .served req => r.reverseProxy gunzip g req

/-- The goroutine that a response starts. -/
def runSave : Option QuerySave → Deploy Unit
  | none => return ()
  | some save => onDb (g.onServer (RouterServer.saveQuery save))

/-- The request of a client, with the goroutine that it starts. -/
def serveClient (req : Request) : Deploy Unit := do
  let (save, brokenOff) ← r.serveHTTP gunzip g req
  runSave g save
  -- `http.ErrAbortHandler`, which closes the client's connection
  if brokenOff then panic else return ()

end Serve

end RouterServer

/-- What arrives at the gateway: a client's request at a router, or a call of the API. -/
inductive Arrival
  | client (r : RouterServer) (req : Request)
  | api (m : Method) (req : m.Req)

def Arrival.prog (gunzip : Gunzip) (g : GatewayServer) : Arrival → Deploy Unit
  | client r req => r.serveClient gunzip g req
  | api m req => Deploy.onDb do
    let _ ← rpc (g.handle m req)
    return ()

variable {ι : Type}

/-- Statements fail as `allowed` says, and the clock may show anything. The authentication service
may answer anything, a request with a host may have any response, and clients may go away. -/
def deploySystem (allowed : ι → Stmt → Db → Option DbErr → Prop) :
    System ι DeployOp DeployOp.Ans Db where
  sem i
    | .stmt o, db, a, db' => ∃ now fault, allowed i o db fault ∧
        a = (exec now fault o db).1 ∧ db' = (exec now fault o db).2
    | .authenticate _ _, db, _, db' => db' = db
    | .roundTrip _ req, db, a, db' => (req.url.host = "" → a = none) ∧ db' = db
    | .withLabelValues _, db, _, db' => db' = db
    | .inc _, db, _, db' => db' = db
    | .respond _, db, _, db' => db' = db
  env _ _ := False

/-- A run of the gateway up to some point: what has arrived, the database it began with, and the
pool that an interleaving has reached. -/
structure Run (ι : Type) [DecidableEq ι] where
  gunzip : Gunzip
  server : ι → GatewayServer
  arrivals : ι → Arrival
  db : Db
  pool : Pool ι DeployOp DeployOp.Ans Unit (Recorded ι DeployOp DeployOp.Ans Db)
  reached : (deploySystem anyFailure).recording.Reachable
    (System.begin (fun i => (arrivals i).prog gunzip (server i)) db) pool

namespace Run

variable [DecidableEq ι] (R : Run ι)

/-- What task `i` has done so far. -/
def record (i : ι) : Record DeployOp DeployOp.Ans Db := R.pool.state.record i

/-- The database as the run has left it. -/
def now : Db := R.pool.state.now

/-- A property of every state of the run, and of every other run of its tasks. -/
def Always (I : Db → Prop) : Prop :=
  ∀ P, (deploySystem anyFailure).recording.Reachable
    (System.begin (fun i => (R.arrivals i).prog R.gunzip (R.server i)) R.db) P → I P.state.now

/-- Task `i` is over. -/
def Ended (i : ι) : Prop := R.pool.procs i = ret ()

end Run

/-- The handler of a run at time `now`, in which no statement fails: the service accepts every pair,
and a request has the response of its host. -/
def deployHandler (now : ℤ) (respond : String → Option Response) (_ : ι) :
    (o : DeployOp) → Db → o.Ans × Db
  | .stmt o, db => exec now none o db
  | .authenticate _ _, db => (.ok true, db)
  | .roundTrip _ req, db => (if req.url.host = "" then none else respond req.url.host, db)
  | .withLabelValues _, db => ((), db)
  | .inc _, db => ((), db)
  | .respond _, db => (true, db)

theorem deployHandler_sem (now : ℤ) (respond : String → Option Response) (i : ι) (o : DeployOp)
    (db : Db) :
    (deploySystem anyFailure).sem i o db (deployHandler now respond i o db).1
      (deployHandler now respond i o db).2 := by
  cases o with
  | stmt o => exact ⟨now, none, trivial, rfl, rfl⟩
  | authenticate username password => exact rfl
  | roundTrip shared req =>
    refine ⟨fun hhost => ?_, rfl⟩
    simp [deployHandler, hhost]
  | withLabelValues m => exact rfl
  | inc m => exact rfl
  | respond reply => exact rfl

/-- The run in which the tasks take turns as `sched` says. -/
def Run.play [DecidableEq ι] (g : GatewayServer) (arrivals : ι → Arrival) (db : Db) (now : ℤ)
    (respond : String → Option Response) (sched : List ι) : Run ι where
  gunzip bytes := .ok bytes
  server _ := g
  arrivals := arrivals
  db := db
  pool := sched.foldl (System.perform (System.recordingHandler (deployHandler now respond)))
    (System.begin (fun i => (arrivals i).prog (fun bytes => .ok bytes) g) db)
  reached := System.foldl_perform_reachable _
    (System.recordingHandler_sem (deployHandler_sem now respond)) sched _

/-- Each event of a run is a step of the system. -/
def Explained (e : Event DeployOp DeployOp.Ans Db) : Prop :=
  (deploySystem anyFailure).sem () e.op e.before e.answer e.after

/-- A request that was sent with its context, and the response it had. -/
structure Exchange where
  shared : RouterServer.ContextSharedObject
  req : Request
  resp : Option Response
deriving DecidableEq

/-- What a task does outside of the gateway: an exchange with a backend, an increment of a counter,
a reply to the client, all of which it takes or not. -/
inductive Visible
  | sent (x : Exchange)
  | counted (m : Metric)
  | replied (reply : Reply) (taken : Bool)
deriving DecidableEq

def Visible.ofEvent : Event DeployOp DeployOp.Ans Db → Option Visible
  | ⟨.roundTrip shared req, _, resp, _⟩ => some (.sent { shared := shared, req := req, resp := resp })
  | ⟨.inc m, _, _, _⟩ => some (.counted m)
  | ⟨.respond reply, _, taken, _⟩ => some (.replied reply taken)
  | ⟨.stmt _, _, _, _⟩ | ⟨.authenticate _ _, _, _, _⟩ | ⟨.withLabelValues _, _, _, _⟩ => none

def visible (es : Record DeployOp DeployOp.Ans Db) : List Visible := es.filterMap Visible.ofEvent

end TrinoGateway
