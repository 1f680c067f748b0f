import TrinoGateway.Lib.Cleanup
import TrinoGateway.Spec.TrinoClient

/-!
# How the monitor probes a cluster, `internal/monitor/trino.go`

`Monitor` takes the checks of a cluster for single answers. Here they are what they are made of:
HTTP, the driver of `database/sql`, the `TrinoClient` that holds a database handle from its first
query on, and what is deferred. A result set is given with its rows; `next` and `scan` are the calls
that go through them.

`Handles` follows what is open. A client that is dropped with something open, a call on a handle that
is not open and a handle that is opened twice count as misuse.
-/

namespace TrinoGateway

open Interact Prog

structure ProbeConfig extends MonitorConfig where
  healthCheckSql : String
deriving DecidableEq, Repr

inductive ProbeOp
  | newClient
  | isTimeInCron (sched : String)
  | send (req : Request)
  | closeBody
  | hasDb
  | registerCustomClient (key : String)
  | openDb (dsn : String)
  | ping
  | query (q user : String)
  | next
  | scan
  | closeRows
  | closeDb
  | listAllBackends
  | updateClusterLoadBackend (id : String) (clusterLoad : ℤ)
  | setBackendLoad (id : String) (load : Int32)
deriving DecidableEq

abbrev ProbeOp.Ans : ProbeOp → Type
  | isTimeInCron _ => Result Bool
  | send _ => Result Response
  | hasDb => Bool
  | registerCustomClient _ | openDb _ | ping | closeDb | updateClusterLoadBackend _ _ => Result Unit
  | query _ _ => Result Rows
  | listAllBackends => Result (List (Option BackendMsg))
  | newClient | closeBody | next | scan | closeRows | setBackendLoad _ _ => Unit

/-- Programs of the monitor, with their probes. -/
abbrev Probe := Prog ProbeOp ProbeOp.Ans

/-- The field `db` of the client. -/
inductive DbHandle
  | absent
  | opened
  | closed
deriving DecidableEq, Repr

structure Handles where
  body : Bool := false
  db : DbHandle := .absent
  rows : Bool := false
  misused : Bool := false
deriving DecidableEq, Repr

namespace Handles

/-- A call that needs `ok`. -/
def needs (s : Handles) (ok : Bool) : Handles := { s with misused := s.misused || !ok }

def after (s : Handles) : (o : ProbeOp) → o.Ans → Handles
  | .newClient, _ =>
    { s.needs (!s.body && !s.rows && s.db ≠ .opened) with db := .absent }
  | .send _, .ok _ => { s.needs (!s.body) with body := true }
  | .send _, .error _ => s
  | .closeBody, _ => { s.needs s.body with body := false }
  | .openDb _, .ok () => { s.needs (s.db = .absent) with db := .opened }
  | .openDb _, .error _ => s
  | .ping, _ => s.needs (s.db = .opened)
  | .query _ _, .ok _ => { s.needs (s.db = .opened && !s.rows) with rows := true }
  | .query _ _, .error _ => s.needs (s.db = .opened)
  | .next, _ | .scan, _ => s.needs s.rows
  | .closeRows, _ => { s.needs s.rows with rows := false }
  -- closed, whatever `Close` returns
  | .closeDb, _ => { s.needs (s.db = .opened && !s.rows) with db := .closed }
  | .isTimeInCron _, _ | .hasDb, _ | .registerCustomClient _, _ | .listAllBackends, _
  | .updateClusterLoadBackend _ _, _ | .setBackendLoad _ _, _ => s

/-- Nothing is open, and nothing was misused. -/
structure Released (s : Handles) : Prop where
  body : s.body = false
  db : s.db ≠ .opened
  rows : s.rows = false
  used : s.misused = false

/-- A handler of all calls that follows the handles; only the client knows its own field. -/
def track {τ : Type} (h : (o : ProbeOp) → τ → o.Ans × τ) :
    (o : ProbeOp) → τ × Handles → o.Ans × (τ × Handles)
  | .hasDb, (t, s) => (s.db ≠ .absent, (t, s))
  | o, (t, s) => ((h o t).1, ((h o t).2, s.after o (h o t).1))

end Handles

namespace Probe

/-- The deferred `resp.Body.Close` comes after the test of the status. -/
def isClusterUp (t : TrinoClient) : Probe (Result Bool) := do
  match ← perform (ProbeOp.send t.infoRequest) with
  | .error err => return .error err
  | .ok resp =>
    if ¬ (200 ≤ resp.statusCode ∨ resp.statusCode ≤ 300) then
      return .error (.text "trino api returned non HTTP2xx status")
    else
      deferring (perform ProbeOp.closeBody) do
        match resp.body.err with
        | some err => return .error (.text err)
        | none =>
          let info ← deref (unmarshalInfo (Bytes.text resp.body.bytes))
          if info.nodeVersion = "" then return .error (.text "trino api returned invalid response")
          else if ¬ info.coordinator ∨ info.starting then return .ok false
          else return .ok true

def customClientKey : String := "custom_client"

def generateDsn (t : TrinoClient) (key : String) : String :=
  t.scheme ++ "://" ++ t.user ++ ":" ++ t.pass ++ "@" ++ t.host ++ "?catalog=" ++ "system" ++
    "&schema=" ++ "runtime" ++ "&custom_client=" ++ key

def initTrinoDbClient (t : TrinoClient) : Probe (Result Unit) :=
  andThen (perform (ProbeOp.registerCustomClient customClientKey)) fun () =>
    perform (ProbeOp.openDb (generateDsn t customClientKey))

def runQuery (t : TrinoClient) (q : String) : Probe (Result Rows) :=
  andThen (do
    if ← perform ProbeOp.hasDb then return .ok () else initTrinoDbClient t) fun () =>
  andThen (perform ProbeOp.ping) fun () => perform (ProbeOp.query q t.user)

/-- `for rows.Next() {}`. -/
def drain : List (Result StateStat) → Probe Unit
  | [] => perform ProbeOp.next
  | _ :: rows => do
    perform ProbeOp.next
    drain rows

def isClusterHealthy (healthCheckSql : String) (t : TrinoClient) : Probe (Result Bool) :=
  (runQuery t healthCheckSql).andThen fun rows =>
    deferring (perform ProbeOp.closeRows) do
      drain rows.scans
      match rows.err with
      | some err => return .error err
      | none => return .ok true

def teardown : Probe (Result Unit) := do
  if ← perform ProbeOp.hasDb then perform ProbeOp.closeDb else return .ok ()

variable (cfg : ProbeConfig)

/-- The client of a backend, without a password and with one. -/
def upClient (b : BackendMsg) : TrinoClient :=
  { scheme := BackendApi.schemeName b.scheme, host := b.hostname, user := cfg.user }

def loadClient (b : BackendMsg) : TrinoClient :=
  { scheme := BackendApi.schemeName b.scheme, host := b.hostname, user := cfg.user
    pass := cfg.password }

/-- The rows of the load, up to the first that does not scan. -/
def scanRows (stateStats : List StateStat) : List (Result StateStat) → Probe (Result (List StateStat))
  | [] => do
    perform ProbeOp.next
    return .ok stateStats
  | row :: rows => do
    perform ProbeOp.next
    perform ProbeOp.scan
    match row with
    | .error err => return .error err
    | .ok res => scanRows (stateStats ++ [res]) rows

def isBackendUp (b : BackendMsg) : Probe (Result Bool) := do
  perform ProbeOp.newClient
  deferring teardown ((isClusterUp (upClient cfg b)).andThen fun isUp =>
    if isUp then isClusterHealthy cfg.healthCheckSql (upClient cfg b) else return .ok false)

def getBackendLoad (b : BackendMsg) : Probe (Result Int32) := do
  perform ProbeOp.newClient
  deferring teardown ((runQuery (loadClient cfg b) (Monitor.loadQuery cfg.toMonitorConfig)).andThen
    fun rows => deferring (perform ProbeOp.closeRows) <|
      (scanRows [] rows.scans).andThen fun stateStats =>
        match rows.err with
        | some err => return .error err
        | none =>
          return .ok (computeClusterLoad (stateStats.foldl ClusterLoadStats.count {})))

/-- The gauge is set after the RPC, whatever it answers. -/
def updateBackendClusterLoad (id : String) (load : Int32) : Probe (Result Unit) :=
  deferring (perform (ProbeOp.setBackendLoad id load))
    (perform (ProbeOp.updateClusterLoadBackend id load.toInt))

def isBackendHealthy (b : BackendMsg) : Probe (Result Bool) :=
  (isBackendUp cfg b).andThen fun isUp => do
    if isUp then
      match ← getBackendLoad cfg b with
      | .error err => return .error err
      | .ok load =>
        let _ ← updateBackendClusterLoad b.id load
        let threshold := b.thresholdClusterLoad
        return .ok (threshold = 0 ∨ load.toInt ≤ threshold)
    else return .ok false

/-- The body of the loop of `EvaluateBackendNewState`. -/
def isHealthy (b : BackendMsg) : Probe Bool := do
  match ← perform (ProbeOp.isTimeInCron b.uptimeSchedule) with
  | .error _ => return false
  | .ok isEligible =>
    if isEligible then
      match ← isBackendHealthy cfg b with
      | .error _ => return false
      | .ok isHealthy => return isHealthy
    else return false

def getAllBackends : Probe (Result (List (Option BackendMsg))) := do
  match ← perform ProbeOp.listAllBackends with
  | .error err => return .error err
  | .ok items =>
    if items.any Option.isNone then return .error Monitor.nilPointer else return .ok items

def evaluateBackends (st : BackendsNewState) :
    List (Option BackendMsg) → Probe (Result BackendsNewState)
  | [] => return .ok st
  | none :: _ => return .error Monitor.nilPointer
  | some b :: bs => do
    if ← isHealthy cfg b then evaluateBackends { st with healthy := st.healthy ++ [b] } bs
    else evaluateBackends { st with unhealthy := st.unhealthy ++ [b] } bs

def evaluateBackendNewState : Probe (Result BackendsNewState) :=
  getAllBackends.andThen (evaluateBackends cfg {})

end Probe

end TrinoGateway
