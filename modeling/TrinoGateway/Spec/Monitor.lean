import TrinoGateway.Lib.Pool
import TrinoGateway.Spec.Gateway

/-!
# The monitor, `internal/monitor`

The monitor reaches the gateway server by RPC, and the backends by their API and by SQL: a
function of the monitor is a program over both.

* `evaluateBackendNewState` goes through the backends one after the other and computes who is
  healthy; on the way it reports each load that it measured.
* `Execute` then starts a goroutine for each backend, which marks it. `Execution` is a run of it
  on the gateway server's database, where the RPCs that count succeed.
-/

namespace TrinoGateway

open Interact Prog

/-- `boot.Config.Monitor.Trino`. -/
structure MonitorConfig where
  user : String
  password : String
deriving DecidableEq, Repr

/-- `TrinoClient`: where a cluster is, and as whom it is asked. -/
structure TrinoClient where
  scheme : String
  host : String
  user : String
  pass : String := ""
deriving DecidableEq, Repr

/-- A row of the query for the load. -/
structure StateStat where
  state : String
  count : Int32
deriving DecidableEq

/-- The rows of a query as they are scanned, and the error that ended them. -/
structure Rows where
  scans : List (Result StateStat)
  err : Option GoErr := none
deriving DecidableEq

/-- What the monitor asks of the clock and of a backend. -/
inductive Check
  | isTimeInCron (sched : String)
  | isClusterUp (client : TrinoClient)
  | isClusterHealthy (client : TrinoClient)
  | runQuery (client : TrinoClient) (q : String)
deriving DecidableEq

abbrev Check.Ans : Check → Type
  | isTimeInCron _ | isClusterUp _ | isClusterHealthy _ => Result Bool
  | runQuery _ _ => Result Rows

/-- What the monitor asks outside itself. -/
inductive MonitorOp
  | check (c : Check)
  | listAllBackends
  | updateClusterLoadBackend (id : String) (clusterLoad : ℤ)
  | markHealthyBackend (id : String)
  | markUnhealthyBackend (id : String)
deriving DecidableEq

abbrev MonitorOp.Ans : MonitorOp → Type
  | check c => c.Ans
  | listAllBackends => Result (List (Option BackendMsg))
  | updateClusterLoadBackend _ _ | markHealthyBackend _ | markUnhealthyBackend _ => Result Unit

/-- Programs of the monitor. -/
abbrev Monitor := Prog MonitorOp MonitorOp.Ans

abbrev Monitor.check (c : Check) : Monitor c.Ans := perform (MonitorOp.check c)

structure ClusterLoadStats where
  queued : Int32 := 0
  waitingForResources : Int32 := 0
  dispatching : Int32 := 0
  planning : Int32 := 0
  starting : Int32 := 0
  running : Int32 := 0
  finishing : Int32 := 0
deriving DecidableEq

/-- The switch on the state of one row. -/
def ClusterLoadStats.count (res : ClusterLoadStats) (s : StateStat) : ClusterLoadStats :=
  if s.state = "QUEUED" then { res with queued := s.count }
  else if s.state = "WAITING_FOR_RESOURCES" then { res with waitingForResources := s.count }
  else if s.state = "DISPATCHING" then { res with dispatching := s.count }
  else if s.state = "PLANNING" then { res with planning := s.count }
  else if s.state = "STARTING" then { res with starting := s.count }
  else if s.state = "RUNNING" then { res with running := s.count }
  else if s.state = "FINISHING" then { res with finishing := s.count }
  else res

def computeClusterLoad (stats : ClusterLoadStats) : Int32 :=
  let running := stats.running + stats.planning + stats.finishing + stats.dispatching
  let queued := stats.queued + stats.starting
  running * 2 + queued * 1 / 3

/-- The rows, unless one does not scan or an error ended them. -/
def Rows.scan (rows : Rows) : Result (List StateStat) :=
  match rows.scans.mapM id with
  | .error e => .error e
  | .ok stateStats =>
    match rows.err with
    | some e => .error e
    | none => .ok stateStats

structure BackendsNewState where
  healthy : List BackendMsg := []
  unhealthy : List BackendMsg := []
deriving DecidableEq, Repr

namespace Monitor

variable (cfg : MonitorConfig)

def isCurrentTimeInCron (sched : String) : Monitor (Result Bool) :=
  check (.isTimeInCron sched)

def loadQuery : String :=
  "SELECT state, count(*)" ++ " FROM system.runtime.queries" ++
    (" WHERE user != '" ++ cfg.user ++ "' AND state NOT IN ('FINISHED', 'FAILED')") ++
    " GROUP BY state"

def getBackendLoad (b : BackendMsg) : Monitor (Result Int32) := do
  let client : TrinoClient :=
    { scheme := BackendApi.schemeName b.scheme, host := b.hostname, user := cfg.user
      pass := cfg.password }
  match ← check (.runQuery client (loadQuery cfg)) with
  | .error err => return .error err
  | .ok rows =>
    match Rows.scan rows with
    | .error err => return .error err
    | .ok stateStats => return .ok (computeClusterLoad (stateStats.foldl ClusterLoadStats.count {}))

def isBackendUp (b : BackendMsg) : Monitor (Result Bool) := do
  let client : TrinoClient :=
    { scheme := BackendApi.schemeName b.scheme, host := b.hostname, user := cfg.user }
  match ← check (.isClusterUp client) with
  | .error err => return .error err
  | .ok isUp =>
    if isUp then check (.isClusterHealthy client)
    else return .ok false

def isBackendHealthy (b : BackendMsg) : Monitor (Result Bool) :=
  (isBackendUp cfg b).andThen fun isUp => do
    if isUp then
      match ← getBackendLoad cfg b with
      | .error err => return .error err
      | .ok load =>
        -- an error is logged
        let _ ← perform (MonitorOp.updateClusterLoadBackend b.id load.toInt)
        let threshold := b.thresholdClusterLoad
        return .ok (threshold = 0 ∨ load.toInt ≤ threshold)
    else return .ok false

/-- The body of the loop of `EvaluateBackendNewState`: whether it appends to `markHealthy`. -/
def isHealthy (b : BackendMsg) : Monitor Bool := do
  match ← isCurrentTimeInCron b.uptimeSchedule with
  | .error _ => return false
  | .ok isEligible =>
    if isEligible then
      match ← isBackendHealthy cfg b with
      | .error _ => return false
      | .ok isHealthy => return isHealthy
    else return false

def nilPointer : GoErr := .text "nil pointer reference in twirp response"

def getAllBackends : Monitor (Result (List (Option BackendMsg))) := do
  match ← perform MonitorOp.listAllBackends with
  | .error err => return .error err
  | .ok items => if none ∈ items then return .error nilPointer else return .ok items

/-- The loop of `EvaluateBackendNewState`. -/
def evaluateBackends (st : BackendsNewState) :
    List (Option BackendMsg) → Monitor (Result BackendsNewState)
  | [] => return .ok st
  | none :: _ => return .error nilPointer
  | some b :: bs => do
    if ← isHealthy cfg b then evaluateBackends { st with healthy := st.healthy ++ [b] } bs
    else evaluateBackends { st with unhealthy := st.unhealthy ++ [b] } bs

def evaluateBackendNewState : Monitor (Result BackendsNewState) :=
  getAllBackends.andThen (evaluateBackends cfg {})

def markHealthyBackend (b : BackendMsg) : Monitor (Result Unit) :=
  perform (MonitorOp.markHealthyBackend b.id)

def markUnhealthyBackend (b : BackendMsg) : Monitor (Result Unit) :=
  perform (MonitorOp.markUnhealthyBackend b.id)

/-- The goroutines that `Execute` starts: each for a backend and what it is marked as. -/
def marks (newStates : BackendsNewState) : List (BackendMsg × Bool) :=
  newStates.unhealthy.map (·, false) ++ newStates.healthy.map (·, true)

/-- What the goroutine calls. -/
def mark (m : BackendMsg × Bool) : Monitor (Result Unit) :=
  if m.2 then markHealthyBackend m.1 else markUnhealthyBackend m.1

end Monitor

/-- A statement of the gateway server, or a check. -/
inductive CycleOp
  | stmt (o : Stmt)
  | check (c : Check)

abbrev CycleOp.Ans : CycleOp → Type
  | stmt o => o.Ans
  | check c => c.Ans

abbrev Cycle := Prog CycleOp CycleOp.Ans

/-- An RPC as a part of a cycle. -/
def call {α : Type} (p : Srv (Result α)) : Cycle (Result α) := (rpc p).embed CycleOp.stmt

namespace Monitor

def serve : (o : MonitorOp) → Cycle o.Ans
  | .check c => perform (CycleOp.check c)
  | .listAllBackends => call (BackendApi.listAllBackends.andThen fun bs => return .ok (bs.map some))
  | .updateClusterLoadBackend id clusterLoad =>
    call (BackendApi.updateClusterLoadBackend id clusterLoad)
  | .markHealthyBackend id => call (BackendApi.markHealthyBackend id)
  | .markUnhealthyBackend id => call (BackendApi.markUnhealthyBackend id)

/-- A function of the monitor, down to the statements. -/
def onServer {α : Type} (p : Monitor α) : Cycle α := p.interp serve

end Monitor

/-- Any statement may fail, the clock may show anything, and a check may have any outcome. -/
def cycleSystem {ι : Type} : System ι CycleOp CycleOp.Ans Db where
  sem _
    | .stmt o, db, a, db' => ∃ now fault, a = (exec now fault o db).1 ∧
        db' = (exec now fault o db).2
    | .check _, db, _, db' => db' = db
  env _ _ := False

/-- An `Execute` from the database `db` on, without another writer, in which `ListAllBackends` and
all goroutines' RPCs succeed. -/
structure Execution (cfg : MonitorConfig) (db : Db) where
  newStates : BackendsNewState
  evaluation : Pool Unit CycleOp CycleOp.Ans (Result BackendsNewState) Db
  evaluates : cycleSystem.Reachable
    ⟨fun _ => Monitor.onServer (Monitor.evaluateBackendNewState cfg), db⟩ evaluation
  evaluated : ∀ i, evaluation.procs i = ret (.ok newStates)
  marking : Pool (Fin (Monitor.marks newStates).length) CycleOp CycleOp.Ans (Result Unit) Db
  marks : cycleSystem.Reachable
    ⟨fun i => Monitor.onServer (Monitor.mark ((Monitor.marks newStates).get i)), evaluation.state⟩
    marking
  marked : ∀ i, marking.procs i = ret (.ok ())

end TrinoGateway
