import TrinoGateway.Spec.Gateway
import TrinoGateway.Spec.Health

/-!
# Runs of the gateway

A run interleaves any number of tasks, statement by statement: requests of clients, each from
the director to the save of its record, and the changes that operators and the monitor make to
policies, groups and the health of backends. `GatewayState` is the database with the history
of what the reverse proxy sent on.
-/

namespace TrinoGateway

open Interact Prog

/-- A change of policies or groups. -/
inductive ConfigChange
  | createOrUpdatePolicy (params : PolicyApi.PolicyCreateParams)
  | deletePolicy (id : String)
  | enablePolicy (id : String)
  | disablePolicy (id : String)
  | createOrUpdateGroup (params : GroupApi.GroupCreateParams)
  | deleteGroup (id : String)
  | enableGroup (id : String)
  | disableGroup (id : String)

def ConfigChange.prog : ConfigChange → Srv (Result Unit)
  | createOrUpdatePolicy params => PolicyApi.createOrUpdatePolicy params
  | deletePolicy id => PolicyApi.deletePolicy id
  | enablePolicy id => PolicyApi.enablePolicy id
  | disablePolicy id => PolicyApi.disablePolicy id
  | createOrUpdateGroup params => GroupApi.createOrUpdateGroup params
  | deleteGroup id => GroupApi.deleteGroup id
  | enableGroup id => GroupApi.enableGroup id
  | disableGroup id => GroupApi.disableGroup id

/-- What the gateway is at: a request that came to a router, a change, or a health operation on
a backend. -/
inductive Task
  | request (r : RouterServer) (req : Request)
  | config (change : ConfigChange)
  | health (id : String) (action : HealthOp)

/-- A statement of the gateway server, or the transport of the reverse proxy, which sends a
request with what its context holds and has a response unless it fails. -/
inductive GatewayOp
  | stmt (o : Stmt)
  | roundTrip (shared : RouterServer.ContextSharedObject) (req : Request)

abbrev GatewayOp.Ans : GatewayOp → Type
  | stmt o => o.Ans
  | roundTrip _ _ => Option Response

abbrev Gateway := Prog GatewayOp GatewayOp.Ans

/-- A program of the gateway server as a part of a task. -/
def onDatabase {α : Type} (p : Srv α) : Gateway α := p.embed GatewayOp.stmt

section Tasks

variable (gunzip : Gunzip) (g : GatewayServer)

/-- The reverse proxy on a request: the director, the transport, `ProcessResponse`, and the
goroutine that saves the query. -/
def serveRequest (r : RouterServer) (req : Request) : Gateway Unit := do
  let (shared, req) ← onDatabase (g.onServer (r.handleClientRequest gunzip req))
  match ← perform (GatewayOp.roundTrip shared req) with
  | none => return ()
  | some resp =>
    let (_, save) ← deref (r.processResponse gunzip resp shared.clientRequest)
    match save with
    | none => return ()
    | some save => onDatabase (g.onServer (RouterServer.saveQuery save))

def Task.prog : Task → Gateway Unit
  | request r req => serveRequest gunzip g r req
  | config change => onDatabase do
    let _ ← rpc change.prog
    return ()
  | health id action => onDatabase do
    let _ ← rpc (action.prog id)
    return ()

end Tasks

/-- A request that the reverse proxy sent, and the response it had. -/
structure Forwarded where
  clientRequest : Option ClientRequest
  host : String
  response : Option Response
deriving DecidableEq

/-- The entry of a request with its context. -/
def forwarded (shared : RouterServer.ContextSharedObject) (req : Request)
    (response : Option Response) : Forwarded :=
  { clientRequest := shared.clientRequest, host := req.url.host, response := response }

structure GatewayState where
  db : Db
  sent : List Forwarded := []

variable {ι : Type}

/-- Statements fail as `allowed` says, and the clock may show anything. A request without a
host is not sent, and any other may have any response. -/
def gatewaySystem (allowed : ι → Stmt → Db → Option DbErr → Prop) :
    System ι GatewayOp GatewayOp.Ans GatewayState where
  sem i
    | .stmt o, s, a, s' => ∃ now fault, allowed i o s.db fault ∧
        a = (exec now fault o s.db).1 ∧ s' = { s with db := (exec now fault o s.db).2 }
    | .roundTrip shared req, s, a, s' => (req.url.host = "" → a = none) ∧
        s' = { s with sent := s.sent ++ [forwarded shared req a] }
  env _ _ := False

/-- Any statement may fail. -/
def anyFailure (_ : ι) (_ : Stmt) (_ : Db) (_ : Option DbErr) : Prop := True

/-- The tasks, none begun, before the first submission. The order of a range over a map may be
another one for each task. -/
def gatewayPool (gunzip : Gunzip) (g : ι → GatewayServer) (tasks : ι → Task) (store : Store) :
    Pool ι GatewayOp GatewayOp.Ans Unit GatewayState where
  procs i := (tasks i).prog gunzip (g i)
  state := { db := { store.db with queries := [] } }

/-- The handler of a run at time `now`: the statements fail as `faults` says, and a request
that is sent has the response of its host. -/
def gatewayHandler (now : ℤ) (faults : ι → Stmt → Option DbErr) (respond : String → Option Response)
    (i : ι) : (o : GatewayOp) → GatewayState → o.Ans × GatewayState
  | .stmt o, s =>
    let r := exec now (faults i o) o s.db
    (r.1, { s with db := r.2 })
  | .roundTrip shared req, s =>
    let response := if req.url.host = "" then none else respond req.url.host
    (response, { s with sent := s.sent ++ [forwarded shared req response] })

theorem gatewayHandler_sem {allowed : ι → Stmt → Db → Option DbErr → Prop} (now : ℤ)
    {faults : ι → Stmt → Option DbErr} (hf : ∀ i o db, allowed i o db (faults i o))
    (respond : String → Option Response) (i : ι) (o : GatewayOp) (s : GatewayState) :
    (gatewaySystem allowed).sem i o s (gatewayHandler now faults respond i o s).1
      (gatewayHandler now faults respond i o s).2 := by
  cases o with
  | stmt o => exact ⟨now, faults i o, hf i o s.db, rfl, rfl⟩
  | roundTrip shared req =>
    refine ⟨fun hhost => ?_, rfl⟩
    simp [gatewayHandler, hhost]

end TrinoGateway
