import TrinoGateway.Lib.Pool
import TrinoGateway.Spec.BackendApi

/-!
# The health operations on one backend

`EnableBackend` and `DisableBackend` come from operators, `MarkHealthyBackend`,
`MarkUnhealthyBackend` and `UpdateClusterLoadBackend` from the monitor. `healthSystem` runs
any family of them on one row, statement by statement; `seen i` is the row that operation `i`
read first, the one it writes back.
-/

namespace TrinoGateway

open Interact Prog

inductive HealthOp
  | enable
  | disable
  | markHealthy
  | markUnhealthy
  | updateClusterLoad (clusterLoad : ℤ)
deriving DecidableEq, Repr

namespace HealthOp

/-- The operation on the backend `id`. -/
def prog (id : String) : HealthOp → Srv (Result Unit)
  | enable => BackendApi.enableBackend id
  | disable => BackendApi.disableBackend id
  | markHealthy => BackendApi.markHealthyBackend id
  | markUnhealthy => BackendApi.markUnhealthyBackend id
  | updateClusterLoad l => BackendApi.updateClusterLoadBackend id l

/-- Whether the operation comes from the monitor. -/
def isMonitor : HealthOp → Bool
  | enable | disable => false
  | markHealthy | markUnhealthy | updateClusterLoad _ => true

/-- The columns that belong to the other tier are the same: `is_enabled` for the monitor's
operations, the health and load columns for the operators'. -/
def SameTier : HealthOp → Backend → Backend → Prop
  | enable, b, b' | disable, b, b' =>
    b'.isHealthy = b.isHealthy ∧ b'.clusterLoad = b.clusterLoad ∧
      b'.statsUpdatedAt = b.statsUpdatedAt
  | markHealthy, b, b' | markUnhealthy, b, b' | updateClusterLoad _, b, b' =>
    b'.isEnabled = b.isEnabled

end HealthOp

/-- The database, and the row that each operation read first. -/
structure Shared (ι : Type) where
  db : Db
  seen : ι → Option Backend

variable {ι : Type} [DecidableEq ι]

/-- Record the first backend row that an operation reads. -/
def Shared.record (seen : ι → Option Backend) (i : ι) : (o : Stmt) → o.Ans → ι → Option Backend
  | .first .backends _, .ok row => Function.update seen i ((seen i).or (some row))
  | _, _ => seen

/-- Any statement may fail, and the clock may show anything. -/
def healthSystem : System ι Stmt Stmt.Ans (Shared ι) where
  sem i o s a s' := ∃ now fault, a = (exec now fault o s.db).1 ∧
    s' = { db := (exec now fault o s.db).2, seen := Shared.record s.seen i o a }
  env _ _ := False

/-- The operations `ops`, none begun, on the backend `id`. -/
def healthPool (id : String) (ops : ι → HealthOp) (db : Db) :
    Pool ι Stmt Stmt.Ans (Result Unit) (Shared ι) where
  procs i := (ops i).prog id
  state := { db := db, seen := fun _ => none }

/-- The handler of an operation that succeeds, at time `now`. -/
def healthHandler (now : ℤ) (i : ι) (o : Stmt) (s : Shared ι) : o.Ans × Shared ι :=
  let r := exec now none o s.db
  (r.1, { db := r.2, seen := Shared.record s.seen i o r.1 })

theorem healthHandler_sem (now : ℤ) (i : ι) (o : Stmt) (s : Shared ι) :
    healthSystem.sem i o s (healthHandler now i o s).1 (healthHandler now i o s).2 :=
  ⟨now, none, rfl, rfl⟩

end TrinoGateway
