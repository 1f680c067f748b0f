import TrinoGateway.Spec.Monitor

/-!
# The goroutines of `Execute`, `internal/monitor`

`Execute` starts a goroutine for each backend that it marks. All of them are closures over its
variable `err`: each stores there what its own RPC returned, tests it, and reads it again to log
it. The state of the system is this variable.
-/

namespace TrinoGateway

open Interact Prog

/-- What a goroutine of `Execute` does: an RPC, an access to the variable `err`, or a call of the
logger. -/
inductive MarkingOp
  | rpc (o : MonitorOp)
  | setErr (err : Option GoErr)
  | getErr
  | withError (err : Option GoErr)
  | errorw (message : String) (backend : BackendMsg)

abbrev MarkingOp.Ans : MarkingOp → Type
  | rpc o => o.Ans
  | setErr _ | errorw _ _ => Unit
  | getErr => Option GoErr
  | withError _ => Option Unit

abbrev Marking := Prog MarkingOp MarkingOp.Ans

/-- The error that a function returns, `none` for nil. -/
def Result.err {α : Type} : Result α → Option GoErr
  | .error e => some e
  | .ok _ => none

namespace Marking

variable (m : BackendMsg × Bool)

def errorw : Marking Unit :=
  perform (MarkingOp.errorw
    (if m.2 then "Failure marking backend as Healthy" else "Failure marking backend as Unhealthy")
    m.1)

/-- `WithError(err)`, whose `err.Error()` panics on nil, and the entry it makes. -/
def withError (err : Option GoErr) : Marking Unit := do
  let entry ← perform (MarkingOp.withError err)
  deref entry
  errorw m

def logErr : Marking Unit := do
  let err ← perform MarkingOp.getErr
  withError m err

def testErr : Marking Unit := do
  let err ← perform MarkingOp.getErr
  if err ≠ none then logErr m else return ()

def storeErr (err : Option GoErr) : Marking Unit := do
  perform (MarkingOp.setErr err)
  testErr m

/-- The goroutine that marks a backend. -/
def goroutine : Marking Unit := do
  let res ← (Monitor.mark m).embed MarkingOp.rpc
  storeErr m res.err

/-- What the RPC of the goroutine returns, when its RPCs are answered by `answer`. -/
def returned (answer : (o : MonitorOp) → o.Ans) : Option GoErr :=
  if m.2 then Result.err (answer (.markHealthyBackend m.1.id))
  else Result.err (answer (.markUnhealthyBackend m.1.id))

/-- The goroutines on the variable `err`, where those of goroutine `i` are the RPC answers
`answer i`. -/
def system {ι : Type} (answer : ι → (o : MonitorOp) → o.Ans) :
    System ι MarkingOp MarkingOp.Ans (Option GoErr) where
  sem i
    | .rpc o, err, a, err' => a = answer i o ∧ err' = err
    | .setErr e, _, _, err' => err' = e
    | .getErr, err, a, err' => a = err ∧ err' = err
    | .withError e, err, a, err' => a = e.map (fun _ => ()) ∧ err' = err
    | .errorw _ _, err, _, err' => err' = err
  env _ _ := False

/-- `Execute` with its goroutines started. Its `err` is nil there, as it has not returned. -/
def start (newStates : BackendsNewState) :
    Pool (Fin (Monitor.marks newStates).length) MarkingOp MarkingOp.Ans Unit (Option GoErr) :=
  ⟨fun i => goroutine ((Monitor.marks newStates).get i), none⟩

end Marking

end TrinoGateway
