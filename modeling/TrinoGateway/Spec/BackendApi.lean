import TrinoGateway.Spec.Repo

/-!
# Backends, `internal/gatewayserver/backendApi`

The core functions on backends, `updateClusterLoadBackend` of the server, and the backend
message that `getBackend` answers with.
-/

namespace TrinoGateway

open Interact Prog

/-- The `Backend` message of the API. -/
structure BackendMsg where
  id : String := ""
  isEnabled : Bool := false
  scheme : ℤ := 0
  hostname : String := ""
  externalUrl : String := ""
  uptimeSchedule : String := ""
  isHealthy : Bool := false
  clusterLoad : ℤ := 0
  thresholdClusterLoad : ℤ := 0
  statsUpdatedAt : ℤ := 0
deriving DecidableEq, Repr

namespace BackendApi

/-- `Backend_Scheme.String()`. -/
def schemeName (v : ℤ) : String :=
  if v = 0 then "http" else if v = 1 then "https" else toString v

/-- `Backend_Scheme_value`. -/
def schemeValue (name : String) : Option ℤ :=
  if name = "http" then some 0 else if name = "https" then some 1 else none

/-- The row of a message. -/
def backendOf (req : BackendMsg) : Backend :=
  { id := req.id
    hostname := req.hostname
    scheme := schemeName req.scheme
    externalUrl := some req.externalUrl
    isEnabled := some req.isEnabled
    isHealthy := some req.isHealthy
    uptimeSchedule := some req.uptimeSchedule
    clusterLoad := some req.clusterLoad
    thresholdClusterLoad := some req.thresholdClusterLoad
    statsUpdatedAt := some req.statsUpdatedAt }

def createOrUpdateBackend (req : BackendMsg) : Srv (Result Unit) := do
  match ← BackendRepo.find req.id with
  | .ok _ => BackendRepo.update (backendOf req)
  | .error _ => BackendRepo.create (backendOf req)

def updateBackend (b : Backend) : Srv (Result Unit) :=
  (BackendRepo.find b.id).andThen fun _ => BackendRepo.update b

def getAllBackends : Srv (Result (List Backend)) := BackendRepo.findMany []

def deleteBackend (id : String) : Srv (Result Unit) := BackendRepo.delete id

def enableBackend (id : String) : Srv (Result Unit) := BackendRepo.enable id

def disableBackend (id : String) : Srv (Result Unit) := BackendRepo.disable id

def markHealthyBackend (id : String) : Srv (Result Unit) := BackendRepo.markHealthy id

def markUnhealthyBackend (id : String) : Srv (Result Unit) := BackendRepo.markUnhealthy id

def updateClusterLoadBackend (id : String) (clusterLoad : ℤ) : Srv (Result Unit) :=
  (BackendRepo.find id).andThen fun b => do
    let _ ← deref b.clusterLoad
    let _ ← deref b.statsUpdatedAt
    let now ← unixNow
    updateBackend { b with clusterLoad := some clusterLoad, statsUpdatedAt := some now }

def toBackendResponseProto (backend : Backend) : Srv (Result BackendMsg) :=
  match schemeValue backend.scheme with
  | none => return .error (.text ("error encoding response: invalid scheme " ++ backend.scheme))
  | some scheme => do
    let externalUrl ← deref backend.externalUrl
    let isEnabled ← deref backend.isEnabled
    let uptimeSchedule ← deref backend.uptimeSchedule
    let clusterLoad ← deref backend.clusterLoad
    let thresholdClusterLoad ← deref backend.thresholdClusterLoad
    let statsUpdatedAt ← deref backend.statsUpdatedAt
    let isHealthy ← deref backend.isHealthy
    return .ok
      { id := backend.id
        isEnabled := isEnabled
        scheme := scheme
        hostname := backend.hostname
        externalUrl := externalUrl
        uptimeSchedule := uptimeSchedule
        isHealthy := isHealthy
        clusterLoad := clusterLoad
        thresholdClusterLoad := thresholdClusterLoad
        statsUpdatedAt := statsUpdatedAt }

def getBackend (id : String) : Srv (Result BackendMsg) :=
  (BackendRepo.find id).andThen toBackendResponseProto

def listAllBackends : Srv (Result (List BackendMsg)) :=
  getAllBackends.andThen (traverse toBackendResponseProto)

end BackendApi

end TrinoGateway
