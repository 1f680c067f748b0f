import TrinoGateway.Lib.Rotation
import TrinoGateway.Lib.Text
import TrinoGateway.Spec.Repo
import Mathlib.Data.String.Basic

/-!
# Groups, `internal/gatewayserver/groupApi`

The core functions on groups, and the choice of a backend: `evaluateBackendForGroups`
picks one of the requested groups that are enabled, `findBackend` one of a group's active
backends by the group's strategy. `GroupApi.Server` has the functions of the server that do
more than call the core: they turn messages into rows and back.
-/

namespace TrinoGateway

open Interact Prog

/-- The part of `boot.Config` that the gateway server reads. -/
structure Config where
  defaultRoutingGroup : String
  statsValiditySecs : ℤ
deriving DecidableEq, Repr

/-- The `Group` message of the API. -/
structure GroupMsg where
  id : String := ""
  backends : List String := []
  strategy : ℤ := 0
  lastRoutedBackend : String := ""
  isEnabled : Bool := false
deriving DecidableEq, Repr

namespace GroupApi

structure GroupCreateParams where
  id : String
  strategy : String
  isEnabled : Bool
  lastRoutedBackend : String
  backends : List String

/-- The row of a request and its mappings: appending nothing leaves the slice nil. -/
def groupOf (params : GroupCreateParams) : Group :=
  let backendMappings := params.backends.map fun backend =>
    { groupId := params.id, backendId := backend : GroupBackendsMapping }
  { id := params.id
    strategy := some params.strategy
    isEnabled := some params.isEnabled
    lastRoutedBackend := some params.lastRoutedBackend
    groupBackendsMappings := if backendMappings = [] then none else some backendMappings }

def createOrUpdateGroup (params : GroupCreateParams) : Srv (Result Unit) := do
  match ← GroupRepo.find params.id with
  | .ok _ => GroupRepo.update (groupOf params)
  | .error _ => GroupRepo.create (groupOf params)

def getGroup (id : String) : Srv (Result Group) := GroupRepo.find id

def getAllGroups : Srv (Result (List Group)) := GroupRepo.findMany []

def getAllActiveGroups : Srv (Result (List Group)) :=
  GroupRepo.findMany [("is_enabled", .bool true)]

def deleteGroup (id : String) : Srv (Result Unit) := GroupRepo.delete id

def enableGroup (id : String) : Srv (Result Unit) := GroupRepo.enable id

def disableGroup (id : String) : Srv (Result Unit) := GroupRepo.disable id

/-- The successor of the last routed backend among the sorted ids. -/
def roundRobin (ids : List String) (lastRoutedBackendId : String) : String :=
  let activeBackendIds := (ids ++ [lastRoutedBackendId]).insertionSort (· ≤ ·)
  activeBackendIds.getD (Rotation.wrapNext lastRoutedBackendId activeBackendIds) ""

/-- The load of a backend at the time of the call: stale statistics count as `0`. -/
def load (cfg : Config) (b : Backend) : Srv ℤ := do
  let curr ← unixNow
  if cfg.statsValiditySecs = 0 then deref b.clusterLoad
  else
    let statsUpdatedAt ← deref b.statsUpdatedAt
    if curr - statsUpdatedAt ≤ cfg.statsValiditySecs then deref b.clusterLoad
    else return 0

def leastLoaded (cfg : Config) (best : Backend) : List Backend → Srv Backend
  | [] => return best
  | b :: bs => do
    let lb ← load cfg b
    let ll ← load cfg best
    leastLoaded cfg (if lb < ll then b else best) bs

/-- The switch on the group's strategy: any other than these two is `random`. -/
def selectBackend (cfg : Config) (group : Group) (first : Backend) (activeBackends : List Backend) :
    Srv String := do
  let strategy ← deref group.strategy
  if strategy = "round_robin" then
    let lastRoutedBackendId ← deref group.lastRoutedBackend
    return roundRobin (activeBackends.map Backend.id) lastRoutedBackendId
  else if strategy = "least_load" then
    let b ← leastLoaded cfg first activeBackends
    return b.id
  else return first.id

def findBackend (cfg : Config) (group : Group) : Srv (Result (Option String)) :=
  let backends := (group.groupBackendsMappings.getD []).map GroupBackendsMapping.backendId
  (BackendRepo.getAllActiveByIDs backends).andThen fun activeBackends =>
    match activeBackends with
    | [] => return .ok none
    | first :: _ => do
      let selectedBackendId ← selectBackend cfg group first activeBackends
      -- the error of this update is ignored
      let _ ← GroupRepo.update { id := group.id, lastRoutedBackend := some selectedBackendId }
      return .ok (some selectedBackendId)

/-- The backend found for each group, in order: the source's map from group pointers. -/
def findBackends (cfg : Config) : List Group → Srv (Result (List (Option String)))
  | [] => return .ok []
  | g :: gs =>
    (findBackend cfg g).andThen fun b =>
      (findBackends cfg gs).andThen fun bs => return .ok (b :: bs)

def evaluateBackendForGroups (cfg : Config) (groups : List String) :
    Srv (Result (String × String)) :=
  getAllActiveGroups.andThen fun activeGroups =>
    let eligibleGrps := activeGroups.filter fun g => groups.contains g.id
    (findBackends cfg eligibleGrps).andThen fun evaluatedBackendId =>
      if evaluatedBackendId.any Option.isSome then
        match eligibleGrps, evaluatedBackendId with
        -- the first group is chosen, and a missing key of the map reads as ""
        | chosenGroup :: _, b :: _ => return .ok (b.getD "", chosenGroup.id)
        | _, _ => panic
      else
        (getGroup cfg.defaultRoutingGroup).andThen fun chosenGroup =>
          (findBackend cfg chosenGroup).andThen fun
            | none => return .error (.text "unable to find Backend for Default Routing Group")
            | some b => return .ok (b, chosenGroup.id)

/-- `Group_RoutingStrategy.String()`. -/
def strategyName (v : ℤ) : String :=
  if v = 0 then "LEAST_LOAD" else if v = 1 then "ROUND_ROBIN" else if v = 2 then "RANDOM"
  else toString v

/-- `Group_RoutingStrategy_value`. -/
def strategyValue (name : String) : Option ℤ :=
  if name = "LEAST_LOAD" then some 0 else if name = "ROUND_ROBIN" then some 1
  else if name = "RANDOM" then some 2 else none

/-- The parameters of a request. -/
def createParams (req : GroupMsg) : GroupCreateParams :=
  { id := req.id
    strategy := strategyName req.strategy
    isEnabled := req.isEnabled
    lastRoutedBackend := req.lastRoutedBackend
    backends := req.backends }

def toGroupResponseProto (group : Group) : Srv (Result GroupMsg) := do
  let groupStrategy ← deref group.strategy
  match strategyValue (Text.toUpper groupStrategy) with
  | none =>
    return .error (.text ("error encoding response: invalid strategy " ++ groupStrategy))
  | some strategy =>
    let isEnabled ← deref group.isEnabled
    let lastRoutedBackend ← deref group.lastRoutedBackend
    return .ok
      { id := group.id
        strategy := strategy
        backends := (group.groupBackendsMappings.getD []).map GroupBackendsMapping.backendId
        isEnabled := isEnabled
        lastRoutedBackend := lastRoutedBackend }

namespace Server

def createOrUpdateGroup (req : GroupMsg) : Srv (Result Unit) :=
  GroupApi.createOrUpdateGroup (createParams req)

def getGroup (id : String) : Srv (Result GroupMsg) :=
  (GroupApi.getGroup id).andThen toGroupResponseProto

def listAllGroups : Srv (Result (List GroupMsg)) :=
  getAllGroups.andThen (traverse toGroupResponseProto)

end Server

end GroupApi

end TrinoGateway
