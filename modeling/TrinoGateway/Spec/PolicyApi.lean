import TrinoGateway.Spec.GroupApi
import Mathlib.Data.Finset.Card
import Mathlib.Data.Finset.Dedup

/-!
# Policies, `internal/gatewayserver/policyApi`

`evaluateGroupsForClient` intersects the groups that four kinds of policies name. A Go map
used as a set is a `GoSet`: `none` is the nil map, which stands for any group, and `some ∅`
the empty one.
-/

namespace TrinoGateway

open Interact Prog

/-- The `Policy` message of the API, with the fields of its rule as their getters read them:
those of a nil rule are zero. -/
structure PolicyMsg where
  id : String := ""
  ruleType : ℤ := 0
  ruleValue : String := ""
  group : String := ""
  fallbackGroup : String := ""
  isEnabled : Bool := false
  isAuthDelegated : Bool := false
  setRequestSource : String := ""
deriving DecidableEq, Repr

namespace PolicyApi

structure PolicyCreateParams where
  id : String
  ruleType : String
  ruleValue : String
  group : String
  fallbackGroup : String
  isEnabled : Bool
  isAuthDelegated : Bool
  setRequestSource : String

/-- The row of a request. The fallback group's pointer is never nil, so the default routing
group is never filled in. -/
def policyOf (params : PolicyCreateParams) : Policy :=
  { id := params.id
    ruleType := params.ruleType
    ruleValue := params.ruleValue
    groupId := params.group
    fallbackGroupId := some params.fallbackGroup
    isEnabled := some params.isEnabled
    isAuthDelegated := some params.isAuthDelegated
    setRequestSource := some params.setRequestSource }

def createOrUpdatePolicy (params : PolicyCreateParams) : Srv (Result Unit) := do
  match ← PolicyRepo.find params.id with
  | .ok _ => PolicyRepo.update (policyOf params)
  | .error _ => PolicyRepo.create (policyOf params)

def getPolicy (id : String) : Srv (Result Policy) := PolicyRepo.find id

def getAllPolicies : Srv (Result (List Policy)) := PolicyRepo.findMany []

def deletePolicy (id : String) : Srv (Result Unit) := PolicyRepo.delete id

def enablePolicy (id : String) : Srv (Result Unit) := PolicyRepo.enable id

def disablePolicy (id : String) : Srv (Result Unit) := PolicyRepo.disable id

structure FindManyParams where
  isEnabled : Bool := false
  ruleType : String := ""
  ruleValue : String := ""
  isAuthDelegated : Bool := false

/-- `structs.Map` by the json tags: only `is_auth_delegated` has `omitempty`. -/
def FindManyParams.conditions (p : FindManyParams) : List (String × SqlVal) :=
  [("is_enabled", .bool p.isEnabled), ("rule_type", .str p.ruleType),
    ("rule_value", .str p.ruleValue)] ++
  if p.isAuthDelegated then [("is_auth_delegated", .bool p.isAuthDelegated)] else []

def findMany (params : FindManyParams) : Srv (Result (List Policy)) :=
  PolicyRepo.findMany params.conditions

/-- A `map[string]struct{}`, nil or not. -/
abbrev GoSet := Option (Finset String)

namespace GoSet

/-- The keys of the map: none, for nil. -/
def elems (s : GoSet) : Finset String := s.getD ∅

def len (s : GoSet) : ℕ := s.elems.card

end GoSet

def setIntersection (s1 s2 : GoSet) : GoSet :=
  -- iterate over the shorter set
  let (s1, s2) := if s1.len > s2.len then (s2, s1) else (s1, s2)
  match s1 with
  | none => s2
  | some ks => some (ks.filter fun k => k ∈ s2.elems)

/-- The order in which Go ranges over a map: some enumeration of its keys. -/
structure MapOrder where
  keys : Finset String → List String
  nodup : ∀ s, (keys s).Nodup
  mem_keys : ∀ s k, k ∈ keys s ↔ k ∈ s

structure EvaluateClientParams where
  listeningPort : ℤ
  hostname : String
  headerConnectionProperties : String
  headerClientTags : String
deriving DecidableEq

def findGroupsForPolicyTypes (ruleType ruleValue : String) : Srv (Result GoSet) :=
  (findMany { isEnabled := true, ruleType := ruleType, ruleValue := ruleValue }).andThen
    fun activePolicies =>
      let gids := (activePolicies.map Policy.groupId).toFinset
      if gids.card = 0 then return .ok none else return .ok (some gids)

def evaluateGroupsForClient (ord : MapOrder) (params : EvaluateClientParams) :
    Srv (Result (List String)) :=
  (findGroupsForPolicyTypes "listening_port" (toString params.listeningPort)).andThen
    fun listeningPortPolicies =>
  (findGroupsForPolicyTypes "header_host" params.hostname).andThen fun hostnamePolicies =>
  (findGroupsForPolicyTypes "header_client_tags" params.headerClientTags).andThen
    fun clientTagsPolicies =>
  (findGroupsForPolicyTypes "header_connection_properties"
      params.headerConnectionProperties).andThen fun clientConnPropsPolicies =>
    let gids := setIntersection
      (setIntersection (setIntersection listeningPortPolicies hostnamePolicies)
        clientTagsPolicies) clientConnPropsPolicies
    return .ok (ord.keys gids.elems)

def evaluateAuthDelegation (port : ℤ) : Srv (Result Bool) :=
  (findMany
    { isEnabled := true
      ruleType := "listening_port"
      ruleValue := toString port
      isAuthDelegated := true }).andThen fun res => return .ok (!res.isEmpty)

def evaluateRequestSource (port : ℤ) : Srv (Result String) :=
  (findMany
    { isEnabled := true
      ruleType := "listening_port"
      ruleValue := toString port }).andThen fun
    | [] => return .ok ""
    | p :: _ => do return .ok (← deref p.setRequestSource)

/-- `Policy_Rule_RuleType.String()`. -/
def ruleTypeName (v : ℤ) : String :=
  if v = 0 then "header_connection_properties" else if v = 1 then "header_client_tags"
  else if v = 2 then "header_host" else if v = 3 then "listening_port" else toString v

/-- `Policy_Rule_RuleType_value`. -/
def ruleTypeValue (name : String) : Option ℤ :=
  if name = "header_connection_properties" then some 0
  else if name = "header_client_tags" then some 1
  else if name = "header_host" then some 2
  else if name = "listening_port" then some 3 else none

/-- The parameters of a request. -/
def createParams (req : PolicyMsg) : PolicyCreateParams :=
  { id := req.id
    ruleType := ruleTypeName req.ruleType
    ruleValue := req.ruleValue
    group := req.group
    fallbackGroup := req.fallbackGroup
    isEnabled := req.isEnabled
    isAuthDelegated := req.isAuthDelegated
    setRequestSource := req.setRequestSource }

def toPolicyResponseProto (policy : Policy) : Srv (Result PolicyMsg) :=
  match ruleTypeValue policy.ruleType with
  | none =>
    return .error (.text ("error encoding response: invalid rule_type " ++ policy.ruleType))
  | some ruleType => do
    let fallbackGroup ← deref policy.fallbackGroupId
    let isEnabled ← deref policy.isEnabled
    let isAuthDelegated ← deref policy.isAuthDelegated
    let setRequestSource ← deref policy.setRequestSource
    return .ok
      { id := policy.id
        ruleType := ruleType
        ruleValue := policy.ruleValue
        group := policy.groupId
        fallbackGroup := fallbackGroup
        isEnabled := isEnabled
        isAuthDelegated := isAuthDelegated
        setRequestSource := setRequestSource }

namespace Server

def createOrUpdatePolicy (req : PolicyMsg) : Srv (Result Unit) :=
  PolicyApi.createOrUpdatePolicy (createParams req)

def getPolicy (id : String) : Srv (Result PolicyMsg) :=
  (PolicyApi.getPolicy id).andThen toPolicyResponseProto

def listAllPolicies : Srv (Result (List PolicyMsg)) :=
  getAllPolicies.andThen (traverse toPolicyResponseProto)

end Server

def evaluateAuthDelegationForClient (incomingPort : ℤ) : Srv (Result Bool) :=
  if incomingPort = 0 then return .ok false else evaluateAuthDelegation incomingPort

def evaluateRequestSourceForClient (incomingPort : ℤ) : Srv (Result String) :=
  if incomingPort = 0 then return .ok "" else evaluateRequestSource incomingPort

end PolicyApi

end TrinoGateway
