import TrinoGateway.Spec.Repo

/-!
# Queries, `internal/gatewayserver/queryApi`

The record of a submitted query: `createOrUpdateQuery` saves it, `findBackendForQuery`
looks up the backend and the group it was routed to, and `listQueries` lists the records page
by page, through `pkg/fetcher`.
-/

namespace TrinoGateway

open Interact Prog

namespace QueryApi

structure QueryCreateParams where
  id : String := ""
  text : String := ""
  clientIp : String := ""
  backendId : String := ""
  username : String := ""
  groupId : String := ""
  serverHost : String := ""
  submittedAt : ℤ := 0
deriving DecidableEq, Repr

/-- The row of a request. -/
def queryOf (params : QueryCreateParams) : Query :=
  { id := params.id
    text := params.text
    clientIp := params.clientIp
    backendId := params.backendId
    username := params.username
    groupId := params.groupId
    serverHost := params.serverHost
    submittedAt := params.submittedAt }

def createOrUpdateQuery (params : QueryCreateParams) : Srv (Result Unit) := do
  match ← QueryRepo.find params.id with
  | .ok _ => QueryRepo.update (queryOf params)
  | .error _ => QueryRepo.create (queryOf params)

def getQuery (id : String) : Srv (Result Query) := QueryRepo.find id

/-- The backend and the group of a query. -/
def findBackendForQuery (queryId : String) : Srv (Result (String × String)) :=
  (getQuery queryId).andThen fun query => return .ok (query.backendId, query.groupId)

/-- `fetcher.MaxLimit`. -/
def maxLimit : ℤ := 2000

/-- `Pagination.GetLimit`. -/
def getLimit (limit : ℤ) : ℤ := if limit > maxLimit then maxLimit else limit

/-- The message `QueriesListRequest`; its order is not read. -/
structure QueriesListRequest where
  count : ℤ := 0
  fromTime : ℤ := 0
  toTime : ℤ := 0
  skip : ℤ := 0
  username : String := ""
  backendId : String := ""
  groupId : String := ""
deriving DecidableEq, Repr

/-- `structs.Map` of the filters: an empty one is omitted. -/
def QueriesListRequest.conditions (params : QueriesListRequest) : List (String × SqlVal) :=
  [("username", params.username), ("backend_id", params.backendId),
      ("group_id", params.groupId)].filterMap fun c =>
    if c.2 = "" then none else some (c.1, .str c.2)

/-- `fetcher.FetchMultiple` of the registered entity. -/
def fetchMultiple (page : Page) : Srv (Result (List Query)) := do
  match ← perform (Stmt.findPage .queries page) with
  | .error e => return .error (.db e)
  | .ok rows => return .ok rows

def findMany (params : QueriesListRequest) : Srv (Result (List Query)) :=
  fetchMultiple
    { limit := getLimit params.count
      offset := params.skip
      range :=
        if params.fromTime ≠ 0 ∧ params.toTime ≠ 0 then some (params.fromTime, params.toTime)
        else none
      filter := { eqs := params.conditions } }

/-- The `Query` message of the API has the fields of the parameters. -/
abbrev QueryMsg := QueryCreateParams

def toQueryResponseProto (query : Query) : QueryMsg :=
  { id := query.id
    text := query.text
    serverHost := query.serverHost
    clientIp := query.clientIp
    groupId := query.groupId
    backendId := query.backendId
    username := query.username
    submittedAt := query.submittedAt }

structure QueriesListResponse where
  items : List QueryMsg
  count : ℤ
deriving DecidableEq, Repr

namespace Server

def getQuery (id : String) : Srv (Result QueryMsg) :=
  (QueryApi.getQuery id).andThen fun query => return .ok (toQueryResponseProto query)

def listQueries (req : QueriesListRequest) : Srv (Result QueriesListResponse) :=
  (findMany req).andThen fun queries =>
    return .ok { items := queries.map toQueryResponseProto, count := queries.length }

end Server

end QueryApi

end TrinoGateway
