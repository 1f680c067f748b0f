import Mathlib.Data.Int.Notation
import Mathlib.Data.List.Basic

/-!
# The gateway's records

* `Backend`, `Group`, `GroupBackendsMapping`, `Policy`, `Query`: the rows of
  `internal/gatewayserver/models`, with the embedded `spine.Model` spelled out.
  A nullable column (a pointer in the source) is an `Option`.
* `Tbl` names the tables, `Tbl.Row` their rows, and `Db` is the content of them all.
* `Where` is the condition of a query: a conjunction of column equalities, as gorm
  builds it from a map, and of `column IN (..)` lists.
-/

namespace TrinoGateway

structure Backend where
  id : String
  createdAt : ℤ := 0
  updatedAt : ℤ := 0
  hostname : String := ""
  scheme : String := ""
  externalUrl : Option String := none
  isEnabled : Option Bool := none
  isHealthy : Option Bool := none
  uptimeSchedule : Option String := none
  clusterLoad : Option ℤ := none
  thresholdClusterLoad : Option ℤ := none
  statsUpdatedAt : Option ℤ := none
deriving DecidableEq, Repr

structure GroupBackendsMapping where
  id : Option ℤ := none
  createdAt : ℤ := 0
  updatedAt : ℤ := 0
  groupId : String
  backendId : String
deriving DecidableEq, Repr

/-- A group. `groupBackendsMappings` is the slice the ORM fills and saves, `none` the nil
slice; it is no column, and a stored row has `none`. -/
structure Group where
  id : String
  createdAt : ℤ := 0
  updatedAt : ℤ := 0
  strategy : Option String := none
  isEnabled : Option Bool := none
  lastRoutedBackend : Option String := none
  groupBackendsMappings : Option (List GroupBackendsMapping) := none
deriving DecidableEq, Repr

structure Policy where
  id : String
  createdAt : ℤ := 0
  updatedAt : ℤ := 0
  ruleType : String := ""
  ruleValue : String := ""
  groupId : String := ""
  fallbackGroupId : Option String := none
  isEnabled : Option Bool := none
  isAuthDelegated : Option Bool := none
  setRequestSource : Option String := none
deriving DecidableEq, Repr

structure Query where
  id : String
  createdAt : ℤ := 0
  updatedAt : ℤ := 0
  text : String := ""
  clientIp : String := ""
  groupId : String := ""
  backendId : String := ""
  username : String := ""
  submittedAt : ℤ := 0
  serverHost : String := ""
deriving DecidableEq, Repr

/-- The tables that have a model with a string id. -/
inductive Tbl
  | backends
  | groups
  | policies
  | queries
deriving DecidableEq, Repr

/-- The row of a table. -/
abbrev Tbl.Row : Tbl → Type
  | backends => Backend
  | groups => Group
  | policies => Policy
  | queries => Query

instance (t : Tbl) : DecidableEq t.Row := by
  cases t <;> infer_instance

/-- `IModel.GetID`. -/
def Tbl.id : (t : Tbl) → t.Row → String
  | backends, r => r.id
  | groups, r => r.id
  | policies, r => r.id
  | queries, r => r.id

def Tbl.createdAt : (t : Tbl) → t.Row → ℤ
  | backends, r => r.createdAt
  | groups, r => r.createdAt
  | policies, r => r.createdAt
  | queries, r => r.createdAt

/-- The content of the database. -/
structure Db where
  backends : List Backend := []
  groups : List Group := []
  mappings : List GroupBackendsMapping := []
  policies : List Policy := []
  queries : List Query := []
deriving DecidableEq, Repr

namespace Db

def rows (db : Db) : (t : Tbl) → List t.Row
  | .backends => db.backends
  | .groups => db.groups
  | .policies => db.policies
  | .queries => db.queries

def setRows (db : Db) : (t : Tbl) → List t.Row → Db
  | .backends, rs => { db with backends := rs }
  | .groups, rs => { db with groups := rs }
  | .policies, rs => { db with policies := rs }
  | .queries, rs => { db with queries := rs }

/-- The row with a given id. -/
def find (db : Db) (t : Tbl) (id : String) : Option t.Row :=
  (db.rows t).find? fun r => t.id r = id

@[simp] theorem rows_setRows (db : Db) (t : Tbl) (rs : List t.Row) :
    (db.setRows t rs).rows t = rs := by
  cases t <;> rfl

theorem rows_setRows_ne {t u : Tbl} (h : u ≠ t) (db : Db) (rs : List t.Row) :
    (db.setRows t rs).rows u = db.rows u := by
  cases t <;> cases u <;> first | rfl | exact absurd rfl h

theorem find_id {db : Db} {t : Tbl} {id : String} {r : t.Row} (h : db.find t id = some r) :
    t.id r = id := by
  simpa using List.find?_some h

theorem mem_of_find {db : Db} {t : Tbl} {id : String} {r : t.Row} (h : db.find t id = some r) :
    r ∈ db.rows t :=
  List.mem_of_find?_eq_some h

end Db

/-- A database whose backends passed `Backend.Validate` on their way in: it requires an id,
and no statement changes one. -/
structure Store where
  db : Db
  backend_id : ∀ b ∈ db.backends, b.id ≠ ""

/-- A value bound in a condition. -/
inductive SqlVal
  | str (s : String)
  | bool (b : Bool)
deriving DecidableEq, Repr

/-- The value of a column, `none` for `NULL`. -/
def Tbl.col : (t : Tbl) → t.Row → String → Option SqlVal
  | backends, r, c =>
    if c = "id" then some (.str r.id)
    else if c = "hostname" then some (.str r.hostname)
    else if c = "scheme" then some (.str r.scheme)
    else if c = "external_url" then r.externalUrl.map .str
    else if c = "is_enabled" then r.isEnabled.map .bool
    else if c = "is_healthy" then r.isHealthy.map .bool
    else none
  | groups, r, c =>
    if c = "id" then some (.str r.id)
    else if c = "strategy" then r.strategy.map .str
    else if c = "is_enabled" then r.isEnabled.map .bool
    else if c = "last_routed_backend" then r.lastRoutedBackend.map .str
    else none
  | policies, r, c =>
    if c = "id" then some (.str r.id)
    else if c = "rule_type" then some (.str r.ruleType)
    else if c = "rule_value" then some (.str r.ruleValue)
    else if c = "group_id" then some (.str r.groupId)
    else if c = "fallback_group_id" then r.fallbackGroupId.map .str
    else if c = "is_enabled" then r.isEnabled.map .bool
    else if c = "is_auth_delegated" then r.isAuthDelegated.map .bool
    else if c = "set_request_source" then r.setRequestSource.map .str
    else none
  | queries, r, c =>
    if c = "id" then some (.str r.id)
    else if c = "username" then some (.str r.username)
    else if c = "backend_id" then some (.str r.backendId)
    else if c = "group_id" then some (.str r.groupId)
    else none

/-- A condition: every listed column equals its value, and the id is in the list, if one
is given. A `NULL` equals nothing and an empty list holds nothing. -/
structure Where where
  eqs : List (String × SqlVal) := []
  idIn : Option (List String) := none
deriving DecidableEq, Repr

/-- Whether a row satisfies a condition. -/
def Where.holds (w : Where) (t : Tbl) (r : t.Row) : Bool :=
  w.eqs.all (fun e => t.col r e.1 = some e.2) && w.idIn.all fun ids => ids.contains (t.id r)

end TrinoGateway
