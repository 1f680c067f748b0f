import TrinoGateway.Spec.Database

/-!
# The repository base, `pkg/spine`

The gorm calls of `spine.Repo` as programs over statements, and how it turns what gorm
reports into errors. A Go function that returns `(T, error)` is a `Srv (Result T)`,
one that returns `error` a `Srv (Result Unit)`.

* `updateSelective` tests the affected rows before it looks at the error.
* Creating or updating a group also saves the mappings it carries, in a statement of
  their own, and replacing them takes three: gorm's default transaction is off.
-/

namespace TrinoGateway

open Interact Prog

/-- The errors of the gateway server: the sentinels of `pkg/spine`, a raw error of the
database layer, a validation failure by field, and `errors.New`. -/
inductive GoErr
  | noRowAffected
  | recordNotFound
  | db (e : DbErr)
  | validation (fields : List (String × String))
  | text (s : String)
deriving DecidableEq, Repr

/-- Programs of the gateway server. -/
abbrev Srv := Prog Stmt Stmt.Ans

/-- What a Go function that returns `(T, error)` returns. -/
abbrev Result := Except GoErr

namespace Gorm

abbrev first (t : Tbl) (id : String) : Srv (Except DbErr t.Row) := perform (Stmt.first t id)

abbrev find (t : Tbl) (w : Where) : Srv (Except DbErr (List t.Row)) := perform (Stmt.find t w)

abbrev findMappings (ids : List String) : Srv (Except DbErr (List GroupBackendsMapping)) :=
  perform (Stmt.findMappings ids)

abbrev insert (t : Tbl) (row : t.Row) : Srv StmtResult := perform (Stmt.insert t row)

abbrev insertMappings (rows : List GroupBackendsMapping) : Srv StmtResult :=
  perform (Stmt.insertMappings rows)

abbrev updates (t : Tbl) (row : t.Row) : Srv StmtResult := perform (Stmt.updates t row)

abbrev detachMappings (groupId : String) (rows : List GroupBackendsMapping) : Srv StmtResult :=
  perform (Stmt.detachMappings groupId rows)

abbrev delete (t : Tbl) (id : String) : Srv StmtResult := perform (Stmt.delete t id)

abbrev deleteMappings (groupId : String) : Srv StmtResult := perform (Stmt.deleteMappings groupId)

end Gorm

/-- `time.Now().Unix()`. -/
abbrev unixNow : Srv ℤ := perform Stmt.unixNow

namespace Validation

/-- One rule of a field: the error text when the value breaks it. -/
abbrev Rule := Option String → Option String

/-- `validation.Required`, also on a pointer. -/
def required : Rule
  | none => some "cannot be blank"
  | some s => if s = "" then some "cannot be blank" else none

/-- `validation.RuneLength`: an empty value passes. -/
def runeLength (min max : ℕ) : Rule
  | none => none
  | some s =>
    if s = "" ∨ (min ≤ s.length ∧ s.length ≤ max) then none
    else some s!"the length must be between {min} and {max}"

/-- `validation.In`: an empty value passes. -/
def oneOf (vals : List String) : Rule
  | none => none
  | some s => if s = "" ∨ s ∈ vals then none else some "must be a valid value"

/-- `validation.ValidateStruct`: for each field, the first rule it breaks. -/
def validateStruct (fields : List (String × Option String × List Rule)) : Result Unit :=
  match fields.filterMap fun f => (f.2.2.findSome? fun rule => rule f.2.1).map (f.1, ·) with
  | [] => .ok ()
  | errs => .error (.validation errs)

end Validation

open Validation in
/-- `Backend.Validate`. -/
def Backend.validate (u : Backend) : Result Unit :=
  validateStruct
    [("id", some u.id, [required, runeLength 1 50]),
      ("hostname", some u.hostname, [required, runeLength 1 255]),
      ("scheme", some u.scheme, [required, oneOf ["http", "https"]]),
      ("external_url", u.externalUrl, [required, runeLength 1 255])]

/-- `IModel.Validate`: only backends check anything. -/
def Tbl.validate : (t : Tbl) → t.Row → Result Unit
  | backends, r => r.validate
  | groups, _ => .ok ()
  | policies, _ => .ok ()
  | queries, _ => .ok ()

namespace Spine

/-- The error that `GetDBError` makes of a database error. -/
def dbError : DbErr → GoErr
  | .recordNotFound => .recordNotFound
  | e => .db e

/-- `GetDBError`. -/
def getDBError : Option DbErr → Result Unit
  | none => .ok ()
  | some e => .error (dbError e)

def findByID (t : Tbl) (id : String) : Srv (Result t.Row) := do
  match ← Gorm.first t id with
  | .error e => return .error (dbError e)
  | .ok r => return .ok r

def findMany (t : Tbl) (condition : List (String × SqlVal)) : Srv (Result (List t.Row)) := do
  match ← Gorm.find t { eqs := condition } with
  | .error e => return .error (dbError e)
  | .ok rs => return .ok rs

def findWithConditionByIDs (t : Tbl) (condition : List (String × SqlVal)) (ids : List String) :
    Srv (Result (List t.Row)) := do
  match ← Gorm.find t { eqs := condition, idIn := some ids } with
  | .error e => return .error (dbError e)
  | .ok rs => return .ok rs

/-- `Preload(clause.Associations)` on groups just read: one more query for their mappings,
none when no group was read. -/
def preload (gs : List Group) : Srv (Result (List Group)) := do
  if gs = [] then return .ok []
  else
    match ← Gorm.findMappings (gs.map Group.id) with
    | .error e => return .error (dbError e)
    | .ok ms =>
      return .ok (gs.map fun g =>
        { g with groupBackendsMappings := some (ms.filter fun m => m.groupId = g.id) })

/-- The association rows that gorm saves along with a model. -/
def associations : (t : Tbl) → t.Row → List GroupBackendsMapping
  | .groups, g => g.groupBackendsMappings.getD []
  | .backends, _ => []
  | .policies, _ => []
  | .queries, _ => []

/-- gorm's `SaveAfterAssociations`: after a statement without error. -/
def saveAssociations (rows : List GroupBackendsMapping) (q : StmtResult) :
    Srv StmtResult := do
  if q.error = none ∧ rows ≠ [] then
    let a ← Gorm.insertMappings rows
    return { q with error := a.error }
  else return q

def create (t : Tbl) (receiver : t.Row) : Srv (Result Unit) := do
  match t.validate receiver with
  | .error err => return .error err
  | .ok () =>
    let q ← saveAssociations (associations t receiver) (← Gorm.insert t receiver)
    return getDBError q.error

def updateSelective (t : Tbl) (receiver : t.Row) : Srv (Result Unit) := do
  let q ← saveAssociations (associations t receiver) (← Gorm.updates t receiver)
  -- a failed statement affects no row either, and its error is not looked at
  if q.rowsAffected = 0 then return .error .noRowAffected
  else return getDBError q.error

/-- `Update` without a selective list, as all callers use it. -/
def update (t : Tbl) (receiver : t.Row) : Srv (Result Unit) := updateSelective t receiver

/-- `Delete`: the association rows first, then the row. -/
def delete (t : Tbl) (receiver : t.Row) : Srv (Result Unit) := do
  if t = .groups then
    let q ← Gorm.deleteMappings (t.id receiver)
    match q.error with
    | some e => return .error (dbError e)
    | none =>
      let q ← Gorm.delete t (t.id receiver)
      return getDBError q.error
  else
    let q ← Gorm.delete t (t.id receiver)
    return getDBError q.error

/-- gorm's `Association.Replace`: an `UPDATE` of the owner, which has no other column than
`updated_at` to write, saves the rows, and then the owner's other rows are detached. -/
def replaceAssociations (groupId : String) (ass : List GroupBackendsMapping) : Srv (Result Unit) := do
  let q ← saveAssociations ass (← Gorm.updates .groups { id := groupId })
  match q.error with
  | some e => return .error (.db e)
  | none => do
    -- gorm does not look at the result of this one
    let _ ← Gorm.detachMappings groupId ass
    return .ok ()

end Spine

end TrinoGateway
