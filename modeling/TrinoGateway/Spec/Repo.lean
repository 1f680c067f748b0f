import TrinoGateway.Spec.Spine

/-!
# The repositories, `internal/gatewayserver/repo`

The four repositories share `create`, `update`, `find`, `findMany`, `setFlag` and `delete`;
each keeps its own functions, as these applied to its table. A group's `update` replaces its
mappings first, and a group's `find` preloads them.
-/

namespace TrinoGateway

open Interact Prog

namespace Repo

def create (t : Tbl) (row : t.Row) : Srv (Result Unit) := Spine.create t row

/-- An update that affects no row counts as done. -/
def update (t : Tbl) (row : t.Row) : Srv (Result Unit) := do
  match ← Spine.update t row with
  | .error err => if err = .noRowAffected then return .ok () else return .error err
  | .ok () => return .ok ()

def find (t : Tbl) (id : String) : Srv (Result t.Row) := Spine.findByID t id

def findMany (t : Tbl) (conditions : List (String × SqlVal)) : Srv (Result (List t.Row)) :=
  Spine.findMany t conditions

/-- Read the row, and write it back with one flag changed, unless the flag has that value
already. -/
def setFlag (t : Tbl) (find : String → Srv (Result t.Row)) (flag : t.Row → Option Bool)
    (withFlag : t.Row → Bool → t.Row) (v : Bool) (already : Result Unit) (id : String) :
    Srv (Result Unit) :=
  (find id).andThen fun row => do
    let cur ← deref (flag row)
    if cur = v then return already
    else Spine.update t (withFlag row v)

def delete (t : Tbl) (find : String → Srv (Result t.Row)) (id : String) : Srv (Result Unit) :=
  (find id).andThen fun row => Spine.delete t row

end Repo

namespace BackendRepo

def create (backend : Backend) : Srv (Result Unit) := Repo.create .backends backend

def update (backend : Backend) : Srv (Result Unit) := Repo.update .backends backend

def find (id : String) : Srv (Result Backend) := Repo.find .backends id

def findMany (conditions : List (String × SqlVal)) : Srv (Result (List Backend)) :=
  Repo.findMany .backends conditions

/-- The backends that are ready to serve traffic. -/
def getAllActiveByIDs (ids : List String) : Srv (Result (List Backend)) :=
  Spine.findWithConditionByIDs .backends
    [("is_enabled", .bool true), ("is_healthy", .bool true)] ids

def withEnabled (b : Backend) (v : Bool) : Backend := { b with isEnabled := some v }

def withHealthy (b : Backend) (v : Bool) : Backend := { b with isHealthy := some v }

def enable (id : String) : Srv (Result Unit) :=
  Repo.setFlag .backends find Backend.isEnabled withEnabled true (.ok ()) id

def disable (id : String) : Srv (Result Unit) :=
  Repo.setFlag .backends find Backend.isEnabled withEnabled false (.ok ()) id

def markHealthy (id : String) : Srv (Result Unit) :=
  Repo.setFlag .backends find Backend.isHealthy withHealthy true (.ok ()) id

def markUnhealthy (id : String) : Srv (Result Unit) :=
  Repo.setFlag .backends find Backend.isHealthy withHealthy false (.ok ()) id

def delete (id : String) : Srv (Result Unit) := Repo.delete .backends find id

end BackendRepo

namespace GroupRepo

def create (group : Group) : Srv (Result Unit) := Repo.create .groups group

def update (group : Group) : Srv (Result Unit) :=
  match group.groupBackendsMappings with
  | some ms => (Spine.replaceAssociations group.id ms).andThen fun _ => Repo.update .groups group
  | none => Repo.update .groups group

def find (id : String) : Srv (Result Group) :=
  (Spine.findByID .groups id).andThen fun group =>
    (Spine.preload [group]).andThen fun gs => return .ok (gs.headD group)

def findMany (conditions : List (String × SqlVal)) : Srv (Result (List Group)) :=
  (Spine.findMany .groups conditions).andThen fun groups => Spine.preload groups

def withEnabled (g : Group) (v : Bool) : Group := { g with isEnabled := some v }

def enable (id : String) : Srv (Result Unit) :=
  Repo.setFlag .groups find Group.isEnabled withEnabled true (.error (.text "already active")) id

def disable (id : String) : Srv (Result Unit) :=
  Repo.setFlag .groups find Group.isEnabled withEnabled false
    (.error (.text "already inactive")) id

def delete (id : String) : Srv (Result Unit) := Repo.delete .groups find id

end GroupRepo

namespace PolicyRepo

def create (policy : Policy) : Srv (Result Unit) := Repo.create .policies policy

def update (policy : Policy) : Srv (Result Unit) := Repo.update .policies policy

def find (id : String) : Srv (Result Policy) := Repo.find .policies id

def findMany (conditions : List (String × SqlVal)) : Srv (Result (List Policy)) :=
  Repo.findMany .policies conditions

def withEnabled (p : Policy) (v : Bool) : Policy := { p with isEnabled := some v }

def enable (id : String) : Srv (Result Unit) :=
  Repo.setFlag .policies find Policy.isEnabled withEnabled true
    (.error (.text "Already active")) id

def disable (id : String) : Srv (Result Unit) :=
  Repo.setFlag .policies find Policy.isEnabled withEnabled false
    (.error (.text "Already active")) id

def delete (id : String) : Srv (Result Unit) := Repo.delete .policies find id

end PolicyRepo

namespace QueryRepo

def create (query : Query) : Srv (Result Unit) := Repo.create .queries query

def update (query : Query) : Srv (Result Unit) := Repo.update .queries query

def find (id : String) : Srv (Result Query) := Repo.find .queries id

def findMany (conditions : List (String × SqlVal)) : Srv (Result (List Query)) :=
  Repo.findMany .queries conditions

end QueryRepo

end TrinoGateway
