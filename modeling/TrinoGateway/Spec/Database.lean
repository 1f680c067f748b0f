import Mathlib.Data.List.Sort
import TrinoGateway.Lib.Prog
import TrinoGateway.Lib.Text
import TrinoGateway.Spec.Models

/-!
# Statements and the database

* `Stmt` are the statements that gorm sends for the repository layer's calls, each with
  its answer, and the clock reading `unixNow`.
* `exec` is MySQL 8 in strict mode on the schema of the migrations, over a connection in
  three-byte utf8: column sizes, enum columns, primary and foreign keys, and gorm's `Updates`
  of a struct, which writes the non-zero fields and the non-nil pointers and stamps
  `updated_at`.
* `mysql` runs statements one after another, with a clock and with the failures of an
  `Env`: a failed statement changes nothing and affects no row.
-/

namespace TrinoGateway

open Interact

/-- The errors a statement can set on `gorm.DB`. -/
inductive DbErr
  | recordNotFound
  | missingWhereClause
  | mysql (number : ℕ)
  | other (text : String)
deriving DecidableEq, Repr

/-- `gorm.DB` after a write. -/
structure StmtResult where
  error : Option DbErr := none
  rowsAffected : ℕ := 0
deriving DecidableEq, Repr

/-- A page of a table: `LIMIT` and `OFFSET` where they are positive, `created_at` in a range
if there is one, and the condition. -/
structure Page where
  limit : ℤ
  offset : ℤ
  range : Option (ℤ × ℤ)
  filter : Where
deriving DecidableEq, Repr

inductive Stmt
  | first (t : Tbl) (id : String)
  | find (t : Tbl) (w : Where)
  | findPage (t : Tbl) (p : Page)
  | findMappings (groupIds : List String)
  | insert (t : Tbl) (row : t.Row)
  | insertMappings (rows : List GroupBackendsMapping)
  | updates (t : Tbl) (row : t.Row)
  | detachMappings (groupId : String) (rows : List GroupBackendsMapping)
  | delete (t : Tbl) (id : String)
  | deleteMappings (groupId : String)
  | unixNow
deriving DecidableEq

abbrev Stmt.Ans : Stmt → Type
  | first t _ => Except DbErr t.Row
  | find t _ | findPage t _ => Except DbErr (List t.Row)
  | findMappings _ => Except DbErr (List GroupBackendsMapping)
  | insert _ _ | insertMappings _ | updates _ _ | detachMappings _ _ | delete _ _
  | deleteMappings _ => StmtResult
  | unixNow => ℤ

/-- The number of the first check that fails. -/
def firstFailing : List (Bool × ℕ) → Option ℕ
  | [] => none
  | (ok, e) :: cs => if ok then firstFailing cs else some e

/-- The characters that the connection's charset has: those of three bytes at most. -/
def utf8mb3 (s : String) : Bool := s.toList.all fun c => c.toNat < 0x10000

/-- A value of a `VARCHAR(n)` column: MySQL counts characters. -/
def varchar (n : ℕ) (s : String) : Bool × ℕ :=
  if utf8mb3 s then (s.length ≤ n, 1406) else (false, 1366)

/-- What a `VARCHAR(n)` column keeps of a text: blanks beyond its end are cut off. -/
def cut (n : ℕ) (s : String) : String :=
  if (s.toList.drop n).all (· = ' ') then String.ofList (s.toList.take n) else s

/-- A value of an `INT` column. -/
def int32 (v : ℤ) : Bool × ℕ := (-2147483648 ≤ v ∧ v ≤ 2147483647, 1264)

/-- The number of a text of digits, which MySQL reads if there are fewer than six. -/
def enumIndex (s : String) : Option ℕ :=
  if s ≠ "" ∧ s.length < 6 ∧ s.toList.all Char.isDigit then some (Nat.ofDigitChars 10 s.toList 0)
  else none

/-- The member of an `ENUM` that a text stands for: the one that it spells, whatever its case, or
the one that it is the number of. The code writes no number that is `0` or has a plus sign. -/
def enumSpelling (vals : List String) (s : String) : Option String :=
  (vals.find? fun v => Text.eqFold v s).or
    ((enumIndex s).bind fun n => if n = 0 then none else vals[n - 1]?)

def enum (vals : List String) (s : String) : Bool × ℕ := ((enumSpelling vals s).isSome, 1265)

def notNull {α : Type} (v : Option α) : Bool × ℕ := (v.isSome, 1048)

/-- The check of a nullable column: `NULL` passes. -/
def nullable {α : Type} (check : α → Bool × ℕ) : Option α → Bool × ℕ
  | some a => check a
  | none => (true, 0)

def schemes : List String := ["http", "https"]

def strategies : List String := ["random", "round_robin", "least_load"]

def ruleTypes : List String :=
  ["header_client_tags", "header_connection_properties", "header_client_host", "listening_port"]

/-- The checks MySQL makes on a row it is about to store. -/
def Tbl.checks : (t : Tbl) → t.Row → List (Bool × ℕ)
  | backends, r =>
    [varchar 255 r.id, varchar 255 r.hostname, enum schemes r.scheme, notNull r.externalUrl,
      nullable (varchar 255) r.externalUrl, nullable (varchar 255) r.uptimeSchedule,
      nullable int32 r.clusterLoad, nullable int32 r.thresholdClusterLoad,
      nullable int32 r.statsUpdatedAt, int32 r.createdAt, int32 r.updatedAt]
  | groups, r =>
    [varchar 255 r.id, nullable (enum strategies) r.strategy,
      nullable (varchar 255) r.lastRoutedBackend, int32 r.createdAt, int32 r.updatedAt]
  | policies, r =>
    [varchar 255 r.id, enum ruleTypes r.ruleType, varchar 255 r.ruleValue, varchar 255 r.groupId,
      nullable (varchar 255) r.fallbackGroupId, nullable (varchar 255) r.setRequestSource,
      int32 r.createdAt, int32 r.updatedAt]
  | queries, r =>
    [varchar 255 r.id, varchar 500 r.text, varchar 255 r.clientIp, varchar 255 r.groupId,
      varchar 255 r.backendId, varchar 255 r.username, varchar 255 r.serverHost,
      int32 r.submittedAt, int32 r.createdAt, int32 r.updatedAt]

/-- The row as stored: enum values get their declared spelling, and what is no column of
the table is dropped. -/
def Tbl.stored : (t : Tbl) → t.Row → t.Row
  | backends, r => { r with scheme := (enumSpelling schemes r.scheme).getD r.scheme }
  | groups, r =>
    { r with
      strategy := r.strategy.map fun s => (enumSpelling strategies s).getD s
      groupBackendsMappings := none }
  | policies, r => { r with ruleType := (enumSpelling ruleTypes r.ruleType).getD r.ruleType }
  | queries, r => r

/-- Whether the rows that a row's foreign keys name exist. -/
def Db.refsHold (db : Db) : (t : Tbl) → t.Row → Bool
  | .backends, _ => true
  | .groups, _ => true
  | .policies, r =>
    (db.find .groups r.groupId).isSome && r.fallbackGroupId.all fun g => (db.find .groups g).isSome
  | .queries, r => (db.find .groups r.groupId).isSome && (db.find .backends r.backendId).isSome

/-- Whether a row with this id may be deleted: nothing refers to it. -/
def Db.unreferenced (db : Db) (id : String) : Tbl → Bool
  | .backends => !db.queries.any fun q => q.backendId = id
  | .groups =>
    !db.mappings.any (fun m => m.groupId = id) &&
    !db.policies.any (fun p => p.groupId = id || p.fallbackGroupId = some id) &&
    !db.queries.any fun q => q.groupId = id
  | .policies => true
  | .queries => true

/-- A struct field in `Updates`: the zero value is skipped. -/
def nonZero {α : Type} [DecidableEq α] (zero new old : α) : α := if new = zero then old else new

/-- What the columns keep of the texts of a row. An id with blanks beyond its 255 characters is
left as it is, and so refused. -/
def Tbl.fitted : (t : Tbl) → t.Row → t.Row
  | backends, r =>
    { r with
      hostname := cut 255 r.hostname
      externalUrl := r.externalUrl.map (cut 255)
      uptimeSchedule := r.uptimeSchedule.map (cut 255) }
  | groups, r => { r with lastRoutedBackend := r.lastRoutedBackend.map (cut 255) }
  | policies, r =>
    { r with
      ruleValue := cut 255 r.ruleValue
      setRequestSource := r.setRequestSource.map (cut 255) }
  | queries, r =>
    { r with
      text := cut 500 r.text
      clientIp := cut 255 r.clientIp
      username := cut 255 r.username
      serverHost := cut 255 r.serverHost }

/-- gorm stamps the times that are zero. -/
def Tbl.stamped (now : ℤ) : (t : Tbl) → t.Row → t.Row
  | backends, r =>
    { r with createdAt := nonZero 0 r.createdAt now, updatedAt := nonZero 0 r.updatedAt now }
  | groups, r =>
    { r with createdAt := nonZero 0 r.createdAt now, updatedAt := nonZero 0 r.updatedAt now }
  | policies, r =>
    { r with createdAt := nonZero 0 r.createdAt now, updatedAt := nonZero 0 r.updatedAt now }
  | queries, r =>
    { r with createdAt := nonZero 0 r.createdAt now, updatedAt := nonZero 0 r.updatedAt now }

/-- `INSERT`: a nil `uptime_schedule` is left to the column's default. -/
def Tbl.onInsert (now : ℤ) : (t : Tbl) → t.Row → t.Row
  | backends, r =>
    { Tbl.stamped now .backends (Tbl.fitted .backends r) with
      uptimeSchedule := (r.uptimeSchedule.map (cut 255)).or (some "* * * * *") }
  | groups, r => Tbl.stamped now .groups (Tbl.fitted .groups r)
  | policies, r => Tbl.stamped now .policies (Tbl.fitted .policies r)
  | queries, r => Tbl.stamped now .queries (Tbl.fitted .queries r)

/-- A text that `Updates` writes to a `VARCHAR(n)` column. One that is there already stays. -/
def textField (n : ℕ) (new old : String) : String :=
  if new = "" ∨ new = old then old else cut n new

/-- A text that `Updates` writes to a nullable `VARCHAR(n)` column. -/
def textPointer (n : ℕ) (new old : Option String) : Option String :=
  if new = none ∨ new = old then old else new.map (cut n)

/-- `Updates` of the struct `r` on the stored row `old`: non-zero fields and non-nil
pointers are written, and `updated_at` is stamped. -/
def Tbl.onUpdate (now : ℤ) : (t : Tbl) → (old r : t.Row) → t.Row
  | backends, old, r =>
    { id := old.id
      createdAt := nonZero 0 r.createdAt old.createdAt
      updatedAt := now
      hostname := textField 255 r.hostname old.hostname
      scheme := nonZero "" r.scheme old.scheme
      externalUrl := textPointer 255 r.externalUrl old.externalUrl
      isEnabled := r.isEnabled.or old.isEnabled
      isHealthy := r.isHealthy.or old.isHealthy
      uptimeSchedule := textPointer 255 r.uptimeSchedule old.uptimeSchedule
      clusterLoad := r.clusterLoad.or old.clusterLoad
      thresholdClusterLoad := r.thresholdClusterLoad.or old.thresholdClusterLoad
      statsUpdatedAt := r.statsUpdatedAt.or old.statsUpdatedAt }
  | groups, old, r =>
    { id := old.id
      createdAt := nonZero 0 r.createdAt old.createdAt
      updatedAt := now
      strategy := r.strategy.or old.strategy
      isEnabled := r.isEnabled.or old.isEnabled
      lastRoutedBackend := textPointer 255 r.lastRoutedBackend old.lastRoutedBackend }
  | policies, old, r =>
    { id := old.id
      createdAt := nonZero 0 r.createdAt old.createdAt
      updatedAt := now
      ruleType := nonZero "" r.ruleType old.ruleType
      ruleValue := textField 255 r.ruleValue old.ruleValue
      groupId := nonZero "" r.groupId old.groupId
      fallbackGroupId := r.fallbackGroupId.or old.fallbackGroupId
      isEnabled := r.isEnabled.or old.isEnabled
      isAuthDelegated := r.isAuthDelegated.or old.isAuthDelegated
      setRequestSource := textPointer 255 r.setRequestSource old.setRequestSource }
  | queries, old, r =>
    { id := old.id
      createdAt := nonZero 0 r.createdAt old.createdAt
      updatedAt := now
      text := textField 500 r.text old.text
      clientIp := textField 255 r.clientIp old.clientIp
      groupId := nonZero "" r.groupId old.groupId
      backendId := nonZero "" r.backendId old.backendId
      username := textField 255 r.username old.username
      submittedAt := nonZero 0 r.submittedAt old.submittedAt
      serverHost := textField 255 r.serverHost old.serverHost }

namespace Db

/-- A row's way into the table: the first check it fails, or the row as stored. -/
def accept (db : Db) (t : Tbl) (row : t.Row) : Except ℕ t.Row :=
  match firstFailing (t.checks row) with
  | some e => .error e
  | none => if db.refsHold t row then .ok (t.stored row) else .error 1452

def insert (db : Db) (now : ℤ) (t : Tbl) (row : t.Row) : StmtResult × Db :=
  -- the columns are checked before the primary key
  match db.accept t (t.onInsert now row) with
  | .error e => ({ error := some (.mysql e) }, db)
  | .ok r =>
    if (db.find t (t.id row)).isSome then ({ error := some (.mysql 1062) }, db)
    else ({ rowsAffected := 1 }, db.setRows t (db.rows t ++ [r]))

/-- The table with every row of this id replaced. -/
def put (db : Db) (t : Tbl) (id : String) (row : t.Row) : Db :=
  db.setRows t ((db.rows t).map fun r => if t.id r = id then row else r)

/-- The id goes into the `WHERE` clause unless it is zero; an unchanged row is not affected. -/
def updates (db : Db) (now : ℤ) (t : Tbl) (row : t.Row) : StmtResult × Db :=
  if t.id row = "" then ({ error := some .missingWhereClause }, db)
  else
    match db.find t (t.id row) with
    | none => ({}, db)
    | some old =>
      match db.accept t (t.onUpdate now old row) with
      | .error e => ({ error := some (.mysql e) }, db)
      -- MySQL counts the rows changed, not the rows matched
      | .ok r => ({ rowsAffected := if r = old then 0 else 1 }, db.put t (t.id row) r)

/-- Deleting a backend takes its mappings along. -/
def delete (db : Db) (t : Tbl) (id : String) : StmtResult × Db :=
  if id = "" then ({ error := some .missingWhereClause }, db)
  else if (db.find t id).isNone then ({}, db)
  else if !db.unreferenced id t then ({ error := some (.mysql 1451) }, db)
  else
    let db' := db.setRows t ((db.rows t).filter fun r => t.id r ≠ id)
    ({ rowsAffected := 1 },
      if t = .backends then
        { db' with mappings := db'.mappings.filter fun m => m.backendId ≠ id }
      else db')

def nextMappingId (db : Db) : ℤ :=
  db.mappings.foldl (fun n m => max n (m.id.getD 0)) 0 + 1

/-- Insert the mapping, unless the table has one of this group and backend. -/
def upsertMapping (now : ℤ) (db : Db) (m : GroupBackendsMapping) : Db :=
  -- gorm saves associations with `ON DUPLICATE KEY UPDATE`, of the column they have in common
  if db.mappings.any fun k => k.groupId = m.groupId ∧ k.backendId = m.backendId then db
  else
    { db with
      mappings := db.mappings ++ [{ m with
        id := some (m.id.getD db.nextMappingId)
        createdAt := nonZero 0 m.createdAt now
        updatedAt := nonZero 0 m.updatedAt now }] }

def insertMappings (db : Db) (now : ℤ) (rows : List GroupBackendsMapping) : StmtResult × Db :=
  if rows.all fun m =>
      (db.find .groups m.groupId).isSome && (db.find .backends m.backendId).isSome then
    ({ rowsAffected := rows.length }, rows.foldl (upsertMapping now) db)
  else ({ error := some (.mysql 1452) }, db)

/-- The mappings of the group but for these rows lose their `group_id`. A mapping without one is
never read again, and the model drops it. -/
def detachMappings (db : Db) (groupId : String) (rows : List GroupBackendsMapping) :
    StmtResult × Db :=
  let keeps (m : GroupBackendsMapping) : Bool :=
    m.groupId ≠ groupId || rows.any fun n => n.backendId = m.backendId
  ({ rowsAffected := (db.mappings.filter fun m => !keeps m).length },
    { db with mappings := db.mappings.filter keeps })

/-- For the zero id gorm deletes nothing. -/
def deleteMappings (db : Db) (groupId : String) : StmtResult × Db :=
  if groupId = "" then ({}, db)
  else
    ({ rowsAffected := (db.mappings.filter fun m => m.groupId = groupId).length },
      { db with mappings := db.mappings.filter fun m => m.groupId ≠ groupId })

/-- The rows that satisfy the condition, created in the range if there is one, newest first.
MySQL does not parse an `OFFSET` without a `LIMIT`. -/
def findPage (db : Db) (t : Tbl) (p : Page) : Except DbErr (List t.Row) :=
  if p.limit ≤ 0 ∧ 0 < p.offset then .error (.mysql 1064)
  else
    let rows := (db.rows t).filter fun r =>
      p.filter.holds t r && p.range.all fun b => b.1 ≤ t.createdAt r && t.createdAt r ≤ b.2
    let sorted := rows.insertionSort fun r s => t.createdAt s ≤ t.createdAt r
    let rest := sorted.drop p.offset.toNat
    .ok (if p.limit ≤ 0 then rest else rest.take p.limit.toNat)

end Db

/-- The answer of a statement that fails. -/
def Stmt.failed (now : ℤ) (e : DbErr) : (o : Stmt) → o.Ans
  | first _ _ | find _ _ | findPage _ _ | findMappings _ => .error e
  | insert _ _ | insertMappings _ | updates _ _ | detachMappings _ _ | delete _ _
  | deleteMappings _ => { error := some e }
  | unixNow => now

/-- The answer of a statement that reaches the database. -/
def Db.answer (db : Db) (now : ℤ) : (o : Stmt) → o.Ans × Db
  | .first t id =>
    match db.find t id with
    | some r => (.ok r, db)
    | none => (.error .recordNotFound, db)
  | .find t w => (.ok ((db.rows t).filter (w.holds t)), db)
  | .findPage t p => (db.findPage t p, db)
  | .findMappings ids => (.ok (db.mappings.filter fun m => ids.contains m.groupId), db)
  | .insert t row => db.insert now t row
  | .insertMappings rows => db.insertMappings now rows
  | .updates t row => db.updates now t row
  | .detachMappings gid rows => db.detachMappings gid rows
  | .delete t id => db.delete t id
  | .deleteMappings gid => db.deleteMappings gid
  | .unixNow => (now, db)

/-- One statement, at time `now`, failing with `fault` if there is one. -/
def exec (now : ℤ) (fault : Option DbErr) (o : Stmt) (db : Db) : o.Ans × Db :=
  match fault with
  | some e => (o.failed now e, db)
  | none => db.answer now o

/-- The clock and the failures of a run, by the number of operations performed so far. -/
structure Env where
  clock : ℕ → ℤ
  faults : ℕ → Option DbErr

/-- The run in which no statement fails of itself. -/
def Env.available (clock : ℕ → ℤ) : Env := { clock := clock, faults := fun _ => none }

@[simp] theorem Env.available_faults (clock : ℕ → ℤ) (n : ℕ) :
    (Env.available clock).faults n = none := rfl

@[simp] theorem Env.available_clock (clock : ℕ → ℤ) : (Env.available clock).clock = clock := rfl

structure World where
  db : Db
  tick : ℕ := 0
deriving DecidableEq, Repr

/-- The world after an operation that changes no table. -/
def World.next (w : World) : World := { w with tick := w.tick + 1 }

@[simp] theorem World.next_db (w : World) : w.next.db = w.db := rfl

@[simp] theorem World.next_tick (w : World) : w.next.tick = w.tick + 1 := rfl

/-- The handler of a run: statement after statement. -/
def mysql (env : Env) (o : Stmt) (w : World) : o.Ans × World :=
  let r := exec (env.clock w.tick) (env.faults w.tick) o w.db
  (r.1, { db := r.2, tick := w.tick + 1 })

end TrinoGateway
