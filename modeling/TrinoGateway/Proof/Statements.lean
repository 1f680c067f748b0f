import TrinoGateway.Proof.Repo
import TrinoGateway.Spec.GroupApi
import TrinoGateway.Spec.Health

/-!
# What a statement can do

* `exec_rows`: a statement changes no table that it does not write.
* `exec_mem_rows`: a row that is in a table after a statement was there before, or has been
  accepted from an `INSERT` or an `UPDATE`.
* The statements that a write of the repositories sends, and `HealthOp.allOps_prog`: a health
  operation writes back the row it read, but for the health columns.
-/

namespace TrinoGateway

open Interact Prog

def Stmt.ReadOnly : Stmt → Prop
  | first _ _ | find _ _ | findPage _ _ | findMappings _ | unixNow => True
  | _ => False

theorem exec_readOnly {o : Stmt} (h : o.ReadOnly) (now : ℤ) (fault : Option DbErr) (db : Db) :
    (exec now fault o db).2 = db := by
  cases fault with
  | some e => rfl
  | none =>
    cases o with
    | first t id =>
      simp only [exec, Db.answer]
      cases db.find t id <;> rfl
    | find t w => rfl
    | findPage t p => rfl
    | findMappings ids => rfl
    | unixNow => rfl
    | _ => exact h.elim

/-- The statement writes rows of the table. -/
def Stmt.writes (u : Tbl) : Stmt → Prop
  | insert t _ | updates t _ | delete t _ => t = u
  | _ => False

theorem Db.rows_withMappings (db : Db) (ms : List GroupBackendsMapping) (u : Tbl) :
    ({ db with mappings := ms } : Db).rows u = db.rows u := by
  cases u <;> rfl

theorem Db.rows_upsertMappings (now : ℤ) (ms : List GroupBackendsMapping) (db : Db) (u : Tbl) :
    (ms.foldl (Db.upsertMapping now) db).rows u = db.rows u := by
  induction ms generalizing db with
  | nil => rfl
  | cons m ms ih =>
    rw [List.foldl_cons, ih]
    unfold Db.upsertMapping
    split
    · rfl
    · exact Db.rows_withMappings db _ u

theorem Db.rows_insertMappings (db : Db) (now : ℤ) (ms : List GroupBackendsMapping) (u : Tbl) :
    (db.insertMappings now ms).2.rows u = db.rows u := by
  unfold Db.insertMappings
  split
  · exact Db.rows_upsertMappings now ms db u
  · rfl

theorem Db.rows_detachMappings (db : Db) (groupId : String) (ms : List GroupBackendsMapping)
    (u : Tbl) : (db.detachMappings groupId ms).2.rows u = db.rows u :=
  Db.rows_withMappings db _ u

theorem Db.rows_deleteMappings (db : Db) (groupId : String) (u : Tbl) :
    (db.deleteMappings groupId).2.rows u = db.rows u := by
  unfold Db.deleteMappings
  split
  · rfl
  · exact Db.rows_withMappings db _ u

/-- **A statement changes no table that it does not write.** -/
theorem exec_rows {u : Tbl} {o : Stmt} (h : ¬ o.writes u) (now : ℤ) (fault : Option DbErr)
    (db : Db) : (exec now fault o db).2.rows u = db.rows u := by
  by_cases hr : o.ReadOnly
  · rw [exec_readOnly hr]
  cases fault with
  | some e => rfl
  | none =>
    cases o with
    | insert t row =>
      have hne : u ≠ t := fun he => h he.symm
      simp only [exec, Db.answer, Db.insert]
      split
      · rfl
      · split
        · rfl
        · exact Db.rows_setRows_ne hne db _
    | insertMappings ms => exact Db.rows_insertMappings db now ms u
    | updates t row =>
      have hne : u ≠ t := fun he => h he.symm
      simp only [exec, Db.answer, Db.updates]
      split
      · rfl
      · split
        · rfl
        · split
          · rfl
          · exact Db.rows_setRows_ne hne db _
    | detachMappings gid ms => exact Db.rows_detachMappings db gid ms u
    | delete t id =>
      have hne : u ≠ t := fun he => h he.symm
      simp only [exec, Db.answer, Db.delete]
      split
      · rfl
      · split
        · rfl
        · split
          · rfl
          · split
            -- a deleted backend takes mappings along, which are in no table of rows
            · rw [Db.rows_withMappings]
              exact Db.rows_setRows_ne hne db _
            · exact Db.rows_setRows_ne hne db _
    | deleteMappings gid => exact Db.rows_deleteMappings db gid u
    | _ => exact absurd trivial hr

theorem Db.mem_rows_put {db : Db} {t : Tbl} {id : String} {row r : t.Row}
    (h : r ∈ (db.put t id row).rows t) : r ∈ db.rows t ∨ r = row := by
  rw [Db.put, Db.rows_setRows] at h
  obtain ⟨r', hr', heq⟩ := List.mem_map.mp h
  split at heq
  · exact Or.inr heq.symm
  · exact Or.inl (heq ▸ hr')

theorem Db.mem_rows_of_insert {db : Db} {now : ℤ} {t : Tbl} {row r : t.Row}
    (h : r ∈ (db.insert now t row).2.rows t) :
    r ∈ db.rows t ∨ db.accept t (t.onInsert now row) = .ok r := by
  rw [Db.insert] at h
  split at h
  · exact Or.inl h
  · rename_i r' ha
    split at h
    · exact Or.inl h
    · rw [Db.rows_setRows] at h
      rcases List.mem_append.mp h with h | h
      · exact Or.inl h
      · obtain rfl : r = r' := List.mem_singleton.mp h
        exact Or.inr ha

theorem Db.mem_rows_of_updates {db : Db} {now : ℤ} {t : Tbl} {row r : t.Row}
    (h : r ∈ (db.updates now t row).2.rows t) :
    r ∈ db.rows t ∨ ∃ old, db.find t (t.id row) = some old ∧
      db.accept t (t.onUpdate now old row) = .ok r := by
  rw [Db.updates] at h
  split at h
  · exact Or.inl h
  · split at h
    · exact Or.inl h
    · rename_i old hold
      split at h
      · exact Or.inl h
      · rename_i r' ha
        rcases Db.mem_rows_put h with h | rfl
        · exact Or.inl h
        · exact Or.inr ⟨old, hold, ha⟩

theorem Db.mem_rows_of_delete {db : Db} {t : Tbl} {id : String} {r : t.Row}
    (h : r ∈ (db.delete t id).2.rows t) : r ∈ db.rows t := by
  rw [Db.delete] at h
  split at h
  · exact h
  · split at h
    · exact h
    · split at h
      · exact h
      · have hfilter : r ∈ (db.rows t).filter fun r => t.id r ≠ id := by
          split at h
          · rwa [Db.rows_withMappings, Db.rows_setRows] at h
          · rwa [Db.rows_setRows] at h
        exact (List.mem_filter.mp hfilter).1

/-- **Where the rows of a table come from**, over one statement. -/
theorem exec_mem_rows {t : Tbl} {r : t.Row} {o : Stmt} {now : ℤ} {fault : Option DbErr} {db : Db}
    (h : r ∈ (exec now fault o db).2.rows t) :
    r ∈ db.rows t ∨
      (∃ row : t.Row, o = .insert t row ∧ db.accept t (t.onInsert now row) = .ok r) ∨
      ∃ row old : t.Row, o = .updates t row ∧ db.find t (t.id row) = some old ∧
        db.accept t (t.onUpdate now old row) = .ok r := by
  by_cases hw : o.writes t
  · cases fault with
    | some e => exact Or.inl h
    | none =>
      cases o with
      | insert u row =>
        obtain rfl : u = t := hw
        exact (Db.mem_rows_of_insert h).imp_right fun ha => Or.inl ⟨row, rfl, ha⟩
      | updates u row =>
        obtain rfl : u = t := hw
        refine (Db.mem_rows_of_updates h).imp_right ?_
        rintro ⟨old, hold, ha⟩
        exact Or.inr ⟨row, old, rfl, hold, ha⟩
      | delete u id =>
        obtain rfl : u = t := hw
        exact Or.inl (Db.mem_rows_of_delete h)
      | _ => exact hw.elim
  · rw [exec_rows hw] at h
    exact Or.inl h

/-- The `UPDATE` of the stored row `old` is executed: it does not fail, it has an id, and MySQL
takes the row that it makes. -/
def Db.TakesUpdate (db : Db) (now : ℤ) (fault : Option DbErr) (t : Tbl) (old row : t.Row) : Prop :=
  fault = none ∧ t.id row ≠ "" ∧ ∃ r, db.accept t (t.onUpdate now old row) = .ok r

/-- **An `UPDATE` of a stored row is executed, or has an error and changes nothing.** -/
theorem exec_updates {db : Db} {t : Tbl} {row old : t.Row} (hold : db.find t (t.id row) = some old)
    (now : ℤ) (fault : Option DbErr) :
    (∃ r, db.TakesUpdate now fault t old row ∧ db.accept t (t.onUpdate now old row) = .ok r ∧
      exec now fault (.updates t row) db =
        ({ rowsAffected := if r = old then 0 else 1 }, db.put t (t.id row) r)) ∨
    (¬ db.TakesUpdate now fault t old row ∧
      ∃ e, exec now fault (.updates t row) db = ({ error := some e }, db)) := by
  cases fault with
  | some e => exact Or.inr ⟨fun h => Option.some_ne_none e h.1, e, rfl⟩
  | none =>
    have hexec : exec now none (.updates t row) db = db.updates now t row := rfl
    rw [hexec, Db.updates]
    by_cases hid : t.id row = ""
    · rw [if_pos hid]
      exact Or.inr ⟨fun h => h.2.1 hid, _, rfl⟩
    · rw [if_neg hid, hold]
      simp only
      cases ha : db.accept t (t.onUpdate now old row) with
      | error e =>
        have hno : ¬ db.TakesUpdate now none t old row := by
          rintro ⟨-, -, r, hr⟩
          rw [ha] at hr
          cases hr
        exact Or.inr ⟨hno, _, rfl⟩
      | ok r => exact Or.inl ⟨r, ⟨rfl, hid, r, ha⟩, rfl, rfl⟩

/-- The `INSERT` of a row is executed: it does not fail, its id is new, and MySQL takes the row. -/
def Db.TakesInsert (db : Db) (now : ℤ) (fault : Option DbErr) (t : Tbl) (row : t.Row) : Prop :=
  fault = none ∧ db.find t (t.id row) = none ∧ ∃ r, db.accept t (t.onInsert now row) = .ok r

/-- **An `INSERT` is executed, or has an error and changes nothing.** -/
theorem exec_insert (db : Db) {t : Tbl} (row : t.Row) (now : ℤ) (fault : Option DbErr) :
    (∃ r, db.TakesInsert now fault t row ∧ db.accept t (t.onInsert now row) = .ok r ∧
      exec now fault (.insert t row) db = ({ rowsAffected := 1 }, db.setRows t (db.rows t ++ [r]))) ∨
    (¬ db.TakesInsert now fault t row ∧
      ∃ e, exec now fault (.insert t row) db = ({ error := some e }, db)) := by
  cases fault with
  | some e => exact Or.inr ⟨fun h => Option.some_ne_none e h.1, e, rfl⟩
  | none =>
    have hexec : exec now none (.insert t row) db = db.insert now t row := rfl
    rw [hexec, Db.insert]
    cases ha : db.accept t (t.onInsert now row) with
    | error e =>
      have hno : ¬ db.TakesInsert now none t row := by
        rintro ⟨-, -, r, hr⟩
        rw [ha] at hr
        cases hr
      exact Or.inr ⟨hno, _, rfl⟩
    | ok r =>
      cases hrow : db.find t (t.id row) with
      | some old =>
        have hno : ¬ db.TakesInsert now none t row := by
          rintro ⟨-, hnone, -⟩
          rw [hrow] at hnone
          cases hnone
        exact Or.inr ⟨hno, _, rfl⟩
      | none => exact Or.inl ⟨r, ⟨rfl, hrow, r, ha⟩, rfl, rfl⟩

/-- The insertion of a row that carries no association succeeds, or has an error and changes
nothing. -/
theorem Repo.create_cases (env : Env) (w : World) {t : Tbl} (row : t.Row)
    (hv : t.validate row = .ok ()) (h : Spine.associations t row = []) :
    (∃ r, w.db.TakesInsert (env.clock w.tick) (env.faults w.tick) t row ∧
      w.db.accept t (t.onInsert (env.clock w.tick) row) = .ok r ∧
      (create t row).run (mysql env) w =
        (some (.ok ()), ⟨w.db.setRows t (w.db.rows t ++ [r]), w.tick + 1⟩)) ∨
    (¬ w.db.TakesInsert (env.clock w.tick) (env.faults w.tick) t row ∧
      ∃ e, (create t row).run (mysql env) w = (some (.error e), w.next)) := by
  have hrun := run_create env w t row hv h
  rcases exec_insert w.db row (env.clock w.tick) (env.faults w.tick) with
    ⟨r, htakes, ha, hexec⟩ | ⟨hno, e, hexec⟩
  · simp only [mysql, hexec] at hrun
    exact Or.inl ⟨r, htakes, ha, hrun⟩
  · simp only [mysql, hexec] at hrun
    exact Or.inr ⟨hno, _, hrun⟩

/-- The update of a stored row that carries no association succeeds: the row is written, or
nothing is. -/
theorem Repo.update_cases (env : Env) (w : World) {t : Tbl} {row old : t.Row}
    (hold : w.db.find t (t.id row) = some old) (h : Spine.associations t row = []) :
    (∃ r, w.db.TakesUpdate (env.clock w.tick) (env.faults w.tick) t old row ∧
      w.db.accept t (t.onUpdate (env.clock w.tick) old row) = .ok r ∧
      (update t row).run (mysql env) w =
        (some (.ok ()), ⟨w.db.put t (t.id row) r, w.tick + 1⟩)) ∨
    (¬ w.db.TakesUpdate (env.clock w.tick) (env.faults w.tick) t old row ∧
      (update t row).run (mysql env) w = (some (.ok ()), w.next)) := by
  have hrun := run_update env w t row h
  rcases exec_updates hold (env.clock w.tick) (env.faults w.tick) with
    ⟨r, htakes, ha, hexec⟩ | ⟨hno, e, hexec⟩
  · simp only [mysql, hexec] at hrun
    rw [updateResult_ok] at hrun
    exact Or.inl ⟨r, htakes, ha, hrun⟩
  · simp only [mysql, hexec] at hrun
    exact Or.inr ⟨hno, hrun⟩

namespace Spine

section Writes

variable {C : Stmt → Prop}

theorem allOps_saveAssociations {rows : List GroupBackendsMapping}
    (hm : rows ≠ [] → C (.insertMappings rows)) (q : StmtResult) :
    (saveAssociations rows q).AllOps C := by
  unfold saveAssociations
  split
  · rename_i h
    exact ⟨hm h.2, fun x => trivial⟩
  · trivial

/-- A replacement of mappings stamps the group, inserts the new ones and detaches the others. -/
theorem allOps_replaceAssociations {groupId : String} {ms : List GroupBackendsMapping}
    (hu : C (.updates .groups { id := groupId })) (hm : ms ≠ [] → C (.insertMappings ms))
    (hd : C (.detachMappings groupId ms)) : (replaceAssociations groupId ms).AllOps C := by
  refine ⟨hu, fun q => (allOps_saveAssociations hm q).bind fun q => ?_⟩
  split
  · trivial
  · exact ⟨hd, fun _ => trivial⟩

variable {t : Tbl} {row : t.Row}
  (hm : associations t row ≠ [] → C (.insertMappings (associations t row)))

include hm

/-- A creation inserts the row, and its mappings. -/
theorem allOps_create (h : C (.insert t row)) : (create t row).AllOps C := by
  unfold create
  split
  · trivial
  · refine ⟨h, fun q => ?_⟩
    exact (allOps_saveAssociations hm q).bind fun _ => trivial

/-- An update updates the row, and inserts its mappings. -/
theorem allOps_update (h : C (.updates t row)) : (update t row).AllOps C := by
  refine ⟨h, fun q => (allOps_saveAssociations hm q).bind fun q => ?_⟩
  split <;> trivial

theorem allOps_repo_update (h : C (.updates t row)) : (Repo.update t row).AllOps C := by
  refine (allOps_update hm h).bind fun res => ?_
  cases res with
  | error e =>
    simp only
    split <;> trivial
  | ok u => trivial

end Writes

end Spine

theorem GroupRepo.allOps_find {C : Stmt → Prop} (hr : ∀ o : Stmt, o.ReadOnly → C o) (id : String) :
    (find id).AllOps C := by
  refine (Spine.allOps_findByID (hr _ trivial)).andThen fun group => ?_
  exact (Spine.allOps_preload (hr _ trivial)).andThen fun gs => trivial

theorem GroupRepo.allOps_findMany {C : Stmt → Prop} (hr : ∀ o : Stmt, o.ReadOnly → C o)
    (conditions : List (String × SqlVal)) : (findMany conditions).AllOps C :=
  (Spine.allOps_findMany (hr _ trivial)).andThen fun _ => Spine.allOps_preload (hr _ trivial)

namespace GroupApi

variable {C : Stmt → Prop} (cfg : Config) (hr : ∀ o : Stmt, o.ReadOnly → C o)

include hr

theorem allOps_load (b : Backend) : (load cfg b).AllOps C := by
  refine ⟨hr _ trivial, fun curr => ?_⟩
  simp only
  split
  · exact allOps_deref _
  · refine (allOps_deref _).bind fun at_ => ?_
    split
    · exact allOps_deref _
    · trivial

theorem allOps_leastLoaded (bs : List Backend) (best : Backend) :
    (leastLoaded cfg best bs).AllOps C := by
  induction bs generalizing best with
  | nil => trivial
  | cons b bs ih =>
    refine (allOps_load cfg hr b).bind fun lb => ?_
    exact (allOps_load cfg hr best).bind fun ll => ih _

theorem allOps_selectBackend (group : Group) (first : Backend) (bs : List Backend) :
    (selectBackend cfg group first bs).AllOps C := by
  refine (allOps_deref _).bind fun strategy => ?_
  split
  · exact (allOps_deref _).bind fun _ => trivial
  · split
    · exact (allOps_leastLoaded cfg hr bs first).bind fun _ => trivial
    · trivial

/-- The search for a group's backend reads, and updates the last routed backend of the group. -/
theorem allOps_findBackend {group : Group}
    (hu : ∀ b, C (.updates .groups { id := group.id, lastRoutedBackend := some b })) :
    (findBackend cfg group).AllOps C := by
  refine (Spine.allOps_findWithConditionByIDs (hr _ trivial)).andThen fun bs => ?_
  cases bs with
  | nil => trivial
  | cons first bs =>
    refine (allOps_selectBackend cfg hr group first _).bind fun selected => ?_
    exact (Spine.allOps_repo_update (absurd rfl) (hu selected)).bind fun _ => trivial

theorem allOps_findBackends {gs : List Group}
    (hu : ∀ g ∈ gs, ∀ b, C (.updates .groups { id := g.id, lastRoutedBackend := some b })) :
    (findBackends cfg gs).AllOps C := by
  induction gs with
  | nil => trivial
  | cons g gs ih =>
    refine (allOps_findBackend cfg hr (hu g (List.mem_cons_self ..))).andThen fun b => ?_
    exact (ih fun g' hg' => hu g' (List.mem_cons_of_mem _ hg')).andThen fun bs => trivial

/-- The choice of a backend reads, and updates the last routed backends of groups. -/
theorem allOps_evaluateBackendForGroups
    (hu : ∀ id b, C (.updates .groups { id := id, lastRoutedBackend := some b }))
    (groups : List String) : (evaluateBackendForGroups cfg groups).AllOps C := by
  refine (GroupRepo.allOps_findMany hr _).andThen fun active => ?_
  refine (allOps_findBackends cfg hr fun g _ => hu g.id).andThen fun found => ?_
  split
  · split <;> trivial
  · refine (GroupRepo.allOps_find hr _).andThen fun group => ?_
    refine (allOps_findBackend cfg hr (hu group.id)).andThen fun b => ?_
    cases b <;> trivial

end GroupApi

/-- The row has the columns that its message needs. -/
def Backend.Encodes (b : Backend) : Prop := ∃ msg, BackendApi.toBackendResponseProto b = ret (.ok msg)

/-- The message is made without a statement. -/
theorem toBackendResponseProto_allOps (b : Backend) (C : Stmt → Prop) :
    (BackendApi.toBackendResponseProto b).AllOps C := by
  unfold BackendApi.toBackendResponseProto
  split
  · trivial
  · refine (allOps_deref _).bind fun _ => (allOps_deref _).bind fun _ => ?_
    refine (allOps_deref _).bind fun _ => (allOps_deref _).bind fun _ => ?_
    refine (allOps_deref _).bind fun _ => (allOps_deref _).bind fun _ => ?_
    exact (allOps_deref _).bind fun _ => trivial

/-- The message shows the row, all but its times of creation and update. -/
theorem toBackendResponseProto_ok {b : Backend} {msg : BackendMsg}
    (h : BackendApi.toBackendResponseProto b = ret (.ok msg)) :
    BackendApi.schemeValue b.scheme = some msg.scheme ∧
    b =
      { id := msg.id
        createdAt := b.createdAt
        updatedAt := b.updatedAt
        hostname := msg.hostname
        scheme := b.scheme
        externalUrl := some msg.externalUrl
        isEnabled := some msg.isEnabled
        isHealthy := some msg.isHealthy
        uptimeSchedule := some msg.uptimeSchedule
        clusterLoad := some msg.clusterLoad
        thresholdClusterLoad := some msg.thresholdClusterLoad
        statsUpdatedAt := some msg.statsUpdatedAt } := by
  unfold BackendApi.toBackendResponseProto at h
  split at h
  · simp at h
  · simp only [bind_eq, pure_eq, deref_bind_eq_ret] at h
    obtain ⟨u, hu, e, he, s, hs, l, hl, t, ht, a, ha, p, hp, hmsg⟩ := h
    cases hmsg
    refine ⟨‹_›, ?_⟩
    cases b
    simp_all

/-- Two rows of a backend that agree outside of the health columns. -/
structure Backend.SameConfig (b b' : Backend) : Prop where
  id : b'.id = b.id
  hostname : b'.hostname = b.hostname
  scheme : b'.scheme = b.scheme
  externalUrl : b'.externalUrl = b.externalUrl
  uptimeSchedule : b'.uptimeSchedule = b.uptimeSchedule
  thresholdClusterLoad : b'.thresholdClusterLoad = b.thresholdClusterLoad

/-- **What a health operation does after its read**: it writes back the row it read, with other
values in the health columns. -/
theorem HealthOp.allOps_prog {C : Stmt → Prop} (id : String) (action : HealthOp)
    (hr : ∀ o : Stmt, o.ReadOnly → C o) :
    ∃ p : Backend → Srv (Result Unit), action.prog id = (BackendRepo.find id).andThen p ∧
      ∀ row : Backend, (∀ row' : Backend, row.SameConfig row' → C (.updates .backends row')) →
        (p row).AllOps C := by
  have hflag : ∀ (flag : Backend → Option Bool) (withFlag : Backend → Bool → Backend) (v : Bool),
      (∀ b : Backend, b.SameConfig (withFlag b v)) →
      ∀ row : Backend, (∀ row' : Backend, row.SameConfig row' → C (.updates .backends row')) →
        Prog.AllOps C (do
          let cur ← deref (flag row)
          if cur = v then return .ok ()
          else Spine.update .backends (withFlag row v)) := by
    intro flag withFlag v hkeep row hrow
    refine (allOps_deref _).bind fun cur => ?_
    split
    · trivial
    · exact Spine.allOps_update (absurd rfl) (hrow _ (hkeep row))
  have hkeep : ∀ (b : Backend) e h l s, b.SameConfig
      { b with isEnabled := e, isHealthy := h, clusterLoad := l, statsUpdatedAt := s } :=
    fun b e h l s => ⟨rfl, rfl, rfl, rfl, rfl, rfl⟩
  cases action with
  | enable => exact ⟨_, rfl, hflag _ _ true fun b => hkeep b _ _ _ _⟩
  | disable => exact ⟨_, rfl, hflag _ _ false fun b => hkeep b _ _ _ _⟩
  | markHealthy => exact ⟨_, rfl, hflag _ _ true fun b => hkeep b _ _ _ _⟩
  | markUnhealthy => exact ⟨_, rfl, hflag _ _ false fun b => hkeep b _ _ _ _⟩
  | updateClusterLoad l =>
    refine ⟨_, rfl, fun row hrow => ?_⟩
    refine (allOps_deref _).bind fun _ => (allOps_deref _).bind fun _ => ⟨hr _ trivial, fun now => ?_⟩
    refine (Spine.allOps_findByID (hr _ trivial)).andThen fun _ => ?_
    exact Spine.allOps_repo_update (absurd rfl) (hrow _ (hkeep row _ _ _ _))

end TrinoGateway
