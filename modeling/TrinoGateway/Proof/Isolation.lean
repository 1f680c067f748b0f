import TrinoGateway.Proof.ApiAccess
import TrinoGateway.Proof.GroupWrites
import TrinoGateway.Proof.Schema
import TrinoGateway.Proof.Validity
import TrinoGateway.Spec.Deployment

/-!
# Which rows a call may write

Each method of the API names at most one row in its request (`Method.target`), and a client's
request writes queries.

* `handle_within`: the statements of a method write the row that it names, what hangs on it, and
  the last routed backends of groups; nothing else is inserted or deleted, and no row goes in that
  `Validate` refuses.
* `exec_untouched`: such a statement leaves all other rows untouched.
* `rows_untouched`: **whatever is going on at the same time, a row that no arrival names is not
  touched**, but for the last routed backend of a group.
-/

namespace TrinoGateway

open Interact Prog

/-- The rows that may be written. -/
abbrev Scope := Tbl → String → Prop

/-- The row of an update of the last routed backend. -/
def Tbl.Turn : (t : Tbl) → t.Row → Prop
  | groups, r => ∃ b, r = { id := r.id, lastRoutedBackend := some b }
  | backends, _ | policies, _ | queries, _ => False

/-- The statement writes rows of the scope, or the last routed backend of a group. -/
def Stmt.Within (S : Scope) : Stmt → Prop
  | insert t row => S t (t.id row) ∧ t.validate row = .ok ()
  | updates t row => S t (t.id row) ∨ t.Turn row
  | insertMappings rows => ∀ m ∈ rows, S .groups m.groupId
  | detachMappings groupId _ => S .groups groupId
  | delete t id => S t id
  | deleteMappings groupId => S .groups groupId
  | first _ _ | find _ _ | findPage _ _ | findMappings _ | unixNow => True

/-- A row that is read by its id has this id. -/
def Stmt.ReadsById : (o : Stmt) → o.Ans → Prop
  | first t id, a => IfOk (fun row => t.id row = id) a
  | _, _ => True

theorem exec_readsById (now : ℤ) (fault : Option DbErr) (o : Stmt) (db : Db) :
    o.ReadsById (exec now fault o db).1 := by
  cases o with
  | first t id =>
    cases hrow : (exec now fault (.first t id) db).1 with
    | error e => trivial
    | ok row => exact Db.find_id (exec_first_ok hrow).2
  | _ => trivial

theorem Stmt.Within.mono {S S' : Scope} (hS : ∀ t id, S t id → S' t id) {o : Stmt}
    (h : o.Within S) : o.Within S' := by
  cases o with
  | insert t row => exact ⟨hS _ _ h.1, h.2⟩
  | updates t row => exact h.imp_left (hS _ _)
  | insertMappings rows => exact fun m hm => hS _ _ (h m hm)
  | detachMappings groupId rows => exact hS _ _ h
  | delete t id => exact hS _ _ h
  | deleteMappings groupId => exact hS _ _ h
  | _ => trivial

theorem Stmt.ReadOnly.within {S : Scope} {o : Stmt} (h : o.ReadOnly) : o.Within S := by
  cases o with
  | first t id => trivial
  | find t w => trivial
  | findPage t p => trivial
  | findMappings ids => trivial
  | unixNow => trivial
  | _ => exact h.elim

/-- A row but for what the routing of others may write: the last routed backend of a group. -/
def Tbl.settled : (t : Tbl) → t.Row → t.Row
  | groups, r => { Tbl.stored .groups r with lastRoutedBackend := none, updatedAt := 0 }
  | backends, r => r
  | policies, r => r
  | queries, r => r

/-- The rows outside of the scope are as they were, and so are the mappings between them. -/
structure Db.Untouched (S : Scope) (db db' : Db) : Prop where
  rows : ∀ t id, ¬ S t id → (db'.find t id).map t.settled = (db.find t id).map t.settled
  pairs : ∀ p : String × String, ¬ S .groups p.1 → ¬ S .backends p.2 →
    (p ∈ db'.pairs ↔ p ∈ db.pairs)

namespace Db.Untouched

variable {S : Scope} {db db' db'' : Db}

theorem refl (S : Scope) (db : Db) : db.Untouched S db := ⟨fun _ _ _ => rfl, fun _ _ _ => Iff.rfl⟩

theorem trans (h : db.Untouched S db') (h' : db'.Untouched S db'') : db.Untouched S db'' where
  rows t id hid := (h'.rows t id hid).trans (h.rows t id hid)
  pairs p hg hb := (h'.pairs p hg hb).trans (h.pairs p hg hb)

/-- Only mappings of groups in the scope change. -/
theorem of_mappings {ms : List GroupBackendsMapping}
    (h : ∀ p : String × String, ¬ S .groups p.1 →
      (p ∈ ms.map GroupBackendsMapping.pair ↔ p ∈ db.pairs)) :
    db.Untouched S { db with mappings := ms } := by
  refine ⟨fun t id _ => ?_, fun p hg _ => h p hg⟩
  unfold Db.find
  rw [Db.rows_withMappings]

end Db.Untouched

section Exec

variable {S : Scope} {db : Db}

theorem find_setRows_ne {t u : Tbl} (h : u ≠ t) (rs : List t.Row) (id : String) :
    (db.setRows t rs).find u id = db.find u id := by
  unfold Db.find
  rw [Db.rows_setRows_ne h]

theorem find_filter_ne {t : Tbl} {id id' : String} (hne : id' ≠ id) :
    (db.setRows t ((db.rows t).filter fun r => t.id r ≠ id)).find t id' = db.find t id' := by
  unfold Db.find
  rw [Db.rows_setRows, List.find?_filter]
  congr 1
  funext r
  by_cases hr : t.id r = id'
  · simp [hr, hne]
  · simp [hr]

theorem untouched_insert {t : Tbl} {row : t.Row} (h : S t (t.id row)) (now : ℤ) :
    db.Untouched S (db.insert now t row).2 := by
  unfold Db.insert
  split
  · exact Db.Untouched.refl S db
  · rename_i r ha
    split
    · exact Db.Untouched.refl S db
    · have hid : t.id r = t.id row := by
        rw [(Db.accept_ok ha).1, Db.id_stored, Db.id_onInsert]
      refine ⟨fun u id hu => ?_, fun p _ _ => by rw [Db.pairs_setRows]⟩
      by_cases hut : u = t
      · subst hut
        have hne : id ≠ u.id r := fun heq => hu (by rw [heq, hid]; exact h)
        rw [Db.find_append_ne hne]
      · rw [find_setRows_ne hut]

/-- A declared strategy is spelled as declared. -/
theorem spelled_strategy (s : String) :
    (enumSpelling strategies ((enumSpelling strategies s).getD s)).getD
        ((enumSpelling strategies s).getD s) = (enumSpelling strategies s).getD s := by
  cases hs : enumSpelling strategies s with
  | none => simp [hs]
  | some v =>
    have hmem : v ∈ strategies := mem_of_enumSpelling hs
    have hall : ∀ v ∈ strategies, enumSpelling strategies v = some v := by decide
    simp [hall v hmem]

/-- An update of the last routed backend leaves the rest of the row. -/
theorem settled_turn {t : Tbl} {row : t.Row} (h : t.Turn row) (old : t.Row) (now : ℤ) :
    t.settled (t.stored (t.onUpdate now old row)) = t.settled old := by
  cases t with
  | groups =>
    obtain ⟨b, hb⟩ := h
    have hstrategy : (old.strategy.map fun s => (enumSpelling strategies s).getD s).map
        (fun s => (enumSpelling strategies s).getD s) =
          old.strategy.map fun s => (enumSpelling strategies s).getD s := by
      rw [Option.map_map]
      congr 1
      funext s
      exact spelled_strategy s
    rw [hb]
    simp only [Tbl.settled, Tbl.stored, Tbl.onUpdate, nonZero, Option.none_or, if_true, hstrategy]
  | backends => exact h.elim
  | policies => exact h.elim
  | queries => exact h.elim

theorem untouched_updates {t : Tbl} {row : t.Row} (h : S t (t.id row) ∨ t.Turn row) (now : ℤ) :
    db.Untouched S (db.updates now t row).2 := by
  unfold Db.updates
  split
  · exact Db.Untouched.refl S db
  · split
    · exact Db.Untouched.refl S db
    · rename_i old hold
      split
      · exact Db.Untouched.refl S db
      · rename_i r ha
        obtain ⟨hr, -⟩ := Db.accept_ok ha
        have hid : t.id r = t.id row := by
          rw [hr, Db.id_stored, Db.id_onUpdate, Db.find_id hold]
        refine ⟨fun u id hu => ?_, fun p _ _ => by rw [Db.put, Db.pairs_setRows]⟩
        by_cases hut : u = t
        · subst hut
          by_cases hidr : id = u.id row
          -- the row itself: then it is outside of the scope, and a group takes its turn
          · subst hidr
            have hturn : u.Turn row := h.resolve_left hu
            rw [Db.find_put hold hid, hold, Option.map_some, Option.map_some, hr,
              settled_turn hturn]
          · rw [Db.find_put_ne hid hidr]
        · rw [Db.put, find_setRows_ne hut]

theorem untouched_delete {t : Tbl} {id : String} (h : S t id) :
    db.Untouched S (db.delete t id).2 := by
  have hrows : ∀ u id', ¬ S u id' →
      (db.setRows t ((db.rows t).filter fun r => t.id r ≠ id)).find u id' = db.find u id' := by
    intro u id' hu
    by_cases hut : u = t
    · subst hut
      exact find_filter_ne fun heq => hu (heq ▸ h)
    · exact find_setRows_ne hut _ _
  unfold Db.delete
  split
  · exact Db.Untouched.refl S db
  · split
    · exact Db.Untouched.refl S db
    · split
      · exact Db.Untouched.refl S db
      · dsimp only
        split
        -- the mappings of a deleted backend go along
        · rename_i hbackends
          subst hbackends
          refine ⟨fun u id' hu => ?_, fun p _ hb => ?_⟩
          · have hfind := hrows u id' hu
            unfold Db.find at hfind ⊢
            rw [Db.rows_withMappings, hfind]
          · rw [Db.pairs, Db.pairs, Db.mappings_setRows]
            constructor
            · intro hp
              obtain ⟨m, hm, rfl⟩ := List.mem_map.mp hp
              exact List.mem_map_of_mem (List.mem_filter.mp hm).1
            · intro hp
              obtain ⟨m, hm, rfl⟩ := List.mem_map.mp hp
              have hne : m.backendId ≠ id := by
                rintro rfl
                exact hb h
              exact List.mem_map_of_mem (List.mem_filter.mpr ⟨hm, by simpa using hne⟩)
        · exact ⟨fun u id' hu => by rw [hrows u id' hu], fun p _ _ => by rw [Db.pairs_setRows]⟩

theorem untouched_insertMappings {rows : List GroupBackendsMapping}
    (h : ∀ m ∈ rows, S .groups m.groupId) (now : ℤ) :
    db.Untouched S (db.insertMappings now rows).2 := by
  by_cases hrows : db.MappingsExist rows
  · rw [Db.insertMappings_ok hrows, Db.upsertMappings_eq]
    refine Db.Untouched.of_mappings fun p hg => ?_
    refine (Db.mem_pairs_upsertMappings now rows db p).trans (or_iff_left fun hp => ?_)
    obtain ⟨m, hm, rfl⟩ := List.mem_map.mp hp
    exact hg (h m hm)
  · rw [Db.insertMappings_error hrows]
    exact Db.Untouched.refl S db

/-- A filter that keeps the mappings of other groups. -/
theorem untouched_filterMappings {keep : GroupBackendsMapping → Bool}
    (h : ∀ m, ¬ S .groups m.groupId → keep m = true) :
    db.Untouched S { db with mappings := db.mappings.filter keep } := by
  refine Db.Untouched.of_mappings fun p hg => ⟨fun hp => ?_, fun hp => ?_⟩
  · obtain ⟨m, hm, rfl⟩ := List.mem_map.mp hp
    exact List.mem_map_of_mem (List.mem_filter.mp hm).1
  · obtain ⟨m, hm, rfl⟩ := List.mem_map.mp hp
    exact List.mem_map_of_mem (List.mem_filter.mpr ⟨hm, h m hg⟩)

/-- **A statement within a scope leaves the rest untouched.** -/
theorem exec_untouched {o : Stmt} (h : o.Within S) (now : ℤ) (fault : Option DbErr) :
    db.Untouched S (exec now fault o db).2 := by
  by_cases hr : o.ReadOnly
  · rw [exec_readOnly hr]
    exact Db.Untouched.refl S db
  cases fault with
  | some e => exact Db.Untouched.refl S db
  | none =>
    cases o with
    | insert t row => exact untouched_insert h.1 now
    | updates t row => exact untouched_updates h now
    | delete t id => exact untouched_delete h
    | insertMappings rows => exact untouched_insertMappings h now
    | detachMappings groupId rows =>
      refine untouched_filterMappings fun m hm => ?_
      have hne : m.groupId ≠ groupId := fun heq => hm (heq ▸ h)
      simp [hne]
    | deleteMappings groupId =>
      have hexec : exec now none (.deleteMappings groupId) db = db.deleteMappings groupId := rfl
      rw [hexec]
      unfold Db.deleteMappings
      split
      · exact Db.Untouched.refl S db
      · refine untouched_filterMappings fun m hm => ?_
        have hne : m.groupId ≠ groupId := fun heq => hm (heq ▸ h)
        simpa using hne
    | _ => exact absurd trivial hr

end Exec

/-- A program within a scope, on answers that reads by id give. -/
abbrev InScope {α : Type} (S : Scope) (p : Srv α) (Q : α → Prop) : Prop :=
  p.Respects (Stmt.Within S) Stmt.ReadsById Q

section Functions

variable {α β : Type} {S : Scope}

theorem inScope_of_allOps {p : Srv α} (h : p.AllOps (Stmt.Within S)) :
    InScope S p fun _ => True :=
  h.respects

/-- Programs that only read. -/
theorem inScope_readOnly {p : Srv α} (h : p.AllOps Stmt.ReadOnly) : InScope S p fun _ => True :=
  inScope_of_allOps (h.mono fun _ ho => ho.within)

/-- An answer of which nothing is asked. -/
theorem InScope.any {p : Srv (Result α)} {P : α → Prop} (h : InScope S p (IfOk P)) :
    InScope S p fun _ => True :=
  h.mono fun _ _ => trivial

namespace Spine

theorem inScope_findByID (t : Tbl) (id : String) :
    InScope S (findByID t id) (IfOk fun row => t.id row = id) := by
  refine ⟨trivial, fun a ha => ?_⟩
  cases a with
  | error e => trivial
  | ok row => exact ha

theorem inScope_preload (gs : List Group) :
    InScope S (preload gs) (IfOk fun gs' => gs'.map Group.id = gs.map Group.id ∧
      ∀ g ∈ gs', ∀ m ∈ g.groupBackendsMappings.getD [], m.groupId = g.id) := by
  unfold preload
  split
  · rename_i hnil
    refine ⟨by rw [hnil], fun g hg => ?_⟩
    cases hg
  · refine ⟨trivial, fun a _ => ?_⟩
    cases a with
    | error e => trivial
    | ok ms =>
      refine ⟨by rw [List.map_map]; rfl, fun g' hg' m hm => ?_⟩
      obtain ⟨g, -, rfl⟩ := List.mem_map.mp hg'
      simpa using (List.mem_filter.mp hm).2

/-- The mappings that a row carries are mappings of the scope. -/
def Carries (S : Scope) (t : Tbl) (row : t.Row) : Prop :=
  ∀ m ∈ associations t row, S .groups m.groupId

theorem inScope_create {t : Tbl} {row : t.Row} (h : S t (t.id row)) (hm : Carries S t row) :
    (create t row).AllOps (Stmt.Within S) := by
  unfold create
  split
  · trivial
  · rename_i hvalid
    refine ⟨⟨h, hvalid⟩, fun q => ?_⟩
    exact (allOps_saveAssociations (fun _ => hm) q).bind fun _ => trivial

theorem inScope_update {t : Tbl} {row : t.Row} (h : S t (t.id row)) (hm : Carries S t row) :
    (update t row).AllOps (Stmt.Within S) :=
  allOps_update (fun _ => hm) (Or.inl h)

theorem inScope_delete {t : Tbl} {row : t.Row} (h : S t (t.id row)) :
    (delete t row).AllOps (Stmt.Within S) := by
  unfold delete
  split
  · rename_i hgroups
    subst hgroups
    refine ⟨h, fun q => ?_⟩
    simp only [ret_bind]
    split
    · trivial
    · exact ⟨h, fun _ => trivial⟩
  · exact ⟨h, fun _ => trivial⟩

theorem inScope_replaceAssociations {groupId : String} {ms : List GroupBackendsMapping}
    (h : S .groups groupId) (hm : ∀ m ∈ ms, S .groups m.groupId) :
    (replaceAssociations groupId ms).AllOps (Stmt.Within S) :=
  allOps_replaceAssociations (Or.inl h) (fun _ => hm) h

end Spine

namespace Repo

open Spine

theorem inScope_update {t : Tbl} {row : t.Row} (h : S t (t.id row)) (hm : Carries S t row) :
    (update t row).AllOps (Stmt.Within S) :=
  allOps_repo_update (fun _ => hm) (Or.inl h)

/-- A flag is written to the row that was read. -/
theorem inScope_setFlag {t : Tbl} {find : String → Srv (Result t.Row)} {id : String}
    {flag : t.Row → Option Bool} {withFlag : t.Row → Bool → t.Row} {v : Bool}
    {already : Result Unit}
    (hfind : InScope S (find id) (IfOk fun row => t.id row = id ∧ Carries S t row))
    (hid : ∀ row, t.id (withFlag row v) = t.id row)
    (hm : ∀ row, associations t (withFlag row v) = associations t row) (hS : S t id) :
    InScope S (setFlag t find flag withFlag v already id) fun _ => True := by
  refine InScope.any (P := fun _ => True) (hfind.andThen fun row hrow => ?_)
  refine respects_deref fun cur _ => ?_
  split
  · exact ifOk_true already
  · refine (inScope_of_allOps (Spine.inScope_update ?_ ?_)).mono fun res _ => ifOk_true res
    · rw [hid, hrow.1]
      exact hS
    · unfold Carries
      rw [hm]
      exact hrow.2

/-- What is deleted is the row that was read. -/
theorem inScope_delete {t : Tbl} {find : String → Srv (Result t.Row)} {id : String}
    {P : t.Row → Prop} (hfind : InScope S (find id) (IfOk P)) (hP : ∀ row, P row → t.id row = id)
    (hS : S t id) : InScope S (delete t find id) fun _ => True := by
  refine InScope.any (P := fun _ => True) (hfind.andThen fun row hrow => ?_)
  refine (inScope_of_allOps (Spine.inScope_delete ?_)).mono fun res _ => ifOk_true res
  rw [hP row hrow]
  exact hS

end Repo

/-- A row that is not a group carries no mappings. -/
theorem inScope_find {t : Tbl} (ht : ∀ row : t.Row, Spine.associations t row = []) (id : String) :
    InScope S (Repo.find t id) (IfOk fun row => t.id row = id ∧ Spine.Carries S t row) := by
  refine (Spine.inScope_findByID t id).mono fun res hres => ?_
  cases res with
  | error e => trivial
  | ok row =>
    refine ⟨hres, fun m hm => ?_⟩
    rw [ht row] at hm
    cases hm

namespace GroupRepo

theorem inScope_find {id : String} (hS : S .groups id) :
    InScope S (find id) (IfOk fun g => g.id = id ∧ Spine.Carries S .groups g) := by
  refine (Spine.inScope_findByID .groups id).andThen fun g hg => ?_
  refine (Spine.inScope_preload [g]).andThen fun gs hgs => ?_
  obtain ⟨hids, hmappings⟩ := hgs
  cases gs with
  | nil => cases hids
  | cons g' gs =>
    have hid : g'.id = id := (List.cons.inj hids).1.trans hg
    refine ⟨hid, fun m hm => ?_⟩
    rw [hmappings g' List.mem_cons_self m hm, hid]
    exact hS

theorem inScope_update {group : Group} (h : S .groups group.id)
    (hm : Spine.Carries S .groups group) : (update group).AllOps (Stmt.Within S) := by
  unfold update
  split
  · rename_i ms hms
    have hms' : ∀ m ∈ ms, S .groups m.groupId := fun m hmem =>
      hm m (by rw [Spine.associations, hms]; exact hmem)
    exact (Spine.inScope_replaceAssociations h hms').andThen fun _ => Repo.inScope_update h hm
  · exact Repo.inScope_update h hm

end GroupRepo

/-- What follows a read, whether the row is there or not. -/
theorem inScope_upsert {find : Srv (Result α)} {f : Result α → Srv β}
    (hfind : find.AllOps Stmt.ReadOnly) (hok : ∀ row, (f (.ok row)).AllOps (Stmt.Within S))
    (herror : ∀ e, (f (.error e)).AllOps (Stmt.Within S)) :
    (find.bind f).AllOps (Stmt.Within S) := by
  refine (hfind.mono fun _ ho => ho.within).bind fun res => ?_
  cases res with
  | error e => exact herror e
  | ok row => exact hok row

end Functions

namespace Method

/-- The row that the request of a method names, if the method writes rows by their names. -/
def target : (m : Method) → m.Req → Option (Tbl × String)
  | createOrUpdateBackend, req => some (.backends, req.id)
  | deleteBackend, id | enableBackend, id | disableBackend, id | markHealthyBackend, id
  | markUnhealthyBackend, id => some (.backends, id)
  | updateClusterLoadBackend, req => some (.backends, req.1)
  | createOrUpdateGroup, req => some (.groups, req.id)
  | deleteGroup, id | enableGroup, id | disableGroup, id => some (.groups, id)
  | createOrUpdatePolicy, req => some (.policies, req.id)
  | deletePolicy, id | enablePolicy, id | disablePolicy, id => some (.policies, id)
  | createOrUpdateQuery, req => some (.queries, req.id)
  | check, _ | getBackend, _ | listAllBackends, _ | getGroup, _ | listAllGroups, _
  | evaluateBackendForGroups, _ | getPolicy, _ | listAllPolicies, _ | evaluateGroupsForClient, _
  | evaluateAuthDelegationForClient, _ | evaluateRequestSourceForClient, _ | getQuery, _
  | listQueries, _ | findBackendForQuery, _ => none

/-- The scope of a call. -/
def scope (m : Method) (req : m.Req) : Scope := fun t id => m.target req = some (t, id)

end Method

namespace GatewayServer

variable (g : GatewayServer)

theorem inScope_flag {t : Tbl} (ht : ∀ row : t.Row, Spine.associations t row = [])
    {flag : t.Row → Option Bool} {withFlag : t.Row → Bool → t.Row} {v : Bool}
    {already : Result Unit} {id : String} {S : Scope} (hid : ∀ row, t.id (withFlag row v) = t.id row)
    (hS : S t id) :
    InScope S (Repo.setFlag t (Repo.find t) flag withFlag v already id) fun _ => True :=
  Repo.inScope_setFlag (inScope_find ht id) hid (fun row => by rw [ht, ht]) hS

theorem readOnly_findGroupsForPolicyTypes (ruleType ruleValue : String) :
    (PolicyApi.findGroupsForPolicyTypes ruleType ruleValue).AllOps Stmt.ReadOnly := by
  refine (Spine.allOps_findMany trivial).andThen fun ps => ?_
  dsimp only
  split
  · trivial
  · trivial

/-- The methods that policies answer only read. -/
theorem readOnly_evaluate (c : PolicyApi.EvaluateClientParams) (port : ℤ) :
    (PolicyApi.evaluateGroupsForClient g.ord c).AllOps Stmt.ReadOnly ∧
      (PolicyApi.evaluateAuthDelegationForClient port).AllOps Stmt.ReadOnly ∧
        (PolicyApi.evaluateRequestSourceForClient port).AllOps Stmt.ReadOnly := by
  have hgroups := readOnly_findGroupsForPolicyTypes
  refine ⟨?_, ?_, ?_⟩
  · refine (hgroups _ _).andThen fun _ => (hgroups _ _).andThen fun _ => ?_
    exact (hgroups _ _).andThen fun _ => (hgroups _ _).andThen fun _ => trivial
  · unfold PolicyApi.evaluateAuthDelegationForClient
    split
    · trivial
    · exact (Spine.allOps_findMany trivial).andThen fun _ => trivial
  · unfold PolicyApi.evaluateRequestSourceForClient
    split
    · trivial
    · refine (Spine.allOps_findMany trivial).andThen fun ps => ?_
      cases ps with
      | nil => trivial
      | cons p ps => exact (allOps_deref _).bind fun _ => trivial

/-- The choice of a backend writes the last routed backends of groups. -/
theorem within_evaluateBackendForGroups {S : Scope} (ids : List String) :
    (GroupApi.evaluateBackendForGroups g.cfg ids).AllOps (Stmt.Within S) :=
  GroupApi.allOps_evaluateBackendForGroups g.cfg (fun _ ho => ho.within)
    (fun _ b => Or.inr ⟨b, rfl⟩) ids

theorem within_createOrUpdateQuery {S : Scope} (req : QueryMsg) (hS : S .queries req.id) :
    (QueryApi.createOrUpdateQuery req).AllOps (Stmt.Within S) := by
  have hcarries : Spine.Carries S .queries (QueryApi.queryOf req) := fun m hm => by cases hm
  have hfind : (QueryRepo.find req.id).AllOps Stmt.ReadOnly := Spine.allOps_findByID trivial
  have hupdate : (QueryRepo.update (QueryApi.queryOf req)).AllOps (Stmt.Within S) :=
    Repo.inScope_update hS hcarries
  exact inScope_upsert hfind (fun _ => hupdate) fun _ => Spine.inScope_create hS hcarries

theorem within_createOrUpdateBackend {S : Scope} (req : BackendMsg) (hS : S .backends req.id) :
    (BackendApi.createOrUpdateBackend req).AllOps (Stmt.Within S) := by
  have hcarries : Spine.Carries S .backends (BackendApi.backendOf req) := fun m hm => by cases hm
  have hfind : (BackendRepo.find req.id).AllOps Stmt.ReadOnly := Spine.allOps_findByID trivial
  have hupdate : (BackendRepo.update (BackendApi.backendOf req)).AllOps (Stmt.Within S) :=
    Repo.inScope_update hS hcarries
  exact inScope_upsert hfind (fun _ => hupdate) fun _ => Spine.inScope_create hS hcarries

theorem within_createOrUpdatePolicy {S : Scope} (req : PolicyMsg) (hS : S .policies req.id) :
    (PolicyApi.Server.createOrUpdatePolicy req).AllOps (Stmt.Within S) := by
  have hcarries : Spine.Carries S .policies (PolicyApi.policyOf (PolicyApi.createParams req)) :=
    fun m hm => by cases hm
  have hfind : (PolicyRepo.find req.id).AllOps Stmt.ReadOnly := Spine.allOps_findByID trivial
  have hupdate : (PolicyRepo.update (PolicyApi.policyOf (PolicyApi.createParams req))).AllOps
      (Stmt.Within S) := Repo.inScope_update hS hcarries
  exact inScope_upsert hfind (fun _ => hupdate) fun _ => Spine.inScope_create hS hcarries

/-- The mappings of a request are mappings of its group. -/
theorem carries_groupOf {S : Scope} (req : GroupMsg) (hS : S .groups req.id) :
    Spine.Carries S .groups (GroupApi.groupOf (GroupApi.createParams req)) := by
  intro m hm
  have hgroup : m.groupId = req.id := by
    unfold Spine.associations GroupApi.groupOf at hm
    dsimp only at hm
    split at hm
    · cases hm
    · obtain ⟨b, -, rfl⟩ := List.mem_map.mp hm
      rfl
  rw [hgroup]
  exact hS

theorem within_createOrUpdateGroup {S : Scope} (req : GroupMsg) (hS : S .groups req.id) :
    (GroupApi.Server.createOrUpdateGroup req).AllOps (Stmt.Within S) := by
  have hcarries := carries_groupOf req hS
  have hfind : (GroupRepo.find req.id).AllOps Stmt.ReadOnly :=
    GroupRepo.allOps_find (fun _ ho => ho) _
  have hupdate : (GroupRepo.update (GroupApi.groupOf (GroupApi.createParams req))).AllOps
      (Stmt.Within S) := GroupRepo.inScope_update hS hcarries
  exact inScope_upsert hfind (fun _ => hupdate) fun _ => Spine.inScope_create hS hcarries

/-- **A call stays within the row that it names.** -/
theorem handle_within (m : Method) (req : m.Req) :
    InScope (m.scope req) (g.handle m req) fun _ => True := by
  have hread : ∀ {m : Method} (_ : m.isRead = true) (req : m.Req),
      InScope (m.scope req) (g.handle m req) fun _ => True :=
    fun hm req => inScope_readOnly (handle_readOnly g hm req)
  cases m with
  | check => exact trivial
  | getBackend => exact hread rfl req
  | listAllBackends => exact hread rfl req
  | getGroup => exact hread rfl req
  | listAllGroups => exact hread rfl req
  | getPolicy => exact hread rfl req
  | listAllPolicies => exact hread rfl req
  | getQuery => exact hread rfl req
  | listQueries => exact hread rfl req
  | evaluateGroupsForClient => exact inScope_readOnly (g.readOnly_evaluate req 0).1
  | evaluateAuthDelegationForClient =>
    exact inScope_readOnly (g.readOnly_evaluate ⟨0, "", "", ""⟩ req).2.1
  | evaluateRequestSourceForClient =>
    exact inScope_readOnly (g.readOnly_evaluate ⟨0, "", "", ""⟩ req).2.2
  | findBackendForQuery =>
    exact inScope_readOnly ((Spine.allOps_findByID trivial).andThen fun _ => trivial)
  | evaluateBackendForGroups => exact inScope_of_allOps (g.within_evaluateBackendForGroups req)
  | createOrUpdateQuery => exact inScope_of_allOps (within_createOrUpdateQuery req rfl)
  | createOrUpdateBackend => exact inScope_of_allOps (within_createOrUpdateBackend req rfl)
  | createOrUpdatePolicy => exact inScope_of_allOps (within_createOrUpdatePolicy req rfl)
  | createOrUpdateGroup => exact inScope_of_allOps (within_createOrUpdateGroup req rfl)
  | enableBackend => exact inScope_flag (fun _ => rfl) (fun _ => rfl) rfl
  | disableBackend => exact inScope_flag (fun _ => rfl) (fun _ => rfl) rfl
  | markHealthyBackend => exact inScope_flag (fun _ => rfl) (fun _ => rfl) rfl
  | markUnhealthyBackend => exact inScope_flag (fun _ => rfl) (fun _ => rfl) rfl
  | enablePolicy => exact inScope_flag (fun _ => rfl) (fun _ => rfl) rfl
  | disablePolicy => exact inScope_flag (fun _ => rfl) (fun _ => rfl) rfl
  | enableGroup =>
    have hS : Method.enableGroup.scope req .groups req := rfl
    have hfind := GroupRepo.inScope_find hS
    exact Repo.inScope_setFlag (t := .groups) hfind (fun _ => rfl) (fun _ => rfl) hS
  | disableGroup =>
    have hS : Method.disableGroup.scope req .groups req := rfl
    have hfind := GroupRepo.inScope_find hS
    exact Repo.inScope_setFlag (t := .groups) hfind (fun _ => rfl) (fun _ => rfl) hS
  | deleteBackend =>
    exact Repo.inScope_delete (Spine.inScope_findByID .backends req) (fun _ h => h) rfl
  | deletePolicy =>
    exact Repo.inScope_delete (Spine.inScope_findByID .policies req) (fun _ h => h) rfl
  | deleteGroup =>
    have hS : Method.deleteGroup.scope req .groups req := rfl
    have hfind := GroupRepo.inScope_find hS
    exact Repo.inScope_delete (t := .groups) hfind (fun _ h => h.1) hS
  | updateClusterLoadBackend =>
    refine InScope.any (P := fun _ => True)
      ((Spine.inScope_findByID .backends req.1).andThen fun b hb => ?_)
    refine respects_deref fun _ _ => respects_deref fun _ _ => ⟨trivial, fun now _ => ?_⟩
    -- what is written back is the row that was read
    have hS : Method.updateClusterLoadBackend.scope req .backends b.id := by
      rw [show b.id = req.1 from hb]
      rfl
    have hupdate : InScope (Method.updateClusterLoadBackend.scope req) (BackendApi.updateBackend
        { b with clusterLoad := some req.2, statsUpdatedAt := some now }) fun _ => True := by
      refine inScope_of_allOps ((Spine.allOps_findByID trivial).andThen fun _ => ?_)
      exact Repo.inScope_update hS fun m hm => by cases hm
    exact hupdate.mono fun res _ => ifOk_true res

/-- What the router asks writes the query that it names, and the last routed backends of groups. -/
theorem serve_within {S : Scope} (o : RouterOp)
    (hS : ∀ req, o = .createOrUpdateQuery req → S .queries req.id) :
    (g.serve o).AllOps (Stmt.Within S) := by
  have hread : ∀ {α : Type} {p : Srv (Result α)}, p.AllOps Stmt.ReadOnly →
      (rpc p).AllOps (Stmt.Within S) := fun hp => (hp.mono fun _ ho => ho.within).recover _
  cases o with
  | evaluateGroupsForClient c => exact hread (g.readOnly_evaluate c 0).1
  | evaluateBackendForGroups ids => exact (g.within_evaluateBackendForGroups ids).recover _
  | findBackendForQuery queryId =>
    exact hread ((Spine.allOps_findByID trivial).andThen fun _ => trivial)
  | getBackend id =>
    exact hread ((Spine.allOps_findByID trivial).andThen fun b => toBackendResponseProto_allOps b _)
  | evaluateRequestSourceForClient port =>
    exact hread (g.readOnly_evaluate ⟨0, "", "", ""⟩ port).2.2
  | evaluateAuthDelegationForClient port =>
    exact hread (g.readOnly_evaluate ⟨0, "", "", ""⟩ port).2.1
  | createOrUpdateQuery req => exact (within_createOrUpdateQuery req (hS req rfl)).recover _
  | unixNow => exact ⟨trivial, fun _ => trivial⟩

end GatewayServer

/-- A condition on the statements of a task. -/
def DeployOp.OnDb (C : Stmt → Prop) : DeployOp → Prop
  | stmt o => C o
  | authenticate _ _ | roundTrip _ _ | withLabelValues _ | inc _ | respond _ => True

/-- What is known of the answers to a task's statements. -/
def DeployOp.AnsOnDb (A : (o : Stmt) → o.Ans → Prop) : (o : DeployOp) → o.Ans → Prop
  | stmt o, x => A o x
  | authenticate _ _, _ | roundTrip _ _, _ | withLabelValues _, _ | inc _, _ | respond _, _ => True

/-- A reply that refuses nobody. -/
def Reply.Open : Reply → Prop
  | httpError _ _ => False
  | errorHandler _ _ | passed _ | switched _ | nothing => True

/-- What the proxy does besides sending a request: it counts and replies. -/
def DeployOp.Answering : DeployOp → Prop
  | withLabelValues _ | inc _ => True
  | respond reply => reply.Open
  | stmt _ | authenticate _ _ | roundTrip _ _ => False

/-- What the proxy does but for passing a response on. -/
def DeployOp.Telling : DeployOp → Prop
  | withLabelValues _ | inc _ | respond (.errorHandler _ _) | respond (.switched _) => True
  | stmt _ | authenticate _ _ | roundTrip _ _ | respond _ => False

theorem DeployOp.Telling.answering {o : DeployOp} (h : o.Telling) : o.Answering := by
  cases o with
  | withLabelValues m => trivial
  | inc m => trivial
  | respond reply =>
    cases reply with
    | errorHandler status msg => trivial
    | switched resp => trivial
    | _ => exact h.elim
  | _ => exact h.elim

section Client

variable {gunzip : Gunzip} {r : RouterServer} {g : GatewayServer}

theorem inc_telling (m : Metric) : (Deploy.inc m).AllOps DeployOp.Telling :=
  ⟨trivial, fun _ => ⟨trivial, fun _ => trivial⟩⟩

theorem errorHandler_telling (shared : RouterServer.SharedObject) (method : String) :
    (RouterServer.errorHandler shared method).AllOps DeployOp.Telling :=
  ⟨trivial, fun _ => inc_telling _⟩

theorem modifyResponse_telling (shared : RouterServer.SharedObject) (method : String)
    (resp : Response) :
    (RouterServer.modifyResponse gunzip r shared method resp).AllOps DeployOp.Telling := by
  have hserver : (r.handleServerResponse gunzip shared method resp).AllOps DeployOp.Telling := by
    refine (allOps_deref _).bind fun res => ?_
    obtain ⟨err, resp, save⟩ := res
    cases err with
    | error e => trivial
    | ok _ => exact (inc_telling _).bind fun _ => trivial
  refine hserver.bind fun res => ?_
  obtain ⟨shared, err, resp, save⟩ := res
  cases err with
  | error e => exact (errorHandler_telling _ _).bind fun _ => trivial
  | ok _ => trivial

theorem handleUpgradeResponse_telling (shared : RouterServer.SharedObject) (req : Request)
    (resp : Response) :
    (RouterServer.handleUpgradeResponse shared req resp).AllOps DeployOp.Telling := by
  have herror := errorHandler_telling shared req.method
  have hrest : AllOps DeployOp.Telling
      (if !Text.eqFold req.header.upgradeType resp.header.upgradeType then
        RouterServer.errorHandler shared req.method
      else if !resp.isConnection then RouterServer.errorHandler shared req.method
      else do
        let written ← Deploy.respond (.switched resp)
        if !written then RouterServer.errorHandler shared req.method) := by
    split
    · exact herror
    · split
      · exact herror
      · refine ⟨trivial, fun written => ?_⟩
        cases written with
        | true => trivial
        | false => exact herror
  unfold RouterServer.handleUpgradeResponse
  dsimp only
  split
  · exact herror.bind fun _ => hrest
  · exact hrest

/-- After its round trip the proxy counts and replies. -/
theorem afterRoundTrip_answering (shared : RouterServer.SharedObject) (out : Request)
    (resp : Option Response) :
    (r.afterRoundTrip gunzip shared out resp).AllOps DeployOp.Answering := by
  have htell : ∀ {α : Type} {p : Deploy α}, p.AllOps DeployOp.Telling →
      p.AllOps DeployOp.Answering := fun hp => hp.mono fun _ => DeployOp.Telling.answering
  cases resp with
  | none => exact (htell (errorHandler_telling _ _)).bind fun _ => trivial
  | some resp =>
    show AllOps _ (if resp.statusCode = 101 then _ else _)
    split
    · refine (htell (modifyResponse_telling _ _ _)).bind fun res => ?_
      obtain ⟨ok, shared', resp', save⟩ := res
      cases ok with
      | true => exact (htell (handleUpgradeResponse_telling _ _ _)).bind fun _ => trivial
      | false => trivial
    · refine (htell (modifyResponse_telling _ _ _)).bind fun res => ?_
      obtain ⟨ok, shared', resp', save⟩ := res
      cases ok with
      | true => exact ⟨trivial, fun _ => trivial⟩
      | false => trivial

/-- The director counts and asks the gateway server. -/
theorem director_allOps {D : DeployOp → Prop} (htell : ∀ o, o.Telling → D o) {mid : Request}
    (hdb : (Deploy.onDb (g.onServer (r.handleClientRequest gunzip mid))).AllOps D) :
    (r.director gunzip g mid).AllOps D := by
  refine ⟨htell _ trivial, fun _ => hdb.bind fun res => ?_⟩
  obtain ⟨shared, out⟩ := res
  dsimp only
  split
  · trivial
  · exact ((inc_telling _).mono htell).bind fun _ => trivial

/-- The proxy counts, replies, sends requests and asks the gateway server. -/
theorem reverseProxy_allOps {D : DeployOp → Prop} (hanswer : ∀ o, o.Answering → D o)
    (hsend : ∀ shared out, D (.roundTrip shared out))
    (hdb : ∀ mid, (Deploy.onDb (g.onServer (r.handleClientRequest gunzip mid))).AllOps D)
    (mid : Request) : (r.reverseProxy gunzip g mid).AllOps D := by
  refine (director_allOps (fun o ho => hanswer o ho.answering) (hdb mid.cloned)).bind fun res => ?_
  obtain ⟨shared, out⟩ := res
  dsimp only
  split
  · exact ⟨hanswer _ trivial, fun _ => trivial⟩
  · exact ⟨hsend _ _, fun resp => (afterRoundTrip_answering _ _ resp).mono hanswer⟩

variable {C : Stmt → Prop} (hC : ∀ o, (g.serve o).AllOps C)

include hC

theorem onServer_allOps {α : Type} (p : Router α) :
    (Deploy.onDb (g.onServer p)).AllOps (DeployOp.OnDb C) := by
  have hp : (g.onServer p).AllOps C := (allOps_true p).interp fun o _ => hC o
  exact hp.embed DeployOp.Ans fun _ ho => ho

/-- A client's request performs the statements of the RPCs that it asks. -/
theorem serveClient_allOps (req : Request) :
    (r.serveClient gunzip g req).AllOps (DeployOp.OnDb C) := by
  have hauth : ((r.authHandler req).interp (Deploy.handlerOp g)).AllOps (DeployOp.OnDb C) := by
    refine (allOps_true (r.authHandler req)).interp fun o _ => ?_
    cases o with
    | rpc o => exact (hC o).embed DeployOp.Ans fun _ ho => ho
    | authenticate username password => exact ⟨trivial, fun _ => trivial⟩
  have hanswer : ∀ o : DeployOp, o.Answering → o.OnDb C := by
    intro o ho
    cases o with
    | stmt o => exact ho.elim
    | authenticate username password => trivial
    | roundTrip shared out => trivial
    | withLabelValues m => trivial
    | inc m => trivial
    | respond reply => trivial
  have hhttp : (r.serveHTTP gunzip g req).AllOps (DeployOp.OnDb C) := by
    refine hauth.bind fun res => ?_
    cases res with
    | refused code msg => exact ⟨trivial, fun _ => trivial⟩
    | served mid =>
      exact reverseProxy_allOps hanswer (fun _ _ => trivial) (fun _ => onServer_allOps hC _) mid
  refine hhttp.bind fun res => ?_
  obtain ⟨save, brokenOff⟩ := res
  have hsave : (RouterServer.runSave g save).AllOps (DeployOp.OnDb C) := by
    cases save with
    | none => trivial
    | some save => exact onServer_allOps hC _
  refine hsave.bind fun _ => ?_
  cases brokenOff with
  | true => trivial
  | false => trivial

end Client

/-- The rows that an arrival may write by name: any query, for a client's request. -/
def Arrival.scope : Arrival → Scope
  | client _ _ => fun t _ => t = .queries
  | api m req => m.scope req

theorem Arrival.prog_respects (gunzip : Gunzip) (g : GatewayServer) (a : Arrival) :
    (a.prog gunzip g).Respects (DeployOp.OnDb (Stmt.Within a.scope))
      (DeployOp.AnsOnDb Stmt.ReadsById) fun _ => True := by
  cases a with
  | client r req =>
    exact (serveClient_allOps (fun o => g.serve_within o fun _ _ => rfl) req).respects
  | api m req =>
    have hrpc : InScope (m.scope req) (rpc (g.handle m req)) fun _ => True :=
      (g.handle_within m req).recover trivial
    have hdone : Respects (Stmt.Within (m.scope req))
        (fun o x => DeployOp.AnsOnDb Stmt.ReadsById (DeployOp.stmt o) x) (fun _ => True) (do
          let _ ← rpc (g.handle m req)
          return ()) := hrpc.bind fun _ _ => trivial
    exact hdone.embed (e := DeployOp.stmt) fun _ ho => ho

namespace Run

variable {ι : Type} [DecidableEq ι] (R : Run ι)

/-- The rows that some arrival may write by name. -/
def scope : Scope := fun t id => ∃ i, (R.arrivals i).scope t id

/-- What the statements of the arrivals keep holds all the time, if in such states they are answered
as the arrivals rely on. -/
theorem always_respects {C : ι → Stmt → Prop} {A : (o : Stmt) → o.Ans → Prop} {I : Db → Prop}
    (hp : ∀ i, ((R.arrivals i).prog R.gunzip (R.server i)).Respects (DeployOp.OnDb (C i))
      (DeployOp.AnsOnDb A) fun _ => True)
    (hI : ∀ i o now fault db, C i o → I db →
      A o (exec now fault o db).1 ∧ I (exec now fault o db).2) (h : I R.db) : R.Always I := by
  intro P hP
  refine (System.reachable_respects (D := fun i => DeployOp.OnDb (C i))
    (A := DeployOp.AnsOnDb A) (Q := fun _ _ => True) (I := fun s => I s.now) ?_ ?_ hp h hP).1
  · intro i o s a s' hD hs hsem
    obtain ⟨hsem, -⟩ := hsem
    cases o with
    | stmt o =>
      obtain ⟨now, fault, -, rfl, hafter⟩ := hsem
      have hkept := hI i o now fault s.now hD hs
      exact ⟨hkept.1, hafter ▸ hkept.2⟩
    | authenticate username password => exact ⟨trivial, hsem ▸ hs⟩
    | roundTrip shared req => exact ⟨trivial, hsem.2 ▸ hs⟩
    | withLabelValues m => exact ⟨trivial, hsem ▸ hs⟩
    | inc m => exact ⟨trivial, hsem ▸ hs⟩
    | respond reply => exact ⟨trivial, hsem ▸ hs⟩
  · intro s s' hs henv
    exact henv.1.elim

/-- What no statement within the scope destroys holds all the time. -/
theorem always {I : Db → Prop}
    (hI : ∀ o now fault db, o.Within R.scope → I db → I (exec now fault o db).2) (h : I R.db) :
    R.Always I := by
  refine R.always_respects (C := fun i => Stmt.Within (R.arrivals i).scope)
    (fun i => (R.arrivals i).prog_respects _ _) (fun i o now fault db ho hdb => ⟨?_, ?_⟩) h
  · exact exec_readsById now fault o db
  · exact hI o now fault db (Stmt.Within.mono (fun t id hid => ⟨i, hid⟩) ho) hdb

/-- **A row that no arrival names is not touched.** Whatever requests and calls go on at the same
time and whatever fails, the rows outside of their scopes are in the end as they were in the
beginning, but for the last routed backends of groups; and so are the mappings between such groups
and backends. A request of a client counts as naming every query, since the id of the one that it
saves comes with the response. -/
theorem rows_untouched : R.db.Untouched R.scope R.now :=
  R.always (fun _ now fault _ ho h => h.trans (exec_untouched ho now fault))
    (Db.Untouched.refl R.scope R.db) R.pool R.reached

end Run

end TrinoGateway
