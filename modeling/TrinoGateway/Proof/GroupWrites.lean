import TrinoGateway.Proof.Schema
import TrinoGateway.Spec.GroupApi

/-!
# Deleting and saving groups

A group and its mappings are written by statements of their own, without a transaction.

* `deleteGroup_iff`: `DeleteGroup` is all or nothing **exactly if** the row of a group with
  mappings is not refused after its mappings are gone.
* `create_group_cases`, `update_group_cases`: how the saving of a new group and of one that is
  stored ends, and what it leaves.
* `createOrUpdateGroup_error`: what a `CreateOrUpdateGroup` that fails may leave.
-/

namespace TrinoGateway

open Interact Prog

variable {env : Env} {w : World}

namespace GroupRepo

/-- The two statements of a group's read answer, with the row `row`. -/
def Finds (env : Env) (w : World) (id : String) (row : Group) : Prop :=
  env.faults w.tick = none ∧ env.faults (w.tick + 1) = none ∧ w.db.find .groups id = some row

theorem run_find_some {id : String} {row : Group} (h : Finds env w id row) :
    (find id).run (mysql env) w = (some (.ok (w.db.withMappings row)), w.next.next) := by
  obtain ⟨hf₀, hf₁, hrow⟩ := h
  have hload := Spine.run_preload env w.next [row] (List.cons_ne_nil _ _)
  have hread : env.read w.next (.ok ([row].map w.next.db.withMappings)) =
      .ok [w.db.withMappings row] := by
    rw [Env.read, World.next_tick, hf₁]
    rfl
  rw [hread] at hload
  rw [find, andThen, Spine.run_findByID_some env w hf₀ hrow]
  simp only
  rw [run_andThen_ok _ hload]
  rfl

theorem run_find_none {id : String} (h : ∀ row, ¬ Finds env w id row) :
    ∃ e n, (find id).run (mysql env) w = (some (.error e), { w with tick := n }) ∧
      (w.db.find .groups id = none → n = w.tick + 1) := by
  rcases Spine.found_or_not env w .groups id with ⟨hf₀, row, hrow⟩ | hnone
  · have hf₁ : env.faults (w.tick + 1) ≠ none := fun hf₁ => h row ⟨hf₀, hf₁, hrow⟩
    obtain ⟨e, he⟩ := Option.ne_none_iff_exists'.mp hf₁
    have hload := Spine.run_preload env w.next [row] (List.cons_ne_nil _ _)
    rw [Env.read, World.next_tick, he] at hload
    rw [find, andThen, Spine.run_findByID_some env w hf₀ hrow]
    refine ⟨_, _, run_andThen_error _ hload, fun hnone => ?_⟩
    rw [hrow] at hnone
    cases hnone
  · obtain ⟨e, hrun⟩ := Spine.run_findByID_none env w hnone
    exact ⟨e, _, hrun _, fun _ => rfl⟩

end GroupRepo

/-- All of a group is gone, and nothing else. -/
def Db.withoutGroup (db : Db) (id : String) : Db :=
  { db with
    groups := db.groups.filter fun g => g.id ≠ id
    mappings := db.mappings.filter fun m => m.groupId ≠ id }

/-- What a delete is to leave, by its result. -/
def AllOrNothing (db db' : Db) (id : String) : Option (Result Unit) → Prop
  | some (.ok ()) => db' = db.withoutGroup id
  | some (.error _) => db' = db
  | none => False

/-- A policy or a query refers to the group. -/
def Db.Referenced (db : Db) (id : String) : Prop :=
  (∃ p ∈ db.policies, p.groupId = id ∨ p.fallbackGroupId = some id) ∨
    ∃ q ∈ db.queries, q.groupId = id

/-- The delete of the mappings of a group goes through, and the delete of its row does not. -/
def PartlyDeletes (env : Env) (w : World) (id : String) : Prop :=
  (∃ row, GroupRepo.Finds env w id row) ∧ id ≠ "" ∧ (∃ m ∈ w.db.mappings, m.groupId = id) ∧
    env.faults (w.tick + 2) = none ∧ (env.faults (w.tick + 3) ≠ none ∨ w.db.Referenced id)

/-- Without its mappings a group may be deleted unless it is referenced. -/
theorem unreferenced_iff {db : Db} {id : String} :
    ({ db with mappings := db.mappings.filter fun m => m.groupId ≠ id } : Db).unreferenced id
      .groups = true ↔ ¬ db.Referenced id := by
  simp only [Db.unreferenced, Bool.and_eq_true, Bool.not_eq_true', List.any_eq_false,
    List.mem_filter, decide_eq_true_eq, Bool.or_eq_true, not_or, Db.Referenced, not_exists,
    not_and]
  constructor
  · rintro ⟨⟨-, hp⟩, hq⟩
    exact ⟨hp, hq⟩
  · rintro ⟨hp, hq⟩
    refine ⟨⟨?_, hp⟩, hq⟩
    rintro m ⟨-, hm⟩
    exact hm

/-- The two statements of a group's delete. -/
theorem run_delete_group (g : Group) :
    (Spine.delete .groups g).run (mysql env) w =
      (let q := mysql env (.deleteMappings g.id) w
       match q.1.error with
       | some e => (some (.error (Spine.dbError e)), q.2)
       | none =>
         (some (Spine.getDBError (mysql env (.delete .groups g.id) q.2).1.error),
           (mysql env (.delete .groups g.id) q.2).2)) := by
  simp only [Spine.delete, if_true, bind_eq, perform_bind, run_op, pure_eq]
  have hid : Tbl.id .groups g = g.id := rfl
  rw [hid]
  cases (mysql env (.deleteMappings g.id) w).1.error <;> rfl

/-- The mappings of other groups are all there are, if the group has none. -/
theorem filter_mappings_eq_iff {db : Db} {id : String} :
    ({ db with mappings := db.mappings.filter fun m => m.groupId ≠ id } : Db) = db ↔
      ¬ ∃ m ∈ db.mappings, m.groupId = id := by
  constructor
  · rintro h ⟨m, hm, hid⟩
    have hms : db.mappings.filter (fun m => m.groupId ≠ id) = db.mappings := congrArg Db.mappings h
    rw [← hms] at hm
    simp [hid] at hm
  · intro h
    have hms : db.mappings.filter (fun m => m.groupId ≠ id) = db.mappings :=
      List.filter_eq_self.mpr fun m hm => by simpa using fun hid => h ⟨m, hm, hid⟩
    rw [hms]

/-- The delete of a group that is not referenced, once its mappings are gone. -/
theorem delete_group_ok {db : Db} {id : String} {row : Group} (hid : id ≠ "")
    (hrow : db.find .groups id = some row) (hun : db.unreferenced id .groups = true) :
    db.delete .groups id =
      ({ rowsAffected := 1 }, { db with groups := db.groups.filter fun g => g.id ≠ id }) := by
  unfold Db.delete
  rw [if_neg hid, hrow, hun]
  rfl

/-- The delete of a group that is referenced. -/
theorem delete_group_refused {db : Db} {id : String} {row : Group} (hid : id ≠ "")
    (hrow : db.find .groups id = some row) (hun : db.unreferenced id .groups ≠ true) :
    db.delete .groups id = ({ error := some (.mysql 1451) }, db) := by
  have hun' : db.unreferenced id .groups = false := by simpa using hun
  unfold Db.delete
  rw [if_neg hid, hrow, hun']
  rfl

variable (env w) in
/-- The delete of a group that is found, in cases on its two statements. -/
theorem deleteGroup_found {id : String} {row : Group} (hrow : w.db.find .groups id = some row) :
    AllOrNothing w.db ((Spine.delete .groups row).run (mysql env) w).2.db id
        ((Spine.delete .groups row).run (mysql env) w).1 ↔
      ¬ (id ≠ "" ∧ (∃ m ∈ w.db.mappings, m.groupId = id) ∧ env.faults w.tick = none ∧
        (env.faults (w.tick + 1) ≠ none ∨ w.db.Referenced id)) := by
  have hid : row.id = id := Db.find_id hrow
  rw [run_delete_group, hid]
  cases hf₂ : env.faults w.tick with
  | some e =>
    simp only [mysql, hf₂, exec, Stmt.failed]
    exact iff_of_true rfl fun h => Option.some_ne_none e h.2.2.1
  | none =>
    by_cases hempty : id = ""
    · -- neither statement does anything for the zero id
      subst hempty
      simp only [mysql, hf₂, exec, Db.answer, Db.deleteMappings, if_true]
      refine iff_of_true ?_ fun h => h.1 rfl
      cases env.faults (w.tick + 1) with
      | some e => cases e <;> rfl
      | none => rfl
    · simp only [mysql, hf₂, exec, Db.answer, Db.deleteMappings, if_neg hempty]
      set db₁ : Db := { w.db with mappings := w.db.mappings.filter fun m => m.groupId ≠ id } with hdb₁
      have hrow₁ : db₁.find .groups id = some row := hrow
      have hleft : db₁ = w.db ↔ ¬ ∃ m ∈ w.db.mappings, m.groupId = id := filter_mappings_eq_iff
      cases hf₃ : env.faults (w.tick + 1) with
      | some e =>
        -- the row stays, and the mappings are gone
        have herr : Spine.getDBError (some e) = .error (Spine.dbError e) := rfl
        simp only [Stmt.failed, herr, AllOrNothing, hleft]
        refine not_congr ⟨fun h => ⟨hempty, h, trivial, Or.inl (Option.some_ne_none e)⟩, fun h => h.2.1⟩
      | none =>
        by_cases hun : db₁.unreferenced id .groups = true
        · rw [delete_group_ok hempty hrow₁ hun]
          refine iff_of_true rfl ?_
          rintro ⟨-, -, -, hc | hc⟩
          · exact hc rfl
          · exact unreferenced_iff.mp hun hc
        · have href : w.db.Referenced id := not_not.mp fun hc => hun (unreferenced_iff.mpr hc)
          rw [delete_group_refused hempty hrow₁ hun]
          have herr : Spine.getDBError (some (.mysql 1451)) = .error (.db (.mysql 1451)) := rfl
          simp only [herr, AllOrNothing, hleft]
          exact not_congr ⟨fun h => ⟨hempty, h, trivial, Or.inr href⟩, fun h => h.2.1⟩

/-- **Deleting a group is all or nothing exactly if its row is not refused after its mappings are
gone**, for every database and whatever statements fail. -/
theorem deleteGroup_iff (db : Db) (id : String) (env : Env) (tick : ℕ) :
    AllOrNothing db ((GroupApi.deleteGroup id).run (mysql env) ⟨db, tick⟩).2.db id
        ((GroupApi.deleteGroup id).run (mysql env) ⟨db, tick⟩).1 ↔
      ¬ PartlyDeletes env ⟨db, tick⟩ id := by
  set w : World := ⟨db, tick⟩ with hw
  unfold GroupApi.deleteGroup GroupRepo.delete Repo.delete
  by_cases hfinds : ∃ row, GroupRepo.Finds env w id row
  · obtain ⟨row, hrow⟩ := hfinds
    rw [run_andThen_ok _ (GroupRepo.run_find_some hrow)]
    have hfound := deleteGroup_found env w.next.next hrow.2.2
    refine hfound.trans (not_congr ⟨fun h => ⟨⟨row, hrow⟩, h⟩, fun h => h.2⟩)
  · obtain ⟨e, n, hrun, -⟩ := GroupRepo.run_find_none (not_exists.mp hfinds)
    rw [run_andThen_error _ hrun]
    exact iff_of_true rfl fun h => hfinds h.1

/-- A group with a backend, and a policy for it. -/
def referencedGroup : ConsistentDb where
  db :=
    { backends := [{ id := "trino-1" }]
      groups := [{ id := "adhoc" }]
      mappings := [{ groupId := "adhoc", backendId := "trino-1" }]
      policies := [{ id := "port-8080", ruleType := "listening_port", groupId := "adhoc" }] }
  consistent := by decide

/-- The delete of the group fails, and the group has lost its backend. -/
theorem referencedGroup_emptied :
    ¬ AllOrNothing referencedGroup.db
      ((GroupApi.deleteGroup "adhoc").run (mysql (.available fun _ => 0))
        ⟨referencedGroup.db, 0⟩).2.db "adhoc"
      ((GroupApi.deleteGroup "adhoc").run (mysql (.available fun _ => 0))
        ⟨referencedGroup.db, 0⟩).1 := by
  have hres : ((GroupApi.deleteGroup "adhoc").run (mysql (.available fun _ => 0))
      ⟨referencedGroup.db, 0⟩).1 = some (.error (.db (.mysql 1451))) := by decide
  have hdb : ((GroupApi.deleteGroup "adhoc").run (mysql (.available fun _ => 0))
      ⟨referencedGroup.db, 0⟩).2.db ≠ referencedGroup.db := by decide
  rw [hres]
  exact hdb

/-- The row has the columns of a request: the strategy as its column spells it, and the last routed
backend as its column keeps it. -/
structure Group.Carries (r : Group) (params : GroupApi.GroupCreateParams) : Prop where
  id : r.id = params.id
  strategy : r.strategy = enumSpelling strategies params.strategy
  accepted : (enumSpelling strategies params.strategy).isSome
  isEnabled : r.isEnabled = some params.isEnabled
  lastRoutedBackend : r.lastRoutedBackend = some (cut 255 params.lastRoutedBackend)
  fits : (cut 255 params.lastRoutedBackend).length ≤ 255

/-- The group's row is the request's, and the others are as before. -/
def RowSaved (db db' : Db) (params : GroupApi.GroupCreateParams) : Prop :=
  (∃ r, db'.find .groups params.id = some r ∧ r.Carries params) ∧
    ∀ id, id ≠ params.id → db'.find .groups id = db.find .groups id

/-- The group has these backends, and the other groups have theirs. -/
def BackendsSaved (db db' : Db) (groupId : String) (backends : List String) : Prop :=
  (∀ b, (groupId, b) ∈ db'.pairs ↔ b ∈ backends) ∧
    ∀ g, g ≠ groupId → ∀ b, (g, b) ∈ db'.pairs ↔ (g, b) ∈ db.pairs

/-- The group has these backends besides its own, and the other groups have theirs. -/
def BackendsAdded (db db' : Db) (groupId : String) (backends : List String) : Prop :=
  ∀ p : String × String, p ∈ db'.pairs ↔ p ∈ db.pairs ∨ (p.1 = groupId ∧ p.2 ∈ backends)

/-- The row as stored with a new time of update. -/
def Group.touched (old : Group) (now : ℤ) : Group := Tbl.stored .groups { old with updatedAt := now }

/-- A stamped row has the columns of the same request. -/
theorem Group.Carries.touched {r : Group} {params : GroupApi.GroupCreateParams}
    (h : r.Carries params) (now : ℤ) : (r.touched now).Carries params where
  id := h.id
  strategy := by
    obtain ⟨v, hv⟩ := Option.isSome_iff_exists.mp h.accepted
    have hmember : enumSpelling strategies v = some v := by
      have hv' := mem_of_enumSpelling hv
      simp only [strategies, List.mem_cons, List.not_mem_nil, or_false] at hv'
      rcases hv' with rfl | rfl | rfl <;> decide
    change r.strategy.map (fun s => (enumSpelling strategies s).getD s) = _
    rw [h.strategy, hv, Option.map_some, hmember, Option.getD_some]
  accepted := h.accepted
  isEnabled := h.isEnabled
  lastRoutedBackend := h.lastRoutedBackend
  fits := h.fits

/-- An `UPDATE` that has nothing to write stamps the row. -/
theorem Group.touched_eq (old : Group) (now : ℤ) :
    old.touched now = Tbl.stored .groups (Tbl.onUpdate now .groups old { id := old.id }) := by
  simp [touched, Tbl.stored, Tbl.onUpdate, textPointer_none, nonZero]

/-- The mappings of a request. -/
def requestMappings (params : GroupApi.GroupCreateParams) : List GroupBackendsMapping :=
  params.backends.map fun backend => { groupId := params.id, backendId := backend }

theorem mem_pairs_requestMappings {params : GroupApi.GroupCreateParams} {p : String × String} :
    p ∈ (requestMappings params).map GroupBackendsMapping.pair ↔
      p.1 = params.id ∧ p.2 ∈ params.backends := by
  simp only [requestMappings, List.map_map, List.mem_map, Function.comp_apply,
    GroupBackendsMapping.pair]
  constructor
  · rintro ⟨b, hb, rfl⟩
    exact ⟨rfl, hb⟩
  · rintro ⟨hid, hb⟩
    exact ⟨p.2, hb, Prod.ext hid.symm rfl⟩

theorem associations_groupOf (params : GroupApi.GroupCreateParams) :
    Spine.associations .groups (GroupApi.groupOf params) = requestMappings params := by
  change (if requestMappings params = [] then none else some (requestMappings params)).getD [] = _
  split
  · rename_i h
    exact h.symm
  · rfl

theorem requestMappings_eq_nil {params : GroupApi.GroupCreateParams} :
    requestMappings params = [] ↔ params.backends = [] := by
  simp [requestMappings]

/-- The mappings after the group's other ones are detached. -/
theorem mem_pairs_detached {db : Db} {params : GroupApi.GroupCreateParams} {p : String × String} :
    p ∈ ({ db with
        mappings := db.mappings.filter fun m => m.groupId ≠ params.id ||
          (requestMappings params).any fun n => n.backendId = m.backendId } : Db).pairs ↔
      p ∈ db.pairs ∧ (p.1 = params.id → p.2 ∈ params.backends) := by
  simp only [Db.pairs, List.mem_map, List.mem_filter, Bool.or_eq_true, decide_eq_true_eq,
    List.any_eq_true, requestMappings, exists_exists_and_eq_and]
  constructor
  · rintro ⟨m, ⟨hm, hkeep⟩, rfl⟩
    refine ⟨⟨m, hm, rfl⟩, fun hid => ?_⟩
    rcases hkeep with hne | ⟨b, hb, hbm⟩
    · exact absurd hid hne
    · change m.backendId ∈ params.backends
      rwa [← hbm]
  · rintro ⟨⟨m, hm, rfl⟩, hkeep⟩
    refine ⟨m, ⟨hm, ?_⟩, rfl⟩
    by_cases hid : m.groupId = params.id
    · exact Or.inr ⟨m.backendId, hkeep hid, rfl⟩
    · exact Or.inl hid

/-- Once the group has the backends of a request, and its other ones are detached, it has those. -/
theorem backendsSaved_detached {db db₁ : Db} {params : GroupApi.GroupCreateParams}
    (hadded : BackendsAdded db db₁ params.id params.backends) :
    BackendsSaved db
      { db₁ with
        mappings := db₁.mappings.filter fun m => m.groupId ≠ params.id ||
          (requestMappings params).any fun n => n.backendId = m.backendId }
      params.id params.backends := by
  constructor
  · intro b
    rw [mem_pairs_detached, hadded]
    constructor
    · exact fun h => h.2 rfl
    · exact fun hb => ⟨Or.inr ⟨rfl, hb⟩, fun _ => hb⟩
  · intro g hg b
    rw [mem_pairs_detached, hadded]
    constructor
    · rintro ⟨h | h, -⟩
      · exact h
      · exact absurd h.1 hg
    · exact fun h => ⟨Or.inl h, fun hc => absurd hc hg⟩

/-- A row that MySQL takes with the columns of a request. -/
theorem carries_of_accept {db : Db} {params : GroupApi.GroupCreateParams} {row r : Group}
    (h : db.accept .groups row = .ok r) (hid : row.id = params.id)
    (hs : row.strategy = some params.strategy)
    (he : row.isEnabled = some params.isEnabled)
    (hl : (∀ s, row.lastRoutedBackend = some s → s.length ≤ 255) →
      row.lastRoutedBackend = some (cut 255 params.lastRoutedBackend)) : r.Carries params := by
  obtain ⟨rfl, hchecks, -⟩ := Db.accept_ok h
  have hpass := firstFailing_eq_none hchecks (nullable (enum strategies) row.strategy)
    (by simp [Tbl.checks])
  have hlast := firstFailing_eq_none hchecks (nullable (varchar 255) row.lastRoutedBackend)
    (by simp [Tbl.checks])
  have hfits : ∀ s, row.lastRoutedBackend = some s → s.length ≤ 255 := by
    intro s hs
    rw [hs] at hlast
    exact length_of_varchar hlast
  rw [hs] at hpass
  obtain ⟨v, hv⟩ := Option.isSome_iff_exists.mp (hpass : (enumSpelling strategies _).isSome = true)
  refine ⟨hid, ?_, hpass, he, hl hfits, hfits _ (hl hfits)⟩
  change row.strategy.map (fun s => (enumSpelling strategies s).getD s) = _
  rw [hs, Option.map_some, hv, Option.getD_some]

theorem rowSaved_put {db : Db} {params : GroupApi.GroupCreateParams} {old r : Group} {now : ℤ}
    (hold : db.find .groups params.id = some old)
    (ha : db.accept .groups (Tbl.onUpdate now .groups old (GroupApi.groupOf params)) = .ok r) :
    RowSaved db (db.put .groups params.id r) params := by
  have hcarries := carries_of_accept ha (Db.find_id hold : old.id = params.id) rfl rfl
    textPointer_eq_cut
  refine ⟨⟨r, Db.find_put hold hcarries.id, hcarries⟩, fun id hne => ?_⟩
  exact Db.find_put_ne (t := .groups) hcarries.id hne

/-- After a row is appended the others are found as before. -/
theorem Db.find_append_ne {db : Db} {t : Tbl} {row : t.Row} {id : String} (hne : id ≠ t.id row) :
    (db.setRows t (db.rows t ++ [row])).find t id = db.find t id := by
  unfold Db.find
  rw [Db.rows_setRows, List.find?_append]
  simp [Ne.symm hne]

theorem rowSaved_append {db : Db} {params : GroupApi.GroupCreateParams} {r : Group} {now : ℤ}
    (hnone : db.find .groups params.id = none)
    (ha : db.accept .groups (Tbl.onInsert now .groups (GroupApi.groupOf params)) = .ok r) :
    RowSaved db (db.setRows .groups (db.groups ++ [r])) params := by
  have hcarries := carries_of_accept ha rfl rfl rfl fun _ => rfl
  refine ⟨⟨r, ?_, hcarries⟩, fun id hne => ?_⟩
  · rw [← hcarries.id] at hnone ⊢
    exact Db.find_append (t := .groups) hnone
  · rw [← hcarries.id] at hne
    exact Db.find_append_ne (t := .groups) hne

/-- A group without a row has no mappings. -/
theorem Db.Consistent.backendsSaved_nil {db : Db} (h : db.Consistent) {id : String}
    (hnone : db.find .groups id = none) {db' : Db} (hpairs : db'.pairs = db.pairs) :
    BackendsSaved db db' id [] := by
  refine ⟨fun b => ?_, fun g _ b => by rw [hpairs]⟩
  rw [hpairs]
  refine iff_of_false (fun hb => ?_) List.not_mem_nil
  exact Db.find_eq_none_iff.mp hnone (h.pairRefs _ hb).1

/-- The pairs of a request, added where the group has none. -/
theorem backendsSaved_append {db db₁ db₂ : Db} {id : String} {backends : List String}
    (h : BackendsSaved db db₁ id [])
    (hadd : ∀ p, p ∈ db₂.pairs ↔ p ∈ db₁.pairs ∨ (p.1 = id ∧ p.2 ∈ backends)) :
    BackendsSaved db db₂ id backends := by
  constructor
  · intro b
    rw [hadd, h.1]
    simp
  · intro g hg b
    rw [hadd, h.2 g hg]
    exact or_iff_left fun hc => hg hc.1

/-- The creation of a group is executed: the row is taken, and its backends are stored. -/
def Creates (env : Env) (w : World) (params : GroupApi.GroupCreateParams) : Prop :=
  w.db.TakesInsert (env.clock w.tick) (env.faults w.tick) .groups (GroupApi.groupOf params) ∧
    (params.backends ≠ [] →
      env.faults (w.tick + 1) = none ∧ ∀ b ∈ params.backends, b ∈ w.db.ids .backends)

/-- The mappings of a request exist once the group's row is there. -/
theorem mappingsExist_append (db : Db) {params : GroupApi.GroupCreateParams} {r : Group}
    (hr : r.id = params.id) :
    (db.setRows .groups (db.rows .groups ++ [r])).MappingsExist (requestMappings params) ↔
      ∀ b ∈ params.backends, b ∈ db.ids .backends := by
  have hgroup : params.id ∈ (db.setRows .groups (db.rows .groups ++ [r])).ids .groups := by
    rw [← hr]
    exact List.mem_map_of_mem (List.mem_append_right _ (List.mem_singleton_self r))
  unfold requestMappings Db.MappingsExist
  rw [List.forall_mem_map]
  exact forall₂_congr fun b _ => and_iff_right hgroup

variable (env w) in
/-- The creation of a group: the row, and then its mappings. -/
theorem create_group_cases (hdb : w.db.Consistent) (params : GroupApi.GroupCreateParams) :
    ∃ res w', (GroupRepo.create (GroupApi.groupOf params)).run (mysql env) w = (some res, w') ∧
      ((¬ Creates env w params ∧ w'.db = w.db ∧ ∃ e, res = .error e) ∨
        (w.db.find .groups params.id = none ∧
          ∃ r, w'.db.groups = w.db.groups ++ [r] ∧ r.Carries params ∧
            RowSaved w.db w'.db params ∧
            ((Creates env w params ∧ res = .ok () ∧
                BackendsSaved w.db w'.db params.id params.backends) ∨
              (¬ Creates env w params ∧ w'.db.mappings = w.db.mappings ∧ ∃ e, res = .error e)))) := by
  unfold GroupRepo.create Repo.create Spine.create
  simp only [Tbl.validate, bind_eq, perform_bind, run_op, associations_groupOf]
  have hq : mysql env (.insert .groups (GroupApi.groupOf params)) w =
      ((exec (env.clock w.tick) (env.faults w.tick) (.insert .groups (GroupApi.groupOf params))
        w.db).1, ⟨(exec (env.clock w.tick) (env.faults w.tick)
          (.insert .groups (GroupApi.groupOf params)) w.db).2, w.tick + 1⟩) := rfl
  rcases exec_insert w.db (t := .groups) (GroupApi.groupOf params) (env.clock w.tick)
    (env.faults w.tick) with ⟨r, htakes, ha, hexec⟩ | ⟨hno, e, hexec⟩
  · rw [hq, hexec]
    have hnone : w.db.find .groups params.id = none := htakes.2.1
    have hcarries := carries_of_accept ha rfl rfl rfl fun _ => rfl
    set db₁ : Db := w.db.setRows .groups (w.db.rows .groups ++ [r]) with hdb₁
    have hrow : RowSaved w.db db₁ params := rowSaved_append hnone ha
    have hpairs : db₁.pairs = w.db.pairs := Db.pairs_setRows _ _ _
    by_cases hms : params.backends = []
    · -- without backends there is no second statement
      have hnil : requestMappings params = [] := requestMappings_eq_nil.mpr hms
      refine ⟨.ok (), ⟨db₁, w.tick + 1⟩, ?_, Or.inr ⟨hnone, r, rfl, hcarries, hrow, ?_⟩⟩
      · rw [hnil]
        rfl
      rw [hms]
      exact Or.inl ⟨⟨htakes, fun h => absurd hms h⟩, rfl, hdb.backendsSaved_nil hnone hpairs⟩
    · have hne : requestMappings params ≠ [] := fun hc => hms (requestMappings_eq_nil.mp hc)
      have hexist := mappingsExist_append w.db hcarries.id
      rw [← hdb₁] at hexist
      simp only [Spine.saveAssociations, hne, ne_eq, not_false_eq_true, and_self, if_true, bind_eq,
        perform_bind, op_bind, run_op, pure_eq, ret_bind, run_ret, mysql]
      rcases Db.exec_insertMappings db₁ (requestMappings params) (env.clock (w.tick + 1))
        (env.faults (w.tick + 1)) with ⟨⟨hf, hall⟩, hsave⟩ | ⟨hnot, e, hsave⟩
      · rw [hsave]
        have hcreates : Creates env w params := ⟨htakes, fun _ => ⟨hf, hexist.mp hall⟩⟩
        refine ⟨_, _, rfl, Or.inr ⟨hnone, r, ?_, hcarries, ?_, Or.inl ⟨hcreates, rfl, ?_⟩⟩⟩
        · rw [Db.upsertMappings_eq]
          rfl
        · rw [Db.upsertMappings_eq]
          exact hrow
        · refine backendsSaved_append (hdb.backendsSaved_nil hnone hpairs) fun p => ?_
          rw [Db.mem_pairs_upsertMappings, mem_pairs_requestMappings]
      · rw [hsave]
        have hno : ¬ Creates env w params := fun hc =>
          hnot ⟨(hc.2 hms).1, hexist.mpr (hc.2 hms).2⟩
        refine ⟨_, _, rfl, Or.inr ⟨hnone, r, rfl, hcarries, hrow, Or.inr ⟨hno, rfl, ?_⟩⟩⟩
        cases e <;> exact ⟨_, rfl⟩
  · rw [hq, hexec]
    refine ⟨_, _, rfl, Or.inl ⟨fun hc => hno hc.1, rfl, ?_⟩⟩
    cases e <;> exact ⟨_, rfl⟩

/-- The second saving of the mappings fails, after an `UPDATE` that has changed the row. -/
def ResaveFails (env : Env) (w : World) (old g : Group) : Prop :=
  Spine.associations .groups g ≠ [] ∧ env.faults (w.tick + 1) ≠ none ∧
    Tbl.stored .groups (Tbl.onUpdate (env.clock w.tick) .groups old g) ≠ old

/-- The saving of mappings that are there changes nothing, but it may fail. -/
theorem run_saveAssociations_of_mem {rows : List GroupBackendsMapping} {db : Db} {q : StmtResult}
    (hrows : rows ≠ []) (hq : q.error = none) (hpairs : ∀ m ∈ rows, m.pair ∈ db.pairs)
    (hexist : db.MappingsExist rows) (env : Env) (tick : ℕ) :
    ∃ e, (Spine.saveAssociations rows q).run (mysql env) ⟨db, tick⟩ =
        (some { q with error := e }, ⟨db, tick + 1⟩) ∧ (e = none ↔ env.faults tick = none) := by
  unfold Spine.saveAssociations
  rw [if_pos ⟨hq, hrows⟩]
  simp only [bind_eq, perform_bind, run_op, pure_eq, run_ret, mysql]
  rcases Db.exec_insertMappings db rows (env.clock tick) (env.faults tick) with
    ⟨⟨hf, -⟩, hsave⟩ | ⟨hnot, e, hsave⟩
  · rw [hsave, Db.upsertMappings_of_mem hpairs]
    exact ⟨none, rfl, iff_of_true rfl hf⟩
  · rw [hsave]
    refine ⟨some e, rfl, iff_of_false (fun h => by cases h) fun hf => hnot ⟨hf, hexist⟩⟩

variable (env) in
/-- The update of a group whose mappings are stored: the row, and the mappings once more, which
changes nothing. An error can only come from the second statement. -/
theorem run_update_group {g old : Group} (hold : w.db.find .groups g.id = some old)
    (hpairs : ∀ m ∈ Spine.associations .groups g, m.pair ∈ w.db.pairs)
    (hexist : w.db.MappingsExist (Spine.associations .groups g)) :
    ∃ res n, (Repo.update .groups g).run (mysql env) w =
        (some res, ⟨(exec (env.clock w.tick) (env.faults w.tick) (.updates .groups g) w.db).2, n⟩) ∧
      ((res = .ok () ∧ ¬ (w.db.TakesUpdate (env.clock w.tick) (env.faults w.tick) .groups old g ∧
          ResaveFails env w old g)) ∨
        ((∃ e, res = .error e) ∧
          w.db.TakesUpdate (env.clock w.tick) (env.faults w.tick) .groups old g ∧
          ResaveFails env w old g)) := by
  by_cases hms : Spine.associations .groups g = []
  · rw [Repo.run_update env w .groups g hms]
    refine ⟨_, _, rfl, Or.inl ⟨?_, fun h => h.2.1 hms⟩⟩
    rcases exec_updates (t := .groups) hold (env.clock w.tick) (env.faults w.tick) with
      ⟨r, -, -, hexec⟩ | ⟨-, e, hexec⟩
    · simp only [Repo.updateResult, mysql, hexec, Spine.getDBError, ite_self]
    · simp only [Repo.updateResult, mysql, hexec, if_true]
  · simp only [Repo.update, Spine.update, Spine.updateSelective, bind_eq, perform_bind, op_bind,
      bind_assoc, run_op, mysql]
    rcases exec_updates (t := .groups) hold (env.clock w.tick) (env.faults w.tick) with
      ⟨r, htakes, ha, hexec⟩ | ⟨hno, e, hexec⟩
    · have hr : r = Tbl.stored .groups (Tbl.onUpdate (env.clock w.tick) .groups old g) :=
        (Db.accept_ok ha).1
      have hput : ∀ m ∈ Spine.associations .groups g,
          m.pair ∈ (w.db.put .groups (Tbl.id .groups g) r).pairs := by
        intro m hm
        rw [Db.put, Db.pairs_setRows]
        exact hpairs m hm
      have hid : Tbl.id .groups r = Tbl.id .groups g := by
        rw [hr, Db.id_stored, Db.id_onUpdate]
        exact Db.find_id hold
      have hexist' : (w.db.put .groups (Tbl.id .groups g) r).MappingsExist
          (Spine.associations .groups g) := by
        intro m hm
        rw [Db.ids_put hid, Db.ids_put hid]
        exact hexist m hm
      rw [hexec]
      -- the second insertion finds all mappings there
      obtain ⟨e, hsave, he⟩ := run_saveAssociations_of_mem
        (q := { rowsAffected := if r = old then 0 else 1 }) hms rfl hput hexist' env (w.tick + 1)
      rw [run_bind_some _ hsave]
      by_cases hsame : r = old
      · rw [if_pos hsame]
        exact ⟨.ok (), _, rfl, Or.inl ⟨rfl, fun h => h.2.2.2 (hr.symm.trans hsame)⟩⟩
      · rw [if_neg hsame]
        cases e with
        | none => exact ⟨.ok (), _, rfl, Or.inl ⟨rfl, fun h => h.2.2.1 (he.mp rfl)⟩⟩
        | some e =>
          have hfails : ResaveFails env w old g :=
            ⟨hms, fun hf => Option.some_ne_none e (he.mpr hf), fun h => hsame (hr.trans h)⟩
          cases e <;> exact ⟨_, _, rfl, Or.inr ⟨⟨_, rfl⟩, htakes, hfails⟩⟩
    · rw [hexec]
      exact ⟨.ok (), _, rfl, Or.inl ⟨rfl, fun h => hno h.1⟩⟩

/-- The statement that stamps the group before its mappings are replaced is executed. -/
def Stamps (env : Env) (w : World) (old : Group) (params : GroupApi.GroupCreateParams) : Prop :=
  w.db.TakesUpdate (env.clock w.tick) (env.faults w.tick) .groups old { id := params.id }

/-- The new mappings of a replacement are stored. -/
def Replaces (env : Env) (w : World) (old : Group) (params : GroupApi.GroupCreateParams) : Prop :=
  Stamps env w old params ∧ env.faults (w.tick + 1) = none ∧
    w.db.MappingsExist (requestMappings params)

/-- The statement that detaches the old mappings is executed. -/
def Detaches (env : Env) (w : World) : Prop := env.faults (w.tick + 2) = none

/-- The mappings of a request are stored, in place of the old ones if these are detached. -/
def MappingsWritten (env : Env) (w : World) (db' : Db) (params : GroupApi.GroupCreateParams) : Prop :=
  (Detaches env w → BackendsSaved w.db db' params.id params.backends) ∧
    (¬ Detaches env w → BackendsAdded w.db db' params.id params.backends)

variable (env w) in
/-- **The replacement of a group's mappings**: the stamp and the insertion of the new ones may fail,
and an error of the last statement is not seen. -/
theorem replaceAssociations_cases {params : GroupApi.GroupCreateParams} {old : Group}
    (hold : w.db.find .groups params.id = some old) (hms : params.backends ≠ []) :
    ∃ res w', (Spine.replaceAssociations params.id (requestMappings params)).run (mysql env) w =
        (some res, w') ∧
      ((¬ Replaces env w old params ∧ (∃ e, res = .error e) ∧
          (w'.db = w.db ∨ ∃ now, w'.db = w.db.put .groups params.id (old.touched now))) ∨
        (Replaces env w old params ∧ res = .ok () ∧ w'.tick = w.tick + 3 ∧
          w'.db = { w.db.put .groups params.id (old.touched (env.clock w.tick)) with
            mappings := w'.db.mappings } ∧
          MappingsWritten env w w'.db params)) := by
  have hne : requestMappings params ≠ [] := fun hc => hms (requestMappings_eq_nil.mp hc)
  have hid : old.id = params.id := Db.find_id hold
  have hstamp : w.db.find .groups (Tbl.id .groups { id := params.id }) = some old := hold
  simp only [Spine.replaceAssociations, bind_eq, perform_bind, run_op, mysql]
  rcases exec_updates hstamp (env.clock w.tick) (env.faults w.tick) with
    ⟨r, htakes, ha, hexec⟩ | ⟨hno, e, hexec⟩
  · have hr : r = old.touched (env.clock w.tick) := by
      rw [old.touched_eq, hid]
      exact (Db.accept_ok ha).1
    subst hr
    rw [hexec]
    simp only [Spine.saveAssociations, hne, ne_eq, not_false_eq_true, and_self, if_true, bind_eq,
      perform_bind, op_bind, run_op, pure_eq, ret_bind, mysql]
    set db₁ : Db := w.db.put .groups params.id (old.touched (env.clock w.tick)) with hdb₁
    have hids : ∀ u, db₁.ids u = w.db.ids u := Db.ids_put hid
    have hpairs : db₁.pairs = w.db.pairs := Db.pairs_setRows _ _ _
    have hexist : db₁.MappingsExist (requestMappings params) ↔
        w.db.MappingsExist (requestMappings params) := by
      unfold Db.MappingsExist
      rw [hids, hids]
    have hput : w.db.put .groups (Tbl.id .groups { id := params.id })
        (old.touched (env.clock w.tick)) = db₁ := rfl
    rw [hput]
    rcases Db.exec_insertMappings db₁ (requestMappings params) (env.clock (w.tick + 1))
      (env.faults (w.tick + 1)) with ⟨⟨hf, hall⟩, hsave⟩ | ⟨hnot, e, hsave⟩
    · have hreplaces : Replaces env w old params := ⟨htakes, hf, hexist.mp hall⟩
      rw [hsave]
      set db₂ : Db :=
        (requestMappings params).foldl (Db.upsertMapping (env.clock (w.tick + 1))) db₁ with hdb₂
      have hadded : BackendsAdded w.db db₂ params.id params.backends := fun p => by
        rw [Db.mem_pairs_upsertMappings, mem_pairs_requestMappings, hpairs]
      have hshape : db₂ = { db₁ with mappings := db₂.mappings } := Db.upsertMappings_eq _ _ _
      simp only [run_op, mysql]
      rcases Db.exec_detachMappings db₂ params.id (requestMappings params)
        (env.clock (w.tick + 2)) (env.faults (w.tick + 2)) with ⟨hd, n, hdetach⟩ | ⟨hd, e, hdetach⟩
      · rw [hdetach]
        refine ⟨_, _, rfl, Or.inr ⟨hreplaces, rfl, rfl, ?_, fun _ => ?_, fun h => absurd hd h⟩⟩
        · rw [hshape]
        · exact backendsSaved_detached hadded
      · -- the error is not looked at
        rw [hdetach]
        exact ⟨_, _, rfl, Or.inr ⟨hreplaces, rfl, rfl, hshape, fun h => absurd h hd, fun _ => hadded⟩⟩
    · have hno : ¬ Replaces env w old params := fun h => hnot ⟨h.2.1, hexist.mpr h.2.2⟩
      rw [hsave]
      exact ⟨_, _, rfl, Or.inl ⟨hno, ⟨_, rfl⟩, Or.inr ⟨_, rfl⟩⟩⟩
  · have hno' : ¬ Replaces env w old params := fun h => hno h.1
    rw [hexec]
    exact ⟨_, _, rfl, Or.inl ⟨hno', ⟨_, rfl⟩, Or.inl rfl⟩⟩

/-- The number of the statement that writes the row of a stored group. -/
def updateTick (tick : ℕ) (params : GroupApi.GroupCreateParams) : ℕ :=
  if params.backends = [] then tick else tick + 3

/-- The row that this statement finds: it is stamped if the mappings have been replaced. -/
def Group.atUpdate (old : Group) (env : Env) (tick : ℕ) (params : GroupApi.GroupCreateParams) :
    Group :=
  if params.backends = [] then old else old.touched (env.clock tick)

/-- The `UPDATE` of the group's row is executed. -/
def UpdatesRow (env : Env) (w : World) (old : Group) (params : GroupApi.GroupCreateParams) : Prop :=
  w.db.TakesUpdate (env.clock (updateTick w.tick params)) (env.faults (updateTick w.tick params))
    .groups old (GroupApi.groupOf params)

/-- The statement that saves the mappings once more, after the row, fails and is looked at. -/
def Resaves (env : Env) (w : World) (old : Group) (params : GroupApi.GroupCreateParams) : Prop :=
  params.backends ≠ [] → ¬ ResaveFails env { w with tick := w.tick + 3 }
    (old.touched (env.clock w.tick)) (GroupApi.groupOf params)

variable (env w) in
/-- The update of the row, once the mappings are stored. -/
theorem updateRow_cases {params : GroupApi.GroupCreateParams} {row : Group}
    (hrow : w.db.find .groups params.id = some row)
    (hpairs : ∀ m ∈ requestMappings params, m.pair ∈ w.db.pairs)
    (hexist : w.db.MappingsExist (requestMappings params)) :
    ∃ res w', (Repo.update .groups (GroupApi.groupOf params)).run (mysql env) w = (some res, w') ∧
      w'.db.pairs = w.db.pairs ∧
      ((w.db.TakesUpdate (env.clock w.tick) (env.faults w.tick) .groups row
            (GroupApi.groupOf params) ∧ RowSaved w.db w'.db params ∧
          ((res = .ok () ∧ ¬ ResaveFails env w row (GroupApi.groupOf params)) ∨
            ((∃ e, res = .error e) ∧ ResaveFails env w row (GroupApi.groupOf params)))) ∨
        (¬ w.db.TakesUpdate (env.clock w.tick) (env.faults w.tick) .groups row
            (GroupApi.groupOf params) ∧ w'.db = w.db ∧ res = .ok ())) := by
  have hassoc := associations_groupOf params
  obtain ⟨res, n, hrun, hres⟩ := run_update_group env (g := GroupApi.groupOf params) hrow
    (by rwa [hassoc]) (by rwa [hassoc])
  refine ⟨res, _, hrun, ?_⟩
  have hfound : w.db.find .groups (Tbl.id .groups (GroupApi.groupOf params)) = some row := hrow
  rcases exec_updates hfound (env.clock w.tick)
    (env.faults w.tick) with ⟨r, htakes, ha, hexec⟩ | ⟨hno, e, hexec⟩
  · rw [hexec]
    refine ⟨Db.pairs_setRows _ _ _, Or.inl ⟨htakes, rowSaved_put hrow ha, ?_⟩⟩
    rcases hres with ⟨hok, hnot⟩ | ⟨herr, -, hfails⟩
    · exact Or.inl ⟨hok, fun h => hnot ⟨htakes, h⟩⟩
    · exact Or.inr ⟨herr, hfails⟩
  · rw [hexec]
    refine ⟨rfl, Or.inr ⟨hno, rfl, ?_⟩⟩
    rcases hres with ⟨hok, -⟩ | ⟨-, htakes, -⟩
    · exact hok
    · exact absurd htakes hno

/-- The rows of the tables, with the group's row stamped. -/
theorem RowSaved.of_touched {db db₁ db' : Db} {old : Group} {now : ℤ}
    {params : GroupApi.GroupCreateParams} (hid : old.id = params.id)
    (hdb₁ : db₁.groups = (db.put .groups params.id (old.touched now)).groups)
    (h : RowSaved db₁ db' params) : RowSaved db db' params := by
  refine ⟨h.1, fun id hne => (h.2 id hne).trans ?_⟩
  have hput : db₁.find .groups id = (db.put .groups params.id (old.touched now)).find .groups id := by
    simp only [Db.find, Db.rows, hdb₁]
  rw [hput]
  exact Db.find_put_ne (t := .groups) hid hne

/-- What the update of a stored group makes of its row: the `UPDATE` is executed, and an error is
that of the last saving of the mappings; or it is not executed, and there is no error. -/
def RowUpdated (env : Env) (w : World) (old : Group) (params : GroupApi.GroupCreateParams)
    (res : Result Unit) (db' : Db) : Prop :=
  (UpdatesRow env w old params ∧ RowSaved w.db db' params ∧
      ((res = .ok () ∧ Resaves env w old params) ∨
        ((∃ e, res = .error e) ∧ ¬ Resaves env w old params))) ∨
    (¬ UpdatesRow env w old params ∧ res = .ok () ∧
      db'.find .groups params.id = some (old.atUpdate env w.tick params))

section Update

variable {params : GroupApi.GroupCreateParams} {old : Group}
  (hold : w.db.find .groups params.id = some old)

include hold

variable (env w) in
/-- A request without backends writes the row only. -/
theorem update_group_unmapped (hms : params.backends = []) :
    ∃ res w', (GroupRepo.update (GroupApi.groupOf params)).run (mysql env) w = (some res, w') ∧
      w'.db.pairs = w.db.pairs ∧ RowUpdated env w old params res w'.db := by
  have hnil : requestMappings params = [] := requestMappings_eq_nil.mpr hms
  have hslice : (GroupApi.groupOf params).groupBackendsMappings = none := if_pos hnil
  have hempty : ∀ {p : GroupBackendsMapping → Prop}, ∀ m ∈ requestMappings params, p m := by
    intro p m hm
    rw [hnil] at hm
    cases hm
  obtain ⟨res, w', hrun, hpairs, hcases⟩ := updateRow_cases env w hold hempty hempty
  have hresaves : Resaves env w old params := fun h => absurd hms h
  have hnofail : ¬ ResaveFails env w old (GroupApi.groupOf params) := by
    intro h
    rw [ResaveFails, associations_groupOf] at h
    exact h.1 hnil
  refine ⟨res, w', ?_, hpairs, ?_⟩
  · rw [GroupRepo.update, hslice]
    exact hrun
  · simp only [RowUpdated, UpdatesRow, updateTick, Group.atUpdate, if_pos hms]
    rcases hcases with ⟨htakes, hsaved, ⟨hok, -⟩ | ⟨-, hfails⟩⟩ | ⟨hno, hsame, hok⟩
    · exact Or.inl ⟨htakes, hsaved, Or.inl ⟨hok, hresaves⟩⟩
    · exact absurd hfails hnofail
    · refine Or.inr ⟨hno, hok, ?_⟩
      rw [hsame]
      exact hold

/-- The row is written once the mappings have been replaced. -/
theorem update_group_replaced (hms : params.backends ≠ []) (hreplaces : Replaces env w old params)
    {w₁ : World} (htick : w₁.tick = w.tick + 3)
    (hshape : w₁.db = { w.db.put .groups params.id (old.touched (env.clock w.tick)) with
      mappings := w₁.db.mappings })
    (hwritten : MappingsWritten env w w₁.db params) :
    ∃ res w', (Repo.update .groups (GroupApi.groupOf params)).run (mysql env) w₁ = (some res, w') ∧
      MappingsWritten env w w'.db params ∧ RowUpdated env w old params res w'.db := by
  have hid : old.id = params.id := Db.find_id hold
  set row : Group := old.touched (env.clock w.tick) with hrow
  have hgroups : w₁.db.groups = (w.db.put .groups params.id row).groups := by rw [hshape]
  have hfound : w₁.db.find .groups params.id = some row := by
    have hput : w₁.db.find .groups params.id =
        (w.db.put .groups params.id row).find .groups params.id := by
      simp only [Db.find, Db.rows, hgroups]
    rw [hput]
    exact Db.find_put hold hid
  have hpairs : ∀ m ∈ requestMappings params, m.pair ∈ w₁.db.pairs := by
    intro m hm
    obtain ⟨hg, hb⟩ := mem_pairs_requestMappings.mp (List.mem_map_of_mem hm)
    have hpair : m.pair = (params.id, m.backendId) := Prod.ext hg rfl
    rw [hpair]
    by_cases hd : Detaches env w
    · exact ((hwritten.1 hd).1 _).mpr hb
    · exact (hwritten.2 hd _).mpr (Or.inr ⟨rfl, hb⟩)
  have hrowid : Tbl.id .groups row = params.id := hid
  have hids : ∀ u, w₁.db.ids u = w.db.ids u := by
    intro u
    rw [hshape, Db.ids_withMappings]
    exact Db.ids_put hrowid u
  have hexist : w₁.db.MappingsExist (requestMappings params) := by
    intro m hm
    rw [hids, hids]
    exact hreplaces.2.2 m hm
  obtain ⟨res, w', hrun, hsame, hcases⟩ := updateRow_cases env w₁ hfound hpairs hexist
  refine ⟨res, w', hrun, ?_, ?_⟩
  · unfold MappingsWritten BackendsSaved BackendsAdded
    rw [hsame]
    exact hwritten
  · -- the failures are those of the statements after the three of the replacement
    have hupdates : w₁.db.TakesUpdate (env.clock w₁.tick) (env.faults w₁.tick) .groups row
        (GroupApi.groupOf params) ↔ UpdatesRow env w old params := by
      rw [UpdatesRow, updateTick, if_neg hms, htick]
      exact Iff.rfl
    have hresaves : ResaveFails env w₁ row (GroupApi.groupOf params) ↔
        ¬ Resaves env w old params := by
      rw [Resaves, Classical.not_imp, not_not, ResaveFails, ResaveFails, htick]
      exact (and_iff_right hms).symm
    rw [hupdates, hresaves, not_not] at hcases
    rw [RowUpdated, Group.atUpdate, if_neg hms]
    rcases hcases with ⟨htakes, hsaved, hres⟩ | ⟨hno, hdb, hok⟩
    · exact Or.inl ⟨htakes, hsaved.of_touched hid hgroups, hres⟩
    · refine Or.inr ⟨hno, hok, ?_⟩
      rw [hdb]
      exact hfound

variable (env w params) in
/-- **The update of a stored group**: the new mappings are refused, and the group's row is at most
stamped; or they are stored (or there are none), and then the row is updated, and its mappings are
saved once more. -/
theorem update_group_cases :
    ∃ res w', (GroupRepo.update (GroupApi.groupOf params)).run (mysql env) w = (some res, w') ∧
      ((params.backends ≠ [] ∧ ¬ Replaces env w old params ∧ (∃ e, res = .error e) ∧
          (w'.db = w.db ∨ ∃ now, w'.db = w.db.put .groups params.id (old.touched now))) ∨
        ((params.backends ≠ [] → Replaces env w old params ∧ MappingsWritten env w w'.db params) ∧
          (params.backends = [] → w'.db.pairs = w.db.pairs) ∧
          RowUpdated env w old params res w'.db)) := by
  by_cases hms : params.backends = []
  · obtain ⟨res, w', hrun, hpairs, hrow⟩ := update_group_unmapped env w hold hms
    exact ⟨res, w', hrun, Or.inr ⟨fun h => absurd hms h, fun _ => hpairs, hrow⟩⟩
  · have hne : requestMappings params ≠ [] := fun hc => hms (requestMappings_eq_nil.mp hc)
    have hslice : (GroupApi.groupOf params).groupBackendsMappings = some (requestMappings params) :=
      if_neg hne
    have hsteps : (GroupRepo.update (GroupApi.groupOf params)).run (mysql env) w =
        ((Spine.replaceAssociations params.id (requestMappings params)).andThen fun _ =>
          Repo.update .groups (GroupApi.groupOf params)).run (mysql env) w := by
      rw [GroupRepo.update, hslice]
      rfl
    rw [hsteps]
    obtain ⟨res, w₁, hreplace, hcases⟩ := replaceAssociations_cases env w hold hms
    rcases hcases with ⟨hno, ⟨e, rfl⟩, hleft⟩ | ⟨hreplaces, rfl, htick, hshape, hwritten⟩
    · exact ⟨_, _, run_andThen_error _ hreplace, Or.inl ⟨hms, hno, ⟨e, rfl⟩, hleft⟩⟩
    · rw [run_andThen_ok _ hreplace]
      obtain ⟨res, w', hrun, hmappings, hrow⟩ :=
        update_group_replaced hold hms hreplaces htick hshape hwritten
      exact ⟨res, w', hrun, Or.inr ⟨fun _ => ⟨hreplaces, hmappings⟩, fun h => absurd h hms, hrow⟩⟩

end Update

namespace GroupApi

/-- A request for a group that is found is an update of it. -/
theorem run_createOrUpdateGroup_some (params : GroupCreateParams) {row : Group}
    (h : GroupRepo.Finds env w params.id row) :
    (createOrUpdateGroup params).run (mysql env) w =
      (GroupRepo.update (groupOf params)).run (mysql env) w.next.next := by
  rw [createOrUpdateGroup, bind_eq, run_bind_some _ (GroupRepo.run_find_some h)]

/-- A request for a group that is not found, or whose read fails, is a creation. -/
theorem run_createOrUpdateGroup_none (params : GroupCreateParams)
    (h : ∀ row, ¬ GroupRepo.Finds env w params.id row) :
    ∃ n, (createOrUpdateGroup params).run (mysql env) w =
      (GroupRepo.create (groupOf params)).run (mysql env) { w with tick := n } ∧
      (w.db.find .groups params.id = none → n = w.tick + 1) := by
  obtain ⟨e, n, hrun, htick⟩ := GroupRepo.run_find_none h
  exact ⟨n, by rw [createOrUpdateGroup, bind_eq, run_bind_some _ hrun], htick⟩

/-- **What an error of `CreateOrUpdateGroup` leaves of the groups and mappings**: all as it was; or
the row of a stored group with a new time of update only; or the row of a new group without its
mappings; or, for a group that was there, all that was asked for, when only the last statement,
which saves the mappings once more, has failed. Then the former backends are still there too if the
statement that detaches them has failed. -/
theorem createOrUpdateGroup_error (s : ConsistentDb) (params : GroupCreateParams) (env : Env)
    (tick : ℕ) {e : GoErr} {w' : World}
    (h : (createOrUpdateGroup params).run (mysql env) ⟨s.db, tick⟩ = (some (.error e), w')) :
    (w'.db.groups = s.db.groups ∧ w'.db.mappings = s.db.mappings) ∨
      (params.backends ≠ [] ∧ ∃ old now, s.db.find .groups params.id = some old ∧
        w'.db.groups = (s.db.put .groups params.id (old.touched now)).groups ∧
        w'.db.mappings = s.db.mappings) ∨
      (s.db.find .groups params.id = none ∧
        ∃ r, w'.db.groups = s.db.groups ++ [r] ∧ r.Carries params ∧
          w'.db.mappings = s.db.mappings) ∨
      ((s.db.find .groups params.id).isSome ∧ params.backends ≠ [] ∧ RowSaved s.db w'.db params ∧
        (BackendsSaved s.db w'.db params.id params.backends ∨
          BackendsAdded s.db w'.db params.id params.backends)) := by
  set w : World := ⟨s.db, tick⟩ with hw
  by_cases hfinds : ∃ row, GroupRepo.Finds env w params.id row
  · obtain ⟨old, hfound⟩ := hfinds
    have hold : s.db.find .groups params.id = some old := hfound.2.2
    rw [run_createOrUpdateGroup_some params hfound] at h
    obtain ⟨res, w₁, hrun, hcases⟩ := update_group_cases env w.next.next params hold
    rw [hrun, Prod.mk.injEq, Option.some.injEq] at h
    obtain ⟨rfl, rfl⟩ := h
    rcases hcases with ⟨hms, -, -, hleft⟩ | ⟨hwritten, -, hrow⟩
    · rcases hleft with hsame | ⟨now, htouched⟩
      · exact Or.inl ⟨congrArg Db.groups hsame, congrArg Db.mappings hsame⟩
      · refine Or.inr (Or.inl ⟨hms, old, now, hold, congrArg Db.groups htouched, ?_⟩)
        rw [htouched]
        exact Db.mappings_setRows _ _ _
    · rcases hrow with ⟨-, hsaved, hres⟩ | ⟨-, hok, -⟩
      · rcases hres with ⟨hok, -⟩ | ⟨-, hfails⟩
        · cases hok
        · have hms : params.backends ≠ [] := (Classical.not_imp.mp hfails).1
          have hsome : (s.db.find .groups params.id).isSome := by
            rw [hold, Option.isSome_some]
          obtain ⟨hdetached, hadded⟩ := (hwritten hms).2
          exact Or.inr (Or.inr (Or.inr ⟨hsome, hms, hsaved,
            (Classical.em (Detaches env w.next.next)).imp hdetached hadded⟩))
      · cases hok
  · obtain ⟨n, hrun, -⟩ := run_createOrUpdateGroup_none params (not_exists.mp hfinds)
    rw [hrun] at h
    obtain ⟨res, w₁, hcreate, hcases⟩ := create_group_cases env
      { w with tick := n } s.consistent params
    rw [hcreate, Prod.mk.injEq, Option.some.injEq] at h
    obtain ⟨rfl, rfl⟩ := h
    rcases hcases with ⟨-, hsame, -⟩ | ⟨hnone, r, hgroups, hcarries, -, hres⟩
    · exact Or.inl ⟨congrArg Db.groups hsame, congrArg Db.mappings hsame⟩
    · rcases hres with ⟨-, hok, -⟩ | ⟨-, hmappings, -⟩
      · cases hok
      · exact Or.inr (Or.inr (Or.inl ⟨hnone, r, hgroups, hcarries, hmappings⟩))

/-- A database with one backend. -/
def oneBackend : ConsistentDb where
  db := { backends := [{ id := "trino-1" }] }
  consistent := by decide

/-- A request for a group with a backend that does not exist. -/
def unknownBackend : GroupCreateParams where
  id := "adhoc"
  strategy := "RANDOM"
  isEnabled := true
  lastRoutedBackend := ""
  backends := ["trino-2"]

/-- What the request leaves. -/
def withHalfGroup : Db :=
  { oneBackend.db with
    groups := [{ id := "adhoc", strategy := some "random", isEnabled := some true,
                 lastRoutedBackend := some "" }] }

theorem unknownBackend_run :
    (createOrUpdateGroup unknownBackend).run (mysql (.available fun _ => 0)) ⟨oneBackend.db, 0⟩ =
      (some (.error (.db (.mysql 1452))), ⟨withHalfGroup, 3⟩) := by
  decide

/-- The request fails, and leaves a group without backends. -/
theorem unknownBackend_created :
    ¬ ∀ e w', (createOrUpdateGroup unknownBackend).run (mysql (.available fun _ => 0))
        ⟨oneBackend.db, 0⟩ = (some (.error e), w') →
      w'.db.groups = oneBackend.db.groups ∧ w'.db.mappings = oneBackend.db.mappings := by
  intro h
  obtain ⟨hgroups, -⟩ := h _ _ unknownBackend_run
  revert hgroups
  decide

/-- The amended statement on this request. -/
theorem unknownBackend_leaves :
    (withHalfGroup.groups = oneBackend.db.groups ∧
        withHalfGroup.mappings = oneBackend.db.mappings) ∨
      (unknownBackend.backends ≠ [] ∧ ∃ old now, oneBackend.db.find .groups "adhoc" = some old ∧
        withHalfGroup.groups = (oneBackend.db.put .groups "adhoc" (old.touched now)).groups ∧
        withHalfGroup.mappings = oneBackend.db.mappings) ∨
      (oneBackend.db.find .groups "adhoc" = none ∧
        ∃ r, withHalfGroup.groups = oneBackend.db.groups ++ [r] ∧ r.Carries unknownBackend ∧
          withHalfGroup.mappings = oneBackend.db.mappings) ∨
      ((oneBackend.db.find .groups "adhoc").isSome ∧ unknownBackend.backends ≠ [] ∧
        RowSaved oneBackend.db withHalfGroup unknownBackend ∧
        (BackendsSaved oneBackend.db withHalfGroup "adhoc" unknownBackend.backends ∨
          BackendsAdded oneBackend.db withHalfGroup "adhoc" unknownBackend.backends)) :=
  createOrUpdateGroup_error oneBackend unknownBackend (.available fun _ => 0) 0 unknownBackend_run

end GroupApi

end TrinoGateway
