import TrinoGateway.Proof.Statements
import TrinoGateway.Spec.Api

/-!
# Nullable columns

The rows that the API stores have no `NULL` in them (`Db.NonNull`), so that no handler finds a nil
pointer.

* `exec_nonNull`: a statement keeps the rows so, if what it inserts is; an `UPDATE` writes the
  pointers that are not nil and leaves the other columns. What it reads is non-null then.
* `NullSafe` is the judgement of the programs that insert such rows only and do not panic as long
  as they read such rows. The repositories' functions and the handlers have it one by one.
* `handlers_never_panic`: **after any sequence of calls no row has a `NULL` and no handler panics.**
-/

namespace TrinoGateway

open Interact Prog

structure Backend.NonNull (b : Backend) : Prop where
  externalUrl : b.externalUrl.isSome
  isEnabled : b.isEnabled.isSome
  isHealthy : b.isHealthy.isSome
  uptimeSchedule : b.uptimeSchedule.isSome
  clusterLoad : b.clusterLoad.isSome
  thresholdClusterLoad : b.thresholdClusterLoad.isSome
  statsUpdatedAt : b.statsUpdatedAt.isSome

structure Group.NonNull (g : Group) : Prop where
  strategy : g.strategy.isSome
  isEnabled : g.isEnabled.isSome
  lastRoutedBackend : g.lastRoutedBackend.isSome

structure Policy.NonNull (p : Policy) : Prop where
  fallbackGroupId : p.fallbackGroupId.isSome
  isEnabled : p.isEnabled.isSome
  isAuthDelegated : p.isAuthDelegated.isSome
  setRequestSource : p.setRequestSource.isSome

/-- Every nullable column of the row is set; the queries have none. -/
def Tbl.NonNull : (t : Tbl) → t.Row → Prop
  | backends, r => r.NonNull
  | groups, r => r.NonNull
  | policies, r => r.NonNull
  | queries, _ => True

def Db.NonNull (db : Db) : Prop := ∀ t, ∀ r ∈ db.rows t, t.NonNull r

theorem Tbl.nonNull_onInsert {t : Tbl} {row : t.Row} (h : t.NonNull row) (now : ℤ) :
    t.NonNull (t.stored (t.onInsert now row)) := by
  have hcut : ∀ {v : Option String}, v.isSome → (v.map (cut 255)).isSome := fun hv =>
    Option.isSome_map.trans hv
  cases t with
  | backends =>
    have hschedule : ((row.uptimeSchedule.map (cut 255)).or (some "* * * * *")).isSome := by
      rw [Option.isSome_or, hcut h.uptimeSchedule, Bool.true_or]
    exact ⟨hcut h.externalUrl, h.isEnabled, h.isHealthy, hschedule, h.clusterLoad,
      h.thresholdClusterLoad, h.statsUpdatedAt⟩
  | groups => exact ⟨Option.isSome_map.trans h.strategy, h.isEnabled, hcut h.lastRoutedBackend⟩
  | policies =>
    exact ⟨h.fallbackGroupId, h.isEnabled, h.isAuthDelegated, hcut h.setRequestSource⟩
  | queries => trivial

/-- An `UPDATE` sets no column to `NULL`. -/
theorem Tbl.nonNull_onUpdate {t : Tbl} {old : t.Row} (h : t.NonNull old) (now : ℤ) (row : t.Row) :
    t.NonNull (t.stored (t.onUpdate now old row)) := by
  have hor : ∀ {α : Type} (new : Option α) {v : Option α}, v.isSome → (new.or v).isSome := by
    intro α new v hv
    rw [Option.isSome_or, hv, Bool.or_true]
  have htext : ∀ new {v : Option String}, v.isSome → (textPointer 255 new v).isSome := by
    intro new v hv
    unfold textPointer
    split
    · exact hv
    · rename_i hne
      rw [Option.isSome_map]
      exact Option.isSome_iff_ne_none.mpr (not_or.mp hne).1
  cases t with
  | backends =>
    exact ⟨htext _ h.externalUrl, hor _ h.isEnabled, hor _ h.isHealthy, htext _ h.uptimeSchedule,
      hor _ h.clusterLoad, hor _ h.thresholdClusterLoad, hor _ h.statsUpdatedAt⟩
  | groups =>
    exact ⟨Option.isSome_map.trans (hor _ h.strategy), hor _ h.isEnabled,
      htext _ h.lastRoutedBackend⟩
  | policies =>
    exact ⟨hor _ h.fallbackGroupId, hor _ h.isEnabled, hor _ h.isAuthDelegated,
      htext _ h.setRequestSource⟩
  | queries => trivial

/-- A row that is inserted has no `NULL`. -/
def Stmt.Complete : Stmt → Prop
  | insert t row => t.NonNull row
  | _ => True

/-- What is read has no `NULL`. -/
def Stmt.ReadsNonNull : (o : Stmt) → o.Ans → Prop
  | first t _, a => IfOk t.NonNull a
  | find t _, a | findPage t _, a => IfOk (fun rs => ∀ r ∈ rs, t.NonNull r) a
  | _, _ => True

theorem exec_nonNull {db : Db} (hdb : db.NonNull) {o : Stmt} (ho : o.Complete) (now : ℤ)
    (fault : Option DbErr) : (exec now fault o db).2.NonNull := by
  intro t r hr
  rcases exec_mem_rows hr with hr | ⟨row, rfl, ha⟩ | ⟨row, old, rfl, hold, ha⟩
  · exact hdb t r hr
  · obtain ⟨rfl, -⟩ := Db.accept_ok ha
    exact Tbl.nonNull_onInsert ho now
  · obtain ⟨rfl, -⟩ := Db.accept_ok ha
    exact Tbl.nonNull_onUpdate (hdb t old (Db.mem_of_find hold)) now row

theorem Db.mem_of_findPage {db : Db} {t : Tbl} {p : Page} {rs : List t.Row}
    (h : db.findPage t p = .ok rs) {r : t.Row} (hr : r ∈ rs) : r ∈ db.rows t := by
  unfold Db.findPage at h
  split at h
  · cases h
  · cases h
    have hdrop : r ∈ (((db.rows t).filter fun r =>
        p.filter.holds t r && p.range.all fun b => b.1 ≤ t.createdAt r && t.createdAt r ≤ b.2
          ).insertionSort fun r s => t.createdAt s ≤ t.createdAt r).drop p.offset.toNat := by
      split at hr
      · exact hr
      · exact List.mem_of_mem_take hr
    exact List.mem_of_mem_filter ((List.mem_insertionSort _).mp (List.mem_of_mem_drop hdrop))

/-- **Reads of rows without `NULL`.** -/
theorem exec_readsNonNull {db : Db} (hdb : db.NonNull) (o : Stmt) (now : ℤ)
    (fault : Option DbErr) : o.ReadsNonNull (exec now fault o db).1 := by
  cases fault with
  | some e => cases o <;> trivial
  | none =>
    cases o with
    | first t id =>
      simp only [exec, Db.answer]
      split
      · exact hdb t _ (Db.mem_of_find ‹_›)
      · trivial
    | find t w => exact fun r hr => hdb t r (List.mem_of_mem_filter hr)
    | findPage t p =>
      show IfOk (fun rs => ∀ r ∈ rs, t.NonNull r) (db.findPage t p)
      cases hpage : db.findPage t p with
      | error e => trivial
      | ok rs => exact fun r hr => hdb t r (Db.mem_of_findPage hpage hr)
    | _ => trivial

/-- The program inserts rows without `NULL` only. As long as it reads such rows it does not panic,
and it ends in `Q`. -/
abbrev NullSafe {α : Type} (p : Srv α) (Q : α → Prop) : Prop :=
  p.Meets Stmt.Complete Stmt.ReadsNonNull Q

theorem NullSafe.run {α : Type} {p : Srv α} {Q : α → Prop} (hp : NullSafe p Q) (env : Env)
    {w : World} (hw : w.db.NonNull) :
    (∃ a, (p.run (mysql env) w).1 = some a ∧ Q a) ∧ (p.run (mysql env) w).2.db.NonNull :=
  Meets.run (I := fun w : World => w.db.NonNull)
    (fun o _ ho hdb => ⟨exec_readsNonNull hdb o _ _, exec_nonNull hdb ho _ _⟩) hp hw

/-- The judgement of a function whose result is not looked at. -/
abbrev NeverPanics {α : Type} (p : Srv (Result α)) : Prop := NullSafe p (IfOk fun _ => True)

namespace Spine

variable {t : Tbl} {row : t.Row}

theorem nullSafe_findByID (t : Tbl) (id : String) : NullSafe (findByID t id) (IfOk t.NonNull) := by
  refine ⟨trivial, fun a ha => ?_⟩
  cases a with
  | error e => trivial
  | ok r => exact ha

theorem nullSafe_findMany (t : Tbl) (condition : List (String × SqlVal)) :
    NullSafe (findMany t condition) (IfOk fun rs => ∀ r ∈ rs, t.NonNull r) := by
  refine ⟨trivial, fun a ha => ?_⟩
  cases a with
  | error e => trivial
  | ok rs => exact ha

theorem nullSafe_findWithConditionByIDs (t : Tbl) (condition : List (String × SqlVal))
    (ids : List String) :
    NullSafe (findWithConditionByIDs t condition ids) (IfOk fun rs => ∀ r ∈ rs, t.NonNull r) := by
  refine ⟨trivial, fun a ha => ?_⟩
  cases a with
  | error e => trivial
  | ok rs => exact ha

/-- A preload fills in what is no column. -/
theorem nullSafe_preload {gs : List Group} (hgs : ∀ g ∈ gs, g.NonNull) :
    NullSafe (preload gs) (IfOk fun gs => ∀ g ∈ gs, g.NonNull) := by
  unfold preload
  split
  · exact fun g hg => by cases hg
  · refine ⟨trivial, fun a _ => ?_⟩
    cases a with
    | error e => trivial
    | ok ms =>
      intro g hg
      obtain ⟨g', hg', rfl⟩ := List.mem_map.mp hg
      have h := hgs g' hg'
      exact ⟨h.strategy, h.isEnabled, h.lastRoutedBackend⟩

theorem nullSafe_saveAssociations (rows : List GroupBackendsMapping) (q : StmtResult) :
    NullSafe (saveAssociations rows q) fun _ => True := by
  unfold saveAssociations
  split
  · exact ⟨trivial, fun _ _ => trivial⟩
  · trivial

theorem nullSafe_create (h : t.NonNull row) : NeverPanics (create t row) := by
  unfold create
  split
  · trivial
  · refine ⟨h, fun q _ => ?_⟩
    exact (nullSafe_saveAssociations _ q).bind fun q _ => ifOk_true _

theorem nullSafe_update (t : Tbl) (row : t.Row) : NeverPanics (update t row) := by
  refine ⟨trivial, fun q _ => (nullSafe_saveAssociations _ q).bind fun q _ => ?_⟩
  split
  · trivial
  · exact ifOk_true _

theorem nullSafe_delete (t : Tbl) (row : t.Row) : NeverPanics (delete t row) := by
  unfold delete
  split
  · refine ⟨trivial, fun q _ => ?_⟩
    simp only [ret_bind]
    split
    · trivial
    · exact ⟨trivial, fun q _ => ifOk_true _⟩
  · exact ⟨trivial, fun q _ => ifOk_true _⟩

theorem nullSafe_replaceAssociations (groupId : String) (ass : List GroupBackendsMapping) :
    NeverPanics (replaceAssociations groupId ass) := by
  refine ⟨trivial, fun q _ => (nullSafe_saveAssociations ass q).bind fun q _ => ?_⟩
  split
  · trivial
  · exact ⟨trivial, fun _ _ => trivial⟩

end Spine

namespace Repo

variable {t : Tbl} {find : String → Srv (Result t.Row)}

theorem nullSafe_update (t : Tbl) (row : t.Row) : NeverPanics (update t row) := by
  refine (Spine.nullSafe_update t row).bind fun res _ => ?_
  cases res with
  | error e =>
    simp only
    split <;> trivial
  | ok u => trivial

/-- A toggle reads its flag, which is there. -/
theorem nullSafe_setFlag (hfind : ∀ id, NullSafe (find id) (IfOk t.NonNull))
    {flag : t.Row → Option Bool} (hflag : ∀ row, t.NonNull row → (flag row).isSome)
    (withFlag : t.Row → Bool → t.Row) (v : Bool) (already : Result Unit) (id : String) :
    NeverPanics (setFlag t find flag withFlag v already id) := by
  refine (hfind id).andThen fun row hrow => Meets.deref (hflag row hrow) fun cur _ => ?_
  split
  · exact ifOk_true _
  · exact Spine.nullSafe_update t _

theorem nullSafe_delete (hfind : ∀ id, NullSafe (find id) (IfOk t.NonNull)) (id : String) :
    NeverPanics (delete t find id) :=
  (hfind id).andThen fun row _ => Spine.nullSafe_delete t row

end Repo

namespace GroupRepo

theorem nullSafe_find (id : String) : NullSafe (find id) (IfOk Group.NonNull) := by
  refine (Spine.nullSafe_findByID .groups id).andThen fun group hgroup => ?_
  refine (Spine.nullSafe_preload (List.forall_mem_singleton.mpr hgroup)).andThen fun gs hgs => ?_
  cases gs with
  | nil => exact hgroup
  | cons g gs => exact hgs g List.mem_cons_self

theorem nullSafe_findMany (conditions : List (String × SqlVal)) :
    NullSafe (findMany conditions) (IfOk fun gs => ∀ g ∈ gs, g.NonNull) :=
  (Spine.nullSafe_findMany .groups conditions).andThen fun _ hgs => Spine.nullSafe_preload hgs

theorem nullSafe_update (group : Group) : NeverPanics (update group) := by
  unfold update
  split
  · exact (Spine.nullSafe_replaceAssociations _ _).andThen fun _ _ => Repo.nullSafe_update _ _
  · exact Repo.nullSafe_update _ _

end GroupRepo

/-- What follows a read that may fail, in both cases. -/
theorem nullSafe_save {α : Type} {find : Srv (Result α)} {Q : Result α → Prop}
    {f : Result α → Srv (Result Unit)} (hfind : NullSafe find Q)
    (hupdate : ∀ a, NeverPanics (f (.ok a))) (hcreate : ∀ e, NeverPanics (f (.error e))) :
    NeverPanics (find.bind f) := by
  refine hfind.bind fun res _ => ?_
  cases res with
  | error e => exact hcreate e
  | ok a => exact hupdate a

/-- All rows of a table, each as a message. -/
theorem nullSafe_listAll {α β : Type} {find : Srv (Result (List α))} {P : α → Prop}
    {f : α → Srv (Result β)} (hfind : NullSafe find (IfOk fun as => ∀ a ∈ as, P a))
    (hf : ∀ a, P a → NeverPanics (f a)) : NeverPanics (find.andThen (traverse f)) := by
  refine hfind.andThen fun as has => ?_
  have hmsgs := Meets.traverse fun a ha => hf a (has a ha)
  exact hmsgs.mono fun res _ => ifOk_true res

namespace BackendApi

theorem nonNull_backendOf (req : BackendMsg) : (backendOf req).NonNull :=
  ⟨rfl, rfl, rfl, rfl, rfl, rfl, rfl⟩

theorem nullSafe_createOrUpdateBackend (req : BackendMsg) :
    NeverPanics (createOrUpdateBackend req) :=
  nullSafe_save (Spine.nullSafe_findByID .backends req.id)
    (fun _ => Repo.nullSafe_update .backends _)
    fun _ => Spine.nullSafe_create (t := .backends) (nonNull_backendOf req)

theorem nullSafe_setFlag {flag : Backend → Option Bool}
    (hflag : ∀ b : Backend, b.NonNull → (flag b).isSome) (withFlag : Backend → Bool → Backend)
    (v : Bool) (id : String) :
    NeverPanics (Repo.setFlag .backends BackendRepo.find flag withFlag v (.ok ()) id) :=
  Repo.nullSafe_setFlag (Spine.nullSafe_findByID .backends) hflag withFlag v (.ok ()) id

theorem nullSafe_updateClusterLoadBackend (id : String) (clusterLoad : ℤ) :
    NeverPanics (updateClusterLoadBackend id clusterLoad) := by
  refine (Spine.nullSafe_findByID .backends id).andThen fun b hb => ?_
  refine Meets.deref hb.clusterLoad fun _ _ => Meets.deref hb.statsUpdatedAt fun _ _ => ?_
  refine ⟨trivial, fun now _ => ?_⟩
  exact (Spine.nullSafe_findByID .backends _).andThen fun _ _ => Repo.nullSafe_update .backends _

theorem nullSafe_toBackendResponseProto {b : Backend} (h : b.NonNull) :
    NeverPanics (toBackendResponseProto b) := by
  unfold toBackendResponseProto
  split
  · trivial
  · refine Meets.deref h.externalUrl fun _ _ => Meets.deref h.isEnabled fun _ _ => ?_
    refine Meets.deref h.uptimeSchedule fun _ _ => Meets.deref h.clusterLoad fun _ _ => ?_
    refine Meets.deref h.thresholdClusterLoad fun _ _ => ?_
    exact Meets.deref h.statsUpdatedAt fun _ _ => Meets.deref h.isHealthy fun _ _ => trivial

theorem nullSafe_getBackend (id : String) : NeverPanics (getBackend id) :=
  (Spine.nullSafe_findByID .backends id).andThen fun _ hb => nullSafe_toBackendResponseProto hb

theorem nullSafe_listAllBackends : NeverPanics listAllBackends :=
  nullSafe_listAll (Spine.nullSafe_findMany .backends []) fun _ => nullSafe_toBackendResponseProto

end BackendApi

namespace GroupApi

theorem nonNull_groupOf (params : GroupCreateParams) : (groupOf params).NonNull := ⟨rfl, rfl, rfl⟩

theorem nullSafe_createOrUpdateGroup (params : GroupCreateParams) :
    NeverPanics (createOrUpdateGroup params) :=
  nullSafe_save (GroupRepo.nullSafe_find params.id) (fun _ => GroupRepo.nullSafe_update _)
    fun _ => Spine.nullSafe_create (t := .groups) (nonNull_groupOf params)

theorem nullSafe_toGroupResponseProto {g : Group} (h : g.NonNull) :
    NeverPanics (toGroupResponseProto g) := by
  refine Meets.deref h.strategy fun strategy _ => ?_
  split
  · trivial
  · exact Meets.deref h.isEnabled fun _ _ => Meets.deref h.lastRoutedBackend fun _ _ => trivial

theorem nullSafe_getGroup (id : String) : NeverPanics (Server.getGroup id) :=
  (GroupRepo.nullSafe_find id).andThen fun _ hg => nullSafe_toGroupResponseProto hg

theorem nullSafe_listAllGroups : NeverPanics Server.listAllGroups :=
  nullSafe_listAll (GroupRepo.nullSafe_findMany []) fun _ => nullSafe_toGroupResponseProto

variable (cfg : Config)

theorem nullSafe_load {b : Backend} (hb : b.NonNull) : NullSafe (load cfg b) fun _ => True := by
  have hload : NullSafe (deref b.clusterLoad : Srv ℤ) fun _ => True := by
    obtain ⟨l, hl⟩ := Option.isSome_iff_exists.mp hb.clusterLoad
    rw [hl]
    trivial
  refine ⟨trivial, fun curr _ => ?_⟩
  simp only [ret_bind]
  split
  · exact hload
  · refine Meets.deref hb.statsUpdatedAt fun statsUpdatedAt _ => ?_
    split
    · exact hload
    · trivial

theorem nullSafe_leastLoaded {bs : List Backend} (hbs : ∀ b ∈ bs, b.NonNull) {best : Backend}
    (hbest : best.NonNull) : NullSafe (leastLoaded cfg best bs) fun _ => True := by
  induction bs generalizing best with
  | nil => trivial
  | cons b bs ih =>
    have hb := hbs b List.mem_cons_self
    refine (nullSafe_load cfg hb).bind fun lb _ => (nullSafe_load cfg hbest).bind fun ll _ => ?_
    refine ih (fun b' hb' => hbs b' (List.mem_cons_of_mem b hb')) ?_
    split
    · exact hb
    · exact hbest

theorem nullSafe_selectBackend {group : Group} (hgroup : group.NonNull) {first : Backend}
    (hfirst : first.NonNull) {bs : List Backend} (hbs : ∀ b ∈ bs, b.NonNull) :
    NullSafe (selectBackend cfg group first bs) fun _ => True := by
  refine Meets.deref hgroup.strategy fun strategy _ => ?_
  split
  · exact Meets.deref hgroup.lastRoutedBackend fun _ _ => trivial
  · split
    · exact (nullSafe_leastLoaded cfg hbs hfirst).bind fun _ _ => trivial
    · trivial

/-- The pointers of the update that records the choice are nil but for one. -/
theorem nullSafe_findBackend {group : Group} (hgroup : group.NonNull) :
    NeverPanics (findBackend cfg group) := by
  refine (Spine.nullSafe_findWithConditionByIDs .backends _ _).andThen fun bs hbs => ?_
  cases bs with
  | nil => trivial
  | cons first bs =>
    have hfirst := hbs first List.mem_cons_self
    refine (nullSafe_selectBackend cfg hgroup hfirst hbs).bind fun selected _ => ?_
    exact (GroupRepo.nullSafe_update _).bind fun _ _ => trivial

theorem nullSafe_findBackends {gs : List Group} (hgs : ∀ g ∈ gs, g.NonNull) :
    NullSafe (findBackends cfg gs) (IfOk fun bs => bs.length = gs.length) := by
  induction gs with
  | nil => exact rfl
  | cons g gs ih =>
    have htail := ih fun g' hg' => hgs g' (List.mem_cons_of_mem g hg')
    refine (nullSafe_findBackend cfg (hgs g List.mem_cons_self)).andThen fun b _ => ?_
    exact htail.andThen fun bs hbs => congrArg (· + 1) hbs

theorem nullSafe_evaluateBackendForGroups (groups : List String) :
    NeverPanics (evaluateBackendForGroups cfg groups) := by
  refine (GroupRepo.nullSafe_findMany _).andThen fun gs hgs => ?_
  have heligible : ∀ g ∈ gs.filter fun g => groups.contains g.id, g.NonNull :=
    fun g hg => hgs g (List.mem_of_mem_filter hg)
  refine (nullSafe_findBackends cfg heligible).andThen fun bs hlen => ?_
  by_cases hany : bs.any Option.isSome = true
  · rw [if_pos hany]
    cases bs with
    | nil => cases hany
    | cons b bs =>
      -- a backend was looked for in each group, so there is a first group
      obtain ⟨g, gs', heq⟩ := List.exists_cons_of_length_eq_add_one hlen.symm
      rw [heq]
      trivial
  · rw [if_neg hany]
    refine (GroupRepo.nullSafe_find _).andThen fun group hgroup => ?_
    refine (nullSafe_findBackend cfg hgroup).andThen fun b _ => ?_
    cases b with
    | none => trivial
    | some b => trivial

end GroupApi

namespace PolicyApi

theorem nonNull_policyOf (params : PolicyCreateParams) : (policyOf params).NonNull :=
  ⟨rfl, rfl, rfl, rfl⟩

theorem nullSafe_createOrUpdatePolicy (params : PolicyCreateParams) :
    NeverPanics (createOrUpdatePolicy params) :=
  nullSafe_save (Spine.nullSafe_findByID .policies params.id)
    (fun _ => Repo.nullSafe_update .policies _)
    fun _ => Spine.nullSafe_create (t := .policies) (nonNull_policyOf params)

theorem nullSafe_toPolicyResponseProto {p : Policy} (h : p.NonNull) :
    NeverPanics (toPolicyResponseProto p) := by
  unfold toPolicyResponseProto
  split
  · trivial
  · refine Meets.deref h.fallbackGroupId fun _ _ => Meets.deref h.isEnabled fun _ _ => ?_
    refine Meets.deref h.isAuthDelegated fun _ _ => ?_
    exact Meets.deref h.setRequestSource fun _ _ => trivial

theorem nullSafe_getPolicy (id : String) : NeverPanics (Server.getPolicy id) :=
  (Spine.nullSafe_findByID .policies id).andThen fun _ hp => nullSafe_toPolicyResponseProto hp

theorem nullSafe_listAllPolicies : NeverPanics Server.listAllPolicies :=
  nullSafe_listAll (Spine.nullSafe_findMany .policies []) fun _ => nullSafe_toPolicyResponseProto

theorem nullSafe_findMany (params : FindManyParams) :
    NullSafe (findMany params) (IfOk fun ps => ∀ p ∈ ps, p.NonNull) :=
  Spine.nullSafe_findMany .policies params.conditions

theorem nullSafe_findGroupsForPolicyTypes (ruleType ruleValue : String) :
    NeverPanics (findGroupsForPolicyTypes ruleType ruleValue) := by
  refine (nullSafe_findMany _).andThen fun ps _ => ?_
  simp only
  split <;> trivial

theorem nullSafe_evaluateGroupsForClient (ord : MapOrder) (params : EvaluateClientParams) :
    NeverPanics (evaluateGroupsForClient ord params) := by
  refine (nullSafe_findGroupsForPolicyTypes _ _).andThen fun _ _ => ?_
  refine (nullSafe_findGroupsForPolicyTypes _ _).andThen fun _ _ => ?_
  refine (nullSafe_findGroupsForPolicyTypes _ _).andThen fun _ _ => ?_
  exact (nullSafe_findGroupsForPolicyTypes _ _).andThen fun _ _ => trivial

theorem nullSafe_evaluateAuthDelegationForClient (port : ℤ) :
    NeverPanics (evaluateAuthDelegationForClient port) := by
  unfold evaluateAuthDelegationForClient
  split
  · trivial
  · exact (nullSafe_findMany _).andThen fun _ _ => trivial

theorem nullSafe_evaluateRequestSourceForClient (port : ℤ) :
    NeverPanics (evaluateRequestSourceForClient port) := by
  unfold evaluateRequestSourceForClient
  split
  · trivial
  · refine (nullSafe_findMany _).andThen fun ps hps => ?_
    cases ps with
    | nil => trivial
    | cons p ps => exact Meets.deref (hps p List.mem_cons_self).setRequestSource fun _ _ => trivial

end PolicyApi

namespace QueryApi

theorem nullSafe_createOrUpdateQuery (params : QueryCreateParams) :
    NeverPanics (createOrUpdateQuery params) :=
  nullSafe_save (Spine.nullSafe_findByID .queries params.id)
    (fun _ => Repo.nullSafe_update .queries _)
    fun _ => Spine.nullSafe_create (t := .queries) trivial

theorem nullSafe_listQueries (req : QueriesListRequest) : NeverPanics (Server.listQueries req) := by
  refine Meets.andThen (P := fun _ => True) ⟨trivial, fun a _ => ?_⟩ fun _ _ => trivial
  cases a <;> trivial

end QueryApi

/-- **No handler panics on rows without `NULL`**, and none stores one. -/
theorem nullSafe_handle (g : GatewayServer) (m : Method) (message : m.Req) :
    NeverPanics (g.handle m message) := by
  cases m with
  | check => trivial
  | createOrUpdateBackend => exact BackendApi.nullSafe_createOrUpdateBackend message
  | getBackend => exact BackendApi.nullSafe_getBackend message
  | listAllBackends => exact BackendApi.nullSafe_listAllBackends
  | deleteBackend => exact Repo.nullSafe_delete (Spine.nullSafe_findByID .backends) message
  | enableBackend => exact BackendApi.nullSafe_setFlag (fun _ hb => hb.isEnabled) _ true message
  | disableBackend => exact BackendApi.nullSafe_setFlag (fun _ hb => hb.isEnabled) _ false message
  | markHealthyBackend =>
    exact BackendApi.nullSafe_setFlag (fun _ hb => hb.isHealthy) _ true message
  | markUnhealthyBackend =>
    exact BackendApi.nullSafe_setFlag (fun _ hb => hb.isHealthy) _ false message
  | updateClusterLoadBackend =>
    exact BackendApi.nullSafe_updateClusterLoadBackend message.1 message.2
  | createOrUpdateGroup => exact GroupApi.nullSafe_createOrUpdateGroup _
  | getGroup => exact GroupApi.nullSafe_getGroup message
  | listAllGroups => exact GroupApi.nullSafe_listAllGroups
  | deleteGroup => exact Repo.nullSafe_delete (t := .groups) GroupRepo.nullSafe_find message
  | enableGroup | disableGroup =>
    exact Repo.nullSafe_setFlag (t := .groups) GroupRepo.nullSafe_find
      (fun _ hg => Group.NonNull.isEnabled hg) _ _ _ message
  | evaluateBackendForGroups => exact GroupApi.nullSafe_evaluateBackendForGroups g.cfg message
  | createOrUpdatePolicy => exact PolicyApi.nullSafe_createOrUpdatePolicy _
  | getPolicy => exact PolicyApi.nullSafe_getPolicy message
  | listAllPolicies => exact PolicyApi.nullSafe_listAllPolicies
  | deletePolicy => exact Repo.nullSafe_delete (Spine.nullSafe_findByID .policies) message
  | enablePolicy | disablePolicy =>
    exact Repo.nullSafe_setFlag (Spine.nullSafe_findByID .policies)
      (fun _ hp => Policy.NonNull.isEnabled hp) _ _ _ message
  | evaluateGroupsForClient => exact PolicyApi.nullSafe_evaluateGroupsForClient g.ord message
  | evaluateAuthDelegationForClient =>
    exact PolicyApi.nullSafe_evaluateAuthDelegationForClient message
  | evaluateRequestSourceForClient =>
    exact PolicyApi.nullSafe_evaluateRequestSourceForClient message
  | createOrUpdateQuery => exact QueryApi.nullSafe_createOrUpdateQuery message
  | getQuery => exact (Spine.nullSafe_findByID .queries message).andThen fun _ _ => trivial
  | listQueries => exact QueryApi.nullSafe_listQueries message
  | findBackendForQuery =>
    exact (Spine.nullSafe_findByID .queries message).andThen fun _ _ => trivial

/-- A call of the API. Each may find the maps in another order. -/
structure ApiCall where
  server : GatewayServer
  method : Method
  message : method.Req

namespace ApiCall

def prog (c : ApiCall) : Srv (Result c.method.Resp) := c.server.handle c.method c.message

/-- The world after some calls, one after another. -/
def runAll (env : Env) (calls : List ApiCall) (w : World) : World :=
  calls.foldl (fun w c => (c.prog.run (mysql env) w).2) w

theorem runAll_nonNull (env : Env) (calls : List ApiCall) {w : World} (hw : w.db.NonNull) :
    (runAll env calls w).db.NonNull := by
  induction calls generalizing w with
  | nil => exact hw
  | cons c calls ih =>
    have hstep := ((nullSafe_handle c.server c.method c.message).run env hw).2
    exact ih hstep

/-- **Nil pointers.** From empty tables, after any sequence of calls, whatever statements of them
failed, no stored row has a `NULL` in a nullable column, and no call panics. -/
theorem handlers_never_panic (env : Env) (calls : List ApiCall) :
    (runAll env calls ⟨{}, 0⟩).db.NonNull ∧
    ∀ (c : ApiCall) (env' : Env), ∃ res,
      (c.prog.run (mysql env') (runAll env calls ⟨{}, 0⟩)).1 = some res := by
  have hempty : ({} : Db).NonNull := by
    intro t r hr
    cases t <;> cases hr
  have hdb := runAll_nonNull env calls (w := ⟨{}, 0⟩) hempty
  refine ⟨hdb, fun c env' => ?_⟩
  obtain ⟨⟨res, hres, -⟩, -⟩ := (nullSafe_handle c.server c.method c.message).run env' hdb
  exact ⟨res, hres⟩

end ApiCall

end TrinoGateway
