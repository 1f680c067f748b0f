import TrinoGateway.Spec.GroupApi
import TrinoGateway.Proof.Repo

/-!
# Choosing a backend for a list of groups

* `findBackend_spec`: for one group, a backend is found among its active ones, none if it
  has none, and a panic means a `NULL` in a column that the strategy reads.
* `findBackends_spec` lifts this to the loop over the eligible groups.
* `evaluateBackendForGroups_correct_iff`: the choice meets its contract on a store **if and
  only if** the first eligible group has an active backend whenever some eligible group has
  one, and no column read is `NULL`. The source always takes the first eligible group.
-/

namespace TrinoGateway

open Interact Prog

/-- Round robin picks the successor of the last routed backend. -/
theorem roundRobin_isNext {ids : List String} (hne : ids ≠ []) (last : String) :
    Rotation.IsNext ids last (GroupApi.roundRobin ids last) := by
  unfold GroupApi.roundRobin
  simp only
  set sorted := (ids ++ [last]).insertionSort (· ≤ ·) with hsorted
  have hmem : last ∈ sorted := by simp [hsorted]
  have hlt := Rotation.wrapNext_lt last (List.ne_nil_of_mem hmem)
  refine Rotation.isNext_wrapNext hne ?_
  rw [← hsorted, List.getD_eq_getElem?_getD, List.getElem?_eq_getElem hlt, Option.getD_some]

theorem roundRobin_mem {ids : List String} (hne : ids ≠ []) (last : String) :
    GroupApi.roundRobin ids last ∈ ids :=
  (roundRobin_isNext hne last).mem

namespace GroupApi

/-- The load of a backend at a time, none where it dereferences a `NULL`. -/
def loadAt (cfg : Config) (curr : ℤ) (b : Backend) : Option ℤ :=
  if cfg.statsValiditySecs = 0 then b.clusterLoad
  else b.statsUpdatedAt.bind fun u =>
    if curr - u ≤ cfg.statsValiditySecs then b.clusterLoad else some 0

variable (cfg : Config) (env : Env) (w : World)

theorem run_load (b : Backend) :
    (load cfg b).run (mysql env) w = (loadAt cfg (env.clock w.tick) b, w.next) := by
  simp only [load, bind_eq, perform_bind, run_op, mysql_unixNow, loadAt]
  split
  · cases b.clusterLoad <;> rfl
  · cases b.statsUpdatedAt with
    | none => rfl
    | some u =>
      simp only [deref_some, ret_bind, Option.bind_some]
      split
      · cases b.clusterLoad <;> rfl
      · rfl

/-- The columns that the load of a backend reads, for every time. -/
def HasLoad (b : Backend) : Prop :=
  b.clusterLoad ≠ none ∧ (cfg.statsValiditySecs ≠ 0 → b.statsUpdatedAt ≠ none)

theorem loadAt_ne_none {b : Backend} (h : HasLoad cfg b) (curr : ℤ) : loadAt cfg curr b ≠ none := by
  obtain ⟨hl, hs⟩ := h
  unfold loadAt
  split
  · exact hl
  · rename_i h0
    obtain ⟨u, hu⟩ := Option.ne_none_iff_exists'.mp (hs h0)
    rw [hu, Option.bind_some]
    split
    · exact hl
    · simp

/-- At some time the load of a backend without these columns dereferences a `NULL`. -/
theorem exists_loadAt_none {b : Backend} (h : ¬ HasLoad cfg b) : ∃ curr, loadAt cfg curr b = none := by
  unfold loadAt
  by_cases h0 : cfg.statsValiditySecs = 0
  · have hl : b.clusterLoad = none := by
      by_contra hl
      exact h ⟨hl, fun hc => absurd h0 hc⟩
    exact ⟨0, by rw [if_pos h0]; exact hl⟩
  · cases hu : b.statsUpdatedAt with
    | none => exact ⟨0, by simp [h0]⟩
    | some u =>
      have hl : b.clusterLoad = none := by
        by_contra hl
        exact h ⟨hl, fun _ => by simp [hu]⟩
      -- while the statistics are valid the load is read
      exact ⟨u + cfg.statsValiditySecs, by
        rw [if_neg h0, Option.bind_some, if_pos (by omega)]; exact hl⟩

/-- The scan for the least loaded backend. -/
theorem run_leastLoaded (best : Backend) (bs : List Backend) :
    ∃ r n, (leastLoaded cfg best bs).run (mysql env) w = (r, { w with tick := n }) ∧
      (∀ b, r = some b → b ∈ best :: bs) ∧
      (r = none → ∃ b ∈ best :: bs, ¬ HasLoad cfg b) ∧
      ∀ curr, (∀ k, env.clock k = curr) → (∃ b ∈ bs, loadAt cfg curr b = none) → r = none := by
  induction bs generalizing best w with
  | nil =>
    refine ⟨some best, w.tick, rfl, ?_, ?_, ?_⟩
    · intro b hb; cases hb; exact List.mem_cons_self ..
    · intro h; cases h
    · rintro curr - ⟨b, hb, -⟩; cases hb
  | cons b bs ih =>
    unfold leastLoaded
    simp only [bind_eq]
    cases hb : loadAt cfg (env.clock w.tick) b with
    | none =>
      have hr := run_load cfg env w b
      rw [hb] at hr
      refine ⟨none, _, run_bind_none _ hr, ?_, ?_, fun _ _ _ => rfl⟩
      · intro b' h; cases h
      · exact fun _ => ⟨b, by simp, fun hh => loadAt_ne_none cfg hh _ hb⟩
    | some lb =>
      have hr := run_load cfg env w b
      rw [hb] at hr
      rw [run_bind_some _ hr]
      cases hl : loadAt cfg (env.clock w.next.tick) best with
      | none =>
        have hr' := run_load cfg env w.next best
        rw [hl] at hr'
        refine ⟨none, _, run_bind_none _ hr', ?_, ?_, fun _ _ _ => rfl⟩
        · intro b' h; cases h
        · exact fun _ => ⟨best, by simp, fun hh => loadAt_ne_none cfg hh _ hl⟩
      | some ll =>
        have hr' := run_load cfg env w.next best
        rw [hl] at hr'
        rw [run_bind_some _ hr']
        obtain ⟨r, n, hrun, hmem, hnone, hclock⟩ :=
          ih w.next.next (if lb < ll then b else best)
        have hsub : ∀ b', b' ∈ (if lb < ll then b else best) :: bs → b' ∈ best :: b :: bs := by
          intro b' h
          rcases List.mem_cons.mp h with rfl | h
          · split <;> simp
          · simp [h]
        refine ⟨r, n, hrun, fun b' h => hsub b' (hmem b' h), ?_, ?_⟩
        · intro h
          obtain ⟨b', hb', hc⟩ := hnone h
          exact ⟨b', hsub b' hb', hc⟩
        · rintro curr hcurr ⟨b', hb', hnil⟩
          rcases List.mem_cons.mp hb' with rfl | hb'
          · rw [hcurr, hnil] at hb; cases hb
          · exact hclock curr hcurr ⟨b', hb', hnil⟩

/-- The columns that a group's strategy reads of the group and of its active backends. -/
def HasColumns (group : Group) (activeBackends : List Backend) : Prop :=
  ∃ strategy, group.strategy = some strategy ∧
    (strategy = "round_robin" → group.lastRoutedBackend ≠ none) ∧
    (strategy = "least_load" → ∀ b ∈ activeBackends, HasLoad cfg b)

theorem run_selectBackend (group : Group) (first : Backend) (rest : List Backend) :
    ∃ r n, (selectBackend cfg group first (first :: rest)).run (mysql env) w =
        (r, { w with tick := n }) ∧
      (∀ id, r = some id → id ∈ (first :: rest).map Backend.id) ∧
      (r = none → ¬ HasColumns cfg group (first :: rest)) := by
  unfold selectBackend
  cases hs : group.strategy with
  | none =>
    refine ⟨none, w.tick, by simp, ?_, ?_⟩
    · intro id h; cases h
    · rintro - ⟨s, hs', -⟩; rw [hs] at hs'; cases hs'
  | some s =>
    simp only [deref_some, bind_eq, ret_bind]
    by_cases hrr : s = "round_robin"
    · rw [if_pos hrr]
      cases hl : group.lastRoutedBackend with
      | none =>
        refine ⟨none, w.tick, by simp, ?_, ?_⟩
        · intro id h; cases h
        · rintro - ⟨s', hs', h1, -⟩
          rw [hs] at hs'; cases hs'
          exact h1 hrr hl
      | some last =>
        refine ⟨some _, w.tick, rfl, ?_, ?_⟩
        · intro id h; cases h; exact roundRobin_mem (by simp) last
        · intro h; cases h
    · rw [if_neg hrr]
      by_cases hll : s = "least_load"
      · rw [if_pos hll]
        obtain ⟨r, n, hrun, hmem, hnone, -⟩ := run_leastLoaded cfg env w first (first :: rest)
        cases r with
        | none =>
          refine ⟨none, n, run_bind_none _ hrun, ?_, ?_⟩
          · intro id h; cases h
          · rintro - ⟨s', hs', -, h2⟩
            rw [hs] at hs'; cases hs'
            obtain ⟨b, hb, hc⟩ := hnone rfl
            exact hc (h2 hll b (by simpa using hb))
        | some b =>
          refine ⟨some b.id, n, run_bind_some _ hrun, ?_, ?_⟩
          · intro id h; cases h
            exact List.mem_map_of_mem (by simpa using hmem b rfl)
          · intro h; cases h
      · rw [if_neg hll]
        refine ⟨some first.id, w.tick, rfl, ?_, ?_⟩
        · intro id h; cases h; simp
        · intro h; cases h

/-- A `NULL` among the columns read makes the selection panic, at some time. -/
theorem exists_selectBackend_none (group : Group) (first : Backend) (rest : List Backend)
    (h : ¬ HasColumns cfg group (first :: rest)) :
    ∃ curr, ∀ (env : Env) (w : World), (∀ k, env.clock k = curr) →
      ((selectBackend cfg group first (first :: rest)).run (mysql env) w).1 = none := by
  unfold selectBackend
  cases hs : group.strategy with
  | none => exact ⟨0, fun env w _ => by simp⟩
  | some s =>
    simp only [deref_some, bind_eq, ret_bind]
    by_cases hrr : s = "round_robin"
    · have hl : group.lastRoutedBackend = none := by
        by_contra hl
        refine h ⟨s, hs, fun _ => hl, fun hll => ?_⟩
        rw [hrr] at hll; exact absurd hll (by decide)
      exact ⟨0, fun env w _ => by simp [hrr, hl]⟩
    · have hll : s = "least_load" := by
        by_contra hll
        exact h ⟨s, hs, fun hc => absurd hc hrr, fun hc => absurd hc hll⟩
      have hex : ∃ b ∈ first :: rest, ¬ HasLoad cfg b := by
        by_contra hall
        push Not at hall
        exact h ⟨s, hs, fun hc => absurd hc hrr, fun _ => hall⟩
      obtain ⟨b, hb, hbl⟩ := hex
      obtain ⟨curr, hcurr⟩ := exists_loadAt_none cfg hbl
      refine ⟨curr, fun env w hclock => ?_⟩
      rw [if_neg hrr, if_pos hll]
      obtain ⟨r, n, hrun, -, -, hnone⟩ := run_leastLoaded cfg env w first (first :: rest)
      rw [hnone curr hclock ⟨b, hb, hcurr⟩] at hrun
      rw [run_bind_none _ hrun]

end GroupApi

/-- The active backends among these ids. -/
def Db.activeAmong (db : Db) (ids : List String) : List Backend :=
  db.backends.filter fun b => b.isEnabled = some true ∧ b.isHealthy = some true ∧ b.id ∈ ids

/-- The active backends that are mapped to a group. -/
def Db.activeIn (db : Db) (groupId : String) : List Backend :=
  db.activeAmong ((db.mappings.filter fun m => m.groupId = groupId).map
    GroupBackendsMapping.backendId)

/-- Two databases with the same backends and mappings. -/
structure Db.SameBackends (db db' : Db) : Prop where
  backends : db'.backends = db.backends
  mappings : db'.mappings = db.mappings

theorem Db.SameBackends.refl (db : Db) : db.SameBackends db := ⟨rfl, rfl⟩

theorem Db.SameBackends.trans {db₁ db₂ db₃ : Db} (h : db₁.SameBackends db₂)
    (h' : db₂.SameBackends db₃) : db₁.SameBackends db₃ :=
  ⟨h'.backends.trans h.backends, h'.mappings.trans h.mappings⟩

theorem Db.SameBackends.activeIn {db db' : Db} (h : db.SameBackends db') (groupId : String) :
    db'.activeIn groupId = db.activeIn groupId := by
  simp only [Db.activeIn, Db.activeAmong, h.backends, h.mappings]

theorem Db.SameBackends.withMappings {db db' : Db} (h : db.SameBackends db') :
    db'.withMappings = db.withMappings := by
  funext g
  simp only [Db.withMappings, h.mappings]

namespace GroupApi

variable (cfg : Config) (env : Env) (w : World)

theorem run_getAllActiveByIDs (ids : List String) :
    (BackendRepo.getAllActiveByIDs ids).run (mysql env) w =
      (some (env.read w (.ok (w.db.activeAmong ids))), w.next) := by
  unfold BackendRepo.getAllActiveByIDs
  rw [Spine.run_findWithConditionByIDs]
  congr 4
  apply List.filter_congr
  intro b _
  simp [Where.holds, Tbl.col, Tbl.id, Bool.and_assoc]

/-- The active backends of a group read with its mappings. -/
theorem run_getAllActive (g : Group) :
    (BackendRepo.getAllActiveByIDs (((w.db.withMappings g).groupBackendsMappings.getD []).map
      GroupBackendsMapping.backendId)).run (mysql env) w =
      (some (env.read w (.ok (w.db.activeIn g.id))), w.next) :=
  run_getAllActiveByIDs env w _

/-- The write of the last routed backend, whatever becomes of it, touches groups only. -/
theorem run_updateLastRouted (groupId selected : String) :
    ∃ res w', (GroupRepo.update { id := groupId, lastRoutedBackend := some selected }).run
        (mysql env) w = (some res, w') ∧ w.db.SameBackends w'.db := by
  have h := Repo.run_update env w .groups { id := groupId, lastRoutedBackend := some selected } rfl
  obtain ⟨rs, hrs⟩ := mysql_updates_db env w .groups
    { id := groupId, lastRoutedBackend := some selected }
  refine ⟨_, _, h, ?_⟩
  rw [hrs]
  exact ⟨rfl, rfl⟩

/-- What is found for a group: one of its active backends, or none if it has none. -/
def Found (db : Db) (groupId : String) : Option String → Prop
  | none => db.activeIn groupId = []
  | some b => b ∈ (db.activeIn groupId).map Backend.id

/-- A group all of whose columns that its selection reads are there. -/
def Ready (db : Db) (g : Group) : Prop :=
  db.activeIn g.id ≠ [] → HasColumns cfg g (db.activeIn g.id)

/-- **The specification of `findBackend`** on a group read with its mappings. -/
theorem findBackend_spec (g : Group) :
    ∃ r w', (findBackend cfg (w.db.withMappings g)).run (mysql env) w = (r, w') ∧
      w.db.SameBackends w'.db ∧
      match r with
      | none => ¬ Ready cfg w.db g
      | some (.error _) => ∃ k, env.faults k ≠ none
      | some (.ok b) => Found w.db g.id b := by
  unfold findBackend
  rcases read_run (run_getAllActive env w g) with ⟨e, hfault, hact⟩ | hact
  · exact ⟨_, _, run_andThen_error _ hact, Db.SameBackends.refl _, hfault⟩
  · cases ha : w.db.activeIn g.id with
    | nil =>
      rw [ha] at hact
      exact ⟨_, _, run_andThen_ok _ hact, Db.SameBackends.refl _, ha⟩
    | cons first rest =>
      rw [ha] at hact
      simp only [run_andThen_ok _ hact, bind_eq]
      obtain ⟨r, n, hrun, hmem, hnone⟩ :=
        run_selectBackend cfg env w.next (w.db.withMappings g) first rest
      cases r with
      | none =>
        refine ⟨none, _, run_bind_none _ hrun, ⟨rfl, rfl⟩, fun hready => ?_⟩
        rw [← ha] at hnone
        exact hnone rfl (hready (by simp [ha]))
      | some id =>
        rw [run_bind_some _ hrun]
        -- whatever becomes of the write, the id selected is the answer
        obtain ⟨res, w', hupd, hsame⟩ := run_updateLastRouted env { w.next with tick := n } g.id id
        refine ⟨_, w', run_bind_some _ hupd, hsame, ?_⟩
        have hactive := hmem id rfl
        rw [← ha] at hactive
        exact hactive

/-- A group that is not ready makes its selection panic, at some time. -/
theorem exists_findBackend_none {db : Db} {g : Group} (h : ¬ Ready cfg db g) :
    ∃ curr, ∀ w : World, db.SameBackends w.db →
      ((findBackend cfg (w.db.withMappings g)).run
        (mysql (.available fun _ => curr)) w).1 = none := by
  unfold Ready at h
  push Not at h
  obtain ⟨hne, hcols⟩ := h
  cases ha : db.activeIn g.id with
  | nil => exact absurd ha hne
  | cons first rest =>
    rw [ha] at hcols
    obtain ⟨curr, hcurr⟩ := exists_selectBackend_none cfg g first rest hcols
    refine ⟨curr, fun w hw => ?_⟩
    unfold findBackend
    have hact := run_getAllActive (.available fun _ => curr) w g
    rw [read_available, hw.activeIn, ha] at hact
    simp only [run_andThen_ok _ hact, bind_eq]
    -- the mappings of the group play no part in the selection
    have hnone : ((selectBackend cfg (w.db.withMappings g) first (first :: rest)).run
        (mysql (.available fun _ => curr)) w.next).1 = none :=
      hcurr (.available fun _ => curr) w.next (fun _ => rfl)
    rw [run_bind_none _ (Prod.ext hnone rfl)]

variable {db : Db}

theorem found_of_same {db' : Db} (h : db.SameBackends db') (groupId : String) (b : Option String) :
    Found db' groupId b ↔ Found db groupId b := by
  cases b <;> simp only [Found, h.activeIn]

theorem ready_of_same {db' : Db} (h : db.SameBackends db') (g : Group) :
    Ready cfg db' g ↔ Ready cfg db g := by
  simp only [Ready, h.activeIn]

theorem findBackends_spec (gs : List Group) (hdb : db.SameBackends w.db) :
    ∃ r w', (findBackends cfg (gs.map db.withMappings)).run (mysql env) w = (r, w') ∧
      db.SameBackends w'.db ∧
      match r with
      | none => ∃ g ∈ gs, ¬ Ready cfg db g
      | some (.error _) => ∃ k, env.faults k ≠ none
      | some (.ok bs) => List.Forall₂ (fun g b => Found db g.id b) gs bs := by
  induction gs generalizing w with
  | nil => exact ⟨_, w, rfl, hdb, .nil⟩
  | cons g gs ih =>
    obtain ⟨r, w₁, hrun, hsame, hr⟩ := findBackend_spec cfg env w g
    rw [hdb.withMappings] at hrun
    simp only [List.map_cons, findBackends]
    cases r with
    | none =>
      rw [ready_of_same cfg hdb] at hr
      exact ⟨none, w₁, run_bind_none _ hrun, hdb.trans hsame, g, by simp, hr⟩
    | some res =>
      cases res with
      | error e => exact ⟨_, w₁, run_andThen_error _ hrun, hdb.trans hsame, hr⟩
      | ok b =>
        rw [run_andThen_ok _ hrun]
        simp only [found_of_same hdb] at hr
        obtain ⟨r, w₂, hrun₂, hsame₂, hr₂⟩ := ih w₁ (hdb.trans hsame)
        cases r with
        | none =>
          obtain ⟨g', hg', hready⟩ := hr₂
          exact ⟨none, w₂, run_bind_none _ hrun₂, hsame₂, g', by simp [hg'], hready⟩
        | some res =>
          cases res with
          | error e => exact ⟨_, w₂, run_andThen_error _ hrun₂, hsame₂, hr₂⟩
          | ok bs => exact ⟨_, w₂, run_andThen_ok _ hrun₂, hsame₂, .cons hr hr₂⟩

theorem exists_findBackends_none {gs : List Group} (h : ∃ g ∈ gs, ¬ Ready cfg db g) :
    ∃ curr, ∀ w : World, db.SameBackends w.db →
      ((findBackends cfg (gs.map db.withMappings)).run
        (mysql (.available fun _ => curr)) w).1 = none := by
  obtain ⟨g, hg, hready⟩ := h
  obtain ⟨curr, hcurr⟩ := exists_findBackend_none cfg hready
  refine ⟨curr, fun w hw => ?_⟩
  induction gs generalizing w with
  | nil => cases hg
  | cons g' gs ih =>
    simp only [List.map_cons, findBackends]
    obtain ⟨r, w₁, hrun, hsame, hr⟩ := findBackend_spec cfg (.available fun _ => curr) w g'
    rw [hw.withMappings] at hrun
    cases r with
    | none => rw [andThen, run_bind_none _ hrun]
    | some res =>
      cases res with
      | error e => exact absurd rfl (hr.choose_spec)
      | ok b =>
        rw [run_andThen_ok _ hrun]
        rcases List.mem_cons.mp hg with rfl | hg
        · have := hcurr w hw
          rw [hw.withMappings, hrun] at this
          cases this
        · have hnone := ih hg w₁ (hw.trans hsame)
          rw [andThen, run_bind_none _ (Prod.ext hnone rfl)]

/-- The requested groups that are enabled, in the order of the table. -/
def eligible (db : Db) (groups : List String) : List Group :=
  db.groups.filter fun g => g.isEnabled = some true ∧ g.id ∈ groups

/-- Some requested enabled group has an active backend. -/
def SomeActive (db : Db) (groups : List String) : Prop :=
  ∃ e ∈ eligible db groups, db.activeIn e.id ≠ []

theorem eligible_withMappings (db : Db) (groups : List String) :
    ((db.groups.filter (Where.holds { eqs := [("is_enabled", .bool true)] } .groups)).map
      db.withMappings).filter (fun g => groups.contains g.id) =
      (eligible db groups).map db.withMappings := by
  rw [List.filter_map, List.filter_filter, eligible]
  congr 1
  apply List.filter_congr
  intro g _
  by_cases he : g.isEnabled = some true <;> by_cases hg : g.id ∈ groups <;>
    simp [Where.holds, Tbl.col, he, hg]

/-- If none of the backends found is one, no eligible group has an active backend. -/
theorem activeIn_eq_nil_of_found {gs : List Group} {bs : List (Option String)}
    (h : List.Forall₂ (fun g b => Found db g.id b) gs bs) (hb : bs.any Option.isSome = false) :
    ∀ e ∈ gs, db.activeIn e.id = [] := by
  induction h with
  | nil => intro e he; cases he
  | cons hfound _ ih =>
    rename_i g b gs bs _
    simp only [List.any_cons, Bool.or_eq_false_iff] at hb
    intro e he
    rcases List.mem_cons.mp he with rfl | he
    · cases b with
      | none => exact hfound
      | some b => cases hb.1
    · exact ih hb.2 e he

/-- If one of the backends found is one, some eligible group has an active backend. -/
theorem exists_active_of_found {gs : List Group} {bs : List (Option String)}
    (h : List.Forall₂ (fun g b => Found db g.id b) gs bs) (hb : bs.any Option.isSome = true) :
    ∃ e ∈ gs, db.activeIn e.id ≠ [] := by
  induction h with
  | nil => cases hb
  | cons hfound _ ih =>
    rename_i g b gs bs _
    cases b with
    | none =>
      obtain ⟨e, he, hne⟩ := ih (by simpa using hb)
      exact ⟨e, by simp [he], hne⟩
    | some b => exact ⟨g, by simp, fun hnil => by simp [Found, hnil] at hfound⟩

/-- A choice in the default group is one of its active backends. -/
theorem chosen_of_default {w : World} (hsame : db.SameBackends w.db) {b g : String}
    (hr : (((getGroup cfg.defaultRoutingGroup).andThen fun chosenGroup =>
      (findBackend cfg chosenGroup).andThen fun
        | none => return .error (.text "unable to find Backend for Default Routing Group")
        | some b => return .ok (b, chosenGroup.id)).run (mysql env) w).1 = some (.ok (b, g))) :
    g = cfg.defaultRoutingGroup ∧ b ∈ (db.activeIn g).map Backend.id := by
  obtain ⟨res, k, hdef, hres⟩ := GroupRepo.run_find env w cfg.defaultRoutingGroup
  cases res with
  | error e =>
    rw [getGroup, run_andThen_error _ hdef] at hr
    cases hr
  | ok g' =>
    obtain ⟨row, hrow, rfl⟩ := hres
    rw [getGroup, run_andThen_ok _ hdef] at hr
    obtain ⟨res, w', hrun, -, hfound⟩ := findBackend_spec cfg env { w with tick := k } row
    simp only at hrun
    rcases res with _ | e | b'
    · rw [andThen, run_bind_none _ hrun] at hr
      cases hr
    · rw [run_andThen_error _ hrun] at hr
      cases hr
    · rw [run_andThen_ok _ hrun] at hr
      cases b' with
      | none => cases hr
      | some b' =>
        cases hr
        have hid : row.id = cfg.defaultRoutingGroup := Db.find_id hrow
        exact ⟨hid, (found_of_same hsame _ _).mp hfound⟩

/-- **The ways a choice ends**: a panic or a failure in the loop, the first eligible group
with whatever was found for it, or the default routing group. -/
theorem evaluateBackendForGroups_cases {groups : List String} {tick : ℕ}
    {r : Option (Result (String × String))}
    (hr : ((evaluateBackendForGroups cfg groups).run (mysql env) ⟨db, tick⟩).1 = r) :
    (r = none ∧ ∃ e ∈ eligible db groups, ¬ Ready cfg db e) ∨
    ((∃ e, r = some (.error e)) ∧ ∃ k, env.faults k ≠ none) ∨
    (∃ first rest b, eligible db groups = first :: rest ∧ Found db first.id b ∧
      SomeActive db groups ∧ r = some (.ok (b.getD "", first.id))) ∨
    ((∀ e ∈ eligible db groups, db.activeIn e.id = []) ∧
      ∀ b g, r = some (.ok (b, g)) →
        g = cfg.defaultRoutingGroup ∧ b ∈ (db.activeIn g).map Backend.id) := by
  unfold evaluateBackendForGroups at hr
  obtain ⟨res, n, hgroups, hres⟩ :=
    GroupRepo.run_findMany env ⟨db, tick⟩ [("is_enabled", .bool true)]
  cases res with
  | error e =>
    rw [getAllActiveGroups, run_andThen_error _ hgroups] at hr
    exact .inr (.inl ⟨⟨e, hr.symm⟩, hres⟩)
  | ok gs =>
    subst hres
    obtain ⟨res, w₁, hfind, hsame, hfound⟩ := findBackends_spec cfg env { db := db, tick := n }
      (eligible db groups) (Db.SameBackends.refl db)
    rw [getAllActiveGroups, run_andThen_ok _ hgroups] at hr
    simp only at hr
    rw [eligible_withMappings] at hr
    cases res with
    | none =>
      rw [andThen, run_bind_none _ hfind] at hr
      exact .inl ⟨hr.symm, hfound⟩
    | some res =>
      cases res with
      | error e =>
        rw [run_andThen_error _ hfind] at hr
        exact .inr (.inl ⟨⟨e, hr.symm⟩, hfound⟩)
      | ok bs =>
        rw [run_andThen_ok _ hfind] at hr
        by_cases hb : bs.any Option.isSome = true
        · have hact := exists_active_of_found hfound hb
          rw [if_pos hb] at hr
          -- the list of eligible groups is not empty, and neither is what was found
          cases he : eligible db groups with
          | nil => rw [he] at hact; obtain ⟨e, hmem, -⟩ := hact; cases hmem
          | cons first rest =>
            rw [he] at hfound
            cases hfound with
            | cons hf _ =>
              rename_i b bs _
              rw [he] at hr
              exact .inr (.inr (.inl ⟨first, rest, b, rfl, hf, hact, hr.symm⟩))
        · have hnil := activeIn_eq_nil_of_found hfound (by simpa using hb)
          refine .inr (.inr (.inr ⟨hnil, fun b g hbg => ?_⟩))
          rw [if_neg hb, hbg] at hr
          exact chosen_of_default cfg env hsame hr

/-- What a choice of backend `b` and group `g` must satisfy: an active backend of the group,
and a requested enabled group if one of these has an active backend, else the default one. -/
structure CorrectChoice (db : Db) (groups : List String) (b g : String) : Prop where
  backend : b ∈ (db.activeIn g).map Backend.id
  requested : SomeActive db groups → ∃ e ∈ eligible db groups, e.id = g
  default : ¬ SomeActive db groups → g = cfg.defaultRoutingGroup

/-- The contract on a store: whatever is answered is correct, whatever fails, and with an
available database an active group means an answer. -/
structure MeetsContract (db : Db) (groups : List String) : Prop where
  correct : ∀ env tick b g,
    ((evaluateBackendForGroups cfg groups).run (mysql env) ⟨db, tick⟩).1 = some (.ok (b, g)) →
      CorrectChoice cfg db groups b g
  succeeds : SomeActive db groups → ∀ clock tick, ∃ b g,
    ((evaluateBackendForGroups cfg groups).run (mysql (.available clock)) ⟨db, tick⟩).1 =
      some (.ok (b, g)) ∧ b ≠ ""

/-- If an eligible group has an active backend, then the first one has, and every eligible
group with an active backend has the columns that its strategy reads. -/
def FirstActive (db : Db) (groups : List String) : Prop :=
  SomeActive db groups →
    (∃ first rest, eligible db groups = first :: rest ∧ db.activeIn first.id ≠ []) ∧
      ∀ e ∈ eligible db groups, Ready cfg db e

/-- With the columns there, the first group chosen has an active backend. -/
theorem found_of_active {first : Group} {b : Option String} (hf : Found db first.id b)
    (hne : db.activeIn first.id ≠ []) : ∃ b', b = some b' ∧ b' ∈ (db.activeIn first.id).map Backend.id := by
  cases b with
  | none => exact absurd hf hne
  | some b' => exact ⟨b', rfl, hf⟩

theorem correct_of_firstActive {groups : List String} (h : FirstActive cfg db groups) {tick : ℕ}
    {b g : String}
    (hr : ((evaluateBackendForGroups cfg groups).run (mysql env) ⟨db, tick⟩).1 =
      some (.ok (b, g))) : CorrectChoice cfg db groups b g := by
  rcases evaluateBackendForGroups_cases cfg env hr with ⟨hc, -⟩ | ⟨⟨e, hc⟩, -⟩ |
    ⟨first, rest, b', he, hf, hsome, hc⟩ | ⟨hnil, hdef⟩
  · cases hc
  · cases hc
  · cases hc
    obtain ⟨⟨first', rest', he', hne⟩, -⟩ := h hsome
    rw [he] at he'
    cases he'
    obtain ⟨b'', rfl, hmem⟩ := found_of_active hf hne
    exact ⟨hmem, fun _ => ⟨first, by simp [he], rfl⟩, fun hn => absurd hsome hn⟩
  · obtain ⟨hg, hmem⟩ := hdef b g rfl
    refine ⟨hmem, fun hsome => ?_, fun _ => hg⟩
    obtain ⟨e, he, hne⟩ := hsome
    exact absurd (hnil e he) hne

theorem succeeds_of_firstActive {store : Store} {groups : List String}
    (h : FirstActive cfg store.db groups) (hsome : SomeActive store.db groups) (clock : ℕ → ℤ)
    (tick : ℕ) : ∃ b g,
    ((evaluateBackendForGroups cfg groups).run (mysql (.available clock)) ⟨store.db, tick⟩).1 =
      some (.ok (b, g)) ∧ b ≠ "" := by
  obtain ⟨⟨first, rest, he, hne⟩, hready⟩ := h hsome
  have hrun : ((evaluateBackendForGroups cfg groups).run (mysql (.available clock))
    ⟨store.db, tick⟩).1 = _ := rfl
  rcases evaluateBackendForGroups_cases cfg (.available clock) hrun with
    ⟨-, e, hmem, hn⟩ | ⟨-, k, hk⟩ | ⟨first', rest', b', he', hf, -, hc⟩ | ⟨hnil, -⟩
  · exact absurd (hready e hmem) hn
  · exact absurd rfl hk
  · rw [he] at he'
    cases he'
    obtain ⟨b'', rfl, hmem⟩ := found_of_active hf hne
    refine ⟨b'', first.id, hc, ?_⟩
    obtain ⟨row, hrow, rfl⟩ := List.mem_map.mp hmem
    exact store.backend_id row (List.mem_filter.mp hrow).1
  · obtain ⟨e, hmem, hne'⟩ := hsome
    exact absurd (hnil e hmem) hne'

theorem firstActive_of_contract {groups : List String} (h : MeetsContract cfg db groups) :
    FirstActive cfg db groups := by
  intro hsome
  have hready : ∀ e ∈ eligible db groups, Ready cfg db e := by
    by_contra hn
    push Not at hn
    -- at some time the loop panics, and there is no answer
    obtain ⟨curr, hcurr⟩ := exists_findBackends_none cfg hn
    obtain ⟨b, g, hr, -⟩ := h.succeeds hsome (fun _ => curr) 0
    unfold evaluateBackendForGroups at hr
    obtain ⟨res, n, hgroups, hres⟩ := GroupRepo.run_findMany (.available fun _ => curr)
      ⟨db, 0⟩ [("is_enabled", .bool true)]
    cases res with
    | error e => exact hres.choose_spec rfl
    | ok gs =>
      subst hres
      rw [getAllActiveGroups, run_andThen_ok _ hgroups] at hr
      simp only at hr
      have hnone := hcurr { db := db, tick := n } (Db.SameBackends.refl db)
      rw [eligible_withMappings, andThen, run_bind_none _ (Prod.ext hnone rfl)] at hr
      cases hr
  refine ⟨?_, hready⟩
  obtain ⟨b, g, hr, hb⟩ := h.succeeds hsome (fun _ => 0) 0
  rcases evaluateBackendForGroups_cases cfg _ hr with ⟨hc, -⟩ | ⟨⟨e, hc⟩, -⟩ |
    ⟨first, rest, b', he, hf, -, hc⟩ | ⟨hnil, -⟩
  · cases hc
  · cases hc
  · cases hc
    refine ⟨first, rest, he, fun hnil => hb ?_⟩
    cases b' with
    | none => rfl
    | some b'' => simp [Found, hnil] at hf
  · obtain ⟨e, he, hne⟩ := hsome
    exact absurd (hnil e he) hne

/-- **The choice of a backend meets its contract exactly when the first eligible group can
serve**: it has an active backend if any eligible group has one, and no column that the
selections read is `NULL`. -/
theorem evaluateBackendForGroups_correct_iff (store : Store) (groups : List String) :
    MeetsContract cfg store.db groups ↔ FirstActive cfg store.db groups :=
  ⟨firstActive_of_contract cfg, fun h =>
    ⟨fun env _ _ _ hr => correct_of_firstActive cfg env h hr,
      fun hsome clock tick => succeeds_of_firstActive cfg h hsome clock tick⟩⟩

/-- Two enabled groups, of which only the second has an active backend. -/
def drainedFirst : Store where
  db :=
    { backends :=
        [{ id := "b1", hostname := "h1", scheme := "http", externalUrl := some "x1",
           isEnabled := some true, isHealthy := some false },
          { id := "b2", hostname := "h2", scheme := "http", externalUrl := some "x2",
            isEnabled := some true, isHealthy := some true }]
      groups :=
        [{ id := "adhoc", strategy := some "random", isEnabled := some true },
          { id := "etl", strategy := some "random", isEnabled := some true }]
      mappings := [{ groupId := "adhoc", backendId := "b1" }, { groupId := "etl", backendId := "b2" }] }
  backend_id := by decide

/-- On this store a request for both groups is answered with the first one and no backend,
although the second one can serve. -/
theorem drainedFirst_no_backend :
    ((evaluateBackendForGroups ⟨"adhoc", 0⟩ ["adhoc", "etl"]).run (mysql (.available fun _ => 0))
        ⟨drainedFirst.db, 0⟩).1 = some (.ok ("", "adhoc")) ∧
      SomeActive drainedFirst.db ["adhoc", "etl"] ∧
      ¬ MeetsContract ⟨"adhoc", 0⟩ drainedFirst.db ["adhoc", "etl"] := by
  have hrun : ((evaluateBackendForGroups ⟨"adhoc", 0⟩ ["adhoc", "etl"]).run
      (mysql (.available fun _ => 0)) ⟨drainedFirst.db, 0⟩).1 = some (.ok ("", "adhoc")) := by decide
  have hsome : SomeActive drainedFirst.db ["adhoc", "etl"] := by unfold SomeActive; decide
  refine ⟨hrun, hsome, fun h => ?_⟩
  have hc := (h.correct _ _ _ _ hrun).backend
  revert hc
  decide

end GroupApi

end TrinoGateway
