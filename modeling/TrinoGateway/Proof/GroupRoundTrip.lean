import TrinoGateway.Proof.GroupWrites

/-!
# Saving a group and reading it back

`createOrUpdateGroup_declarative_iff`: **exactly** when `GetGroup` shows what was asked for, after
a request that succeeds. A request without backends leaves the old mappings, as one does whose
statement that detaches them fails; an `UPDATE` that fails leaves the old row; a strategy that is
a number is read as that of a member, and blanks beyond the end of a text are cut off; all without
an error.
-/

namespace TrinoGateway

open Interact Prog

/-- The numbers of the three strategies. -/
def GroupApi.IsStrategy (v : ℤ) : Prop := v = 0 ∨ v = 1 ∨ v = 2

theorem GroupApi.isStrategy_of_value {name : String} {v : ℤ}
    (h : GroupApi.strategyValue name = some v) : GroupApi.IsStrategy v := by
  unfold GroupApi.strategyValue at h
  split at h
  · exact Or.inl (Option.some.inj h).symm
  · split at h
    · exact Or.inr (Or.inl (Option.some.inj h).symm)
    · split at h
      · exact Or.inr (Or.inr (Option.some.inj h).symm)
      · cases h

/-- **A strategy comes back as it went in exactly if it is one of the three**: MySQL knows the
upper-case name, and returns the declared spelling. A number it reads as that of a member. -/
theorem strategy_round_trip {v : ℤ} {s : String}
    (h : enumSpelling strategies (GroupApi.strategyName v) = some s) :
    GroupApi.strategyValue (Text.toUpper s) = some v ↔ GroupApi.IsStrategy v := by
  constructor
  · exact GroupApi.isStrategy_of_value
  · rintro (rfl | rfl | rfl)
    · obtain rfl : "least_load" = s := Option.some.inj h
      decide
    · obtain rfl : "round_robin" = s := Option.some.inj h
      decide
    · obtain rfl : "random" = s := Option.some.inj h
      decide

/-- The row shows the strategy and flags of a message. -/
structure Group.Shows (row : Group) (m : GroupMsg) : Prop where
  strategy : row.strategy.bind (fun s => GroupApi.strategyValue (Text.toUpper s)) = some m.strategy
  isEnabled : row.isEnabled = some m.isEnabled
  lastRoutedBackend : row.lastRoutedBackend = some m.lastRoutedBackend

/-- Two messages describe the same group, with the same set of backends. -/
structure GroupMsg.SameGroup (m m' : GroupMsg) : Prop where
  id : m'.id = m.id
  strategy : m'.strategy = m.strategy
  isEnabled : m'.isEnabled = m.isEnabled
  lastRoutedBackend : m'.lastRoutedBackend = m.lastRoutedBackend
  backends : ∀ b, b ∈ m'.backends ↔ b ∈ m.backends

/-- `GetGroup` answers with the group that the message describes. -/
def ReadsBack (db : Db) (m : GroupMsg) : Prop :=
  ∀ clock tick, ∃ m', ((GroupApi.Server.getGroup m.id).run (mysql (.available clock))
    ⟨db, tick⟩).1 = some (.ok m') ∧ m.SameGroup m'

theorem run_toGroupResponseProto_some {g : Group} {m : GroupMsg} (h : g.Shows m) (env : Env)
    (w : World) :
    (GroupApi.toGroupResponseProto g).run (mysql env) w =
      (some (.ok
        { id := g.id
          strategy := m.strategy
          backends := (g.groupBackendsMappings.getD []).map GroupBackendsMapping.backendId
          isEnabled := m.isEnabled
          lastRoutedBackend := m.lastRoutedBackend }), w) := by
  obtain ⟨s, hs, hv⟩ := Option.bind_eq_some_iff.mp h.strategy
  simp only [GroupApi.toGroupResponseProto, hs, deref_some, bind_eq, ret_bind, hv, h.isEnabled,
    h.lastRoutedBackend, pure_eq, run_ret]

/-- A group's message shows its row. -/
theorem shows_of_response {g : Group} {m : GroupMsg} {env : Env} {w : World}
    (h : ((GroupApi.toGroupResponseProto g).run (mysql env) w).1 = some (.ok m)) : g.Shows m := by
  unfold GroupApi.toGroupResponseProto at h
  cases hs : g.strategy with
  | none => simp [hs] at h
  | some s =>
    simp only [hs, deref_some, bind_eq, ret_bind] at h
    cases hv : GroupApi.strategyValue (Text.toUpper s) with
    | none => simp [hv] at h
    | some v =>
      simp only [hv] at h
      cases he : g.isEnabled with
      | none => simp [he] at h
      | some e =>
        cases hl : g.lastRoutedBackend with
        | none => simp [he, hl] at h
        | some l =>
          simp only [he, hl, deref_some, ret_bind, pure_eq, run_ret, Option.some.injEq,
            Except.ok.injEq] at h
          subst h
          exact ⟨by rw [hs, Option.bind_some, hv], he, hl⟩

theorem readsBack_iff {db : Db} {m : GroupMsg} :
    ReadsBack db m ↔ (∃ row, db.find .groups m.id = some row ∧ row.Shows m) ∧
      ∀ b, (m.id, b) ∈ db.pairs ↔ b ∈ m.backends := by
  have hbackends : ∀ row : Group, row.id = m.id → ∀ b,
      b ∈ ((db.withMappings row).groupBackendsMappings.getD []).map GroupBackendsMapping.backendId ↔
        (m.id, b) ∈ db.pairs := by
    intro row hid b
    simp only [Db.withMappings, Option.getD_some, List.mem_map, List.mem_filter, decide_eq_true_eq,
      hid, Db.pairs, GroupBackendsMapping.pair, Prod.mk.injEq]
    constructor
    · rintro ⟨k, ⟨hk, hg⟩, hb⟩
      exact ⟨k, hk, hg, hb⟩
    · rintro ⟨k, hk, hg, hb⟩
      exact ⟨k, ⟨hk, hg⟩, hb⟩
  constructor
  · intro h
    obtain ⟨m', hrun, hsame⟩ := h (fun _ => 0) 0
    unfold GroupApi.Server.getGroup GroupApi.getGroup at hrun
    by_cases hfinds : ∃ row, GroupRepo.Finds (.available fun _ => 0) ⟨db, 0⟩ m.id row
    · obtain ⟨row, hrow⟩ := hfinds
      rw [run_andThen_ok _ (GroupRepo.run_find_some hrow)] at hrun
      have hshows := shows_of_response hrun
      rw [run_toGroupResponseProto_some hshows, Option.some.injEq, Except.ok.injEq] at hrun
      refine ⟨⟨row, hrow.2.2, ?_, ?_, ?_⟩, fun b => ?_⟩
      · exact hshows.strategy.trans (congrArg some hsame.strategy)
      · exact hshows.isEnabled.trans (congrArg some hsame.isEnabled)
      · exact hshows.lastRoutedBackend.trans (congrArg some hsame.lastRoutedBackend)
      · rw [← hbackends row (Db.find_id hrow.2.2), ← hsame.backends, ← hrun]
    · obtain ⟨e, n, hfind, -⟩ := GroupRepo.run_find_none (not_exists.mp hfinds)
      rw [run_andThen_error _ hfind] at hrun
      cases hrun
  · rintro ⟨⟨row, hrow, hshows⟩, hpairs⟩ clock tick
    have hfinds : GroupRepo.Finds (.available clock) ⟨db, tick⟩ m.id row := ⟨rfl, rfl, hrow⟩
    have hshows' : (db.withMappings row).Shows m := ⟨hshows.strategy, hshows.isEnabled,
      hshows.lastRoutedBackend⟩
    have hrun := run_toGroupResponseProto_some hshows' (.available clock)
      (World.next (World.next ⟨db, tick⟩))
    rw [← run_andThen_ok _ (GroupRepo.run_find_some hfinds)] at hrun
    refine ⟨_, congrArg Prod.fst hrun, Db.find_id hrow, rfl, rfl, rfl, fun b => ?_⟩
    rw [hbackends row (Db.find_id hrow), hpairs]

/-- What a request saved is what `GetGroup` answers, if the request succeeded. -/
def SavesAsAsked (env : Env) (w : World) (m : GroupMsg) : Prop :=
  ∀ w', (GroupApi.Server.createOrUpdateGroup m).run (mysql env) w = (some (.ok ()), w') →
    ReadsBack w'.db m

/-- The columns of a group keep the message as it is. -/
structure GroupMsg.Exact (m : GroupMsg) : Prop where
  strategy : GroupApi.IsStrategy m.strategy
  lastRoutedBackend : m.lastRoutedBackend.length ≤ 255

/-- The row of a saved request shows its message if the columns keep it as it is. -/
theorem shows_of_carries {r : Group} {m : GroupMsg} (h : r.Carries (GroupApi.createParams m)) :
    r.Shows m ↔ m.Exact := by
  obtain ⟨s, hs⟩ := Option.isSome_iff_exists.mp h.accepted
  have hstrategy : r.strategy.bind (fun s => GroupApi.strategyValue (Text.toUpper s)) =
      some m.strategy ↔ GroupApi.IsStrategy m.strategy := by
    rw [h.strategy, hs, Option.bind_some]
    exact strategy_round_trip hs
  have hlast : r.lastRoutedBackend = some m.lastRoutedBackend ↔
      m.lastRoutedBackend.length ≤ 255 := by
    rw [h.lastRoutedBackend, Option.some.injEq]
    exact cut_eq_self_iff h.fits
  exact ⟨fun hs => ⟨hstrategy.mp hs.strategy, hlast.mp hs.lastRoutedBackend⟩,
    fun hx => ⟨hstrategy.mpr hx.strategy, h.isEnabled, hlast.mpr hx.lastRoutedBackend⟩⟩

/-- The mappings are those of the request: it has some and the old ones are detached, or they were
all asked for. -/
def MappingsRight (env : Env) (w : World) (m : GroupMsg) : Prop :=
  (m.backends ≠ [] ∧ Detaches env w) ∨ ∀ b, (m.id, b) ∈ w.db.pairs → b ∈ m.backends

/-- Whether the mappings are right can be told from the state before. -/
theorem mappingsRight_iff {env : Env} {w : World} {db' : Db} {m : GroupMsg}
    (hsome : m.backends ≠ [] → MappingsWritten env w db' (GroupApi.createParams m))
    (hnone : m.backends = [] → db'.pairs = w.db.pairs) :
    (∀ b, (m.id, b) ∈ db'.pairs ↔ b ∈ m.backends) ↔ MappingsRight env w m := by
  unfold MappingsRight
  by_cases hms : m.backends = []
  · rw [hnone hms]
    constructor
    · exact fun h => Or.inr fun b hb => (h b).mp hb
    · rintro (h | h) b
      · exact absurd hms h.1
      · refine ⟨h b, fun hb => ?_⟩
        rw [hms] at hb
        cases hb
  · obtain ⟨hdetached, hadded⟩ := hsome hms
    by_cases hd : Detaches env w
    · exact iff_of_true (hdetached hd).1 (Or.inl ⟨hms, hd⟩)
    · have hpair : ∀ b, (m.id, b) ∈ db'.pairs ↔ (m.id, b) ∈ w.db.pairs ∨ b ∈ m.backends :=
        fun b => (hadded hd (m.id, b)).trans (or_congr_right (and_iff_right rfl))
      rw [or_iff_right fun h => hd h.2]
      constructor
      · exact fun h b hb => (h b).mp ((hpair b).mpr (Or.inl hb))
      · intro h b
        rw [hpair]
        exact or_iff_right_of_imp (h b)

theorem savesAsAsked_iff_of_run {env : Env} {w w' : World} {m : GroupMsg} {res : Result Unit}
    (hrun : (GroupApi.Server.createOrUpdateGroup m).run (mysql env) w = (some res, w')) :
    SavesAsAsked env w m ↔ (res = .ok () → ReadsBack w'.db m) := by
  unfold SavesAsAsked
  rw [hrun]
  constructor
  · rintro h rfl
    exact h w' rfl
  · intro h w₁ hw₁
    obtain ⟨hres, rfl⟩ := Prod.mk.inj hw₁
    exact h (Option.some.inj hres)

/-- A group that is there reads back if its row shows the message and its mappings are those of
the message. -/
theorem readsBack_iff_of_find {db : Db} {m : GroupMsg} {row : Group}
    (hrow : db.find .groups m.id = some row) :
    ReadsBack db m ↔ row.Shows m ∧ ∀ b, (m.id, b) ∈ db.pairs ↔ b ∈ m.backends := by
  rw [readsBack_iff, hrow]
  refine and_congr_left fun _ => ⟨?_, fun h => ⟨row, rfl, h⟩⟩
  rintro ⟨row', heq, h⟩
  obtain rfl := Option.some.inj heq
  exact h

theorem forall_finds_iff {env : Env} {w : World} {id : String} {old : Group} {P : Group → Prop}
    (hfound : GroupRepo.Finds env w id old) :
    (∀ old', GroupRepo.Finds env w id old' → P old') ↔ P old := by
  constructor
  · exact fun h => h old hfound
  · rintro h old' hold'
    obtain rfl := Option.some.inj (hold'.2.2.symm.trans hfound.2.2)
    exact h

/-- A group that was not found is created as asked if the columns keep the request as it is. -/
theorem savesAsAsked_of_new {env : Env} {s : ConsistentDb} {tick : ℕ} {m : GroupMsg}
    (hnew : ∀ old, ¬ GroupRepo.Finds env ⟨s.db, tick⟩ m.id old) :
    SavesAsAsked env ⟨s.db, tick⟩ m ↔
      (Creates env ⟨s.db, tick + 1⟩ (GroupApi.createParams m) → m.Exact) := by
  obtain ⟨n, hcall, htick⟩ := GroupApi.run_createOrUpdateGroup_none (GroupApi.createParams m) hnew
  have hcreates : Creates env ⟨s.db, n⟩ (GroupApi.createParams m) ↔
      Creates env ⟨s.db, tick + 1⟩ (GroupApi.createParams m) := by
    by_cases hnone : s.db.find .groups m.id = none
    · rw [htick hnone]
    · exact iff_of_false (fun h => hnone h.1.2.1) fun h => hnone h.1.2.1
  obtain ⟨res, w₁, hcreate, hcases⟩ := create_group_cases env ⟨s.db, n⟩
    s.consistent (GroupApi.createParams m)
  rw [savesAsAsked_iff_of_run (hcall.trans hcreate)]
  rw [hcreates] at hcases
  rcases hcases with ⟨hno, -, e, rfl⟩ | ⟨-, r, -, hcarries, hrow, hres⟩
  · exact iff_of_true (fun hc => by cases hc) fun hc => absurd hc hno
  · rcases hres with ⟨hyes, rfl, hbackends⟩ | ⟨hno, -, e, rfl⟩
    · obtain ⟨⟨r', hr', hcarries'⟩, -⟩ := hrow
      have hpairs : ∀ b, (m.id, b) ∈ w₁.db.pairs ↔ b ∈ m.backends := hbackends.1
      rw [imp_iff_right rfl, imp_iff_right hyes, readsBack_iff_of_find hr', and_iff_left hpairs,
        shows_of_carries hcarries']
    · exact iff_of_true (fun hc => by cases hc) fun hc => absurd hc hno

/-- **A group reads back as it was saved exactly if** it is not created or its columns keep the
request; and, where it was found, the writing of its mappings fails, or they come out right and
the row is updated and keeps the request, or was already right. -/
theorem createOrUpdateGroup_declarative_iff (s : ConsistentDb) (m : GroupMsg) (env : Env) (tick : ℕ) :
    SavesAsAsked env ⟨s.db, tick⟩ m ↔
      (Creates env ⟨s.db, tick + 1⟩ (GroupApi.createParams m) → m.Exact) ∧
      ∀ old, GroupRepo.Finds env ⟨s.db, tick⟩ m.id old →
        (m.backends ≠ [] ∧ ¬ Replaces env ⟨s.db, tick + 2⟩ old (GroupApi.createParams m)) ∨
        (UpdatesRow env ⟨s.db, tick + 2⟩ old (GroupApi.createParams m) ∧
          (¬ Resaves env ⟨s.db, tick + 2⟩ old (GroupApi.createParams m) ∨
            MappingsRight env ⟨s.db, tick + 2⟩ m ∧ m.Exact)) ∨
        (¬ UpdatesRow env ⟨s.db, tick + 2⟩ old (GroupApi.createParams m) ∧
          MappingsRight env ⟨s.db, tick + 2⟩ m ∧
          (old.atUpdate env (tick + 2) (GroupApi.createParams m)).Shows m) := by
  by_cases hfinds : ∃ old, GroupRepo.Finds env ⟨s.db, tick⟩ m.id old
  · obtain ⟨old, hfound⟩ := hfinds
    have hold : s.db.find .groups m.id = some old := hfound.2.2
    obtain ⟨res, w', hrun, hcases⟩ := update_group_cases env ⟨s.db, tick + 2⟩
      (GroupApi.createParams m) hold
    have hcall := GroupApi.run_createOrUpdateGroup_some (GroupApi.createParams m) hfound
    have hcreates : ¬ Creates env ⟨s.db, tick + 1⟩ (GroupApi.createParams m) := by
      intro h
      exact Option.some_ne_none old (hold.symm.trans h.1.2.1)
    rw [savesAsAsked_iff_of_run (hcall.trans hrun), forall_finds_iff hfound,
      and_iff_right fun h => absurd h hcreates]
    rcases hcases with ⟨hms, hno, ⟨e, rfl⟩, -⟩ | ⟨hwritten, hkept, hrow⟩
    · exact iff_of_true (fun hc => by cases hc) (Or.inl ⟨hms, hno⟩)
    · have hright := mappingsRight_iff (fun hms => (hwritten hms).2) hkept
      have hreplaced : ¬ (m.backends ≠ [] ∧
          ¬ Replaces env ⟨s.db, tick + 2⟩ old (GroupApi.createParams m)) :=
        fun h => h.2 (hwritten h.1).1
      rw [or_iff_right hreplaced, ← hright]
      rcases hrow with ⟨hupdates, ⟨⟨r, hr, hcarries⟩, -⟩, hres⟩ | ⟨hno, rfl, hfind⟩
      · -- the row is updated: what matters is the mappings, and what the columns keep
        rw [or_iff_left fun h => h.1 hupdates, and_iff_right hupdates]
        rcases hres with ⟨rfl, hresaves⟩ | ⟨⟨e, rfl⟩, hfails⟩
        · rw [imp_iff_right rfl, or_iff_right (not_not.mpr hresaves), readsBack_iff_of_find hr,
            shows_of_carries hcarries]
          exact and_comm
        · exact iff_of_true (fun hc => by cases hc) (Or.inl hfails)
      · -- the row is the old one
        rw [or_iff_right fun h => hno h.1, and_iff_right hno, imp_iff_right rfl,
          readsBack_iff_of_find hfind]
        exact and_comm
  · have hnew := not_exists.mp hfinds
    rw [savesAsAsked_of_new hnew]
    exact (and_iff_left fun old h => absurd h (hnew old)).symm

/-- A group with one backend. -/
def mappedGroup : ConsistentDb where
  db :=
    { backends := [{ id := "trino-1" }]
      groups := [{ id := "adhoc", strategy := some "random", isEnabled := some true,
                   lastRoutedBackend := some "" }]
      mappings := [{ groupId := "adhoc", backendId := "trino-1" }] }
  consistent := by decide

/-- A request that wants the group without backends. -/
def noBackends : GroupMsg := { id := "adhoc", strategy := 2, isEnabled := true }

/-- The request succeeds, and the group keeps its backend. -/
theorem noBackends_kept :
    ¬ SavesAsAsked (.available fun _ => 0) ⟨mappedGroup.db, 0⟩ noBackends := by
  intro h
  have hrun : (GroupApi.Server.createOrUpdateGroup noBackends).run (mysql (.available fun _ => 0))
      ⟨mappedGroup.db, 0⟩ = (some (.ok ()), ⟨mappedGroup.db, 3⟩) := by decide
  have hreads := (readsBack_iff.mp (h _ hrun)).2 "trino-1"
  revert hreads
  decide

end TrinoGateway
