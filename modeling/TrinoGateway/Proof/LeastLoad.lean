import TrinoGateway.Lib.Scan
import TrinoGateway.Proof.Selection

/-!
# The least loaded backend

The scan of a `least_load` group reads the clock anew for each load, so that the statistics of a
backend can become too old between two comparisons. Stored loads are not negative, and then the
load of a backend only drops as time passes (`effectiveLoad_le`).

`findBackend_leastLoad`: **the answer is by the last reading of the clock no more loaded than each
backend was when it was examined**; with a clock that stands still it is the first of the least
loaded ones.
-/

namespace TrinoGateway

open Interact Prog

namespace GroupApi

/-- The load that counts at a time: the stored one, or `0` once the statistics are too old. -/
def effectiveLoad (cfg : Config) (curr : ℤ) (b : Backend) : ℤ := (loadAt cfg curr b).getD 0

variable {cfg : Config}

theorem effectiveLoad_le {b : Backend} (h : 0 ≤ b.clusterLoad.getD 0) {curr curr' : ℤ}
    (hle : curr ≤ curr') : effectiveLoad cfg curr' b ≤ effectiveLoad cfg curr b := by
  simp only [effectiveLoad, loadAt]
  by_cases hv : cfg.statsValiditySecs = 0
  · simp only [hv, if_true, le_refl]
  · rw [if_neg hv, if_neg hv]
    cases b.statsUpdatedAt with
    | none => exact le_rfl
    | some u =>
      simp only [Option.bind_some]
      -- statistics that are valid at the later time are valid at the earlier one
      by_cases hold : curr' - u ≤ cfg.statsValiditySecs
      · rw [if_pos hold, if_pos (by omega)]
      · rw [if_neg hold]
        split
        · exact h
        · exact le_rfl

/-- With the columns there the loop is the scan by the loads at the readings of the clock. -/
theorem run_leastLoaded_scan (env : Env) (w : World) {best : Backend} {bs : List Backend}
    (h : ∀ b ∈ best :: bs, HasLoad cfg b) :
    (leastLoaded cfg best bs).run (mysql env) w =
      (some (scan (fun k => effectiveLoad cfg (env.clock k)) w.tick best bs),
        { w with tick := w.tick + 2 * bs.length }) := by
  induction bs generalizing best w with
  | nil => rfl
  | cons b bs ih =>
    have hread : ∀ (w' : World) (b' : Backend), HasLoad cfg b' →
        (load cfg b').run (mysql env) w' =
          (some (effectiveLoad cfg (env.clock w'.tick) b'), w'.next) := by
      intro w' b' hb'
      obtain ⟨l, hl⟩ := Option.ne_none_iff_exists'.mp (loadAt_ne_none cfg hb' (env.clock w'.tick))
      rw [run_load, effectiveLoad, hl]
      rfl
    have hbest := h best (List.mem_cons_self ..)
    have hb := h b (List.mem_cons_of_mem _ (List.mem_cons_self ..))
    simp only [leastLoaded, bind_eq]
    rw [run_bind_some _ (hread w b hb), run_bind_some _ (hread w.next best hbest), ih]
    · refine Prod.ext rfl (congrArg (World.mk w.db) ?_)
      simp only [World.next_tick, List.length_cons]
      omega
    · intro b' hb'
      rcases List.mem_cons.mp hb' with rfl | hb'
      · split
        · exact hb
        · exact hbest
      · exact h b' (List.mem_cons_of_mem _ (List.mem_cons_of_mem _ hb'))

/-- The columns of backends that the scan reads, with loads that are not negative. -/
def HasLoads (cfg : Config) (bs : List Backend) : Prop :=
  ∀ b ∈ bs, HasLoad cfg b ∧ 0 ≤ b.clusterLoad.getD 0

/-- **The choice of a `least_load` group.** The scan takes the readings after that of the read of
the backends, two for each: a backend is examined at the first of its two. -/
theorem findBackend_leastLoad {env : Env} {w : World} {g : Group}
    (hg : g.strategy = some "least_load") (hread : env.faults w.tick = none)
    (hne : w.db.activeIn g.id ≠ []) (hloads : HasLoads cfg (w.db.activeIn g.id))
    (hclock : ∀ i j, w.tick < i → i ≤ j → j ≤ w.tick + 2 * (w.db.activeIn g.id).length →
      env.clock i ≤ env.clock j) :
    ∃ b ∈ w.db.activeIn g.id,
      ((findBackend cfg (w.db.withMappings g)).run (mysql env) w).1 = some (.ok (some b.id)) ∧
      (∀ i x, (w.db.activeIn g.id)[i]? = some x →
        effectiveLoad cfg (env.clock (w.tick + 2 * (w.db.activeIn g.id).length)) b ≤
          effectiveLoad cfg (env.clock (w.tick + 1 + 2 * i)) x) ∧
      ∀ curr, (∀ k, w.tick < k → k ≤ w.tick + 2 * (w.db.activeIn g.id).length →
          env.clock k = curr) →
        IsFirstLeast (effectiveLoad cfg curr) (w.db.activeIn g.id) b := by
  have hact := run_getAllActive env w g
  unfold Env.read at hact
  rw [hread] at hact
  obtain ⟨first, rest, hlist⟩ := List.exists_cons_of_ne_nil hne
  rw [hlist] at hact hloads hclock ⊢
  -- the scan begins with the first backend, which is also the first one examined
  set key : ℕ → Backend → ℤ := fun k => effectiveLoad cfg (env.clock k) with hkey
  have hscan := @run_leastLoaded_scan cfg env w.next first (first :: rest)
    fun b hb => (hloads b (by simpa using hb)).1
  set b := scan key (w.tick + 1) first (first :: rest) with hb
  have hselect : (selectBackend cfg (w.db.withMappings g) first (first :: rest)).run (mysql env)
      w.next = (some b.id, { w.next with tick := w.next.tick + 2 * (first :: rest).length }) := by
    have hg' : (w.db.withMappings g).strategy = some "least_load" := hg
    simp only [selectBackend, hg', deref_some, bind_eq, ret_bind, if_true]
    rw [if_neg (by decide), run_bind_some _ hscan]
    rfl
  have hmem : b ∈ first :: first :: rest := scan_mem
  refine ⟨b, by simpa using hmem, ?_, ?_, ?_⟩
  · obtain ⟨res, w', hupd, -⟩ := run_updateLastRouted env
      { w.next with tick := w.next.tick + 2 * (first :: rest).length } (w.db.withMappings g).id b.id
    unfold findBackend
    rw [run_andThen_ok _ hact]
    simp only [bind_eq]
    rw [run_bind_some _ hselect, run_bind_some _ hupd]
    rfl
  · have hdrop : ∀ x ∈ first :: first :: rest, AntitoneOn (fun i => key i x)
        (Set.Icc (w.tick + 1) (w.tick + 2 * (first :: rest).length)) :=
      fun x hx i hi j hj hij =>
        effectiveLoad_le (hloads x (by simpa using hx)).2 (hclock i j hi.1 hij hj.2)
    exact (scan_le le_rfl (by simp; omega) (by omega) hdrop).2
  · intro curr hcurr
    have hfirst : IsFirstLeast (effectiveLoad cfg curr) (first :: first :: rest) b :=
      scan_first fun i hi hi' => congrArg (effectiveLoad cfg) (hcurr i hi (by omega))
    exact hfirst.of_cons_cons

/-- Two backends of a group, with the statistics of the second older than those of the first. -/
def loadedBackends : Db where
  backends :=
    [{ id := "trino-1", hostname := "h1", scheme := "http", externalUrl := some "x1",
       isEnabled := some true, isHealthy := some true, clusterLoad := some 5,
       statsUpdatedAt := some 100 },
      { id := "trino-2", hostname := "h2", scheme := "http", externalUrl := some "x2",
        isEnabled := some true, isHealthy := some true, clusterLoad := some 7,
        statsUpdatedAt := some 42 }]
  groups := [{ id := "adhoc", strategy := some "least_load", isEnabled := some true }]
  mappings := [{ groupId := "adhoc", backendId := "trino-1" },
    { groupId := "adhoc", backendId := "trino-2" }]

/-- On a clock that runs from `100` on, with statistics valid for a minute. -/
theorem loadedBackends_chosen :
    ∃ b ∈ loadedBackends.activeIn "adhoc",
      ((findBackend ⟨"adhoc", 60⟩ (loadedBackends.withMappings { id := "adhoc", strategy := some "least_load" })).run
        (mysql (.available fun k => 100 + k)) ⟨loadedBackends, 0⟩).1 = some (.ok (some b.id)) := by
  obtain ⟨b, hb, hrun, -⟩ := @findBackend_leastLoad ⟨"adhoc", 60⟩ (.available fun k => 100 + k)
    ⟨loadedBackends, 0⟩ { id := "adhoc", strategy := some "least_load" } rfl rfl (by decide)
    (by unfold HasLoads HasLoad; decide) (fun i j _ hij _ => by simp; omega)
  exact ⟨b, hb, hrun⟩

end GroupApi

end TrinoGateway
