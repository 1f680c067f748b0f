import Mathlib.Tactic.Linarith
import TrinoGateway.Lib.Scan
import TrinoGateway.Spec.Monitor

/-!
# The load in 32 bits

The load is a sum of counters in wrapping arithmetic. `toInt_load` is its value in terms of the
exact counts, and `loadGrows_iff` says how far it can be trusted: **up to a cluster the load is
never negative and never falls as a count is raised exactly when neither the queued queries of the
cluster nor its load pass the largest 32-bit number**.
-/

namespace TrinoGateway

open Interact Prog

/-- The rows of the query for the load: its `GROUP BY` has each state once, and counts are not
negative. -/
structure LoadRows where
  stats : List StateStat
  distinct : (stats.map StateStat.state).Nodup
  counts : ∀ s ∈ stats, 0 ≤ s.count.toInt

namespace LoadRows

/-- The load that `getBackendLoad` computes. -/
def load (rows : LoadRows) : Int32 :=
  computeClusterLoad (rows.stats.foldl ClusterLoadStats.count {})

/-- The count of a state, `0` without a row of it. -/
def countOf (rows : LoadRows) (state : String) : ℤ :=
  ((rows.stats.find? fun s => s.state = state).map fun s => s.count.toInt).getD 0

def running (rows : LoadRows) : ℤ :=
  rows.countOf "RUNNING" + rows.countOf "PLANNING" + rows.countOf "FINISHING" +
    rows.countOf "DISPATCHING"

def queued (rows : LoadRows) : ℤ := rows.countOf "QUEUED" + rows.countOf "STARTING"

/-- At most the count of one state is raised. -/
def Raises (rows rows' : LoadRows) : Prop :=
  ∃ state, rows.countOf state ≤ rows'.countOf state ∧
    ∀ other, other ≠ state → rows'.countOf other = rows.countOf other

/-- The cluster is no busier than another one. -/
def NoBusier (rows bound : LoadRows) : Prop := ∀ state, rows.countOf state ≤ bound.countOf state

/-- Up to this cluster the load is not negative, and does not fall where a count is raised. -/
def LoadGrows (bound : LoadRows) : Prop :=
  ∀ rows rows' : LoadRows, rows.Raises rows' → rows'.NoBusier bound →
    0 ≤ rows.load ∧ rows.load ≤ rows'.load

variable {rows rows' bound : LoadRows}

theorem Raises.refl (rows : LoadRows) : rows.Raises rows := ⟨"", le_rfl, fun _ _ => rfl⟩

theorem NoBusier.refl (rows : LoadRows) : rows.NoBusier rows := fun _ => le_rfl

theorem Raises.noBusier (h : rows.Raises rows') : rows.NoBusier rows' := by
  obtain ⟨state, hle, hother⟩ := h
  intro s
  by_cases hs : s = state
  · exact hs ▸ hle
  · exact (hother s hs).ge

theorem countOf_nonneg (rows : LoadRows) (state : String) : 0 ≤ rows.countOf state := by
  unfold countOf
  cases hfind : rows.stats.find? fun s => s.state = state with
  | none => exact le_rfl
  | some s => exact rows.counts s (List.mem_of_find?_eq_some hfind)

theorem countOf_lt (rows : LoadRows) (state : String) : rows.countOf state < 2147483648 := by
  unfold countOf
  cases rows.stats.find? fun s => s.state = state with
  | none => decide
  | some s => exact s.count.toInt_lt

/-- `getBackendLoad` returns the load of the rows that the query has. -/
theorem run_getBackendLoad {σ : Type} {h : (o : MonitorOp) → σ → o.Ans × σ} {s : σ}
    (cfg : MonitorConfig) (b : BackendMsg) (rows : LoadRows)
    (hrows : ∀ client q, (h (.check (.runQuery client q)) s).1 =
      .ok { scans := rows.stats.map .ok }) :
    ((Monitor.getBackendLoad cfg b).run h s).1 = some (.ok rows.load) := by
  have hscan : Rows.scan { scans := rows.stats.map .ok } = .ok rows.stats := by
    have hmap : (rows.stats.map Except.ok : List (Result StateStat)).mapM id = .ok rows.stats := by
      induction rows.stats with
      | nil => rfl
      | cons s stats ih =>
        rw [List.map_cons, List.mapM_cons, ih]
        rfl
    simp [Rows.scan, hmap]
  simp only [Monitor.getBackendLoad, Monitor.check, bind_eq, perform_bind, run_op, hrows, hscan]
  rfl

/-- The states that have a counter. -/
def loadStates : List String :=
  ["QUEUED", "DISPATCHING", "PLANNING", "STARTING", "RUNNING", "FINISHING"]

/-- The counter of a state. -/
def counter (state : String) (res : ClusterLoadStats) : Int32 :=
  if state = "QUEUED" then res.queued
  else if state = "DISPATCHING" then res.dispatching
  else if state = "PLANNING" then res.planning
  else if state = "STARTING" then res.starting
  else if state = "RUNNING" then res.running
  else res.finishing

/-- A row sets the counter of its state. -/
theorem counter_count {state : String} (h : state ∈ loadStates) (res : ClusterLoadStats)
    (s : StateStat) :
    counter state (res.count s) = if s.state = state then s.count else counter state res := by
  simp only [loadStates, List.mem_cons, List.not_mem_nil, or_false] at h
  by_cases hs : s.state = state
  · rw [if_pos hs]
    rcases h with rfl | rfl | rfl | rfl | rfl | rfl <;> simp [ClusterLoadStats.count, counter, hs]
  · -- the row sets another counter, or none
    rw [if_neg hs]
    unfold ClusterLoadStats.count
    simp only [apply_ite (counter state)]
    rcases h with rfl | rfl | rfl | rfl | rfl | rfl <;> simp [counter, hs]

/-- The loop leaves the count of the state in its counter. -/
theorem counter_foldl {state : String} (h : state ∈ loadStates) {stats : List StateStat}
    (hd : (stats.map StateStat.state).Nodup) (res : ClusterLoadStats) :
    counter state (stats.foldl ClusterLoadStats.count res) =
      ((stats.find? fun s => s.state = state).map StateStat.count).getD (counter state res) :=
  foldl_keyed (counter state) (counter_count h) hd res

theorem toInt_counter (rows : LoadRows) {state : String} (h : state ∈ loadStates) :
    (counter state (rows.stats.foldl ClusterLoadStats.count {})).toInt = rows.countOf state := by
  rw [counter_foldl h rows.distinct, countOf]
  have hzero : counter state {} = 0 := by
    simp only [loadStates, List.mem_cons, List.not_mem_nil, or_false] at h
    rcases h with rfl | rfl | rfl | rfl | rfl | rfl <;> rfl
  rw [hzero]
  cases rows.stats.find? fun s => s.state = state <;> rfl

/-- **The load, from the exact counts**: the queued queries wrap before they are divided, and the
sum wraps once more. -/
theorem toInt_load (rows : LoadRows) :
    rows.load.toInt =
      (2 * rows.running + (rows.queued.bmod 4294967296).tdiv 3).bmod 4294967296 := by
  set res := rows.stats.foldl ClusterLoadStats.count {} with hres
  have hcounts : ∀ state ∈ loadStates, (counter state res).toInt = rows.countOf state :=
    fun _ => rows.toInt_counter
  simp only [loadStates, List.forall_mem_cons, counter, String.reduceEq, if_true, if_false]
    at hcounts
  obtain ⟨hqueued, hdispatching, hplanning, hstarting, hrunning, hfinishing, -⟩ := hcounts
  have htwo : (2 : Int32).toInt = 2 := by decide
  have hone : (1 : Int32).toInt = 1 := by decide
  have hthree : (3 : Int32).toInt = 3 := by decide
  unfold load computeClusterLoad running queued
  rw [← hres]
  simp only [Int32.toInt_add, Int32.toInt_mul,
    Int32.toInt_div_of_ne_right _ _ (by decide : (3 : Int32) ≠ -1), htwo, hone, hthree,
    Int.bmod_add_bmod, Int.bmod_mul_bmod, mul_one, Int.bmod_bmod, hrunning, hplanning, hfinishing,
    hdispatching, hqueued, hstarting]
  rw [mul_comm]

theorem running_nonneg (rows : LoadRows) : 0 ≤ rows.running := by
  unfold running
  have := rows.countOf_nonneg "RUNNING"
  have := rows.countOf_nonneg "PLANNING"
  have := rows.countOf_nonneg "FINISHING"
  have := rows.countOf_nonneg "DISPATCHING"
  omega

theorem queued_nonneg (rows : LoadRows) : 0 ≤ rows.queued :=
  add_nonneg (rows.countOf_nonneg _) (rows.countOf_nonneg _)

theorem NoBusier.running (h : rows.NoBusier rows') : rows.running ≤ rows'.running :=
  add_le_add (add_le_add (add_le_add (h _) (h _)) (h _)) (h _)

theorem NoBusier.queued (h : rows.NoBusier rows') : rows.queued ≤ rows'.queued :=
  add_le_add (h _) (h _)

/-- Queued queries that fit are divided as they are. -/
theorem toInt_load_of_queued (hq : rows.queued ≤ 2147483647) :
    rows.load.toInt = (2 * rows.running + rows.queued / 3).bmod 4294967296 := by
  have hpos := rows.queued_nonneg
  have hwrap : rows.queued.bmod 4294967296 = rows.queued :=
    Int.bmod_eq_of_le (by omega) (by omega)
  rw [toInt_load, hwrap, Int.tdiv_eq_ediv_of_nonneg hpos]

/-- Where nothing overflows, the load is the exact one. -/
theorem toInt_load_of_fits (hq : rows.queued ≤ 2147483647)
    (hl : 2 * rows.running + rows.queued / 3 ≤ 2147483647) :
    rows.load.toInt = 2 * rows.running + rows.queued / 3 := by
  have hpos := rows.queued_nonneg
  have hrunning := rows.running_nonneg
  rw [toInt_load_of_queued hq, Int.bmod_eq_of_le (by omega) (by omega)]

/-- A load just past the limit is negative. -/
theorem load_neg_of_passes (hq : rows.queued ≤ 2147483647)
    (hl : 2147483647 < 2 * rows.running + rows.queued / 3)
    (hl' : 2 * rows.running + rows.queued / 3 ≤ 2147483649) : rows.load.toInt < 0 := by
  rw [toInt_load_of_queued hq, ← Int.sub_bmod_right, Int.bmod_eq_of_le (by omega) (by omega)]
  omega

/-- A row for each state that has a counter. -/
def ofCounts (c : String → ℤ) (hc : ∀ s, 0 ≤ c s ∧ c s < 2147483648) : LoadRows where
  stats := loadStates.map fun s => { state := s, count := Int32.ofInt (c s) }
  distinct := by
    rw [List.map_map]
    exact (by decide : loadStates.Nodup)
  counts s hs := by
    obtain ⟨state, -, rfl⟩ := List.mem_map.mp hs
    rw [Int32.toInt_ofInt_of_le (by linarith [hc state]) (by linarith [hc state])]
    exact (hc state).1

theorem countOf_ofCounts {c : String → ℤ} (hc : ∀ s, 0 ≤ c s ∧ c s < 2147483648) (state : String) :
    (ofCounts c hc).countOf state = if state ∈ loadStates then c state else 0 := by
  have hfind : ∀ states : List String, states.find? (fun s => s = state) =
      if state ∈ states then some state else none := by
    intro states
    induction states with
    | nil => rfl
    | cons s states ih =>
      by_cases hs : s = state
      · simp [hs]
      · simp [hs, Ne.symm hs, ih]
  unfold countOf ofCounts
  rw [List.find?_map]
  simp only [Function.comp_def]
  rw [hfind]
  split
  · exact Int32.toInt_ofInt_of_le (by linarith [hc state]) (by linarith [hc state])
  · rfl

theorem running_ofCounts {c : String → ℤ} (hc : ∀ s, 0 ≤ c s ∧ c s < 2147483648) :
    (ofCounts c hc).running = c "RUNNING" + c "PLANNING" + c "FINISHING" + c "DISPATCHING" := by
  simp [running, countOf_ofCounts, loadStates]

theorem queued_ofCounts {c : String → ℤ} (hc : ∀ s, 0 ≤ c s ∧ c s < 2147483648) :
    (ofCounts c hc).queued = c "QUEUED" + c "STARTING" := by
  simp [queued, countOf_ofCounts, loadStates]

theorem noBusier_ofCounts {c : String → ℤ} (hc : ∀ s, 0 ≤ c s ∧ c s < 2147483648)
    (h : ∀ s ∈ loadStates, c s ≤ bound.countOf s) : (ofCounts c hc).NoBusier bound := by
  intro state
  rw [countOf_ofCounts]
  split
  · exact h state ‹_›
  · exact bound.countOf_nonneg state

/-- Counts no larger than the given ones have any smaller sum. -/
theorem exists_counts {a b c d sum : ℤ} (ha : 0 ≤ a) (hb : 0 ≤ b) (hc : 0 ≤ c) (hd : 0 ≤ d)
    (hsum : 0 ≤ sum) (h : sum ≤ a + b + c + d) :
    ∃ a' b' c' d', (0 ≤ a' ∧ a' ≤ a) ∧ (0 ≤ b' ∧ b' ≤ b) ∧ (0 ≤ c' ∧ c' ≤ c) ∧ (0 ≤ d' ∧ d' ≤ d) ∧
      a' + b' + c' + d' = sum := by
  refine ⟨min a sum, min b (sum - min a sum), min c (sum - min a sum - min b (sum - min a sum)),
    sum - min a sum - min b (sum - min a sum) -
      min c (sum - min a sum - min b (sum - min a sum)), ?_⟩
  omega

/-- A bound with too many queued queries: where their number overflows, the load falls. -/
theorem queued_le_of_loadGrows (h : LoadGrows bound) : bound.queued ≤ 2147483647 := by
  by_contra! hover
  have hqueued := bound.countOf_nonneg "QUEUED"
  have hqueued' := bound.countOf_lt "QUEUED"
  have hstarting := bound.countOf_nonneg "STARTING"
  have hstarting' := bound.countOf_lt "STARTING"
  unfold queued at hover
  -- so many starting queries that the sum is the largest number, and one more
  let c (starting : ℤ) (state : String) : ℤ :=
    if state = "QUEUED" then bound.countOf "QUEUED"
    else if state = "STARTING" then starting else 0
  have hc : ∀ starting, 0 ≤ starting → starting ≤ bound.countOf "STARTING" →
      ∀ s, 0 ≤ c starting s ∧ c starting s < 2147483648 := by
    intro starting hpos hle s
    simp only [c]
    split_ifs <;> omega
  set starting := 2147483647 - bound.countOf "QUEUED" with hdef
  have hlow := hc starting (by omega) (by omega)
  have hhigh := hc (starting + 1) (by omega) (by omega)
  have hraises : (ofCounts _ hlow).Raises (ofCounts _ hhigh) := by
    refine ⟨"STARTING", ?_, fun other hother => ?_⟩
    · simp [countOf_ofCounts, loadStates, c]
    · simp [countOf_ofCounts, c, hother]
  have hbound : (ofCounts _ hhigh).NoBusier bound := by
    refine noBusier_ofCounts hhigh fun s _ => ?_
    simp only [c]
    split_ifs with hq hs
    · rw [hq]
    · rw [hs]
      omega
    · exact bound.countOf_nonneg s
  have hfall := Int32.le_iff_toInt_le.mp (h _ _ hraises hbound).2
  have hrunning : ∀ x (hx : ∀ s, 0 ≤ c x s ∧ c x s < 2147483648), (ofCounts _ hx).running = 0 := by
    intro x hx
    simp [running_ofCounts, c]
  rw [toInt_load, toInt_load, hrunning, hrunning, queued_ofCounts, queued_ofCounts] at hfall
  have hsum : c starting "QUEUED" + c starting "STARTING" = 2147483647 := by
    simp [c, hdef]
  have hsum' : c (starting + 1) "QUEUED" + c (starting + 1) "STARTING" = 2147483648 := by
    simp [c, hdef]
    omega
  rw [hsum, hsum'] at hfall
  exact absurd hfall (by decide)

/-- A bound with too high a load: just past the limit it is negative. -/
theorem load_le_of_loadGrows (h : LoadGrows bound) :
    2 * bound.running + bound.queued / 3 ≤ 2147483647 := by
  have hq := queued_le_of_loadGrows h
  by_contra! hover
  have hqueued := bound.queued_nonneg
  unfold running at hover
  obtain ⟨r, p, f, d, hr, hp, hf, hd, hsum⟩ := exists_counts (bound.countOf_nonneg "RUNNING")
    (bound.countOf_nonneg "PLANNING") (bound.countOf_nonneg "FINISHING")
    (bound.countOf_nonneg "DISPATCHING")
    (by omega : 0 ≤ (2147483647 - bound.queued / 3) / 2 + 1) (by omega)
  let c (state : String) : ℤ :=
    if state = "RUNNING" then r else if state = "PLANNING" then p
    else if state = "FINISHING" then f else if state = "DISPATCHING" then d
    else bound.countOf state
  have hc : ∀ s, c s ≤ bound.countOf s ∧ 0 ≤ c s := by
    intro s
    simp only [c]
    split_ifs with h₁ h₂ h₃ h₄
    · exact ⟨h₁ ▸ hr.2, hr.1⟩
    · exact ⟨h₂ ▸ hp.2, hp.1⟩
    · exact ⟨h₃ ▸ hf.2, hf.1⟩
    · exact ⟨h₄ ▸ hd.2, hd.1⟩
    · exact ⟨le_rfl, bound.countOf_nonneg s⟩
  have hrange : ∀ s, 0 ≤ c s ∧ c s < 2147483648 :=
    fun s => ⟨(hc s).2, lt_of_le_of_lt (hc s).1 (bound.countOf_lt s)⟩
  have hbound : (ofCounts c hrange).NoBusier bound := noBusier_ofCounts hrange fun s _ => (hc s).1
  have hpos := Int32.le_iff_toInt_le.mp (h _ _ (Raises.refl _) hbound).1
  have hrunning : (ofCounts c hrange).running = (2147483647 - bound.queued / 3) / 2 + 1 := by
    rw [running_ofCounts, ← hsum]
    simp [c]
  have hqueued : (ofCounts c hrange).queued = bound.queued := by
    rw [queued_ofCounts]
    simp [c, queued]
  have hneg : (ofCounts c hrange).load.toInt < 0 :=
    load_neg_of_passes (by omega) (by omega) (by omega)
  rw [Int32.toInt_zero] at hpos
  omega

/-- **How far the load can be trusted.** -/
theorem loadGrows_iff (bound : LoadRows) :
    LoadGrows bound ↔
      bound.queued ≤ 2147483647 ∧ 2 * bound.running + bound.queued / 3 ≤ 2147483647 := by
  refine ⟨fun h => ⟨queued_le_of_loadGrows h, load_le_of_loadGrows h⟩, ?_⟩
  rintro ⟨hq, hl⟩ rows rows' hraises hbound
  have hbusier := hraises.noBusier
  have hqueued := hbusier.queued
  have hrunning := hbusier.running
  have hqueued' := hbound.queued
  have hrunning' := hbound.running
  have hload : rows.load.toInt = 2 * rows.running + rows.queued / 3 :=
    toInt_load_of_fits (by omega) (by omega)
  have hload' : rows'.load.toInt = 2 * rows'.running + rows'.queued / 3 :=
    toInt_load_of_fits (by omega) (by omega)
  constructor
  · have hpos := rows.running_nonneg
    have hpos' := rows.queued_nonneg
    rw [Int32.le_iff_toInt_le, hload, Int32.toInt_zero]
    omega
  · rw [Int32.le_iff_toInt_le, hload, hload']
    omega

/-- A cluster with 2³⁰ running queries. -/
def manyRunning : LoadRows where
  stats := [{ state := "RUNNING", count := 1073741824 }]
  distinct := by decide
  counts := by decide

/-- Its load is negative. -/
theorem manyRunning_negative : ¬ LoadGrows manyRunning := by
  intro h
  have hpos := (h _ _ (Raises.refl manyRunning) (NoBusier.refl manyRunning)).1
  exact absurd hpos (by decide)

end LoadRows

end TrinoGateway
