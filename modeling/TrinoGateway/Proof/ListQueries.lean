import TrinoGateway.Proof.Repo
import TrinoGateway.Spec.QueryApi

/-!
# Pages of queries

A page of the queries table is cut off above, at `maxLimit`, and not below: gorm takes a limit that
is zero or negative for none at all. `listsPage_iff`: **a list request gets the page that it asks
for exactly when its count is positive, or its offset is, in which case MySQL refuses the statement,
or there is nothing to list**.
-/

namespace TrinoGateway.QueryApi

open Interact Prog

/-- The records that a request is about: each filter that is not empty, and the range of times where
both ends are given. -/
def matching (db : Db) (req : QueriesListRequest) : List Query :=
  db.queries.filter fun q =>
    (req.username = "" ∨ q.username = req.username) ∧
      (req.backendId = "" ∨ q.backendId = req.backendId) ∧
      (req.groupId = "" ∨ q.groupId = req.groupId) ∧
      (req.fromTime = 0 ∨ req.toTime = 0 ∨ req.fromTime ≤ q.createdAt ∧ q.createdAt ≤ req.toTime)

/-- `items` is the page that a request asks for: from the offset on, and at most as many as the
count and `maxLimit` allow, of the matching records with the newest first. -/
structure IsPage (db : Db) (req : QueriesListRequest) (items : List QueryMsg) : Prop where
  newest_first : ∃ sorted : List Query, sorted.Perm (matching db req) ∧
    sorted.Pairwise (fun q r => r.createdAt ≤ q.createdAt) ∧
    items = ((sorted.drop req.skip.toNat).take (min req.count maxLimit).toNat).map
      toQueryResponseProto
  capped : (items.length : ℤ) ≤ maxLimit

/-- Every successful response is the page asked for. -/
def ListsPage (db : Db) (req : QueriesListRequest) : Prop :=
  ∀ env tick resp w',
    (Server.listQueries req).run (mysql env) ⟨db, tick⟩ = (some (.ok resp), w') →
      IsPage db req resp.items

variable {db : Db} {req : QueriesListRequest}

/-- The page that the request is turned into. -/
def page (req : QueriesListRequest) : Page :=
  { limit := getLimit req.count
    offset := req.skip
    range :=
      if req.fromTime ≠ 0 ∧ req.toTime ≠ 0 then some (req.fromTime, req.toTime) else none
    filter := { eqs := req.conditions } }

/-- The statement reads the matching records. -/
theorem filter_page : (db.rows .queries).filter (fun q =>
    (page req).filter.holds .queries q &&
      (page req).range.all fun b => b.1 ≤ Tbl.createdAt .queries q && Tbl.createdAt .queries q ≤ b.2) =
    matching db req := by
  refine List.filter_congr fun q _ => ?_
  have hfilter : (page req).filter.holds .queries q =
      decide ((req.username = "" ∨ q.username = req.username) ∧
        (req.backendId = "" ∨ q.backendId = req.backendId) ∧
        (req.groupId = "" ∨ q.groupId = req.groupId)) := by
    simp only [page, Where.holds, QueriesListRequest.conditions]
    by_cases hu : req.username = "" <;> by_cases hb : req.backendId = "" <;>
      by_cases hg : req.groupId = "" <;> simp [hu, hb, hg, Tbl.col]
  have hrange : ((page req).range.all fun b =>
      b.1 ≤ Tbl.createdAt .queries q && Tbl.createdAt .queries q ≤ b.2) =
      decide (req.fromTime = 0 ∨ req.toTime = 0 ∨
        req.fromTime ≤ q.createdAt ∧ q.createdAt ≤ req.toTime) := by
    simp only [page]
    by_cases hf : req.fromTime = 0
    · simp [hf]
    · by_cases ht : req.toTime = 0
      · simp [ht]
      · simp only [hf, ht, ne_eq, not_false_eq_true, and_self, if_true, Option.all_some, false_or,
          Bool.decide_and]
        rfl
  rw [hfilter, hrange, ← Bool.decide_and]
  simp only [and_assoc]

/-- The answer of the statement. -/
theorem fetchMultiple_run (env : Env) (w : World) (p : Page) :
    (fetchMultiple p).run (mysql env) w =
      (some (match env.faults w.tick with
        | some e => .error (.db e)
        | none => (w.db.findPage .queries p).mapError GoErr.db), w.next) := by
  simp only [fetchMultiple, bind_eq, perform_bind, run_op, mysql, exec]
  cases env.faults w.tick with
  | some e => rfl
  | none =>
    simp only [Db.answer]
    cases w.db.findPage .queries p <;> rfl

/-- Records in the order of the statement, which keeps the order that equal times have. -/
def newestFirst (rows : List Query) : List Query :=
  rows.insertionSort fun q r => r.createdAt ≤ q.createdAt

theorem newestFirst_perm (rows : List Query) : (newestFirst rows).Perm rows :=
  List.perm_insertionSort _ _

theorem newestFirst_sorted (rows : List Query) :
    (newestFirst rows).Pairwise fun q r => r.createdAt ≤ q.createdAt := by
  have : Std.Total fun q r : Query => r.createdAt ≤ q.createdAt := ⟨fun q r => le_total _ _⟩
  have : IsTrans Query fun q r => r.createdAt ≤ q.createdAt := ⟨fun _ _ _ h h' => h'.trans h⟩
  exact List.pairwise_insertionSort _ _

theorem findPage_page (db : Db) (req : QueriesListRequest) :
    db.findPage .queries (page req) =
      if getLimit req.count ≤ 0 ∧ 0 < req.skip then .error (.mysql 1064)
      else .ok (if getLimit req.count ≤ 0 then
          (newestFirst (matching db req)).drop req.skip.toNat
        else ((newestFirst (matching db req)).drop req.skip.toNat).take
          (getLimit req.count).toNat) := by
  rw [← filter_page]
  rfl

/-- The matching records, the newest first, as the statement sorts them. -/
theorem exists_sorted (db : Db) (req : QueriesListRequest) :
    ∃ sorted : List Query, sorted.Perm (matching db req) ∧
      sorted.Pairwise (fun q r => r.createdAt ≤ q.createdAt) ∧
      db.findPage .queries (page req) =
        if getLimit req.count ≤ 0 ∧ 0 < req.skip then .error (.mysql 1064)
        else .ok (if getLimit req.count ≤ 0 then sorted.drop req.skip.toNat
          else (sorted.drop req.skip.toNat).take (getLimit req.count).toNat) :=
  ⟨newestFirst (matching db req), newestFirst_perm _, newestFirst_sorted _, findPage_page db req⟩

theorem getLimit_eq (limit : ℤ) : getLimit limit = min limit maxLimit := by
  unfold getLimit maxLimit
  split <;> omega

/-- A response holds the rows of the page. -/
theorem rows_of_listQueries {env : Env} {w w' : World} {resp : QueriesListResponse}
    (h : (Server.listQueries req).run (mysql env) w = (some (.ok resp), w')) :
    ∃ rows, w.db.findPage .queries (page req) = .ok rows ∧
      resp.items = rows.map toQueryResponseProto := by
  have hfetch := fetchMultiple_run env w (page req)
  unfold Server.listQueries at h
  cases hfault : env.faults w.tick with
  | some e =>
    rw [hfault] at hfetch
    rw [findMany, ← page.eq_def, run_andThen_error _ hfetch] at h
    cases h
  | none =>
    rw [hfault] at hfetch
    cases hrows : w.db.findPage .queries (page req) with
    | error e =>
      rw [hrows] at hfetch
      rw [findMany, ← page.eq_def, run_andThen_error _ hfetch] at h
      cases h
    | ok rows =>
      rw [hrows] at hfetch
      rw [findMany, ← page.eq_def, run_andThen_ok _ hfetch] at h
      cases h
      exact ⟨rows, rfl, rfl⟩

/-- With an available database the rows are returned. -/
theorem listQueries_of_rows {rows : List Query} (h : db.findPage .queries (page req) = .ok rows) :
    ∃ resp w', (Server.listQueries req).run (mysql (.available fun _ => 0)) ⟨db, 0⟩ =
      (some (.ok resp), w') ∧ resp.items = rows.map toQueryResponseProto := by
  have hfetch := fetchMultiple_run (.available fun _ => 0) ⟨db, 0⟩ (page req)
  simp only [Env.available_faults, h] at hfetch
  refine ⟨{ items := rows.map toQueryResponseProto, count := rows.length }, World.next ⟨db, 0⟩,
    ?_, rfl⟩
  rw [Server.listQueries, findMany, ← page.eq_def, run_andThen_ok _ hfetch]
  rfl

/-- **When a list request gets the page that it asks for.** -/
theorem listsPage_iff : ListsPage db req ↔ 0 < req.count ∨ 0 < req.skip ∨ matching db req = [] := by
  obtain ⟨sorted, hperm, hnewest, hpage⟩ := exists_sorted db req
  rw [getLimit_eq] at hpage
  constructor
  · intro h
    by_contra! hno
    obtain ⟨hcount, hskip, hmatch⟩ := hno
    -- neither a limit nor an offset: all matching records are returned, and none was asked for
    rw [if_neg (by omega), if_pos (by omega), Int.toNat_of_nonpos hskip, List.drop_zero] at hpage
    obtain ⟨resp, w', hrun, hitems⟩ := listQueries_of_rows hpage
    obtain ⟨sorted', -, -, hitems'⟩ := (h _ _ _ _ hrun).newest_first
    rw [hitems, Int.toNat_of_nonpos (by omega), List.take_zero, List.map_nil,
      List.map_eq_nil_iff] at hitems'
    rw [hitems'] at hperm
    exact hmatch hperm.nil_eq.symm
  · rintro hcond env tick resp w' hrun
    obtain ⟨rows, hrows, hitems⟩ := rows_of_listQueries hrun
    rw [hrows] at hpage
    have hrows' : rows = (sorted.drop req.skip.toNat).take (min req.count maxLimit).toNat := by
      split at hpage
      · cases hpage
      · rename_i hrefused
        obtain rfl := Except.ok.inj hpage
        split
        · -- no limit, and not refused either: there is nothing to list
          rename_i hlimit
          have hmatch : matching db req = [] := by
            rcases hcond with hcount | hskip | hmatch
            · unfold maxLimit at hlimit
              omega
            · exact absurd ⟨hlimit, hskip⟩ hrefused
            · exact hmatch
          rw [hmatch] at hperm
          rw [hperm.eq_nil]
          simp
        · rfl
    refine ⟨⟨sorted, hperm, hnewest, by rw [hitems, hrows']⟩, ?_⟩
    rw [hitems, hrows', List.length_map, List.length_take]
    unfold maxLimit
    omega

/-- A table of one query. -/
def oneQuery : Db := { queries := [{ id := "20240101_1", username := "alice", createdAt := 1 }] }

/-- A count of zero asks for nothing and gets the whole table. -/
theorem zeroCount_unlimited : ¬ ListsPage oneQuery { count := 0 } := by
  intro h
  have hrows : oneQuery.findPage .queries (page { count := 0 }) = .ok oneQuery.queries := by decide
  obtain ⟨resp, w', hrun, hitems⟩ := listQueries_of_rows hrows
  obtain ⟨sorted, -, -, hitems'⟩ := (h _ _ _ _ hrun).newest_first
  rw [hitems] at hitems'
  exact absurd (congrArg List.length hitems') (by simp [oneQuery, maxLimit])

end TrinoGateway.QueryApi
