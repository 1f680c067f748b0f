import TrinoGateway.Lib.Paging
import TrinoGateway.Proof.ListQueries
import TrinoGateway.Proof.Schema

/-!
# Listing all queries page by page

`Listing` is what a client gets that asks for one page after the other, while the table does not
change: the database finds the rows of equal creation times in any order, another one in each query.
`listing_tiles_iff`: **the pages have every matching record exactly once, whatever these orders are,
exactly if no creation time is on two pages**. The times are in seconds, and the id is not in the
sort key.
-/

namespace TrinoGateway.QueryApi

open Interact Prog Paging

/-- A page size that is not cut off. -/
structure PageSize where
  size : ℕ
  pos : 0 < size
  le : size ≤ maxLimit

/-- The request for the `k`-th page. -/
def QueriesListRequest.atPage (req : QueriesListRequest) (c : PageSize) (k : ℕ) :
    QueriesListRequest :=
  { req with count := c.size, skip := c.size * k }

/-- The responses to the requests for all pages. For each query the rows of the table are found in
an order of its own, which the sort by `created_at` keeps among equals. -/
structure Listing (db : Db) (req : QueriesListRequest) (c : PageSize) where
  scan : ℕ → List Query
  same : ∀ k, (scan k).Perm db.queries
  resp : ℕ → QueriesListResponse
  answered : ∀ k, ∃ env tick w', (Server.listQueries (req.atPage c k)).run (mysql env)
    ⟨{ db with queries := scan k }, tick⟩ = (some (.ok (resp k)), w')

/-- The pages up to the first empty one have every matching record exactly once. -/
def Listing.Tiles {db : Db} {req : QueriesListRequest} {c : PageSize}
    (L : Listing db req c) : Prop :=
  ∃ n, (L.resp n).items = [] ∧ (∀ k < n, (L.resp k).items ≠ []) ∧
    ((List.range n).flatMap fun k => (L.resp k).items).Perm
      ((matching db req).map toQueryResponseProto)

variable {db : Db} {req : QueriesListRequest} {c : PageSize}

/-- How many matching records are newer than `q`, and how many are not older. -/
def newer (db : Db) (req : QueriesListRequest) (q : Query) : ℕ :=
  (matching db req).countP fun r => q.createdAt < r.createdAt

def notOlder (db : Db) (req : QueriesListRequest) (q : Query) : ℕ :=
  (matching db req).countP fun r => q.createdAt ≤ r.createdAt

theorem matching_perm {rows : List Query} (h : rows.Perm db.queries) :
    (matching { db with queries := rows } req).Perm (matching db req) :=
  h.filter _

/-- The rows of a page. -/
theorem findPage_atPage (db : Db) (req : QueriesListRequest) (c : PageSize) (k : ℕ) :
    db.findPage .queries (page (req.atPage c k)) =
      .ok (Paging.page c.size k (newestFirst (matching db req))) := by
  have hlimit : getLimit (req.atPage c k).count = c.size := by
    rw [getLimit_eq]
    exact min_eq_left c.le
  have hpos : ¬ (c.size : ℤ) ≤ 0 := by
    have := c.pos
    omega
  have hskip : (req.atPage c k).skip.toNat = c.size * k := by
    simp only [QueriesListRequest.atPage]
    omega
  rw [findPage_page, hlimit, if_neg (fun h => hpos h.1), if_neg hpos, hskip, Int.toNat_natCast]
  rfl

/-- Each page of a listing is cut out of the matching records in an order of its own. -/
theorem Listing.exists_orders (L : Listing db req c) :
    ∃ orders : ℕ → List Query, (∀ k, Desc Query.createdAt (orders k)) ∧
      (∀ k, (orders k).Perm (matching db req)) ∧
      ∀ k, (L.resp k).items = (Paging.page c.size k (orders k)).map toQueryResponseProto := by
  refine ⟨fun k => newestFirst (matching { db with queries := L.scan k } req), fun k => ?_,
    fun k => ?_, fun k => ?_⟩
  · exact newestFirst_sorted _
  · exact (newestFirst_perm _).trans (matching_perm (L.same k))
  · obtain ⟨env, tick, w', hrun⟩ := L.answered k
    obtain ⟨rows, hrows, hitems⟩ := rows_of_listQueries hrun
    rw [findPage_atPage] at hrows
    rw [hitems, ← Except.ok.inj hrows]

/-- A table can be found in an order that begins with the matching records, in any order. -/
theorem exists_scan {rows : List Query} (h : rows.Perm (matching db req)) :
    ∃ scan : List Query, scan.Perm db.queries ∧
      matching { db with queries := scan } req = rows := by
  obtain ⟨p, hp⟩ : ∃ p : Query → Bool, ∀ db, matching db req = db.queries.filter p :=
    ⟨_, fun _ => rfl⟩
  rw [hp] at h
  refine ⟨rows ++ db.queries.filter fun q => !p q, ?_, ?_⟩
  · exact (h.append_right _).trans (List.filter_append_perm p db.queries)
  · have hrows : rows.filter p = rows := by
      refine List.filter_eq_self.mpr fun q hq => ?_
      exact (List.mem_filter.mp (h.mem_iff.mp hq)).2
    rw [hp, List.filter_append, hrows, List.filter_filter]
    simp

/-- All such orders occur. -/
theorem exists_listing {orders : ℕ → List Query} (hsorted : ∀ k, Desc Query.createdAt (orders k))
    (hperm : ∀ k, (orders k).Perm (matching db req)) :
    ∃ L : Listing db req c, ∀ k,
      (L.resp k).items = (Paging.page c.size k (orders k)).map toQueryResponseProto := by
  choose scan hsame hmatch using fun k => exists_scan (hperm k)
  have hrows : ∀ k, ({ db with queries := scan k } : Db).findPage .queries
      (page (req.atPage c k)) = .ok (Paging.page c.size k (orders k)) := by
    intro k
    -- what is sorted already stays as it is
    have hnewest : newestFirst (orders k) = orders k := List.Pairwise.insertionSort_eq (hsorted k)
    rw [findPage_atPage, hmatch, hnewest]
  choose resp w' hrun hitems using fun k => listQueries_of_rows (hrows k)
  exact ⟨⟨scan, hsame, resp, fun k => ⟨_, _, w' k, hrun k⟩⟩, hitems⟩

/-- The messages of the matching records are distinct, as their ids are. -/
theorem nodup_messages (s : ConsistentDb) (req : QueriesListRequest) :
    ((matching s.db req).map toQueryResponseProto).Nodup := by
  have hids : (s.db.queries.map Query.id).Nodup := s.consistent.ids .queries
  have hmatching : ((matching s.db req).map Query.id).Nodup :=
    hids.sublist (List.filter_sublist.map Query.id)
  refine List.Nodup.of_map QueryCreateParams.id ?_
  rw [List.map_map]
  exact hmatching

theorem flatMap_items {resp : ℕ → QueriesListResponse} {orders : ℕ → List Query}
    (hitems : ∀ k, (resp k).items = (Paging.page c.size k (orders k)).map toQueryResponseProto)
    (n : ℕ) :
    ((List.range n).flatMap fun k => (resp k).items) =
      (pages c.size n orders).map toQueryResponseProto := by
  simp only [hitems, pages, List.map_flatMap]

/-- **Paging.** The pages of every listing have every matching record exactly once, in whatever
order each query finds records of equal times, exactly if what was created at one time is on one
page: as many pages are full of newer records as are full before the last record that is not
older. -/
theorem listing_tiles_iff (s : ConsistentDb) (req : QueriesListRequest) (c : PageSize) :
    (∀ L : Listing s.db req c, L.Tiles) ↔
      ∀ q ∈ matching s.db req,
        newer s.db req q / c.size = (notOlder s.db req q - 1) / c.size := by
  have hnewest : Desc Query.createdAt (newestFirst (matching s.db req)) := newestFirst_sorted _
  have hpermNewest := newestFirst_perm (matching s.db req)
  have hsep : (∀ k, Separated Query.createdAt (newestFirst (matching s.db req)) (c.size * k)) ↔
      ∀ q ∈ matching s.db req, newer s.db req q / c.size = (notOlder s.db req q - 1) / c.size := by
    rw [separated_iff c.pos hnewest]
    simp only [hpermNewest.mem_iff, hpermNewest.countP_eq]
    rfl
  refine Iff.trans ⟨fun h => ?_, fun h L => ?_⟩ hsep
  · by_contra! hno
    obtain ⟨k, hk⟩ := hno
    obtain ⟨orders, hsorted, hperm, hlen, hrepeats⟩ := exists_repeats c.pos hnewest hk
    obtain ⟨L, hitems⟩ : ∃ L : Listing s.db req c, ∀ k,
        (L.resp k).items = (Paging.page c.size k (orders k)).map toQueryResponseProto :=
      exists_listing hsorted fun k => (hperm k).trans hpermNewest
    obtain ⟨n, hempty, -, htiles⟩ := h L
    -- the first empty page is behind the boundary
    have hn : k < n := by
      rw [hitems, List.map_eq_nil_iff, page_eq_nil_iff c.pos, (hperm n).length_eq] at hempty
      exact Nat.lt_of_mul_lt_mul_left (hlen.trans_le hempty)
    rw [flatMap_items hitems] at htiles
    exact hrepeats n hn (List.Nodup.of_map _ (htiles.nodup_iff.mpr (nodup_messages s req)))
  · obtain ⟨orders, hsorted, hperm, hitems⟩ := L.exists_orders
    have hperm' : ∀ k, (orders k).Perm (newestFirst (matching s.db req)) :=
      fun k => (hperm k).trans hpermNewest.symm
    obtain ⟨n, hend, hbefore⟩ := exists_end c.pos (newestFirst (matching s.db req)).length
    have hempty : ∀ k, (L.resp k).items = [] ↔
        (newestFirst (matching s.db req)).length ≤ c.size * k := by
      intro k
      rw [hitems, List.map_eq_nil_iff, page_eq_nil_iff c.pos, (hperm' k).length_eq]
    refine ⟨n, (hempty n).mpr hend, fun k hk => ?_, ?_⟩
    · rw [ne_eq, hempty]
      exact not_le.mpr (hbefore k hk)
    · rw [flatMap_items hitems]
      have htile := pages_perm h hnewest hsorted hperm' n
      rw [List.take_of_length_le hend] at htile
      exact (htile.trans hpermNewest).map _

/-- Two queries that were saved in the same second. -/
def twoInOneSecond : ConsistentDb where
  db :=
    { backends := [{ id := "trino-1" }]
      groups := [{ id := "adhoc" }]
      queries :=
        [{ id := "20240101_1", groupId := "adhoc", backendId := "trino-1", createdAt := 1 },
          { id := "20240101_2", groupId := "adhoc", backendId := "trino-1", createdAt := 1 }] }
  consistent := by decide

def onePerPage : PageSize where
  size := 1
  pos := by decide
  le := by decide

/-- The two pages of one record can both have the first record. -/
theorem samePage_twice : ¬ ∀ L : Listing twoInOneSecond.db {} onePerPage, L.Tiles := by
  intro h
  -- the second query finds the two records the other way round
  let orders : ℕ → List Query := fun k =>
    if k = 1 then twoInOneSecond.db.queries.reverse else twoInOneSecond.db.queries
  obtain ⟨L, hitems⟩ : ∃ L : Listing twoInOneSecond.db {} onePerPage, ∀ k,
      (L.resp k).items = (Paging.page 1 k (orders k)).map toQueryResponseProto :=
    exists_listing (fun k => by unfold orders; split <;> decide)
      (fun k => by unfold orders; split <;> decide)
  obtain ⟨n, hempty, hnonempty, htiles⟩ := h L
  have hfirst : (L.resp 0).items ≠ [] := by rw [hitems]; decide
  have hsecond : (L.resp 1).items ≠ [] := by rw [hitems]; decide
  have hthird : (L.resp 2).items = [] := by rw [hitems]; decide
  obtain rfl : n = 2 := by
    match n, hempty, hnonempty with
    | 0, hempty, _ => exact absurd hempty hfirst
    | 1, hempty, _ => exact absurd hempty hsecond
    | 2, _, _ => rfl
    | n + 3, _, hnonempty => exact absurd hthird (hnonempty 2 (by omega))
  simp only [hitems] at htiles
  exact absurd htiles (by decide)

end TrinoGateway.QueryApi
