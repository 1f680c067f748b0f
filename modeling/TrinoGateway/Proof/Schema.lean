import TrinoGateway.Proof.Statements

/-!
# The constraints of the schema

`Db.Consistent`: the ids of a table are distinct, a group has a backend at most once, and what
a row refers to exists. `Db.Fits`: every row fits its columns. **Every statement keeps both**
(`Consistent.exec`, `Fits.exec`), so that every program does. `ConsistentDb` are the databases
that satisfy the constraints, `SchemaDb` those whose rows fit, too.
-/

namespace TrinoGateway

open Interact Prog

/-- The rows that a row's foreign keys name. -/
def Tbl.refs : (t : Tbl) → t.Row → List (Tbl × String)
  | backends, _ => []
  | groups, _ => []
  | policies, r => (groups, r.groupId) :: (r.fallbackGroupId.map fun g => (groups, g)).toList
  | queries, r => [(groups, r.groupId), (backends, r.backendId)]

/-- The pair that is unique among the mappings. -/
def GroupBackendsMapping.pair (m : GroupBackendsMapping) : String × String :=
  (m.groupId, m.backendId)

namespace Db

/-- The primary keys of a table. -/
def ids (db : Db) (t : Tbl) : List String := (db.rows t).map t.id

theorem find_isSome_iff {db : Db} {t : Tbl} {id : String} :
    (db.find t id).isSome = true ↔ id ∈ db.ids t := by
  unfold find ids
  rw [List.find?_isSome, List.mem_map]
  simp

theorem find_eq_none_iff {db : Db} {t : Tbl} {id : String} :
    db.find t id = none ↔ id ∉ db.ids t := by
  rw [← find_isSome_iff]
  cases db.find t id <;> simp

/-- Whether the foreign keys of a row hold. -/
def RefsHold (db : Db) (t : Tbl) (r : t.Row) : Prop := ∀ e ∈ t.refs r, e.2 ∈ db.ids e.1

theorem refsHold_iff {db : Db} {t : Tbl} {r : t.Row} :
    db.refsHold t r = true ↔ db.RefsHold t r := by
  cases t with
  | backends => simp [refsHold, RefsHold, Tbl.refs]
  | groups => simp [refsHold, RefsHold, Tbl.refs]
  | policies =>
    cases hf : r.fallbackGroupId <;>
      simp [refsHold, RefsHold, Tbl.refs, hf, ← find_isSome_iff]
  | queries => simp [refsHold, RefsHold, Tbl.refs, ← find_isSome_iff]

/-- The groups with their backends. -/
def pairs (db : Db) : List (String × String) := db.mappings.map GroupBackendsMapping.pair

/-- The constraints of the schema. -/
structure Consistent (db : Db) : Prop where
  ids : ∀ t, (db.ids t).Nodup
  refs : ∀ t, ∀ r ∈ db.rows t, db.RefsHold t r
  pairs : db.pairs.Nodup
  pairRefs : ∀ p ∈ db.pairs, p.1 ∈ db.ids .groups ∧ p.2 ∈ db.ids .backends

instance {p : Tbl → Prop} [∀ t, Decidable (p t)] : Decidable (∀ t, p t) :=
  decidable_of_iff (p .backends ∧ p .groups ∧ p .policies ∧ p .queries)
    ⟨fun ⟨hb, hg, hp, hq⟩ t => by cases t <;> assumption,
      fun h => ⟨h _, h _, h _, h _⟩⟩

instance (db : Db) (t : Tbl) (r : t.Row) : Decidable (db.RefsHold t r) :=
  inferInstanceAs (Decidable (∀ e ∈ t.refs r, e.2 ∈ db.ids e.1))

instance (db : Db) : Decidable db.Consistent :=
  decidable_of_iff
    ((∀ t, (db.ids t).Nodup) ∧ (∀ t, ∀ r ∈ db.rows t, db.RefsHold t r) ∧ db.pairs.Nodup ∧
      ∀ p ∈ db.pairs, p.1 ∈ db.ids .groups ∧ p.2 ∈ db.ids .backends)
    ⟨fun ⟨hids, hrefs, hpairs, hpairRefs⟩ => ⟨hids, hrefs, hpairs, hpairRefs⟩,
      fun h => ⟨h.ids, h.refs, h.pairs, h.pairRefs⟩⟩

/-- A row is found under its id. -/
theorem find_of_mem {db : Db} {t : Tbl} (h : (db.ids t).Nodup) {r : t.Row} (hr : r ∈ db.rows t) :
    db.find t (t.id r) = some r := by
  obtain ⟨r', hr'⟩ := Option.isSome_iff_exists.mp (find_isSome_iff.mpr (List.mem_map_of_mem hr))
  rw [hr', List.inj_on_of_nodup_map h (mem_of_find hr') hr (find_id hr')]

theorem Consistent.find_of_mem {db : Db} (h : db.Consistent) {t : Tbl} {r : t.Row}
    (hr : r ∈ db.rows t) : db.find t (t.id r) = some r :=
  Db.find_of_mem (h.ids t) hr

/-- The empty database. -/
theorem Consistent.empty : ({} : Db).Consistent where
  ids t := by cases t <;> exact List.nodup_nil
  refs t r hr := by cases t <;> cases hr
  pairs := List.nodup_nil
  pairRefs p hp := by cases hp

@[simp] theorem ids_setRows (db : Db) (t : Tbl) (rs : List t.Row) :
    (db.setRows t rs).ids t = rs.map t.id := by
  rw [ids, rows_setRows]

theorem ids_setRows_ne {t u : Tbl} (h : u ≠ t) (db : Db) (rs : List t.Row) :
    (db.setRows t rs).ids u = db.ids u := by
  rw [ids, ids, rows_setRows_ne h]

theorem mappings_setRows (db : Db) (t : Tbl) (rs : List t.Row) :
    (db.setRows t rs).mappings = db.mappings := by
  cases t <;> rfl

@[simp] theorem pairs_setRows (db : Db) (t : Tbl) (rs : List t.Row) :
    (db.setRows t rs).pairs = db.pairs := by
  rw [pairs, mappings_setRows, pairs]

theorem ids_withMappings (db : Db) (ms : List GroupBackendsMapping) (u : Tbl) :
    ({ db with mappings := ms } : Db).ids u = db.ids u := by
  rw [ids, ids, rows_withMappings]

/-- Replacing a row keeps the ids. -/
theorem ids_put {db : Db} {t : Tbl} {id : String} {row : t.Row} (hid : t.id row = id) (u : Tbl) :
    (db.put t id row).ids u = db.ids u := by
  by_cases hu : u = t
  · subst hu
    rw [put, ids_setRows, List.map_map, ids]
    refine List.map_congr_left fun r _ => ?_
    by_cases hr : u.id r = id
    · simp [hr, hid]
    · simp [hr]
  · exact ids_setRows_ne hu db _

/-- A row's references do not depend on the case of an enum value. -/
theorem refs_stored (t : Tbl) (r : t.Row) : t.refs (t.stored r) = t.refs r := by
  cases t <;> rfl

/-- An accepted row refers to rows that exist. -/
theorem refsHold_of_accept {db : Db} {t : Tbl} {row r : t.Row} (h : db.accept t row = .ok r) :
    db.RefsHold t r := by
  obtain ⟨rfl, -, hrefs⟩ := accept_ok h
  have hrow := refsHold_iff.mp hrefs
  unfold RefsHold at *
  rwa [refs_stored]

theorem RefsHold.mono {db db' : Db} {t : Tbl} {r : t.Row} (h : db.RefsHold t r)
    (hids : ∀ u, db.ids u ⊆ db'.ids u) : db'.RefsHold t r :=
  fun e he => hids e.1 (h e he)

theorem id_stored (t : Tbl) (r : t.Row) : t.id (t.stored r) = t.id r := by
  cases t <;> rfl

theorem id_onInsert (now : ℤ) (t : Tbl) (r : t.Row) : t.id (t.onInsert now r) = t.id r := by
  cases t <;> rfl

theorem id_onUpdate (now : ℤ) (t : Tbl) (old r : t.Row) : t.id (t.onUpdate now old r) = t.id old := by
  cases t <;> rfl

namespace Consistent

variable {db : Db} (h : db.Consistent)

include h

theorem insert {now : ℤ} {t : Tbl} {row r : t.Row} (ha : db.accept t (t.onInsert now row) = .ok r)
    (hnew : (db.find t (t.id row)).isSome ≠ true) :
    (db.setRows t (db.rows t ++ [r])).Consistent := by
  have hid : t.id r = t.id row := by
    rw [(accept_ok ha).1, id_stored, id_onInsert]
  have hids : ∀ u, db.ids u ⊆ (db.setRows t (db.rows t ++ [r])).ids u := by
    intro u
    by_cases hu : u = t
    · subst hu
      rw [ids_setRows, List.map_append]
      exact List.subset_append_left _ _
    · rw [ids_setRows_ne hu]
      exact List.Subset.refl _
  refine ⟨fun u => ?_, fun u r' hr' => ?_, ?_, fun p hp => ?_⟩
  · by_cases hu : u = t
    · subst hu
      rw [ids_setRows, List.map_append, List.map_singleton, hid, ← List.concat_eq_append]
      exact (h.ids u).concat fun hc => hnew (find_isSome_iff.mpr hc)
    · rw [ids_setRows_ne hu]
      exact h.ids u
  · by_cases hu : u = t
    · subst hu
      rw [rows_setRows] at hr'
      rcases List.mem_append.mp hr' with hr' | hr'
      · exact (h.refs u r' hr').mono hids
      · obtain rfl : r' = r := List.mem_singleton.mp hr'
        exact (refsHold_of_accept ha).mono hids
    · rw [rows_setRows_ne hu] at hr'
      exact (h.refs u r' hr').mono hids
  · rw [pairs_setRows]
    exact h.pairs
  · rw [pairs_setRows] at hp
    exact ⟨hids _ (h.pairRefs p hp).1, hids _ (h.pairRefs p hp).2⟩

theorem put {now : ℤ} {t : Tbl} {row old r : t.Row} (hold : db.find t (t.id row) = some old)
    (ha : db.accept t (t.onUpdate now old row) = .ok r) : (db.put t (t.id row) r).Consistent := by
  have hid : t.id r = t.id row := by
    rw [(accept_ok ha).1, id_stored, id_onUpdate, find_id hold]
  have hids : ∀ u, db.ids u ⊆ (db.put t (t.id row) r).ids u := fun u => by
    rw [ids_put hid]
    exact List.Subset.refl _
  refine ⟨fun u => ?_, fun u r' hr' => ?_, ?_, fun p hp => ?_⟩
  · rw [ids_put hid]
    exact h.ids u
  · by_cases hu : u = t
    · subst hu
      rcases mem_rows_put hr' with hr' | rfl
      · exact (h.refs u r' hr').mono hids
      · exact (refsHold_of_accept ha).mono hids
    · rw [Db.put, rows_setRows_ne hu] at hr'
      exact (h.refs u r' hr').mono hids
  · rw [Db.put, pairs_setRows]
    exact h.pairs
  · rw [Db.put, pairs_setRows] at hp
    exact ⟨hids _ (h.pairRefs p hp).1, hids _ (h.pairRefs p hp).2⟩

end Consistent

/-- No row refers to a row that may be deleted. -/
theorem not_mem_refs_of_unreferenced {db : Db} {id : String} {t : Tbl}
    (h : db.unreferenced id t = true) {u : Tbl} {r : u.Row} (hr : r ∈ db.rows u) :
    (t, id) ∉ u.refs r := by
  cases t with
  | backends =>
    have hqueries : ∀ q ∈ db.queries, q.backendId ≠ id := by simpa [unreferenced] using h
    cases u with
    | queries => simpa [Tbl.refs] using Ne.symm (hqueries r hr)
    | policies => cases hf : r.fallbackGroupId <;> simp [Tbl.refs, hf]
    | backends => simp [Tbl.refs]
    | groups => simp [Tbl.refs]
  | groups =>
    simp only [unreferenced, Bool.and_eq_true, Bool.not_eq_true', List.any_eq_false,
      Bool.or_eq_true, decide_eq_true_eq, not_or] at h
    obtain ⟨⟨-, hpolicies⟩, hqueries⟩ := h
    cases u with
    | queries => simpa [Tbl.refs] using Ne.symm (hqueries r hr)
    | policies =>
      obtain ⟨hgroup, hfallback⟩ := hpolicies r hr
      cases hf : r.fallbackGroupId with
      | none => simpa [Tbl.refs, hf] using Ne.symm hgroup
      | some f =>
        have hne : f ≠ id := fun hc => hfallback (hf.trans (congrArg some hc))
        simp [Tbl.refs, hf, Ne.symm hgroup, Ne.symm hne]
    | backends => simp [Tbl.refs]
    | groups => simp [Tbl.refs]
  | policies =>
    cases u with
    | policies => cases hf : r.fallbackGroupId <;> simp [Tbl.refs, hf]
    | _ => simp [Tbl.refs]
  | queries =>
    cases u with
    | policies => cases hf : r.fallbackGroupId <;> simp [Tbl.refs, hf]
    | _ => simp [Tbl.refs]

/-- The ids that a delete leaves. -/
theorem mem_ids_delete {db : Db} {t u : Tbl} {id x : String} (hx : x ∈ db.ids u)
    (hne : (u, x) ≠ (t, id)) :
    x ∈ (db.setRows t ((db.rows t).filter fun r => t.id r ≠ id)).ids u := by
  by_cases hu : u = t
  · subst hu
    have hxid : x ≠ id := fun hc => hne (by rw [hc])
    rw [ids_setRows]
    obtain ⟨r, hr, rfl⟩ := List.mem_map.mp hx
    exact List.mem_map_of_mem (List.mem_filter.mpr ⟨hr, by simpa using hxid⟩)
  · rwa [ids_setRows_ne hu]

/-- The rows that a delete leaves. -/
theorem mem_rows_delete {db : Db} {t u : Tbl} {id : String} {r : u.Row}
    (hr : r ∈ (db.setRows t ((db.rows t).filter fun r => t.id r ≠ id)).rows u) : r ∈ db.rows u := by
  by_cases hu : u = t
  · subst hu
    rw [rows_setRows] at hr
    exact (List.mem_filter.mp hr).1
  · rwa [rows_setRows_ne hu] at hr

theorem Consistent.delete {db : Db} (h : db.Consistent) {t : Tbl} {id : String}
    (hun : db.unreferenced id t = true) :
    ({ db.setRows t ((db.rows t).filter fun r => t.id r ≠ id) with
      mappings := if t = .backends then db.mappings.filter fun m => m.backendId ≠ id
        else db.mappings } : Db).Consistent := by
  set db' := db.setRows t ((db.rows t).filter fun r => t.id r ≠ id) with hdb'
  have hsub : ∀ p ∈ (if t = .backends then db.mappings.filter fun m => m.backendId ≠ id
      else db.mappings).map GroupBackendsMapping.pair,
      p ∈ db.pairs ∧ (Tbl.groups, p.1) ≠ (t, id) ∧ (Tbl.backends, p.2) ≠ (t, id) := by
    intro p hp
    obtain ⟨m, hm, rfl⟩ := List.mem_map.mp hp
    cases t with
    | backends =>
      obtain ⟨hmem, hne⟩ := List.mem_filter.mp hm
      refine ⟨List.mem_map_of_mem hmem, by simp, ?_⟩
      simpa [GroupBackendsMapping.pair] using hne
    | groups =>
      have hgroup : ∀ m ∈ db.mappings, m.groupId ≠ id := by
        simp only [unreferenced, Bool.and_eq_true, Bool.not_eq_true', List.any_eq_false,
          decide_eq_true_eq] at hun
        exact hun.1.1
      refine ⟨List.mem_map_of_mem hm, ?_, by simp⟩
      simpa [GroupBackendsMapping.pair] using hgroup m hm
    | policies => exact ⟨List.mem_map_of_mem hm, by simp, by simp⟩
    | queries => exact ⟨List.mem_map_of_mem hm, by simp, by simp⟩
  refine ⟨fun u => ?_, fun u r hr => ?_, ?_, fun p hp => ?_⟩
  · rw [ids_withMappings]
    by_cases hu : u = t
    · subst hu
      rw [hdb', ids_setRows]
      exact (h.ids u).sublist (List.filter_sublist.map _)
    · rw [hdb', ids_setRows_ne hu]
      exact h.ids u
  · rw [rows_withMappings] at hr
    have hmem := mem_rows_delete hr
    intro e he
    rw [ids_withMappings]
    refine mem_ids_delete (h.refs u r hmem e he) fun hc => ?_
    exact not_mem_refs_of_unreferenced hun hmem (hc ▸ he)
  · refine h.pairs.sublist (List.Sublist.map _ ?_)
    change (if t = .backends then db.mappings.filter fun m => m.backendId ≠ id
      else db.mappings).Sublist db.mappings
    split
    · exact List.filter_sublist
    · exact List.Sublist.refl _
  · obtain ⟨hmem, hg, hb⟩ := hsub p hp
    rw [ids_withMappings, ids_withMappings]
    exact ⟨mem_ids_delete (h.pairRefs p hmem).1 hg, mem_ids_delete (h.pairRefs p hmem).2 hb⟩

theorem pairs_withMappings (db : Db) (ms : List GroupBackendsMapping) :
    ({ db with mappings := ms } : Db).pairs = ms.map GroupBackendsMapping.pair := rfl

/-- An upsert adds the pair, unless it is there. -/
theorem pairs_upsertMapping (now : ℤ) (db : Db) (m : GroupBackendsMapping) :
    (upsertMapping now db m).pairs = if m.pair ∈ db.pairs then db.pairs else db.pairs ++ [m.pair] := by
  have hany : (db.mappings.any fun k => k.groupId = m.groupId ∧ k.backendId = m.backendId) = true ↔
      m.pair ∈ db.pairs := by
    simp only [List.any_eq_true, decide_eq_true_eq, pairs, List.mem_map,
      GroupBackendsMapping.pair, Prod.mk.injEq]
  unfold upsertMapping
  by_cases hm : m.pair ∈ db.pairs
  · rw [if_pos (hany.mpr hm), if_pos hm]
  · rw [if_neg (fun hc => hm (hany.mp hc)), if_neg hm, pairs_withMappings, List.map_append]
    rfl

theorem mem_pairs_upsertMappings (now : ℤ) (ms : List GroupBackendsMapping) (db : Db)
    (p : String × String) :
    p ∈ (ms.foldl (upsertMapping now) db).pairs ↔
      p ∈ db.pairs ∨ p ∈ ms.map GroupBackendsMapping.pair := by
  induction ms generalizing db with
  | nil => simp
  | cons m ms ih =>
    rw [List.foldl_cons, ih, pairs_upsertMapping, List.map_cons, List.mem_cons]
    by_cases hm : m.pair ∈ db.pairs
    · rw [if_pos hm]
      constructor
      · rintro (h | h)
        · exact Or.inl h
        · exact Or.inr (Or.inr h)
      · rintro (h | rfl | h)
        · exact Or.inl h
        · exact Or.inl hm
        · exact Or.inr h
    · rw [if_neg hm, List.mem_append, List.mem_singleton, or_assoc]

theorem nodup_pairs_upsertMappings {now : ℤ} {ms : List GroupBackendsMapping} {db : Db}
    (h : db.pairs.Nodup) : (ms.foldl (upsertMapping now) db).pairs.Nodup := by
  induction ms generalizing db with
  | nil => exact h
  | cons m ms ih =>
    rw [List.foldl_cons]
    apply ih
    rw [pairs_upsertMapping]
    split
    · exact h
    · rename_i hm
      rw [← List.concat_eq_append]
      exact h.concat hm

/-- Whether the groups and backends of some mappings exist. -/
def MappingsExist (db : Db) (ms : List GroupBackendsMapping) : Prop :=
  ∀ m ∈ ms, m.groupId ∈ db.ids .groups ∧ m.backendId ∈ db.ids .backends

theorem all_exist_iff {db : Db} {ms : List GroupBackendsMapping} :
    (ms.all fun m =>
      (db.find .groups m.groupId).isSome && (db.find .backends m.backendId).isSome) = true ↔
      db.MappingsExist ms := by
  rw [List.all_eq_true]
  refine forall₂_congr fun m _ => ?_
  rw [Bool.and_eq_true]
  exact and_congr (find_isSome_iff (t := .groups)) (find_isSome_iff (t := .backends))

theorem insertMappings_ok {db : Db} {ms : List GroupBackendsMapping} (h : db.MappingsExist ms)
    (now : ℤ) :
    db.insertMappings now ms = ({ rowsAffected := ms.length }, ms.foldl (upsertMapping now) db) := by
  unfold insertMappings
  rw [if_pos (all_exist_iff.mpr h)]

theorem insertMappings_error {db : Db} {ms : List GroupBackendsMapping} (h : ¬ db.MappingsExist ms)
    (now : ℤ) : db.insertMappings now ms = ({ error := some (.mysql 1452) }, db) := by
  unfold insertMappings
  rw [if_neg fun hc => h (all_exist_iff.mp hc)]

/-- The upserts change nothing but the mappings. -/
theorem upsertMappings_eq (now : ℤ) (ms : List GroupBackendsMapping) (db : Db) :
    ms.foldl (upsertMapping now) db =
      { db with mappings := (ms.foldl (upsertMapping now) db).mappings } := by
  induction ms generalizing db with
  | nil => rfl
  | cons m ms ih =>
    rw [List.foldl_cons, ih]
    unfold upsertMapping
    split <;> rfl

/-- The insertion of mappings is executed, or has an error and changes nothing. -/
theorem exec_insertMappings (db : Db) (ms : List GroupBackendsMapping) (now : ℤ)
    (fault : Option DbErr) :
    ((fault = none ∧ db.MappingsExist ms) ∧ exec now fault (.insertMappings ms) db =
      ({ rowsAffected := ms.length }, ms.foldl (upsertMapping now) db)) ∨
    (¬ (fault = none ∧ db.MappingsExist ms) ∧
      ∃ e, exec now fault (.insertMappings ms) db = ({ error := some e }, db)) := by
  cases fault with
  | some e => exact Or.inr ⟨fun h => Option.some_ne_none e h.1, e, rfl⟩
  | none =>
    have hexec : exec now none (.insertMappings ms) db = db.insertMappings now ms := rfl
    rw [hexec]
    by_cases h : db.MappingsExist ms
    · exact Or.inl ⟨⟨rfl, h⟩, insertMappings_ok h now⟩
    · exact Or.inr ⟨fun hc => h hc.2, _, insertMappings_error h now⟩

/-- The mappings of a group but for some are detached, or the statement has an error and changes
nothing. -/
theorem exec_detachMappings (db : Db) (groupId : String) (ms : List GroupBackendsMapping) (now : ℤ)
    (fault : Option DbErr) :
    (fault = none ∧ ∃ n, exec now fault (.detachMappings groupId ms) db = ({ rowsAffected := n },
        { db with
          mappings := db.mappings.filter fun m =>
            m.groupId ≠ groupId || ms.any fun n => n.backendId = m.backendId })) ∨
    (fault ≠ none ∧ ∃ e, exec now fault (.detachMappings groupId ms) db =
      ({ error := some e }, db)) := by
  cases fault with
  | some e => exact Or.inr ⟨Option.some_ne_none e, e, rfl⟩
  | none => exact Or.inl ⟨rfl, _, rfl⟩

/-- Mappings that are there already are not inserted again. -/
theorem upsertMappings_of_mem {now : ℤ} {ms : List GroupBackendsMapping} {db : Db}
    (h : ∀ m ∈ ms, m.pair ∈ db.pairs) : ms.foldl (upsertMapping now) db = db := by
  induction ms with
  | nil => rfl
  | cons m ms ih =>
    have hany : (db.mappings.any fun k =>
        k.groupId = m.groupId ∧ k.backendId = m.backendId) = true := by
      obtain ⟨k, hk, hpair⟩ := List.mem_map.mp (h m (List.mem_cons_self ..))
      simp only [GroupBackendsMapping.pair, Prod.mk.injEq] at hpair
      exact List.any_eq_true.mpr ⟨k, hk, by simpa using hpair⟩
    rw [List.foldl_cons, upsertMapping, if_pos hany]
    exact ih fun m' hm' => h m' (List.mem_cons_of_mem _ hm')

/-- Mappings that take their pairs from elsewhere. -/
theorem Consistent.withMappings {db : Db} (h : db.Consistent) {ms : List GroupBackendsMapping}
    (hnodup : (ms.map GroupBackendsMapping.pair).Nodup)
    (hrefs : ∀ p ∈ ms.map GroupBackendsMapping.pair,
      p.1 ∈ db.ids .groups ∧ p.2 ∈ db.ids .backends) :
    ({ db with mappings := ms } : Db).Consistent := by
  refine ⟨fun t => ?_, fun t r hr e he => ?_, hnodup, fun p hp => ?_⟩
  · rw [ids_withMappings]
    exact h.ids t
  · rw [rows_withMappings] at hr
    rw [ids_withMappings]
    exact h.refs t r hr e he
  · rw [ids_withMappings, ids_withMappings]
    exact hrefs p hp

theorem Consistent.insertMappings {db : Db} (h : db.Consistent) (now : ℤ)
    (ms : List GroupBackendsMapping) : (db.insertMappings now ms).2.Consistent := by
  by_cases hms : db.MappingsExist ms
  · rw [insertMappings_ok hms, upsertMappings_eq]
    refine h.withMappings (nodup_pairs_upsertMappings h.pairs) fun p hp => ?_
    rcases (mem_pairs_upsertMappings now ms db p).mp hp with hp | hp
    · exact h.pairRefs p hp
    · obtain ⟨m, hm, rfl⟩ := List.mem_map.mp hp
      exact hms m hm
  · rw [insertMappings_error hms]
    exact h

/-- Fewer mappings. -/
theorem Consistent.filterMappings {db : Db} (h : db.Consistent) (keep : GroupBackendsMapping → Bool) :
    ({ db with mappings := db.mappings.filter keep } : Db).Consistent := by
  have hsub : ((db.mappings.filter keep).map GroupBackendsMapping.pair).Sublist db.pairs :=
    List.filter_sublist.map _
  exact h.withMappings (h.pairs.sublist hsub) fun p hp => h.pairRefs p (hsub.subset hp)

/-- **Every statement keeps the constraints of the schema.** -/
theorem Consistent.exec {db : Db} (h : db.Consistent) (now : ℤ) (fault : Option DbErr) (o : Stmt) :
    (exec now fault o db).2.Consistent := by
  cases fault with
  | some e => exact h
  | none =>
    cases o with
    | insert t row =>
      simp only [TrinoGateway.exec, Db.answer, Db.insert]
      split
      · exact h
      · rename_i r ha
        split
        · exact h
        · rename_i hnew
          exact h.insert ha hnew
    | updates t row =>
      simp only [TrinoGateway.exec, Db.answer, Db.updates]
      split
      · exact h
      · split
        · exact h
        · rename_i old hold
          split
          · exact h
          · rename_i r ha
            exact h.put hold ha
    | delete t id =>
      simp only [TrinoGateway.exec, Db.answer, Db.delete]
      split
      · exact h
      · split
        · exact h
        · split
          · exact h
          · rename_i hun
            have hdel := h.delete (by simpa using hun : db.unreferenced id t = true)
            split
            · rename_i ht
              rw [if_pos ht] at hdel
              rw [mappings_setRows]
              exact hdel
            · rename_i ht
              rw [if_neg ht, ← mappings_setRows db t] at hdel
              exact hdel
    | insertMappings ms => exact h.insertMappings now ms
    | detachMappings gid ms => exact h.filterMappings _
    | deleteMappings gid =>
      simp only [TrinoGateway.exec, Db.answer, Db.deleteMappings]
      split
      · exact h
      · exact h.filterMappings _
    | first t id => exact (exec_readOnly (o := .first t id) trivial now none db).symm ▸ h
    | find t w => exact h
    | findPage t p => exact h
    | findMappings ids => exact h
    | unixNow => exact h

/-- Every program keeps the constraints, whatever fails. -/
theorem Consistent.run {α : Type} (p : Srv α) (env : Env) {w : World} (h : w.db.Consistent) :
    (p.run (mysql env) w).2.db.Consistent :=
  (allOps_true p).run_inv (I := fun w' : World => w'.db.Consistent)
    (fun o _ _ hw' => hw'.exec _ _ o) h

/-- Every row passes the checks of its columns. -/
def Fits (db : Db) : Prop := ∀ t, ∀ r ∈ db.rows t, ∀ c ∈ t.checks r, c.1 = true

instance (db : Db) : Decidable db.Fits :=
  inferInstanceAs (Decidable (∀ t, ∀ r ∈ db.rows t, ∀ c ∈ t.checks r, c.1 = true))

/-- A declared spelling is found again. -/
theorem enum_spelled {vals : List String} {s : String} (h : (enum vals s).1 = true) :
    (enum vals ((enumSpelling vals s).getD s)).1 = true := by
  obtain ⟨v, hv⟩ := Option.isSome_iff_exists.mp (h : (enumSpelling vals s).isSome = true)
  rw [hv, Option.getD_some]
  exact enumSpelling_isSome_of_eqFold (mem_of_enumSpelling hv) (by simp [Text.eqFold])

/-- A row that passes the checks passes them as stored. -/
theorem checks_stored {t : Tbl} {row : t.Row} (h : ∀ c ∈ t.checks row, c.1 = true) :
    ∀ c ∈ t.checks (t.stored row), c.1 = true := by
  cases t with
  | queries => exact h
  | backends =>
    simp only [Tbl.checks, Tbl.stored, List.forall_mem_cons] at h ⊢
    exact ⟨h.1, h.2.1, enum_spelled h.2.2.1, h.2.2.2⟩
  | policies =>
    simp only [Tbl.checks, Tbl.stored, List.forall_mem_cons] at h ⊢
    exact ⟨h.1, enum_spelled h.2.1, h.2.2⟩
  | groups =>
    simp only [Tbl.checks, Tbl.stored, List.forall_mem_cons] at h ⊢
    refine ⟨h.1, ?_, h.2.2⟩
    cases hs : row.strategy with
    | none => rfl
    | some s =>
      have hstrategy := h.2.1
      rw [hs] at hstrategy
      exact enum_spelled hstrategy

/-- **Every statement keeps the rows within their columns.** -/
theorem Fits.exec {db : Db} (h : db.Fits) (now : ℤ) (fault : Option DbErr) (o : Stmt) :
    (exec now fault o db).2.Fits := by
  intro t r hr
  rcases exec_mem_rows hr with hr | ⟨row, -, ha⟩ | ⟨row, old, -, -, ha⟩
  · exact h t r hr
  · obtain ⟨rfl, hchecks, -⟩ := accept_ok ha
    exact checks_stored (firstFailing_eq_none hchecks)
  · obtain ⟨rfl, hchecks, -⟩ := accept_ok ha
    exact checks_stored (firstFailing_eq_none hchecks)

theorem Fits.run {α : Type} (p : Srv α) (env : Env) {w : World} (h : w.db.Fits) :
    (p.run (mysql env) w).2.db.Fits :=
  (allOps_true p).run_inv (I := fun w' : World => w'.db.Fits) (fun o _ _ hw' => hw'.exec _ _ o) h

end Db

/-- A database that satisfies the constraints of the schema. -/
structure ConsistentDb where
  db : Db
  consistent : db.Consistent

/-- A database that satisfies the constraints of the schema, with rows that fit their columns. -/
structure SchemaDb extends ConsistentDb where
  fits : db.Fits

namespace SchemaDb

/-- The database right after the migrations. -/
def empty : SchemaDb where
  db := {}
  consistent := Db.Consistent.empty
  fits t r hr := by cases t <;> cases hr

/-- The database after any program. -/
def after {α : Type} (s : SchemaDb) (p : Srv α) (env : Env) (tick : ℕ) : SchemaDb where
  db := (p.run (mysql env) ⟨s.db, tick⟩).2.db
  consistent := s.consistent.run p env
  fits := s.fits.run p env

end SchemaDb

end TrinoGateway
