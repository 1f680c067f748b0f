import TrinoGateway.Lib.Pool
import TrinoGateway.Spec.Repo

/-!
# What the repository functions do to a database

One specification for each repository function, as an equation for its run against `mysql`:
the answer in cases on the failure of its statement, and the world after it. Callers use
these and never unfold a repository function.
-/

namespace TrinoGateway

open Interact Prog

variable (env : Env) (w : World)

/-- What a read answers: the failure of its statement, or `res`. -/
def Env.read {α : Type} (res : Result α) : Result α :=
  match env.faults w.tick with
  | some e => .error (Spine.dbError e)
  | none => res

@[simp] theorem read_available {α : Type} (clock : ℕ → ℤ) (res : Result α) :
    (Env.available clock).read w res = res := rfl

/-- A read fails, or it answers. -/
theorem read_run {α : Type} {env : Env} {w w' : World} {p : Srv (Result α)} {res : Result α}
    (hp : p.run (mysql env) w = (some (env.read w res), w')) :
    (∃ e, (∃ k, env.faults k ≠ none) ∧ p.run (mysql env) w = (some (.error e), w')) ∨
      p.run (mysql env) w = (some res, w') := by
  unfold Env.read at hp
  cases hf : env.faults w.tick with
  | some e =>
    rw [hf] at hp
    have hfault : env.faults w.tick ≠ none := by
      rw [hf]
      exact Option.some_ne_none e
    exact Or.inl ⟨_, ⟨w.tick, hfault⟩, hp⟩
  | none =>
    rw [hf] at hp
    exact Or.inr hp

@[simp] theorem mysql_unixNow : mysql env .unixNow w = (env.clock w.tick, w.next) := by
  unfold mysql exec
  cases env.faults w.tick <;> rfl

/-- A row that is read is stored, and the statement did not fail. -/
theorem exec_first_ok {now : ℤ} {fault : Option DbErr} {t : Tbl} {id : String} {db : Db}
    {row : t.Row} (h : (exec now fault (.first t id) db).1 = .ok row) :
    fault = none ∧ db.find t id = some row := by
  cases fault with
  | some e => cases h
  | none =>
    simp only [exec, Db.answer] at h
    split at h
    · cases h
      exact ⟨rfl, ‹_›⟩
    · cases h

theorem exec_first_error {now : ℤ} {fault : Option DbErr} {t : Tbl} {id : String} {db : Db}
    {e : DbErr} (h : (exec now fault (.first t id) db).1 = .error e) :
    fault ≠ none ∨ db.find t id = none := by
  cases fault with
  | some e => exact Or.inl (by simp)
  | none =>
    simp only [exec, Db.answer] at h
    split at h
    · cases h
    · exact Or.inr ‹_›

namespace Spine

section Reads

variable {C : Stmt → Prop}

theorem allOps_findByID {t : Tbl} {id : String} (h : C (.first t id)) :
    (findByID t id).AllOps C := by
  refine ⟨h, fun x => ?_⟩
  cases x <;> trivial

theorem allOps_findMany {t : Tbl} {condition : List (String × SqlVal)}
    (h : C (.find t { eqs := condition })) : (findMany t condition).AllOps C := by
  refine ⟨h, fun x => ?_⟩
  cases x <;> trivial

theorem allOps_findWithConditionByIDs {t : Tbl} {condition : List (String × SqlVal)}
    {ids : List String} (h : C (.find t { eqs := condition, idIn := some ids })) :
    (findWithConditionByIDs t condition ids).AllOps C := by
  refine ⟨h, fun x => ?_⟩
  cases x <;> trivial

theorem allOps_preload {gs : List Group} (h : C (.findMappings (gs.map Group.id))) :
    (preload gs).AllOps C := by
  unfold preload
  split
  · trivial
  · refine ⟨h, fun x => ?_⟩
    cases x <;> trivial

end Reads

theorem run_findByID (t : Tbl) (id : String) :
    (findByID t id).run (mysql env) w =
      (some (env.read w ((w.db.find t id).elim (.error .recordNotFound) .ok)), w.next) := by
  simp only [findByID, bind_eq, perform_bind, run_op, mysql, exec, Env.read]
  cases env.faults w.tick with
  | some e => rfl
  | none =>
    simp only [Db.answer]
    cases w.db.find t id <;> rfl

/-- A read answers with a stored row, or does not. -/
theorem found_or_not (t : Tbl) (id : String) :
    (env.faults w.tick = none ∧ ∃ row, w.db.find t id = some row) ∨
      (env.faults w.tick ≠ none ∨ w.db.find t id = none) := by
  by_cases hfault : env.faults w.tick = none
  · cases hrow : w.db.find t id with
    | none => exact Or.inr (Or.inr rfl)
    | some row => exact Or.inl ⟨hfault, row, rfl⟩
  · exact Or.inr (Or.inl hfault)

/-- A read of a stored row, followed by `f`. -/
theorem run_findByID_some {t : Tbl} {id : String} {row : t.Row} {α : Type}
    (hfault : env.faults w.tick = none) (h : w.db.find t id = some row) (f : Result t.Row → Srv α) :
    ((findByID t id).bind f).run (mysql env) w = (f (.ok row)).run (mysql env) w.next := by
  have hrun := run_findByID env w t id
  rw [Env.read, hfault, h] at hrun
  exact run_bind_some _ hrun

/-- A read that fails, or finds nothing, whatever follows. -/
theorem run_findByID_none {t : Tbl} {id : String}
    (h : env.faults w.tick ≠ none ∨ w.db.find t id = none) :
    ∃ e : GoErr, ∀ {α : Type} (f : Result t.Row → Srv α),
      ((findByID t id).bind f).run (mysql env) w = (f (.error e)).run (mysql env) w.next := by
  have hrun := run_findByID env w t id
  cases hfault : env.faults w.tick with
  | some e =>
    rw [Env.read, hfault] at hrun
    exact ⟨_, fun f => run_bind_some _ hrun⟩
  | none =>
    have hnone : w.db.find t id = none := h.resolve_left (absurd hfault)
    rw [Env.read, hfault, hnone] at hrun
    exact ⟨_, fun f => run_bind_some _ hrun⟩

theorem run_findMany (t : Tbl) (condition : List (String × SqlVal)) :
    (findMany t condition).run (mysql env) w =
      (some (env.read w (.ok ((w.db.rows t).filter (Where.holds { eqs := condition } t)))),
        w.next) := by
  simp only [findMany, bind_eq, perform_bind, run_op, mysql, exec, Env.read]
  cases env.faults w.tick <;> rfl

theorem run_findWithConditionByIDs (t : Tbl) (condition : List (String × SqlVal))
    (ids : List String) :
    (findWithConditionByIDs t condition ids).run (mysql env) w =
      (some (env.read w
        (.ok ((w.db.rows t).filter (Where.holds { eqs := condition, idIn := some ids } t)))),
        w.next) := by
  simp only [findWithConditionByIDs, bind_eq, perform_bind, run_op, mysql, exec, Env.read]
  cases env.faults w.tick <;> rfl

end Spine

/-- A group row as the repository returns it, with its mappings. -/
def Db.withMappings (db : Db) (g : Group) : Group :=
  { g with groupBackendsMappings := some (db.mappings.filter fun m => m.groupId = g.id) }

@[simp] theorem withMappings_id (db : Db) (g : Group) : (db.withMappings g).id = g.id := rfl

/-- What a preload answers: the failure of its statement, or the groups with their mappings. -/
theorem Spine.run_preload (gs : List Group) (hgs : gs ≠ []) :
    (Spine.preload gs).run (mysql env) w =
      (some (env.read w (.ok (gs.map w.db.withMappings))), w.next) := by
  unfold Spine.preload
  rw [if_neg hgs]
  simp only [bind_eq, perform_bind, run_op, mysql, exec, Env.read]
  cases env.faults w.tick with
  | some e => rfl
  | none =>
    simp only [Db.answer, pure_eq, run_ret]
    congr 3
    apply List.map_congr_left
    intro g hg
    have hid : g.id ∈ gs.map Group.id := List.mem_map_of_mem hg
    simp only [Db.withMappings, List.filter_filter]
    congr 2
    apply List.filter_congr
    intro m _
    by_cases h : m.groupId = g.id <;> simp [h, hid]

namespace GroupRepo

/-- The groups that satisfy a condition, with their mappings, unless a statement failed. -/
theorem run_findMany (conditions : List (String × SqlVal)) :
    ∃ res n, (findMany conditions).run (mysql env) w = (some res, { w with tick := n }) ∧
      match res with
      | .error _ => ∃ k, env.faults k ≠ none
      | .ok gs =>
        gs = (w.db.groups.filter (Where.holds { eqs := conditions } .groups)).map
          w.db.withMappings := by
  unfold findMany
  rcases read_run (Spine.run_findMany env w .groups conditions) with ⟨e, hfault, h⟩ | h
  · exact ⟨_, _, run_andThen_error _ h, hfault⟩
  · rw [run_andThen_ok _ h]
    by_cases hgs : (w.db.rows .groups).filter (Where.holds { eqs := conditions } .groups) = []
    · -- no group was read, and the preload sends nothing
      refine ⟨.ok [], w.tick + 1, by rw [hgs]; rfl, ?_⟩
      change w.db.groups.filter _ = [] at hgs
      simp [hgs]
    · rcases read_run (Spine.run_preload env w.next _ hgs) with ⟨e, hfault, hp⟩ | hp
      · exact ⟨_, w.tick + 2, hp, hfault⟩
      · exact ⟨_, w.tick + 2, hp, rfl⟩

/-- The group of an id, with its mappings, unless there is none or a statement failed. -/
theorem run_find (id : String) :
    ∃ res n, (find id).run (mysql env) w = (some res, { w with tick := n }) ∧
      match res with
      | .error _ => w.db.find .groups id = none ∨ ∃ k, env.faults k ≠ none
      | .ok g => ∃ row, w.db.find .groups id = some row ∧ g = w.db.withMappings row := by
  unfold find
  rcases read_run (Spine.run_findByID env w .groups id) with ⟨e, hfault, h⟩ | h
  · exact ⟨_, _, run_andThen_error _ h, Or.inr hfault⟩
  · cases hr : w.db.find .groups id with
    | none =>
      rw [hr] at h
      exact ⟨_, _, run_andThen_error _ h, Or.inl rfl⟩
    | some row =>
      rw [hr] at h
      rw [run_andThen_ok _ h]
      rcases read_run (Spine.run_preload env w.next [row] (List.cons_ne_nil _ _)) with
        ⟨e, hfault, hp⟩ | hp
      · exact ⟨_, _, run_andThen_error _ hp, Or.inr hfault⟩
      · exact ⟨_, _, run_andThen_ok _ hp, row, rfl, rfl⟩

end GroupRepo

/-- A field of an updated row is the new one unless that is empty. -/
theorem nonZero_eq_iff (new old : String) : nonZero "" new old = new ↔ (new = "" → old = "") := by
  unfold nonZero
  by_cases h : new = ""
  · simp [h]
  · simp [h]

/-- A value that is the old one stays. -/
theorem nonZero_of_eq {new old : String} (h : new = old) : nonZero "" new old = old := by
  unfold nonZero
  split
  · rfl
  · exact h

theorem nonZero_ne {new : String} (h : new ≠ "") (old : String) : nonZero "" new old = new :=
  (nonZero_eq_iff new old).mpr fun he => absurd he h

theorem nonZero_eq_or {α : Type} [DecidableEq α] (zero new old : α) :
    nonZero zero new old = new ∨ nonZero zero new old = old := by
  unfold nonZero
  split
  · exact Or.inr rfl
  · exact Or.inl rfl

/-- A text that fits its column is kept as it is. -/
theorem cut_of_length_le {n : ℕ} {s : String} (h : s.length ≤ n) : cut n s = s := by
  unfold cut
  rw [List.take_of_length_le h, String.ofList_toList, ite_self]

/-- What fits after the cut either fitted before, or was cut. -/
theorem cut_eq_self_iff {n : ℕ} {s : String} (h : (cut n s).length ≤ n) :
    cut n s = s ↔ s.length ≤ n :=
  ⟨fun heq => heq ▸ h, cut_of_length_le⟩

theorem cut_eq_empty_iff {n : ℕ} (hn : 0 < n) {s : String} : cut n s = "" ↔ s = "" := by
  constructor
  · intro h
    by_cases hs : s.length ≤ n
    · rwa [cut_of_length_le hs] at h
    · unfold cut at h
      split at h
      · have hlen : (s.toList.take n).length = 0 := by
          have := congrArg String.length h
          rwa [String.length_ofList] at this
        rw [List.length_take, String.length_toList] at hlen
        omega
      · exact h
  · rintro rfl
    exact cut_of_length_le (Nat.zero_le n)

/-- A text over the same one leaves it. -/
theorem textField_of_eq {n : ℕ} {new old : String} (h : new = old) : textField n new old = old :=
  if_pos (Or.inr h)

theorem textField_cases (n : ℕ) (new old : String) :
    textField n new old = cut n new ∨ textField n new old = old := by
  unfold textField
  split
  · exact Or.inr rfl
  · exact Or.inl rfl

theorem textPointer_none (n : ℕ) (old : Option String) : textPointer n none old = old :=
  if_pos (Or.inl rfl)

theorem textPointer_of_eq {n : ℕ} {new old : Option String} (h : new = old) :
    textPointer n new old = old :=
  if_pos (Or.inr h)

/-- What a nullable column holds after it was written. -/
theorem textPointer_some (n : ℕ) (v : String) (old : Option String) :
    textPointer n (some v) old = some (cut n v) ∨
      (old = some v ∧ textPointer n (some v) old = old) := by
  unfold textPointer
  by_cases h : some v = old
  · rw [if_pos (Or.inr h)]
    exact Or.inr ⟨h.symm, rfl⟩
  · rw [if_neg (not_or.mpr ⟨Option.some_ne_none v, h⟩)]
    exact Or.inl rfl

theorem textPointer_of_length_le {n : ℕ} {v : String} (h : v.length ≤ n) (old : Option String) :
    textPointer n (some v) old = some v := by
  rcases textPointer_some n v old with heq | ⟨hold, heq⟩
  · rw [heq, cut_of_length_le h]
  · rw [heq, hold]

theorem textPointer_eq_cut {n : ℕ} {v : String} {old : Option String}
    (hfits : ∀ s, textPointer n (some v) old = some s → s.length ≤ n) :
    textPointer n (some v) old = some (cut n v) := by
  rcases textPointer_some n v old with h | ⟨hold, h⟩
  · exact h
  · have hlen : v.length ≤ n := hfits v (h.trans hold)
    rw [h, hold, cut_of_length_le hlen]

/-- A text of an `ENUM` column stands for one of its members. -/
theorem mem_of_enumSpelling {vals : List String} {s v : String} (h : enumSpelling vals s = some v) :
    v ∈ vals := by
  unfold enumSpelling at h
  rcases Option.or_eq_some_iff.mp h with hfind | ⟨-, hindex⟩
  · exact List.mem_of_find?_eq_some hfind
  · obtain ⟨n, -, hn⟩ := Option.bind_eq_some_iff.mp hindex
    split at hn
    · cases hn
    · exact List.mem_of_getElem? hn

/-- A member that is spelled in some case is found, whatever its number. -/
theorem enumSpelling_isSome_of_eqFold {vals : List String} {s v : String} (hv : v ∈ vals)
    (hfold : Text.eqFold v s = true) : (enumSpelling vals s).isSome := by
  have hfind : (vals.find? fun v => Text.eqFold v s).isSome := List.find?_isSome.mpr ⟨v, hv, hfold⟩
  obtain ⟨x, hx⟩ := Option.isSome_iff_exists.mp hfind
  unfold enumSpelling
  rw [hx]
  rfl

theorem varchar_iff {n : ℕ} {s : String} :
    (varchar n s).1 = true ↔ utf8mb3 s = true ∧ s.length ≤ n := by
  unfold varchar
  split <;> simp [*]

/-- A text that passes the check of its column has as many characters at most. -/
theorem length_of_varchar {n : ℕ} {s : String} (h : (varchar n s).1 = true) : s.length ≤ n :=
  (varchar_iff.mp h).2

/-- A repository's update has the statements of spine's. -/
theorem Repo.sat_update {ι σ : Type} {π : Protocol ι Stmt Stmt.Ans σ} {i : ι} {s : σ} {t : Tbl}
    {row : t.Row} {Q : Result Unit → σ → Prop} (hs : π.inv s)
    (h : π.Sat i (Spine.update t row) s Q) :
    π.Sat i (Repo.update t row) s fun _ _ => True := by
  refine Protocol.Sat.bind hs h fun res s' _ _ => ?_
  cases res with
  | ok u => exact Protocol.Sat.ret fun _ _ _ => trivial
  | error e =>
    simp only
    split <;> exact Protocol.Sat.ret fun _ _ _ => trivial

/-- What a repository's update makes of gorm's answer. -/
def Repo.updateResult (q : StmtResult) : Result Unit :=
  if q.rowsAffected = 0 then .ok () else Spine.getDBError q.error

@[simp] theorem Repo.updateResult_ok (n : ℕ) : updateResult { rowsAffected := n } = .ok () := by
  unfold updateResult
  split <;> rfl

/-- The update of a row that carries no association is one statement. -/
theorem Repo.run_update (t : Tbl) (row : t.Row) (h : Spine.associations t row = []) :
    (Repo.update t row).run (mysql env) w =
      (some (Repo.updateResult (mysql env (.updates t row) w).1),
        (mysql env (.updates t row) w).2) := by
  simp only [Repo.update, Spine.update, Spine.updateSelective, Spine.saveAssociations, h, ne_eq,
    not_true_eq_false, and_false, if_false, bind_eq, perform_bind, op_bind, pure_eq, ret_bind,
    run_op, Repo.updateResult]
  split
  · rfl
  · cases (mysql env (.updates t row) w).1.error with
    | none => rfl
    | some e => cases e <;> rfl

/-- The insertion of a row that carries no association is one statement. -/
theorem Repo.run_create (t : Tbl) (row : t.Row) (hv : t.validate row = .ok ())
    (h : Spine.associations t row = []) :
    (Repo.create t row).run (mysql env) w =
      (some (Spine.getDBError (mysql env (.insert t row) w).1.error),
        (mysql env (.insert t row) w).2) := by
  simp only [Repo.create, Spine.create, hv, Spine.saveAssociations, h, ne_eq, not_true_eq_false,
    and_false, if_false, bind_eq, perform_bind, pure_eq, ret_bind, run_op, run_ret]

/-- After a row is appended under a new id it is the one found. -/
theorem Db.find_append {db : Db} {t : Tbl} {row : t.Row} (hnone : db.find t (t.id row) = none) :
    (db.setRows t (db.rows t ++ [row])).find t (t.id row) = some row := by
  unfold Db.find at *
  rw [Db.rows_setRows, List.find?_append, hnone]
  simp

/-- After a row is replaced it is the one found. -/
theorem Db.find_put {db : Db} {t : Tbl} {id : String} {row old : t.Row}
    (hold : db.find t id = some old) (hid : t.id row = id) :
    (db.put t id row).find t id = some row := by
  unfold Db.find Db.put at *
  rw [Db.rows_setRows]
  generalize db.rows t = rs at hold
  induction rs with
  | nil => simp at hold
  | cons r rs ih =>
    rw [List.map_cons, List.find?_cons]
    by_cases hr : t.id r = id
    · simp [hr, hid]
    · rw [List.find?_cons] at hold
      simp only [hr, decide_false, if_false] at hold ⊢
      exact ih hold

/-- Another row than the one replaced is found as before. -/
theorem Db.find_put_ne {db : Db} {t : Tbl} {id id' : String} {row : t.Row} (hid : t.id row = id)
    (hne : id' ≠ id) : (db.put t id row).find t id' = db.find t id' := by
  unfold Db.find Db.put
  rw [Db.rows_setRows]
  induction db.rows t with
  | nil => rfl
  | cons r rs ih =>
    rw [List.map_cons, List.find?_cons, List.find?_cons, ih]
    by_cases hr : t.id r = id
    · simp [hr, hid, Ne.symm hne]
    · simp [hr]

/-- When no check fails, each one passes. -/
theorem firstFailing_eq_none {checks : List (Bool × ℕ)} (h : firstFailing checks = none) :
    ∀ c ∈ checks, c.1 = true := by
  induction checks with
  | nil => simp
  | cons c cs ih =>
    obtain ⟨ok, e⟩ := c
    unfold firstFailing at h
    cases ok with
    | false => simp at h
    | true =>
      intro c hc
      rcases List.mem_cons.mp hc with rfl | hc
      · rfl
      · exact ih (by simpa using h) c hc

/-- The number that MySQL answers with is that of a check. -/
theorem exists_of_firstFailing {checks : List (Bool × ℕ)} {e : ℕ}
    (h : firstFailing checks = some e) : ∃ c ∈ checks, c.2 = e := by
  induction checks with
  | nil => cases h
  | cons c checks ih =>
    obtain ⟨ok, n⟩ := c
    unfold firstFailing at h
    split at h
    · obtain ⟨c, hc, hn⟩ := ih h
      exact ⟨c, List.mem_cons_of_mem _ hc, hn⟩
    · exact ⟨(ok, n), List.mem_cons_self .., Option.some.inj h⟩

/-- A column that may be `NULL` fails with a number of its check. -/
theorem nullable_ne {α : Type} {check : α → Bool × ℕ} {n : ℕ} (hn : n ≠ 0)
    (hcheck : ∀ x, (check x).2 ≠ n) (v : Option α) : (nullable check v).2 ≠ n := by
  cases v with
  | none => exact hn.symm
  | some x => exact hcheck x

/-- A text that is refused is too long, or has a character that does not come through. -/
theorem varchar_number (n : ℕ) (s : String) : (varchar n s).2 = 1406 ∨ (varchar n s).2 = 1366 := by
  unfold varchar
  split
  · exact Or.inl rfl
  · exact Or.inr rfl

/-- When each check passes, none fails. -/
theorem firstFailing_none {checks : List (Bool × ℕ)} (h : ∀ c ∈ checks, c.1 = true) :
    firstFailing checks = none := by
  induction checks with
  | nil => rfl
  | cons c cs ih =>
    have hc : c.1 = true := h c (List.mem_cons_self ..)
    have hcs : firstFailing cs = none := ih fun d hd => h d (List.mem_cons_of_mem _ hd)
    unfold firstFailing
    rw [hc, if_pos rfl, hcs]

/-- What is accepted into a table is the row as stored. -/
theorem Db.accept_ok {db : Db} {t : Tbl} {row r : t.Row} (h : db.accept t row = .ok r) :
    r = t.stored row ∧ firstFailing (t.checks row) = none ∧ db.refsHold t row = true := by
  unfold Db.accept at h
  split at h
  · cases h
  · split at h
    · cases h; exact ⟨rfl, ‹_›, ‹_›⟩
    · cases h

/-- A row whose checks pass and whose references hold is accepted. -/
theorem Db.accept_of (db : Db) {t : Tbl} (row : t.Row) (hchecks : ∀ c ∈ t.checks row, c.1 = true)
    (hrefs : db.refsHold t row = true) : db.accept t row = .ok (t.stored row) := by
  unfold Db.accept
  rw [firstFailing_none hchecks, hrefs, if_pos rfl]

/-- An `UPDATE` changes one table. -/
theorem mysql_updates_db (t : Tbl) (row : t.Row) :
    ∃ rs, (mysql env (.updates t row) w).2.db = w.db.setRows t rs := by
  have hself : w.db = w.db.setRows t (w.db.rows t) := by cases t <;> rfl
  simp only [mysql, exec]
  cases env.faults w.tick with
  | some e => exact ⟨_, hself⟩
  | none =>
    simp only [Db.answer, Db.updates]
    split
    · exact ⟨_, hself⟩
    · split
      · exact ⟨_, hself⟩
      · split
        · exact ⟨_, hself⟩
        · exact ⟨_, rfl⟩

end TrinoGateway
