import TrinoGateway.Proof.Schema
import TrinoGateway.Proof.Selection

/-!
# Round robin over a run

The last routed backend of a group is written by every call that evaluates the group, also when
another group is chosen, or none.

* `findBackend_turn`: a `round_robin` group gets the successor of its last routed backend.
* `evaluateBackendForGroups_turn`: what one call does to a group's turn.
* `served_nodup`: **in a run whose calls leave the group's turn alone**, as many consecutive
  answers as the group has active backends are different backends.
-/

namespace TrinoGateway

open Interact Prog

/-- The statement reads, or updates the row of another group. -/
def Stmt.Spares (groupId : String) (o : Stmt) : Prop :=
  o.ReadOnly ∨ ∃ row : Group, o = .updates .groups row ∧ row.id ≠ groupId

/-- Another row than the one updated is found as before. -/
theorem exec_updates_find_ne {db : Db} {t : Tbl} (row : t.Row) {id : String} (hne : id ≠ t.id row)
    (now : ℤ) (fault : Option DbErr) :
    (exec now fault (.updates t row) db).2.find t id = db.find t id := by
  cases hold : db.find t (t.id row) with
  | none =>
    cases fault with
    | some e => rfl
    | none =>
      simp only [exec, Db.answer, Db.updates, hold]
      split <;> rfl
  | some old =>
    rcases exec_updates hold now fault with ⟨r, -, ha, hexec⟩ | ⟨-, e, hexec⟩
    · have hid : t.id r = t.id row := by
        rw [(Db.accept_ok ha).1, Db.id_stored, Db.id_onUpdate, Db.find_id hold]
      rw [hexec]
      exact Db.find_put_ne hid hne
    · rw [hexec]

namespace GroupApi

variable {cfg : Config} {clock : ℕ → ℤ} {db : Db} {groupId : String} {t : ℤ} {p : Option String}
  {w : World}

/-- Where a group's turn stands: the backends and mappings are those of `db`, and the group is a
`round_robin` one, created at `t`, whose last routed backend is `p`. -/
structure Turn (db : Db) (groupId : String) (t : ℤ) (p : Option String) (db' : Db) : Prop where
  consistent : db'.Consistent
  same : db.SameBackends db'
  row : ∃ row, db'.find .groups groupId = some row ∧ row.strategy = some "round_robin" ∧
    row.createdAt = t ∧ row.lastRoutedBackend = p

theorem Turn.exec {db' : Db} (h : Turn db groupId t p db') {o : Stmt} (ho : o.Spares groupId)
    (now : ℤ) (fault : Option DbErr) : Turn db groupId t p (exec now fault o db').2 := by
  refine ⟨h.consistent.exec now fault o, ?_, ?_⟩
  · rcases ho with hread | ⟨row, rfl, -⟩
    · rw [exec_readOnly hread]
      exact h.same
    · obtain ⟨rs, hrs⟩ := mysql_updates_db ⟨fun _ => now, fun _ => fault⟩ ⟨db', 0⟩ .groups row
      change (TrinoGateway.exec now fault (.updates .groups row) db').2 = _ at hrs
      rw [hrs]
      exact h.same.trans ⟨rfl, rfl⟩
  · rcases ho with hread | ⟨row, rfl, hne⟩
    · rw [exec_readOnly hread]
      exact h.row
    · rw [exec_updates_find_ne (t := .groups) row (Ne.symm hne)]
      exact h.row

/-- A program that spares a group leaves its turn. -/
theorem Turn.run {α : Type} (h : Turn db groupId t p w.db) {prog : Srv α}
    (hp : prog.AllOps (Stmt.Spares groupId)) (env : Env) :
    Turn db groupId t p (prog.run (mysql env) w).2.db :=
  hp.run_inv (I := fun w' : World => Turn db groupId t p w'.db)
    (fun _ _ ho hw' => hw'.exec ho _ _) h

variable (cfg) in
/-- The search for the backends of other groups spares a group. -/
theorem spares_findBackends {gs : List Group} (h : ∀ g ∈ gs, g.id ≠ groupId) :
    (findBackends cfg gs).AllOps (Stmt.Spares groupId) :=
  allOps_findBackends cfg (fun _ => Or.inl) fun g hg _ => Or.inr ⟨_, rfl, h g hg⟩

theorem spares_findBackend {g : Group} (h : g.id ≠ groupId) :
    (findBackend cfg g).AllOps (Stmt.Spares groupId) :=
  allOps_findBackend cfg (fun _ => Or.inl) fun _ => Or.inr ⟨_, rfl, h⟩

/-- MySQL takes each update of the group's last routed backend, at any time of the run, and the
column keeps the id as it is. -/
def TakesTurns (db : Db) (clock : ℕ → ℤ) (groupId : String) : Prop :=
  ∀ k row, db.find .groups groupId = some row → ∀ b ∈ db.activeIn groupId,
    b.id.length ≤ 255 ∧
      db.TakesUpdate (clock k) none .groups row { id := groupId, lastRoutedBackend := some b.id }

/-- In a database whose rows fit, MySQL takes them: the group has an id, and the time fits. -/
theorem takesTurns_of_fits {s : SchemaDb} (hid : groupId ≠ "")
    (hclock : ∀ k, -2147483648 ≤ clock k ∧ clock k ≤ 2147483647) : TakesTurns s.db clock groupId := by
  intro k row hrow b hb
  have hrowFits := s.fits .groups row (Db.mem_of_find hrow)
  have hbackend : b ∈ s.db.backends := (List.mem_filter.mp hb).1
  have hidFits := s.fits .backends b hbackend _ (List.mem_cons_self ..)
  simp only [Tbl.checks, List.forall_mem_cons] at hrowFits
  obtain ⟨hrowId, hstrategy, -, hcreated, -⟩ := hrowFits
  have hlength : b.id.length ≤ 255 := length_of_varchar hidFits
  refine ⟨hlength, rfl, hid, _, Db.accept_of _ (t := .groups) _ ?_ rfl⟩
  simp only [Tbl.checks, Tbl.onUpdate, nonZero, if_true, textPointer_of_length_le hlength,
    List.forall_mem_cons]
  exact ⟨hrowId, hstrategy, hidFits, hcreated, decide_eq_true (hclock k),
    fun _ hc => by cases hc⟩

/-- The update of the last routed backend moves the turn on. -/
theorem Turn.update (h : Turn db groupId t p w.db) {old : Group}
    (hold : db.find .groups groupId = some old) (ht : old.createdAt = t)
    (hstrategy : old.strategy = some "round_robin") (hwrites : TakesTurns db clock groupId) {b : String}
    (hb : b ∈ (db.activeIn groupId).map Backend.id) :
    ∃ w', (GroupRepo.update { id := groupId, lastRoutedBackend := some b }).run
        (mysql (.available clock)) w = (some (.ok ()), w') ∧ Turn db groupId t (some b) w'.db := by
  set upd : Group := { id := groupId, lastRoutedBackend := some b } with hupd
  obtain ⟨row, hrow, hrr, hcreated, -⟩ := h.row
  have hid : row.id = groupId := Db.find_id hrow
  have hid' : old.id = groupId := Db.find_id hold
  obtain ⟨backend, hbackend, hb⟩ := List.mem_map.mp hb
  obtain ⟨hlength, -, hne, r₀, ha₀⟩ := hwrites w.tick old hold backend hbackend
  rw [hb] at ha₀ hlength
  have hlast := textPointer_of_length_le hlength
  -- the row that is written now differs from that of the beginning in what is not checked
  have hchecks : Tbl.groups.checks (Tbl.groups.onUpdate (clock w.tick) row upd) =
      Tbl.groups.checks (Tbl.groups.onUpdate (clock w.tick) old upd) := by
    simp only [Tbl.checks, Tbl.onUpdate, hupd, hid, hid', hrr, hstrategy, hcreated, ht, hlast]
  have haccept := Db.accept_of w.db (t := .groups) (Tbl.groups.onUpdate (clock w.tick) row upd)
    (hchecks ▸ firstFailing_eq_none (Db.accept_ok ha₀).2.1) rfl
  have hfound : w.db.find .groups (Tbl.groups.id upd) = some row := hrow
  rcases Repo.update_cases (.available clock) w hfound rfl with
    ⟨r, -, ha, hrun⟩ | ⟨hno, -⟩
  · have hconsistent := h.consistent.run (GroupRepo.update upd) (.available clock)
    have hrun' : (GroupRepo.update upd).run (mysql (.available clock)) w = _ := hrun
    rw [hrun'] at hconsistent
    obtain ⟨rfl, -, -⟩ := Db.accept_ok ha
    refine ⟨_, hrun, hconsistent, h.same.trans ⟨rfl, rfl⟩, _, Db.find_put hrow hid, ?_, ?_, hlast _⟩
    · change (row.strategy.map fun s => (enumSpelling strategies s).getD s) = some "round_robin"
      rw [hrr]
      decide
    · exact hcreated
  · exact absurd ⟨rfl, hne, _, haccept⟩ hno

variable (cfg) in
/-- **The search of a `round_robin` group's backend**: the successor of the last routed backend,
which the turn moves on to; a panic that leaves the turn, where that is `NULL`. -/
theorem findBackend_turn (h : Turn db groupId t p w.db) {old row : Group}
    (hold : db.find .groups groupId = some old) (ht : old.createdAt = t)
    (hstrategy : old.strategy = some "round_robin") (hwrites : TakesTurns db clock groupId)
    (hactive : db.activeIn groupId ≠ []) (hid : row.id = groupId)
    (hrr : row.strategy = some "round_robin") (hp : row.lastRoutedBackend = p) :
    ∃ r w', (findBackend cfg (db.withMappings row)).run (mysql (.available clock)) w = (r, w') ∧
      ((∃ b last, p = some last ∧
          Rotation.IsNext ((db.activeIn groupId).map Backend.id) last b ∧ r = some (.ok (some b)) ∧
          Turn db groupId t (some b) w'.db) ∨
        (p = none ∧ r = none ∧ Turn db groupId t p w'.db)) := by
  have hread := run_getAllActive (.available clock) w row
  rw [read_available, h.same.withMappings, h.same.activeIn, hid] at hread
  unfold findBackend
  obtain ⟨first, rest, hlist⟩ := List.exists_cons_of_ne_nil hactive
  rw [hlist] at hread
  simp only [run_andThen_ok _ hread, bind_eq]
  have hselect : ∀ w', (selectBackend cfg (db.withMappings row) first (first :: rest)).run
      (mysql (.available clock)) w' =
      (p.map fun last => roundRobin ((first :: rest).map Backend.id) last, w') := by
    intro w'
    have hrr' : (db.withMappings row).strategy = some "round_robin" := hrr
    have hp' : (db.withMappings row).lastRoutedBackend = p := hp
    cases p <;> simp [selectBackend, hrr', hp']
  cases p with
  | none =>
    exact ⟨_, _, run_bind_none _ (hselect w.next), Or.inr ⟨rfl, rfl, h⟩⟩
  | some last =>
    rw [run_bind_some _ (hselect w.next), ← hlist]
    have hids : (db.activeIn groupId).map Backend.id ≠ [] := mt List.map_eq_nil_iff.mp hactive
    have hnext := roundRobin_isNext hids last
    obtain ⟨w', hrun, hturn⟩ := Turn.update (w := w.next) h hold ht hstrategy hwrites hnext.mem
    have hid' : (db.withMappings row).id = groupId := hid
    rw [hid', run_bind_some _ hrun]
    exact ⟨_, _, rfl, Or.inl ⟨_, last, rfl, hnext, rfl, hturn⟩⟩

/-- A call leaves the group's turn alone: if the group is among those requested that are enabled,
it is the first of them, and the others have the columns that their strategies read. -/
def LeavesTurn (cfg : Config) (db : Db) (groupId : String) (groups : List String) : Prop :=
  groupId ∈ (eligible db groups).map Group.id →
    ∃ first rest, eligible db groups = first :: rest ∧ first.id = groupId ∧
      ∀ e ∈ rest, Ready cfg db e

/-- How a call ends for a group whose turn stands at `p`: it answers with the next backend of the
group, and the turn moves on; or it does not name the group, and leaves the turn. -/
def TurnStep (db : Db) (groupId : String) (t : ℤ) (p : Option String)
    (r : Option (Result (String × String))) (db' : Db) : Prop :=
  (∃ b last, p = some last ∧ Rotation.IsNext ((db.activeIn groupId).map Backend.id) last b ∧
      r = some (.ok (b, groupId)) ∧ Turn db groupId t (some b) db') ∨
    ((∀ b, r ≠ some (.ok (b, groupId))) ∧ Turn db groupId t p db')

/-- A call that panics leaves the turn, if its statements do. -/
theorem Turn.panics (h : Turn db groupId t p w.db) : TurnStep db groupId t p none w.db :=
  Or.inr ⟨(fun _ hb => by cases hb), h⟩

/-- So does one that fails. -/
theorem Turn.fails (h : Turn db groupId t p w.db) (e : GoErr) :
    TurnStep db groupId t p (some (.error e)) w.db :=
  Or.inr ⟨(fun _ hb => by cases hb), h⟩

/-- The end of a call that found no backend. -/
def fallback (cfg : Config) : Srv (Result (String × String)) :=
  (getGroup cfg.defaultRoutingGroup).andThen fun chosenGroup =>
    (findBackend cfg chosenGroup).andThen fun
      | none => return .error (.text "unable to find Backend for Default Routing Group")
      | some b => return .ok (b, chosenGroup.id)

/-- The end of a call, after the search in the eligible groups. -/
def choose (cfg : Config) (eligibleGrps : List Group) (evaluatedBackendId : List (Option String)) :
    Srv (Result (String × String)) :=
  if evaluatedBackendId.any Option.isSome then
    match eligibleGrps, evaluatedBackendId with
    | chosenGroup :: _, b :: _ => return .ok (b.getD "", chosenGroup.id)
    | _, _ => panic
  else fallback cfg

variable (cfg clock w) in
/-- A call is the search in the eligible groups, and the choice. -/
theorem run_evaluateBackendForGroups (groups : List String) :
    ∃ n, (evaluateBackendForGroups cfg groups).run (mysql (.available clock)) w =
      ((findBackends cfg ((eligible w.db groups).map w.db.withMappings)).andThen
        (choose cfg ((eligible w.db groups).map w.db.withMappings))).run (mysql (.available clock))
          { w with tick := n } := by
  obtain ⟨res, n, hgroups, hres⟩ :=
    GroupRepo.run_findMany (.available clock) w [("is_enabled", .bool true)]
  cases res with
  | error e => exact absurd rfl hres.choose_spec
  | ok gs =>
    subst hres
    refine ⟨n, ?_⟩
    unfold evaluateBackendForGroups
    rw [getAllActiveGroups, run_andThen_ok _ hgroups]
    simp only
    rw [eligible_withMappings]
    rfl

section Call

variable {old : Group} (hold : db.find .groups groupId = some old) (ht : old.createdAt = t)
  (hstrategy : old.strategy = some "round_robin") (hwrites : TakesTurns db clock groupId)
  (hactive : db.activeIn groupId ≠ []) (h : Turn db groupId t p w.db)

include hold ht hstrategy hwrites hactive h

/-- The default routing group, where no requested group has an active backend. -/
theorem fallback_turn :
    TurnStep db groupId t p
      ((fallback cfg).run (mysql (.available clock)) w).1
      ((fallback cfg).run (mysql (.available clock)) w).2.db := by
  unfold fallback
  obtain ⟨res, n, hfind, hres⟩ := GroupRepo.run_find (.available clock) w cfg.defaultRoutingGroup
  cases res with
  | error e =>
    rw [getGroup, run_andThen_error _ hfind]
    exact h.fails e
  | ok g =>
    obtain ⟨row, hrow, rfl⟩ := hres
    have hid : row.id = cfg.defaultRoutingGroup := Db.find_id hrow
    rw [getGroup, run_andThen_ok _ hfind]
    by_cases hdefault : cfg.defaultRoutingGroup = groupId
    · -- the group is the default one, and it is its turn
      rw [hdefault] at hrow hid
      obtain ⟨row', hrow', hrr, -, hlast⟩ := h.row
      obtain rfl : row' = row := Option.some.inj (hrow'.symm.trans hrow)
      have h' : Turn db groupId t p ({ w with tick := n } : World).db := h
      obtain ⟨r, w', hrun, hr⟩ := findBackend_turn cfg h' hold ht hstrategy hwrites
        hactive hid hrr hlast
      rw [← h.same.withMappings] at hrun
      rcases hr with ⟨b, last, hp, hnext, rfl, hturn⟩ | ⟨-, rfl, hturn⟩
      · rw [run_andThen_ok _ hrun]
        refine Or.inl ⟨b, last, hp, hnext, ?_, hturn⟩
        rw [withMappings_id, hid]
        rfl
      · rw [andThen, run_bind_none _ hrun]
        exact hturn.panics
    · have hspares : (findBackend cfg (w.db.withMappings row)).AllOps (Stmt.Spares groupId) :=
        spares_findBackend (hid.trans_ne hdefault)
      have hturn := Turn.run (w := { w with tick := n }) h hspares (.available clock)
      generalize hrun : (findBackend cfg (w.db.withMappings row)).run (mysql (.available clock))
        { w with tick := n } = end_ at hturn
      obtain ⟨r, w'⟩ := end_
      rcases r with _ | e | _ | b
      · rw [andThen, run_bind_none _ hrun]
        exact hturn.panics
      · rw [run_andThen_error _ hrun]
        exact hturn.fails e
      · rw [run_andThen_ok _ hrun]
        exact hturn.fails _
      · rw [run_andThen_ok _ hrun]
        refine Or.inr ⟨fun b' hb' => hdefault ?_, hturn⟩
        have hgroup := (Prod.mk.inj (Except.ok.inj (Option.some.inj hb'))).2
        exact hid.symm.trans hgroup

/-- The eligible groups, where the group is not among them. -/
theorem others_turn {gs : List Group} (hgs : ∀ g ∈ gs, g.id ≠ groupId) :
    TurnStep db groupId t p
      (((findBackends cfg gs).andThen (choose cfg gs)).run (mysql (.available clock)) w).1
      (((findBackends cfg gs).andThen (choose cfg gs)).run (mysql (.available clock)) w).2.db := by
  have hturn := h.run (spares_findBackends cfg hgs) (.available clock)
  generalize hrun : (findBackends cfg gs).run (mysql (.available clock)) w = end_ at hturn
  obtain ⟨r, w₁⟩ := end_
  rcases r with _ | e | bs
  · rw [andThen, run_bind_none _ hrun]
    exact hturn.panics
  · rw [run_andThen_error _ hrun]
    exact hturn.fails e
  · rw [run_andThen_ok _ hrun]
    unfold choose
    split
    · rcases gs with _ | ⟨chosenGroup, rest⟩
      · exact hturn.panics
      · rcases bs with _ | ⟨b, bs⟩
        · exact hturn.panics
        · refine Or.inr ⟨fun b' hb' => ?_, hturn⟩
          have hgroup := (Prod.mk.inj (Except.ok.inj (Option.some.inj hb'))).2
          exact hgs chosenGroup (List.mem_cons_self ..) hgroup
    · exact fallback_turn hold ht hstrategy hwrites hactive hturn

/-- The eligible groups, where the group is the first of them. -/
theorem first_turn {first : Group} {rest : List Group} (hid : first.id = groupId)
    (hfirst : w.db.find .groups groupId = some first) (hrest : ∀ g ∈ rest, g.id ≠ groupId)
    (hready : ∀ g ∈ rest, Ready cfg db g) :
    TurnStep db groupId t p
      (((findBackends cfg ((first :: rest).map db.withMappings)).andThen
        (choose cfg ((first :: rest).map db.withMappings))).run (mysql (.available clock)) w).1
      (((findBackends cfg ((first :: rest).map db.withMappings)).andThen
        (choose cfg ((first :: rest).map db.withMappings))).run (mysql (.available clock)) w).2.db := by
  obtain ⟨row, hrow, hrr, -, hlast⟩ := h.row
  obtain rfl : row = first := Option.some.inj (hrow.symm.trans hfirst)
  obtain ⟨r, w₁, hrun, hr⟩ := findBackend_turn cfg h hold ht hstrategy hwrites hactive hid
    hrr hlast
  rw [List.map_cons, findBackends]
  rcases hr with ⟨b, last, hp, hnext, rfl, hturn⟩ | ⟨-, rfl, hturn⟩
  · -- the group has its turn, and the other groups leave it
    have hspares : (findBackends cfg (rest.map db.withMappings)).AllOps (Stmt.Spares groupId) := by
      refine spares_findBackends cfg fun g hg => ?_
      obtain ⟨g', hg', rfl⟩ := List.mem_map.mp hg
      exact hrest g' hg'
    have hturn' := hturn.run hspares (.available clock)
    obtain ⟨r', w₂, hrun', -, hr'⟩ := findBackends_spec cfg (.available clock) w₁ rest hturn.same
    rw [hrun'] at hturn'
    rcases r' with _ | e | bs
    · obtain ⟨g, hg, hno⟩ := hr'
      exact absurd (hready g hg) hno
    · exact absurd rfl hr'.choose_spec
    · have hloop : ((findBackend cfg (db.withMappings row)).andThen fun b =>
          (findBackends cfg (rest.map db.withMappings)).andThen fun bs =>
            return .ok (b :: bs)).run (mysql (.available clock)) w =
          (some (.ok (some b :: bs)), w₂) := by
        rw [run_andThen_ok _ hrun, run_andThen_ok _ hrun']
        rfl
      rw [run_andThen_ok _ hloop]
      refine Or.inl ⟨b, last, hp, hnext, ?_, hturn'⟩
      rw [← hid]
      rfl
  · have hloop : ((findBackend cfg (db.withMappings row)).andThen fun b =>
        (findBackends cfg (rest.map db.withMappings)).andThen fun bs =>
          return .ok (b :: bs)).run (mysql (.available clock)) w = (none, w₁) := by
      rw [andThen, run_bind_none _ hrun]
    rw [andThen, run_bind_none _ hloop]
    exact hturn.panics

/-- **What a call does to the turn of a group.** -/
theorem evaluateBackendForGroups_turn {groups : List String}
    (hquiet : LeavesTurn cfg w.db groupId groups) :
    TurnStep db groupId t p
      ((evaluateBackendForGroups cfg groups).run (mysql (.available clock)) w).1
      ((evaluateBackendForGroups cfg groups).run (mysql (.available clock)) w).2.db := by
  obtain ⟨n, hrun⟩ := run_evaluateBackendForGroups cfg clock w groups
  rw [hrun, h.same.withMappings]
  have h' : Turn db groupId t p ({ w with tick := n } : World).db := h
  by_cases hmem : groupId ∈ (eligible w.db groups).map Group.id
  · obtain ⟨first, rest, heq, hid, hready⟩ := hquiet hmem
    have hsub : (first :: rest).Sublist w.db.groups := heq ▸ List.filter_sublist
    have hnodup : ((first :: rest).map Group.id).Nodup :=
      (h.consistent.ids .groups).sublist (hsub.map _)
    rw [List.map_cons, List.nodup_cons] at hnodup
    rw [heq]
    refine first_turn hold ht hstrategy hwrites hactive h' hid ?_ (fun g hg hg' => ?_) fun g hg => ?_
    · have hfirst : first ∈ w.db.groups := hsub.subset (List.mem_cons_self ..)
      have hfind := h.consistent.find_of_mem (t := .groups) hfirst
      rwa [show Tbl.groups.id first = groupId from hid] at hfind
    · exact hnodup.1 (hid.trans hg'.symm ▸ List.mem_map_of_mem hg)
    · exact (ready_of_same cfg h.same g).mp (hready g hg)
  · refine others_turn hold ht hstrategy hwrites hactive h' fun g hg hid => hmem ?_
    obtain ⟨g', hg', rfl⟩ := List.mem_map.mp hg
    exact List.mem_map.mpr ⟨g', hg', hid⟩

end Call

/-- The answers of some calls, one after another, and the world after them. -/
def evaluateAll (cfg : Config) (env : Env) :
    List (List String) → World → List (Option (Result (String × String))) × World
  | [], w => ([], w)
  | groups :: calls, w =>
    let call := (evaluateBackendForGroups cfg groups).run (mysql env) w
    let rest := evaluateAll cfg env calls call.2
    (call.1 :: rest.1, rest.2)

/-- The backend of an answer that names the group. -/
def servedBy (groupId : String) : Option (Result (String × String)) → Option String
  | some (.ok (b, g)) => if g = groupId then some b else none
  | _ => none

/-- The backends that the answers for a group name. -/
def served (groupId : String) (answers : List (Option (Result (String × String)))) : List String :=
  answers.filterMap (servedBy groupId)

/-- Every call of a run leaves the group's turn alone, in the state that it finds. -/
def AllLeaveTurn (cfg : Config) (env : Env) (groupId : String) (calls : List (List String))
    (w : World) : Prop :=
  ∀ before groups after, calls = before ++ groups :: after →
    LeavesTurn cfg (evaluateAll cfg env before w).2.db groupId groups

theorem servedBy_eq_none {r : Option (Result (String × String))}
    (h : ∀ b, r ≠ some (.ok (b, groupId))) : servedBy groupId r = none := by
  rcases r with _ | e | ⟨b, g⟩
  · rfl
  · rfl
  · refine if_neg fun hg => h b ?_
    rw [hg]

theorem servedBy_ok (b : String) : servedBy groupId (some (.ok (b, groupId))) = some b :=
  if_pos rfl

/-- **The answers for a group rotate**: each is the successor of the one before, and the first that
of the last routed backend. -/
theorem served_rotates {old : Group} (hold : db.find .groups groupId = some old)
    (ht : old.createdAt = t) (hstrategy : old.strategy = some "round_robin")
    (hwrites : TakesTurns db clock groupId) (hactive : db.activeIn groupId ≠ [])
    (calls : List (List String)) (h : Turn db groupId t p w.db)
    (hquiet : AllLeaveTurn cfg (.available clock) groupId calls w) :
    served groupId (evaluateAll cfg (.available clock) calls w).1 = [] ∨
      ∃ last, p = some last ∧
        Rotation.Rotates last ((served groupId (evaluateAll cfg (.available clock) calls w).1).map
          fun b => ((db.activeIn groupId).map Backend.id, b)) := by
  induction calls generalizing p w with
  | nil => exact Or.inl rfl
  | cons groups calls ih =>
    have hcall := evaluateBackendForGroups_turn hold ht hstrategy hwrites hactive h
      (hquiet [] groups calls rfl)
    have hrest : ∀ {p' : Option String}, Turn db groupId t p'
        ((evaluateBackendForGroups cfg groups).run (mysql (.available clock)) w).2.db → _ :=
      fun hturn => ih hturn fun before groups' after heq =>
        hquiet (groups :: before) groups' after (by rw [heq]; rfl)
    rw [evaluateAll, served, List.filterMap_cons]
    rcases hcall with ⟨b, last, hp, hnext, hr, hturn⟩ | ⟨hr, hturn⟩
    · rw [hr, servedBy_ok]
      refine Or.inr ⟨last, hp, hnext, ?_⟩
      rcases hrest hturn with hnil | ⟨last', hlast', hrotates⟩
      · rw [served] at hnil
        rw [hnil]
        trivial
      · obtain rfl : b = last' := Option.some.inj hlast'
        exact hrotates
    · rw [servedBy_eq_none hr]
      exact hrest hturn

/-- **Round robin over a run**: if every call leaves the group's turn alone, and MySQL takes the
writes of its turns, as many consecutive answers for the group as it has active backends name
different backends. -/
theorem served_nodup (cfg : Config) (s : ConsistentDb) (clock : ℕ → ℤ) (tick : ℕ) {groupId : String}
    {row : Group} (hrow : s.db.find .groups groupId = some row)
    (hrr : row.strategy = some "round_robin") (hwrites : TakesTurns s.db clock groupId)
    (calls : List (List String))
    (hquiet : AllLeaveTurn cfg (.available clock) groupId calls ⟨s.db, tick⟩) {turns : List String}
    (hturns : turns <:+:
      served groupId (evaluateAll cfg (.available clock) calls ⟨s.db, tick⟩).1)
    (hlen : turns.length = (s.db.activeIn groupId).length) : turns.Nodup := by
  by_cases hactive : s.db.activeIn groupId = []
  · rw [hactive] at hlen
    rw [List.length_eq_zero_iff.mp hlen]
    exact List.nodup_nil
  · have hturn : Turn s.db groupId row.createdAt row.lastRoutedBackend s.db :=
      ⟨s.consistent, Db.SameBackends.refl _, row, hrow, hrr, rfl, rfl⟩
    have hids : ((s.db.activeIn groupId).map Backend.id).Nodup :=
      (s.consistent.ids .backends).sublist (List.filter_sublist.map _)
    rcases served_rotates (w := ⟨s.db, tick⟩) hrow rfl hrr hwrites hactive calls hturn hquiet with
      hnil | ⟨last, -, hrotates⟩
    · rw [hnil, List.infix_nil] at hturns
      rw [hturns]
      exact List.nodup_nil
    · obtain ⟨last', hrotates'⟩ := hrotates.infix (hturns.map _)
      refine Rotation.nodup_of_rotates hrotates' ?_
      rw [List.toFinset_card_of_nodup hids, List.length_map, hlen]

/-- Two enabled groups on two backends, the second one round robin. -/
def sharedBackends : SchemaDb where
  db :=
    { backends :=
        [{ id := "trino-1", hostname := "h1", scheme := "http", externalUrl := some "x1",
           isEnabled := some true, isHealthy := some true },
          { id := "trino-2", hostname := "h2", scheme := "http", externalUrl := some "x2",
            isEnabled := some true, isHealthy := some true }]
      groups :=
        [{ id := "adhoc", strategy := some "random", isEnabled := some true,
           lastRoutedBackend := some "" },
          { id := "etl", strategy := some "round_robin", isEnabled := some true,
            lastRoutedBackend := some "" }]
      mappings :=
        [{ groupId := "adhoc", backendId := "trino-1" }, { groupId := "etl", backendId := "trino-1" },
          { groupId := "etl", backendId := "trino-2" }] }
  consistent := by decide
  fits := by decide

/-- Two calls for the round robin group get its two backends. -/
theorem ownCalls_nodup :
    ["trino-1", "trino-2"] <:+: served "etl" (evaluateAll ⟨"adhoc", 0⟩ (.available fun _ => 0)
      [["etl"], ["etl"]] ⟨sharedBackends.db, 0⟩).1 ∧ ["trino-1", "trino-2"].Nodup := by
  have hturns : ["trino-1", "trino-2"] <:+: served "etl" (evaluateAll ⟨"adhoc", 0⟩
      (.available fun _ => 0) [["etl"], ["etl"]] ⟨sharedBackends.db, 0⟩).1 := by
    decide +kernel
  have hrow : sharedBackends.db.find .groups "etl" =
      some { id := "etl", strategy := some "round_robin", isEnabled := some true,
             lastRoutedBackend := some "" } := by decide
  refine ⟨hturns, served_nodup ⟨"adhoc", 0⟩ sharedBackends.toConsistentDb (fun _ => 0) 0 hrow rfl
    (takesTurns_of_fits (by decide) fun _ => by decide) [["etl"], ["etl"]] ?_ hturns (by decide)⟩
  -- the group is the only one requested
  have hleaves : ∀ db : Db, (eligible db ["etl"]).length = 1 →
      LeavesTurn ⟨"adhoc", 0⟩ db "etl" ["etl"] := by
    intro db hlen hmem
    obtain ⟨first, heq⟩ := List.length_eq_one_iff.mp hlen
    rw [heq] at hmem
    exact ⟨first, [], heq, (List.mem_singleton.mp hmem).symm,
      fun _ hg => by cases hg⟩
  rintro (_ | ⟨groups₁, _ | ⟨groups₂, before⟩⟩) groups after heq
  · obtain ⟨rfl, -⟩ := List.cons.inj heq
    exact hleaves _ (by decide)
  · obtain ⟨rfl, heq'⟩ := List.cons.inj heq
    obtain ⟨rfl, -⟩ := List.cons.inj heq'
    exact hleaves _ (by decide +kernel)
  · cases before <;> cases heq

/-- A call for both groups in between takes a turn of the round robin group, and the two answers
for it name the same backend. -/
theorem skippedTurn_repeats :
    ["trino-1", "trino-1"] <:+: served "etl" (evaluateAll ⟨"adhoc", 0⟩ (.available fun _ => 0)
        [["etl"], ["adhoc", "etl"], ["etl"]] ⟨sharedBackends.db, 0⟩).1 ∧
      (sharedBackends.db.activeIn "etl").length = 2 ∧
      TakesTurns sharedBackends.db (fun _ => 0) "etl" ∧ ¬ ["trino-1", "trino-1"].Nodup := by
  refine ⟨by decide +kernel, by decide, takesTurns_of_fits (by decide) fun _ => by decide,
    by decide⟩

end GroupApi

end TrinoGateway
