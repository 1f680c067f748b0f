import TrinoGateway.Spec.Health
import TrinoGateway.Proof.Repo

/-!
# The two tiers of a backend's health

Every health operation writes back the whole row that it read. So a write keeps the other
tier's columns **exactly when the row read is not stale in them** (`tier_kept_iff`), for
every write that any interleaving of the operations reaches; `disable_lost` is the
interleaving in which the monitor turns a disabled backend on again.

The history variable `seen` carries the proof: `sat_prog` says that the row an operation
writes agrees, in the other tier, with the row it read.
-/

namespace TrinoGateway

open Interact Prog Protocol

namespace HealthOp

/-- A column of the row read is `NULL`, which is not written, or what is stored now. -/
def FreshCol {α : Type} (read stored : Option α) : Prop := read = none ∨ read = stored

/-- The row read is not stale in the columns of the other tier. -/
def Fresh : HealthOp → Backend → Backend → Prop
  | enable, r, b | disable, r, b =>
    FreshCol r.isHealthy b.isHealthy ∧ FreshCol r.clusterLoad b.clusterLoad ∧
      FreshCol r.statsUpdatedAt b.statsUpdatedAt
  | markHealthy, r, b | markUnhealthy, r, b | updateClusterLoad _, r, b =>
    FreshCol r.isEnabled b.isEnabled

theorem or_eq_right_iff {α : Type} (a b : Option α) : a.or b = b ↔ FreshCol a b := by
  unfold FreshCol
  cases a <;> cases b <;> simp

/-- What an `UPDATE` of the row `r` makes of the stored row `b`, tier by tier. -/
theorem sameTier_onUpdate_iff (k : HealthOp) (now : ℤ) (b r : Backend) :
    k.SameTier b (Tbl.stored .backends (Tbl.onUpdate now .backends b r)) ↔ k.Fresh r b := by
  cases k <;> simp only [SameTier, Fresh, Tbl.stored, Tbl.onUpdate, or_eq_right_iff]

theorem sameTier_refl (k : HealthOp) (b : Backend) : k.SameTier b b := by
  cases k <;> simp [SameTier]

/-- Two rows with the same columns of the other tier are stale together. -/
theorem fresh_congr {k : HealthOp} {r r' : Backend} (h : k.SameTier r r') (b : Backend) :
    k.Fresh r' b ↔ k.Fresh r b := by
  cases k <;> simp_all [SameTier, Fresh]

theorem sameTier_congr {k k' : HealthOp} (h : k.isMonitor = k'.isMonitor) (b b' : Backend) :
    k.SameTier b b' ↔ k'.SameTier b b' := by
  cases k <;> cases k' <;> first | exact Iff.rfl | cases h

theorem SameTier.trans {k : HealthOp} {b₁ b₂ b₃ : Backend} (h : k.SameTier b₁ b₂)
    (h' : k.SameTier b₂ b₃) : k.SameTier b₁ b₃ := by
  cases k <;> simp_all [SameTier]

/-- The other tier's columns of the stored row `id` are the same in both databases. -/
def Kept (k : HealthOp) (id : String) (db db' : Db) : Prop :=
  ∀ b, db.find .backends id = some b → ∃ b', db'.find .backends id = some b' ∧ k.SameTier b b'

theorem Kept.trans {k : HealthOp} {id : String} {db₁ db₂ db₃ : Db} (h : k.Kept id db₁ db₂)
    (h' : k.Kept id db₂ db₃) : k.Kept id db₁ db₃ := by
  intro b hb
  obtain ⟨b', hb', hs⟩ := h b hb
  obtain ⟨b'', hb'', hs'⟩ := h' b' hb'
  exact ⟨b'', hb'', hs.trans hs'⟩

theorem Kept.refl (k : HealthOp) (id : String) (db : Db) : k.Kept id db db :=
  fun b hb => ⟨b, hb, k.sameTier_refl b⟩

theorem kept_congr {k k' : HealthOp} (h : k.isMonitor = k'.isMonitor) {id : String} {db db' : Db} :
    k.Kept id db db' ↔ k'.Kept id db db' := by
  simp only [Kept, sameTier_congr h]

end HealthOp

/-- **One `UPDATE` of a backend row**: when it goes through, it keeps the other tier exactly
if the row written is not stale in it; when it fails, it changes nothing. -/
theorem exec_updates_kept_iff (k : HealthOp) (now : ℤ) (fault : Option DbErr) (db : Db)
    (r : Backend) :
    k.Kept r.id db (exec now fault (.updates .backends r) db).2 ↔
      ((exec now fault (.updates .backends r) db).1.error = none →
        ∀ b, db.find .backends r.id = some b → k.Fresh r b) := by
  have hkept : k.Kept r.id db db := HealthOp.Kept.refl k r.id db
  cases fault with
  | some e =>
    change k.Kept r.id db db ↔ (some e = none → _)
    simp [hkept]
  | none =>
    change k.Kept r.id db (db.updates now .backends r).2 ↔
      ((db.updates now .backends r).1.error = none → _)
    unfold Db.updates
    by_cases hid : Tbl.id .backends r = ""
    · rw [if_pos hid]
      simp [hkept]
    · rw [if_neg hid]
      cases hb : db.find .backends (Tbl.id .backends r) with
      | none =>
        have hb' : db.find .backends r.id = none := hb
        simp [hkept, hb']
      | some b =>
        have hb' : db.find .backends r.id = some b := hb
        simp only
        cases ha : db.accept .backends (Tbl.onUpdate now .backends b r) with
        | error e => simp [hkept]
        | ok row =>
          -- the row goes in as `Updates` merged it
          have hrow : row = Tbl.stored .backends (Tbl.onUpdate now .backends b r) := (Db.accept_ok ha).1
          have hrid : Tbl.id .backends row = r.id := by
            rw [hrow]
            exact (Db.find_id hb' : b.id = r.id)
          have hput := Db.find_put hb' hrid
          simp only [hb', forall_const, Option.some.injEq, forall_eq']
          rw [← k.sameTier_onUpdate_iff now b r, ← hrow]
          constructor
          · intro h
            obtain ⟨b', hb'', hs⟩ := h b hb'
            have : (db.put .backends r.id row).find .backends r.id = some b' := hb''
            rw [hput] at this
            cases this
            exact hs
          · intro h b₀ hb₀
            rw [hb'] at hb₀
            cases hb₀
            exact ⟨row, hput, h⟩

variable {ι : Type} [DecidableEq ι] {id : String} {ops : ι → HealthOp} {i : ι}

/-- An operation reads, or writes the row it read first, up to its own tier. -/
def RowOk (id : String) (k : HealthOp) (seen : Option Backend) : Stmt → Prop
  | .first .backends _ | .unixNow => True
  | .updates .backends row => row.id = id ∧ ∃ r, seen = some r ∧ k.SameTier r row
  | _ => False

/-- Each operation relies on its own history variable, and writes rows that agree with it. -/
def tierProtocol (id : String) (ops : ι → HealthOp) : Protocol ι Stmt Stmt.Ans (Shared ι) where
  toSystem := healthSystem
  inv _ := True
  rely i s s' := s'.seen i = s.seen i
  guar i o s _ s' := (∀ j, j ≠ i → s'.seen j = s.seen j) ∧ RowOk id (ops i) (s.seen i) o
  rely_refl _ _ := rfl
  rely_trans _ _ _ _ h h' := h'.trans h
  guar_rely _ j _ _ _ _ hij _ _ hg := hg.1 j (Ne.symm hij)
  env_inv _ _ _ he := he.elim
  env_rely _ _ _ _ he := he.elim

theorem record_ne (seen : ι → Option Backend) (o : Stmt) (a : o.Ans) {j : ι} (h : j ≠ i) :
    Shared.record seen i o a j = seen j := by
  unfold Shared.record
  split
  · exact Function.update_of_ne h ..
  · rfl

/-- Reading the backend sets the history variable, if it was not set. -/
theorem sat_find (s : Shared ι) : (tierProtocol id ops).Sat i (BackendRepo.find id) s fun res s' =>
    ∀ row, res = .ok row → row.id = id ∧ s'.seen i = (s.seen i).or (some row) := by
  refine Sat.op fun s₁ hrely _ a s₂ hsem => ?_
  obtain ⟨now, fault, ha, rfl⟩ := hsem
  refine ⟨⟨fun j hj => record_ne _ _ _ hj, trivial⟩, trivial, ?_⟩
  cases a with
  | error e =>
    refine Sat.ret fun s' _ _ row hrow => ?_
    cases hrow
  | ok b =>
    refine Sat.ret fun s' hr _ row hrow => ?_
    cases hrow
    have hfind := (exec_first_ok ha.symm).2
    refine ⟨Db.find_id hfind, ?_⟩
    rw [hr]
    simp only [Shared.record, Function.update_self]
    rw [hrely]

/-- Writing a row that agrees with the one read. -/
theorem sat_update {s : Shared ι} {r row : Backend} (hseen : s.seen i = some r)
    (hid : row.id = id) (hs : (ops i).SameTier r row) :
    (tierProtocol id ops).Sat i (Spine.update .backends row) s fun _ _ => True := by
  refine Sat.op fun s₁ hrely _ a s₂ hsem => ?_
  obtain ⟨now, fault, -, rfl⟩ := hsem
  refine ⟨⟨fun j hj => record_ne s₁.seen (.updates .backends row) a hj, hid, r, hrely.trans hseen, hs⟩, trivial, ?_⟩
  simp only [Spine.saveAssociations, Spine.associations, ne_eq, not_true_eq_false, and_false,
    if_false, pure_eq, bind_eq, ret_bind]
  split <;> exact Sat.ret fun _ _ _ => trivial

/-- The flag operations: read, and write the row read with the flag changed. -/
theorem sat_setFlag {s : Shared ι} (hs : s.seen i = none) (flag : Backend → Option Bool)
    (withFlag : Backend → Bool → Backend) (v : Bool)
    (hid : ∀ b, (withFlag b v).id = b.id) (htier : ∀ b, (ops i).SameTier b (withFlag b v)) :
    (tierProtocol id ops).Sat i
      (Repo.setFlag .backends BackendRepo.find flag withFlag v (.ok ()) id) s fun _ _ => True := by
  refine Sat.andThen trivial (sat_find s) (fun e s' _ _ => Sat.ret fun _ _ _ => trivial)
    fun b s' _ hq => ?_
  obtain ⟨hb, hseen⟩ := hq b rfl
  rw [hs] at hseen
  refine Sat.deref fun cur _ => ?_
  split
  · exact Sat.ret fun _ _ _ => trivial
  · exact sat_update hseen ((hid b).trans hb) (htier b)

/-- **Each operation keeps its side of the protocol**, whatever the others do. -/
theorem sat_prog {s : Shared ι} (hs : s.seen i = none) :
    (tierProtocol id ops).Sat i ((ops i).prog id) s fun _ _ => True := by
  cases hk : ops i with
  | enable =>
    exact sat_setFlag hs Backend.isEnabled BackendRepo.withEnabled true (fun _ => rfl)
      fun b => by rw [hk]; exact ⟨rfl, rfl, rfl⟩
  | disable =>
    exact sat_setFlag hs Backend.isEnabled BackendRepo.withEnabled false (fun _ => rfl)
      fun b => by rw [hk]; exact ⟨rfl, rfl, rfl⟩
  | markHealthy =>
    exact sat_setFlag hs Backend.isHealthy BackendRepo.withHealthy true (fun _ => rfl)
      fun b => by rw [hk]; rfl
  | markUnhealthy =>
    exact sat_setFlag hs Backend.isHealthy BackendRepo.withHealthy false (fun _ => rfl)
      fun b => by rw [hk]; rfl
  | updateClusterLoad l =>
    refine Sat.andThen trivial (sat_find s) (fun e s' _ _ => Sat.ret fun _ _ _ => trivial)
      fun b s' _ hq => ?_
    obtain ⟨hb, hseen⟩ := hq b rfl
    rw [hs] at hseen
    refine Sat.deref fun _ _ => Sat.deref fun _ _ => ?_
    refine Sat.op fun s₁ hrely _ now s₂ hsem => ?_
    obtain ⟨_, _, -, rfl⟩ := hsem
    refine ⟨⟨fun j hj => record_ne s₁.seen .unixNow now hj, trivial⟩, trivial, ?_⟩
    have hseen₁ : s₁.seen i = some b := hrely.trans hseen
    -- the existence check reads the row once more, and what is written is the first one
    simp only [ret_bind]
    unfold BackendApi.updateBackend
    simp only [hb]
    refine Sat.andThen trivial (sat_find _) (fun e s' _ _ => Sat.ret fun _ _ _ => trivial)
      fun b' s' _ hq' => ?_
    obtain ⟨-, hseen'⟩ := hq' b' rfl
    have hfirst : s'.seen i = some b := by
      rw [hseen']
      simp only [Shared.record, hseen₁, Option.some_or]
    exact Repo.sat_update trivial (sat_update hfirst rfl (by rw [hk]; rfl))

/-- A write that goes through writes a row whose columns of the other tier are not stale: the
row was read as it is stored now, in these columns, or they were `NULL`. -/
def WriteFresh (id : String) (k : HealthOp) (s : Shared ι) (i : ι) : (o : Stmt) → o.Ans → Prop
  | .updates .backends _, a => a.error = none → ∀ b r, s.db.find .backends id = some b →
      s.seen i = some r → k.Fresh r b
  | _, _ => True

/-- A step of an operator's operation, or of a monitor's, whose write is fresh. -/
def FreshStep (id : String) (ops : ι → HealthOp) (monitor : Bool)
    (P P' : Pool ι Stmt Stmt.Ans (Result Unit) (Shared ι)) : Prop :=
  ∃ i o k a s', P.procs i = .op o k ∧ healthSystem.sem i o P.state a s' ∧
    P' = ⟨Function.update P.procs i (k a), s'⟩ ∧ (ops i).isMonitor = monitor ∧
    WriteFresh id (ops i) P.state i o a

variable {db : Db} {P : Pool ι Stmt Stmt.Ans (Result Unit) (Shared ι)}

theorem healthPool_good (id : String) (ops : ι → HealthOp) (db : Db) :
    (tierProtocol id ops).Good (fun _ _ _ => True) (healthPool id ops db) :=
  ⟨trivial, fun _ => sat_prog rfl⟩

/-- One write of a reachable state. -/
theorem write_kept_iff (hr : healthSystem.Reachable (healthPool id ops db) P) {row : Backend}
    {k : StmtResult → Srv (Result Unit)} (hp : P.procs i = .op (.updates .backends row) k)
    {a : StmtResult} {s' : Shared ι}
    (hs : healthSystem.sem i (.updates .backends row) P.state a s') :
    (ops i).Kept id P.state.db s'.db ↔ WriteFresh id (ops i) P.state i (.updates .backends row) a := by
  obtain ⟨-, hid, r, hseen, htier⟩ := step_guar (healthPool_good id ops db) hr hp hs
  obtain ⟨now, fault, rfl, rfl⟩ := hs
  have hk := exec_updates_kept_iff (ops i) now fault P.state.db row
  rw [hid] at hk
  rw [hk]
  simp only [WriteFresh, hseen]
  constructor
  · intro h ha b r' hb hr'
    cases hr'
    exact (HealthOp.fresh_congr htier b).mp (h ha b hb)
  · intro h ha b hb
    exact (HealthOp.fresh_congr htier b).mpr (h ha b r hb rfl)

/-- One fresh step keeps the tier that its operation does not own. -/
theorem freshStep_kept (hr : healthSystem.Reachable (healthPool id ops db) P) {monitor : Bool}
    {P' : Pool ι Stmt Stmt.Ans (Result Unit) (Shared ι)} (h : FreshStep id ops monitor P P')
    {k : HealthOp} (hk : k.isMonitor = monitor) : k.Kept id P.state.db P'.state.db := by
  obtain ⟨i, o, kont, a, s', hp, hs, rfl, hmon, hfresh⟩ := h
  rw [HealthOp.kept_congr (hk.trans hmon.symm)]
  have hrow := (step_guar (healthPool_good id ops db) hr hp hs).2
  cases o with
  | updates t row =>
    cases t with
    | backends => exact (write_kept_iff hr hp hs).mpr hfresh
    | _ => exact hrow.elim
  | first t _ =>
    -- a read changes nothing
    obtain ⟨now, fault, -, rfl⟩ := hs
    cases fault with
    | some e => exact HealthOp.Kept.refl _ _ _
    | none =>
      simp only [exec, Db.answer]
      split <;> exact HealthOp.Kept.refl _ _ _
  | unixNow =>
    obtain ⟨now, fault, -, rfl⟩ := hs
    cases fault <;> exact HealthOp.Kept.refl _ _ _
  | _ => exact hrow.elim

/-- **The two tiers.** For any number of health operations on one backend, in every reachable
state: a write keeps the other tier's columns exactly when the row it writes is not stale in
them; and over a run of such writes by the monitor the operators' tier is kept, as the
monitor's is over a run of writes by operators. -/
theorem tier_kept_iff (id : String) (ops : ι → HealthOp) (db : Db)
    (P : Pool ι Stmt Stmt.Ans (Result Unit) (Shared ι))
    (hr : healthSystem.Reachable (healthPool id ops db) P) :
    (∀ i row k, P.procs i = .op (.updates .backends row) k → ∀ a s',
      healthSystem.sem i (.updates .backends row) P.state a s' →
        ((ops i).Kept id P.state.db s'.db ↔
          WriteFresh id (ops i) P.state i (.updates .backends row) a)) ∧
    ∀ monitor Q, Relation.ReflTransGen (FreshStep id ops monitor) P Q →
      ∀ k : HealthOp, k.isMonitor = monitor → k.Kept id P.state.db Q.state.db := by
  refine ⟨fun i row k hp a s' hs => write_kept_iff hr hp hs, fun monitor Q hQ k hk => ?_⟩
  suffices healthSystem.Reachable (healthPool id ops db) Q ∧ k.Kept id P.state.db Q.state.db from
    this.2
  induction hQ with
  | refl => exact ⟨hr, HealthOp.Kept.refl k id _⟩
  | tail _ hstep ih =>
    refine ⟨ih.1.tail ?_, ih.2.trans (freshStep_kept ih.1 hstep hk)⟩
    obtain ⟨i, o, kont, a, s', hp, hs, rfl, -⟩ := hstep
    exact .op i hp hs

/-- The monitor marks a backend healthy (`true`) while an operator disables it (`false`). -/
def raceOps (monitor : Bool) : HealthOp := if monitor then .markHealthy else .disable

def raceDb : Db where
  backends :=
    [{ id := "trino-1", hostname := "trino-1:8080", scheme := "http",
       externalUrl := some "trino-1.example", isEnabled := some true, isHealthy := some false }]

/-- The monitor has read the row, and the operator has read and disabled it. -/
def racePool : Pool Bool Stmt Stmt.Ans (Result Unit) (Shared Bool) :=
  [true, false, false].foldl (System.perform (healthHandler 1)) (healthPool "trino-1" raceOps raceDb)

theorem racePool_reachable :
    healthSystem.Reachable (healthPool "trino-1" raceOps raceDb) racePool :=
  System.foldl_perform_reachable _ (healthHandler_sem 1) _ _

/-- The row that the monitor is about to write back, with the flag it read. -/
def raceRow : Backend :=
  { id := "trino-1", hostname := "trino-1:8080", scheme := "http",
    externalUrl := some "trino-1.example", isEnabled := some true, isHealthy := some true }

/-- The next write turns the disabled backend on again. -/
theorem disable_lost :
    healthSystem.Reachable (healthPool "trino-1" raceOps raceDb) racePool ∧
    (∃ k, racePool.procs true = .op (.updates .backends raceRow) k) ∧
    (racePool.state.db.find .backends "trino-1").bind Backend.isEnabled = some false ∧
    let w := healthHandler 2 true (.updates .backends raceRow) racePool.state
    healthSystem.sem true (.updates .backends raceRow) racePool.state w.1 w.2 ∧
    (w.2.db.find .backends "trino-1").bind Backend.isEnabled = some true ∧
    ¬ (raceOps true).Kept "trino-1" racePool.state.db w.2.db := by
  refine ⟨racePool_reachable, ⟨_, rfl⟩, by decide, healthHandler_sem 2 _ _ _, by decide, ?_⟩
  intro h
  obtain ⟨b', hb', hs⟩ := h
    { raceRow with updatedAt := 1, isEnabled := some false, isHealthy := some false } (by decide)
  have hafter : (healthHandler 2 true (.updates .backends raceRow) racePool.state).2.db.find
      .backends "trino-1" = some { raceRow with updatedAt := 2 } := by decide
  rw [hafter] at hb'
  cases hb'
  cases hs

/-- The monitor's write of this race, by the theorem: it would keep the operators' tier only
if the row read were fresh. -/
theorem tier_kept_iff_racePool :
    let w := healthHandler 2 true (.updates .backends raceRow) racePool.state
    (raceOps true).Kept "trino-1" racePool.state.db w.2.db ↔
      WriteFresh "trino-1" (raceOps true) racePool.state true (.updates .backends raceRow) w.1 :=
  (tier_kept_iff "trino-1" raceOps raceDb racePool racePool_reachable).1 true raceRow _ rfl _ _
    (healthHandler_sem 2 _ _ _)

end TrinoGateway
