import TrinoGateway.Spec.Monitor
import TrinoGateway.Proof.Schema

/-!
# A cycle of the monitor

`Execute` evaluates the backends one after the other and then marks them all at once. Each of its
goroutines owns one row: `monitorProtocol` says that a goroutine finds its row as it left it, and
that no statement of the monitor changes a column that operators set.

`execution_converges`: **when the cycle is over, the backend's health is the verdict, for every
backend that was there when it began**, and its settings are what they were.
-/

namespace TrinoGateway

open Interact Prog Protocol

/-- The columns that operators set are the same. -/
structure Backend.SameSettings (b b' : Backend) : Prop extends b.SameConfig b' where
  isEnabled : b'.isEnabled = b.isEnabled

namespace Backend

theorem SameSettings.refl (b : Backend) : b.SameSettings b := ⟨⟨rfl, rfl, rfl, rfl, rfl, rfl⟩, rfl⟩

theorem SameSettings.trans {b₁ b₂ b₃ : Backend} (h : b₁.SameSettings b₂) (h' : b₂.SameSettings b₃) :
    b₁.SameSettings b₃ where
  id := h'.id.trans h.id
  hostname := h'.hostname.trans h.hostname
  scheme := h'.scheme.trans h.scheme
  externalUrl := h'.externalUrl.trans h.externalUrl
  uptimeSchedule := h'.uptimeSchedule.trans h.uptimeSchedule
  thresholdClusterLoad := h'.thresholdClusterLoad.trans h.thresholdClusterLoad
  isEnabled := h'.isEnabled.trans h.isEnabled

/-- The scheme is one that the API has a value for. -/
def Listable (b : Backend) : Prop := (BackendApi.schemeValue b.scheme).isSome

theorem SameSettings.listable {b b' : Backend} (h : b.SameSettings b') (hl : b.Listable) :
    b'.Listable := by
  unfold Listable
  rw [h.scheme]
  exact hl

theorem Listable.spelled {b : Backend} (h : b.Listable) :
    enumSpelling schemes b.scheme = some b.scheme := by
  unfold Listable BackendApi.schemeValue at h
  split at h
  · rename_i hs
    rw [hs]
    decide
  · split at h
    · rename_i hs
      rw [hs]
      decide
    · cases h

theorem or_self_of_eq {α : Type} {a b : Option α} (h : a = b) : a.or b = b := by
  subst h
  cases a <;> rfl

/-- An `UPDATE` with a row of the same settings keeps them. -/
theorem SameSettings.onUpdate {old row : Backend} (h : old.SameSettings row) (hl : old.Listable)
    (now : ℤ) : old.SameSettings (Tbl.stored .backends (Tbl.onUpdate now .backends old row)) := by
  have hscheme : nonZero "" row.scheme old.scheme = old.scheme := nonZero_of_eq h.scheme
  refine ⟨⟨rfl, textField_of_eq h.hostname, ?_, textPointer_of_eq h.externalUrl,
    textPointer_of_eq h.uptimeSchedule, or_self_of_eq h.thresholdClusterLoad⟩,
    or_self_of_eq h.isEnabled⟩
  change (enumSpelling schemes (nonZero "" row.scheme old.scheme)).getD
    (nonZero "" row.scheme old.scheme) = old.scheme
  rw [hscheme, hl.spelled]
  rfl

end Backend

/-- The backends are the same ones, and those that can be listed have their settings. -/
structure Db.KeepsSettings (db db' : Db) : Prop where
  ids : db'.ids .backends = db.ids .backends
  row : ∀ id b, db.find .backends id = some b → b.Listable →
    ∃ b', db'.find .backends id = some b' ∧ b.SameSettings b'

theorem Db.KeepsSettings.refl (db : Db) : db.KeepsSettings db :=
  ⟨rfl, fun _ b hb _ => ⟨b, hb, .refl b⟩⟩

/-- Replacing a row by one with the same settings, if it can be listed. -/
theorem Db.KeepsSettings.put {db₀ db : Db} (h : db₀.KeepsSettings db) {id : String}
    {old row : Backend} (hold : db.find .backends id = some old) (hid : Tbl.id .backends row = id)
    (hsame : old.Listable → old.SameSettings row) :
    db₀.KeepsSettings (db.put .backends id row) where
  ids := (Db.ids_put hid .backends).trans h.ids
  row id' b hb hl := by
    obtain ⟨b', hb', hs⟩ := h.row id' b hb hl
    by_cases hid' : id' = id
    · subst hid'
      rw [hold] at hb'
      cases hb'
      exact ⟨row, Db.find_put hold hid, hs.trans (hsame (hs.listable hl))⟩
    · exact ⟨b', (Db.find_put_ne hid hid').trans hb', hs⟩

section Protocol

variable {ι : Type} (db₀ : Db) (own : ι → Set String)
  (hdisj : ∀ i j, i ≠ j → ∀ id ∈ own i, id ∉ own j)

/-- Each process owns some rows: the others leave them alone. -/
def monitorProtocol : Protocol ι CycleOp CycleOp.Ans Db where
  toSystem := cycleSystem
  inv db := db₀.KeepsSettings db
  rely i db db' := ∀ id ∈ own i, db'.find .backends id = db.find .backends id
  guar i _ db _ db' := ∀ id, id ∉ own i → db'.find .backends id = db.find .backends id
  rely_refl _ _ _ _ := rfl
  rely_trans _ _ _ _ h h' id hid := (h' id hid).trans (h id hid)
  guar_rely _ _ _ _ _ _ hij _ _ hg id hid := hg id fun hi => hdisj _ _ hij id hi hid
  env_inv _ _ _ he := he.elim
  env_rely _ _ _ _ he := he.elim

/-- The same on the statements alone. -/
abbrev storeProtocol : Protocol ι Stmt Stmt.Ans Db :=
  (monitorProtocol db₀ own hdisj).comap CycleOp.stmt

variable {db₀ own hdisj} {i : ι} {db : Db} {α : Type}

/-- A statement that only reads. -/
theorem sat_readOnly {o : Stmt} (ho : o.ReadOnly) {k : o.Ans → Srv α} {Q : α → Db → Prop}
    (h : ∀ now fault db', (∀ id ∈ own i, db'.find .backends id = db.find .backends id) →
      db₀.KeepsSettings db' →
        (storeProtocol db₀ own hdisj).Sat i (k (exec now fault o db').1) db' Q) :
    (storeProtocol db₀ own hdisj).Sat i (.op o k) db Q := by
  refine Sat.op fun db₁ hrely hinv a db₂ hsem => ?_
  obtain ⟨now, fault, rfl, rfl⟩ := hsem
  rw [exec_readOnly ho]
  exact ⟨fun _ _ => rfl, hinv, h now fault db₁ hrely hinv⟩

/-- A row that is read, and that the process owns, is there, as it was. -/
theorem sat_findRow {id : String} (hid : id ∈ own i) :
    (storeProtocol db₀ own hdisj).Sat i (BackendRepo.find id) db fun res db' =>
      (∀ b, res = .ok b → db'.find .backends id = some b) ∧
        db'.find .backends id = db.find .backends id := by
  refine sat_readOnly (o := .first .backends id) trivial fun now fault db₁ hrely₁ _ => ?_
  cases ha : (exec now fault (.first .backends id) db₁).1 with
  | error e =>
    refine Sat.ret fun db₂ hrely _ => ⟨fun b hb => ?_, (hrely id hid).trans (hrely₁ id hid)⟩
    cases hb
  | ok b =>
    refine Sat.ret fun db₂ hrely _ => ⟨fun b' hb' => ?_, (hrely id hid).trans (hrely₁ id hid)⟩
    cases hb'
    rw [hrely id hid]
    exact (exec_first_ok ha).2

/-- The write of a row with the settings of the one stored. -/
theorem sat_updateRow (old row : Backend) (hid : row.id ∈ own i)
    (hold : db.find .backends row.id = some old) (hsame : old.SameSettings row) :
    (storeProtocol db₀ own hdisj).Sat i (Spine.update .backends row) db fun res db' =>
      res = .ok () → ∀ v, row.isHealthy = some v →
        ∃ b, db'.find .backends row.id = some b ∧ b.isHealthy = some v := by
  refine Sat.op fun db₁ hrely hinv a db₂ hsem => ?_
  obtain ⟨now, fault, rfl, rfl⟩ := hsem
  have hold₁ : db₁.find .backends (Tbl.id .backends row) = some old := (hrely _ hid).trans hold
  rcases exec_updates hold₁ now fault with ⟨r, -, ha, hexec⟩ | ⟨-, e, hexec⟩
  · rw [hexec]
    obtain ⟨hr, -, -⟩ := Db.accept_ok ha
    have hrid : r.id = row.id := by
      rw [hr]
      exact Db.find_id hold₁
    refine ⟨fun id hni => Db.find_put_ne hrid fun hne => ?_, ?_, ?_⟩
    · subst hne
      exact hni hid
    · refine hinv.put hold₁ hrid fun hl => ?_
      rw [hr]
      exact hsame.onUpdate hl now
    · have hfound : (db₁.put .backends (Tbl.id .backends row) r).find .backends row.id = some r :=
        Db.find_put hold₁ hrid
      have hhealthy : r.isHealthy = row.isHealthy.or old.isHealthy := by
        rw [hr]
        rfl
      simp only [Spine.saveAssociations, Spine.associations, ne_eq, not_true_eq_false, and_false,
        if_false, pure_eq, bind_eq, ret_bind]
      have hpost : ∀ db₂ : Db, (∀ id ∈ own i, db₂.find .backends id =
          (db₁.put .backends (Tbl.id .backends row) r).find .backends id) → ∀ v,
            row.isHealthy = some v →
              ∃ b, db₂.find .backends row.id = some b ∧ b.isHealthy = some v := by
        intro db₂ hrely₂ v hv
        refine ⟨r, (hrely₂ _ hid).trans hfound, ?_⟩
        rw [hhealthy, hv]
        rfl
      split
      · exact Sat.ret fun _ hrely₂ _ _ => hpost _ hrely₂
      · exact Sat.ret fun _ hrely₂ _ _ => hpost _ hrely₂
  · rw [hexec]
    exact ⟨fun _ _ => rfl, hinv, Sat.ret fun _ _ _ hres => by cases hres⟩

/-- A mark that succeeds leaves its row with the flag. -/
theorem sat_setHealthy (hinv : db₀.KeepsSettings db) {id : String} (hid : id ∈ own i) (v : Bool) :
    (storeProtocol db₀ own hdisj).Sat i
      (Repo.setFlag .backends BackendRepo.find Backend.isHealthy BackendRepo.withHealthy v (.ok ()) id)
      db fun res db' => res = .ok () →
        ∃ b, db'.find .backends id = some b ∧ b.isHealthy = some v := by
  refine Sat.andThen hinv (sat_findRow hid) (fun e _ _ _ => Sat.ret fun _ _ _ h => by cases h)
    fun b db₁ _ hq => ?_
  have hb := hq.1 b rfl
  obtain rfl : b.id = id := Db.find_id hb
  refine Sat.deref fun cur hf => ?_
  split
  · rename_i hcur
    refine Sat.ret fun db₂ hrely _ _ => ⟨b, (hrely _ hid).trans hb, ?_⟩
    rw [hf, hcur]
  · have hsame : b.SameSettings (BackendRepo.withHealthy b v) :=
      ⟨⟨rfl, rfl, rfl, rfl, rfl, rfl⟩, rfl⟩
    refine (sat_updateRow b (BackendRepo.withHealthy b v) hid hb hsame).mono ?_
    exact fun _ _ _ h hres => h hres v rfl

/-- A load is written into the row that the process finds. -/
theorem sat_updateClusterLoad (hinv : db₀.KeepsSettings db) {id : String} (hid : id ∈ own i)
    (load : ℤ) :
    (storeProtocol db₀ own hdisj).Sat i (BackendApi.updateClusterLoadBackend id load) db
      fun _ _ => True := by
  refine Sat.andThen hinv (sat_findRow hid) (fun e _ _ _ => Sat.ret fun _ _ _ => trivial)
    fun b db₁ _ hq => ?_
  have hb := hq.1 b rfl
  obtain rfl : b.id = id := Db.find_id hb
  refine Sat.deref fun _ _ => Sat.deref fun _ _ => ?_
  refine sat_readOnly (o := .unixNow) trivial fun now fault db₂ hrely₂ hinv₂ => ?_
  have hb₂ : db₂.find .backends b.id = some b := (hrely₂ _ hid).trans hb
  -- the existence check reads the same row once more
  refine Sat.andThen hinv₂ (sat_findRow hid) (fun e _ _ _ => Sat.ret fun _ _ _ => trivial)
    fun b' db₃ hinv₃ hq₃ => ?_
  exact Repo.sat_update hinv₃ (sat_updateRow b _ hid (hq₃.2.trans hb₂)
    ⟨⟨rfl, rfl, rfl, rfl, rfl, rfl⟩, rfl⟩)

/-- What the list of all backends is made of, when it is made. -/
theorem listed {bs : List Backend} {ms : List BackendMsg}
    (h : (Prog.traverse BackendApi.toBackendResponseProto bs : Srv (Result (List BackendMsg))) =
      ret (.ok ms)) :
    ms.map BackendMsg.id = bs.map Backend.id ∧ ∀ b ∈ bs, b.Listable := by
  have hall := traverse_eq_ok.mp h
  clear h
  induction hall with
  | nil => simp
  | cons hb _ ih =>
    obtain ⟨hscheme, hrow⟩ := toBackendResponseProto_ok hb
    refine ⟨?_, ?_⟩
    · rw [List.map_cons, List.map_cons, ih.1, hrow]
    · rintro b' hb'
      rcases List.mem_cons.mp hb' with rfl | hb'
      · unfold Backend.Listable
        rw [hscheme]
        rfl
      · exact ih.2 b' hb'

/-- A list that is answered has all backends, and the process's rows can be listed. -/
theorem sat_listAllBackends :
    (storeProtocol db₀ own hdisj).Sat i
      (BackendApi.listAllBackends.andThen fun bs => return .ok (bs.map some)) db
      fun res _ => ∀ items, res = .ok items →
        (∃ ms : List BackendMsg, items = ms.map some ∧ ms.map BackendMsg.id = db₀.ids .backends) ∧
          ∀ id ∈ own i, ∀ b, db.find .backends id = some b → b.Listable := by
  refine sat_readOnly (o := .find .backends {}) trivial fun now fault db₁ hrely hinv => ?_
  cases fault with
  | some e => exact Sat.ret fun _ _ _ items h => by cases h
  | none =>
    have hall : (exec now none (.find .backends {}) db₁).1 = .ok db₁.backends := by
      change Except.ok (db₁.backends.filter ((({} : Where)).holds .backends)) = _
      rw [List.filter_eq_self.mpr fun _ _ => by rfl]
    rw [hall]
    have hops : (Prog.traverse BackendApi.toBackendResponseProto db₁.backends :
        Srv (Result (List BackendMsg))).AllOps fun _ => False :=
      AllOps.traverse (fun b => toBackendResponseProto_allOps b _) _
    change (storeProtocol db₀ own hdisj).Sat i ((Prog.traverse BackendApi.toBackendResponseProto
      db₁.backends).andThen fun bs => ret (.ok (bs.map some))) db₁ _
    rcases hops.outcome with ⟨res, hres⟩ | hpanic
    · rw [hres]
      cases res with
      | error e => exact Sat.ret fun _ _ _ items h => by cases h
      | ok ms =>
        obtain ⟨hids, hlist⟩ := listed hres
        refine Sat.ret fun _ _ _ items h => ?_
        cases h
        refine ⟨⟨ms, rfl, hids.trans hinv.ids⟩, fun id hid b hb => ?_⟩
        exact hlist b (Db.mem_of_find ((hrely id hid).trans hb))
    · rw [hpanic]
      exact Sat.panic

theorem sat_call {p : Srv (Result α)} {Q : Result α → Db → Prop}
    (hQ : ∀ db, Q (.error (.text "EOF")) db) (h : (storeProtocol db₀ own hdisj).Sat i p db Q) :
    (monitorProtocol db₀ own hdisj).Sat i (call p) db Q :=
  Sat.embed CycleOp.stmt (Sat.recover hQ h)

/-- Whatever the monitor asks, the settings are kept. -/
theorem sat_serve (hown : own i = Set.univ) (o : MonitorOp) (hinv : db₀.KeepsSettings db) :
    (monitorProtocol db₀ own hdisj).Sat i (Monitor.serve o) db fun _ _ => True := by
  have hmem : ∀ id, id ∈ own i := fun id => hown ▸ Set.mem_univ id
  cases o with
  | check c =>
    refine Sat.op fun db₁ _ hinv₁ a db₂ hsem => ?_
    obtain rfl : db₂ = db₁ := hsem
    exact ⟨fun _ _ => rfl, hinv₁, Sat.ret fun _ _ _ => trivial⟩
  | listAllBackends =>
    exact sat_call (fun _ => trivial) (sat_listAllBackends.mono fun _ _ _ _ => trivial)
  | updateClusterLoadBackend id load =>
    exact sat_call (fun _ => trivial) (sat_updateClusterLoad hinv (hmem id) load)
  | markHealthyBackend id =>
    exact sat_call (fun _ => trivial)
      ((sat_setHealthy hinv (hmem id) true).mono fun _ _ _ _ => trivial)
  | markUnhealthyBackend id =>
    exact sat_call (fun _ => trivial)
      ((sat_setHealthy hinv (hmem id) false).mono fun _ _ _ _ => trivial)

theorem sat_onServer (hown : own i = Set.univ) (hinv : db₀.KeepsSettings db) (p : Monitor α) :
    (monitorProtocol db₀ own hdisj).Sat i (Monitor.onServer p) db fun _ _ => True :=
  Sat.interp (fun o _ hs => sat_serve hown o hs) hinv

/-- The loop puts each backend into one of the lists. -/
theorem sat_evaluateBackends (hown : own i = Set.univ) (hinv : db₀.KeepsSettings db)
    (cfg : MonitorConfig) (ms : List BackendMsg) (st : BackendsNewState) :
    (monitorProtocol db₀ own hdisj).Sat i
      (Monitor.onServer (Monitor.evaluateBackends cfg st (ms.map some))) db fun res _ =>
        ∀ st', res = .ok st' →
          (st'.healthy ++ st'.unhealthy).Perm (st.healthy ++ st.unhealthy ++ ms) := by
  induction ms generalizing st db with
  | nil =>
    refine Sat.ret fun _ _ _ st' h => ?_
    cases h
    simp
  | cons b ms ih =>
    have hloop : Monitor.onServer (Monitor.evaluateBackends cfg st ((b :: ms).map some)) =
        (Monitor.onServer (Monitor.isHealthy cfg b)).bind fun h => Monitor.onServer
          (if h then Monitor.evaluateBackends cfg { st with healthy := st.healthy ++ [b] } (ms.map some)
          else Monitor.evaluateBackends cfg { st with unhealthy := st.unhealthy ++ [b] }
            (ms.map some)) :=
      interp_bind ..
    rw [hloop]
    refine Sat.bind hinv (sat_onServer hown hinv _) fun h db₁ hinv₁ _ => ?_
    cases h with
    | true =>
      refine (ih hinv₁ { st with healthy := st.healthy ++ [b] }).mono fun res _ _ hq st' hst => ?_
      have hmiddle : (st.healthy ++ b :: (st.unhealthy ++ ms)).Perm
          (st.healthy ++ (st.unhealthy ++ b :: ms)) := List.perm_middle.symm.append_left _
      simpa using (hq st' hst).trans (by simpa using hmiddle)
    | false =>
      refine (ih hinv₁ { st with unhealthy := st.unhealthy ++ [b] }).mono fun res _ _ hq st' hst => ?_
      refine (hq st' hst).trans ?_
      simp

/-- **The new state has every backend once.** -/
theorem sat_evaluateBackendNewState (hown : own i = Set.univ) (hinv : db₀.KeepsSettings db)
    (cfg : MonitorConfig) :
    (monitorProtocol db₀ own hdisj).Sat i (Monitor.onServer (Monitor.evaluateBackendNewState cfg)) db
      fun res _ => ∀ st, res = .ok st →
        ((st.healthy ++ st.unhealthy).map BackendMsg.id).Perm (db₀.ids .backends) ∧
          ∀ id b, db.find .backends id = some b → b.Listable := by
  have hlist : (monitorProtocol db₀ own hdisj).Sat i (Monitor.serve .listAllBackends) db _ :=
    sat_call (fun _ items h => by cases h) sat_listAllBackends
  refine Sat.bind hinv hlist fun res db₁ hinv₁ hq => ?_
  cases res with
  | error e => exact Sat.ret fun _ _ _ st h => by cases h
  | ok items =>
    obtain ⟨⟨ms, rfl, hids⟩, hlistable⟩ := hq items rfl
    have hnil : none ∉ ms.map some := by simp
    simp only [pure_eq, if_neg hnil, ret_bind]
    refine (sat_evaluateBackends hown hinv₁ cfg ms {}).mono fun res _ _ hperm st hst => ⟨?_, ?_⟩
    · rw [← hids]
      exact (hperm st hst).map _
    · exact fun id b hb => hlistable id (hown ▸ Set.mem_univ id) b hb

/-- A mark that succeeds leaves its row as it says. -/
theorem sat_mark (hinv : db₀.KeepsSettings db) {m : BackendMsg × Bool} (hid : m.1.id ∈ own i) :
    (monitorProtocol db₀ own hdisj).Sat i (Monitor.onServer (Monitor.mark m)) db fun res db' =>
      res = .ok () → ∃ b, db'.find .backends m.1.id = some b ∧ b.isHealthy = some m.2 := by
  obtain ⟨b, v⟩ := m
  have herr : ∀ db : Db, (Except.error (.text "EOF") : Result Unit) = .ok () →
      ∃ b', db.find .backends b.id = some b' ∧ b'.isHealthy = some v := by
    intro db h
    cases h
  cases v with
  | true =>
    have hcall : Monitor.onServer (Monitor.mark (b, true)) =
        call (BackendApi.markHealthyBackend b.id) :=
      interp_perform Monitor.serve (MonitorOp.markHealthyBackend b.id)
    rw [hcall]
    exact sat_call herr (sat_setHealthy hinv hid true)
  | false =>
    have hcall : Monitor.onServer (Monitor.mark (b, false)) =
        call (BackendApi.markUnhealthyBackend b.id) :=
      interp_perform Monitor.serve (MonitorOp.markUnhealthyBackend b.id)
    rw [hcall]
    exact sat_call herr (sat_setHealthy hinv hid false)

end Protocol

variable {cfg : MonitorConfig} {db : Db}

namespace Execution

/-- The evaluation puts every backend into one of the lists, and keeps its settings. -/
theorem evaluation_sound (e : Execution cfg db) :
    ((e.newStates.healthy ++ e.newStates.unhealthy).map BackendMsg.id).Perm (db.ids .backends) ∧
      (∀ id b, db.find .backends id = some b → b.Listable) ∧ db.KeepsSettings e.evaluation.state := by
  have hone : ∀ i j : Unit, i ≠ j → ∀ id ∈ (Set.univ : Set String), id ∉ (Set.univ : Set String) :=
    fun i j hij => absurd (Subsingleton.elim i j) hij
  have hstart : (monitorProtocol db (fun _ : Unit => Set.univ) hone).Good
      (fun _ res _ => ∀ st, res = .ok st →
        ((st.healthy ++ st.unhealthy).map BackendMsg.id).Perm (db.ids .backends) ∧
          ∀ id b, db.find .backends id = some b → b.Listable)
      ⟨fun _ => Monitor.onServer (Monitor.evaluateBackendNewState cfg), db⟩ :=
    ⟨Db.KeepsSettings.refl db,
      fun _ => sat_evaluateBackendNewState (by rfl) (Db.KeepsSettings.refl db) cfg⟩
  have hgood := reachable_sat hstart e.evaluates
  have hsat := hgood.sat ()
  rw [e.evaluated ()] at hsat
  obtain ⟨hperm, hlist⟩ := hsat _ (fun _ _ => rfl) hgood.inv e.newStates rfl
  exact ⟨hperm, hlist, hgood.inv⟩

/-- The backends of the goroutines are those of both lists. -/
theorem perm_marks (st : BackendsNewState) :
    ((Monitor.marks st).map fun m => m.1.id).Perm
      ((st.healthy ++ st.unhealthy).map BackendMsg.id) := by
  have hids : (Monitor.marks st).map (fun m => m.1.id) =
      (st.unhealthy ++ st.healthy).map BackendMsg.id := by
    simp [Monitor.marks, Function.comp_def]
  rw [hids]
  exact List.perm_append_comm.map _

/-- What the goroutine for a backend marks it as. -/
theorem flag_of_mem {st : BackendsNewState}
    (hnodup : ((Monitor.marks st).map fun m => m.1.id).Nodup) {m : BackendMsg × Bool}
    (hm : m ∈ Monitor.marks st) {id : String} (hid : m.1.id = id) :
    m.2 = decide (id ∈ st.healthy.map BackendMsg.id) := by
  subst hid
  obtain ⟨b, v⟩ := m
  cases v with
  | true =>
    have hb : b ∈ st.healthy := by simpa [Monitor.marks] using hm
    exact (decide_eq_true (List.mem_map_of_mem hb)).symm
  | false =>
    refine (decide_eq_false fun hmem => ?_).symm
    obtain ⟨b', hb', heq⟩ := List.mem_map.mp hmem
    have hm' : (b', true) ∈ Monitor.marks st := by simpa [Monitor.marks] using hb'
    -- one backend would be in both lists
    cases List.inj_on_of_nodup_map hnodup hm hm' heq.symm

/-- The goroutines, each of which has a row of its own, mark the rows and keep the settings. -/
theorem marking_sound (e : Execution cfg db)
    (hnodup : ((Monitor.marks e.newStates).map fun m => m.1.id).Nodup) :
    e.evaluation.state.KeepsSettings e.marking.state ∧ ∀ m ∈ Monitor.marks e.newStates,
      ∃ b, e.marking.state.find .backends m.1.id = some b ∧ b.isHealthy = some m.2 := by
  let own : Fin (Monitor.marks e.newStates).length → Set String :=
    fun i => {((Monitor.marks e.newStates).get i).1.id}
  have hdisj : ∀ i j, i ≠ j → ∀ id ∈ own i, id ∉ own j := by
    intro i j hij id hi hj
    have heq : (Monitor.marks e.newStates).get i = (Monitor.marks e.newStates).get j :=
      List.inj_on_of_nodup_map hnodup (List.get_mem _ i) (List.get_mem _ j) (hi.symm.trans hj)
    exact hij ((hnodup.of_map.get_inj_iff).mp heq)
  have hstart : (monitorProtocol e.evaluation.state own hdisj).Good
      (fun i res db' => res = .ok () →
        ∃ b, db'.find .backends ((Monitor.marks e.newStates).get i).1.id = some b ∧
          b.isHealthy = some ((Monitor.marks e.newStates).get i).2)
      ⟨fun i => Monitor.onServer (Monitor.mark ((Monitor.marks e.newStates).get i)),
        e.evaluation.state⟩ :=
    ⟨Db.KeepsSettings.refl _, fun i => sat_mark (Db.KeepsSettings.refl _) rfl⟩
  have hgood := reachable_sat hstart e.marks
  refine ⟨hgood.inv, fun m hm => ?_⟩
  obtain ⟨i, rfl⟩ := List.get_of_mem hm
  have hsat := hgood.sat i
  rw [e.marked i] at hsat
  exact hsat _ (fun _ _ => rfl) hgood.inv rfl

end Execution

/-- **A cycle of the monitor converges.** However its marks interleave and whatever the checks said,
every backend that was there has the verdict on it as its health at the end, and the settings that
it had. -/
theorem execution_converges (hids : (db.ids .backends).Nodup) (e : Execution cfg db) :
    ((e.newStates.healthy ++ e.newStates.unhealthy).map BackendMsg.id).Perm (db.ids .backends) ∧
    e.marking.state.ids .backends = db.ids .backends ∧
    ∀ b ∈ db.backends, ∃ b', e.marking.state.find .backends b.id = some b' ∧
      b'.isHealthy = some (decide (b.id ∈ e.newStates.healthy.map BackendMsg.id)) ∧
      b.SameSettings b' := by
  obtain ⟨hperm, hlist, hkeeps⟩ := e.evaluation_sound
  have hnodup : ((Monitor.marks e.newStates).map fun m => m.1.id).Nodup :=
    ((Execution.perm_marks e.newStates).trans hperm).nodup_iff.mpr hids
  obtain ⟨hkeeps', hmarked⟩ := e.marking_sound hnodup
  refine ⟨hperm, hkeeps'.ids.trans hkeeps.ids, fun b hb => ?_⟩
  have hfind : db.find .backends b.id = some b := Db.find_of_mem hids hb
  obtain ⟨b₁, hb₁, hs₁⟩ := hkeeps.row _ b hfind (hlist _ b hfind)
  obtain ⟨b', hb', hs'⟩ := hkeeps'.row _ b₁ hb₁ (hs₁.listable (hlist _ b hfind))
  refine ⟨b', hb', ?_, hs₁.trans hs'⟩
  -- the row has the flag of the goroutine for it
  obtain ⟨m, hm, hmid⟩ : ∃ m ∈ Monitor.marks e.newStates, m.1.id = b.id := by
    have hmem : b.id ∈ (Monitor.marks e.newStates).map fun m => m.1.id :=
      ((Execution.perm_marks e.newStates).trans hperm).mem_iff.mpr (List.mem_map_of_mem hb)
    simpa using hmem
  obtain ⟨b'', hb'', hhealthy⟩ := hmarked m hm
  rw [hmid, hb'] at hb''
  cases hb''
  rw [hhealthy, Option.some_inj]
  exact Execution.flag_of_mem hnodup hm hmid

/-- The handler of a cycle at one moment, in which the checks have these outcomes. -/
def cycleHandler {ι : Type} (now : ℤ) (outcome : (c : Check) → c.Ans) (_ : ι) :
    (o : CycleOp) → Db → o.Ans × Db
  | .stmt o, db => exec now none o db
  | .check c, db => (outcome c, db)

theorem cycleHandler_sem {ι : Type} (now : ℤ) (outcome : (c : Check) → c.Ans) (i : ι) (o : CycleOp)
    (db : Db) : cycleSystem.sem i o db (cycleHandler now outcome i o db).1
      (cycleHandler now outcome i o db).2 := by
  cases o with
  | stmt o => exact ⟨now, none, rfl, rfl⟩
  | check c => rfl

/-- A backend with its defaults. -/
def idleBackend (id : String) (healthy : Bool) : Backend :=
  { id := id, hostname := id, scheme := "http", externalUrl := some id, isEnabled := some true,
    isHealthy := some healthy, uptimeSchedule := some "* * * * *", clusterLoad := some 0,
    thresholdClusterLoad := some 5, statsUpdatedAt := some 0 }

/-- A backend that came back, and one that is about to be overloaded. -/
def cycleDb : Db := { backends := [idleBackend "trino-1" false, idleBackend "trino-2" true] }

/-- Both are up, and one has four queries running. -/
def cycleOutcome : (c : Check) → c.Ans
  | .isTimeInCron _ | .isClusterUp _ | .isClusterHealthy _ => .ok true
  | .runQuery client _ =>
    .ok { scans := if client.host = "trino-2" then [.ok ⟨"RUNNING", 4⟩] else [] }

/-- The message of `idleBackend`. -/
def idleMsg (id : String) (healthy : Bool) : BackendMsg :=
  { id := id, hostname := id, externalUrl := id, isEnabled := true, isHealthy := healthy,
    uptimeSchedule := "* * * * *", thresholdClusterLoad := 5 }

def cycleStates : BackendsNewState where
  healthy := [idleMsg "trino-1" false]
  unhealthy := [idleMsg "trino-2" true]

def cycleEvaluation : Pool Unit CycleOp CycleOp.Ans (Result BackendsNewState) Db :=
  (List.replicate 17 ()).foldl (System.perform (cycleHandler 60 cycleOutcome))
    ⟨fun _ => Monitor.onServer (Monitor.evaluateBackendNewState ⟨"monitor", ""⟩), cycleDb⟩

def cycleMarking :
    Pool (Fin (Monitor.marks cycleStates).length) CycleOp CycleOp.Ans (Result Unit) Db :=
  (List.finRange _ ++ (List.finRange _).reverse).foldl
    (System.perform (cycleHandler 61 cycleOutcome))
    ⟨fun i => Monitor.onServer (Monitor.mark ((Monitor.marks cycleStates).get i)),
      cycleEvaluation.state⟩

theorem cycleMarking_over (i : Fin (Monitor.marks cycleStates).length) :
    cycleMarking.procs i = ret (.ok ()) := by
  match i with
  | ⟨0, _⟩ => rfl
  | ⟨1, _⟩ => rfl

def twoBackends : Execution ⟨"monitor", ""⟩ cycleDb where
  newStates := cycleStates
  evaluation := cycleEvaluation
  evaluates := System.foldl_perform_reachable _ (cycleHandler_sem _ _) _ _
  evaluated _ := by rfl
  marking := cycleMarking
  marks := System.foldl_perform_reachable _ (cycleHandler_sem _ _) _ _
  marked := cycleMarking_over

/-- The cycle turns both backends around. -/
theorem twoBackends_turned :
    (∃ b, twoBackends.marking.state.find .backends "trino-1" = some b ∧
      b.isHealthy = some true ∧ (idleBackend "trino-1" false).SameSettings b) ∧
    ∃ b, twoBackends.marking.state.find .backends "trino-2" = some b ∧
      b.isHealthy = some false ∧ (idleBackend "trino-2" true).SameSettings b := by
  obtain ⟨-, -, hrows⟩ := execution_converges (by decide) twoBackends
  constructor
  · exact hrows (idleBackend "trino-1" false) (by decide)
  · exact hrows (idleBackend "trino-2" true) (by decide)

end TrinoGateway
