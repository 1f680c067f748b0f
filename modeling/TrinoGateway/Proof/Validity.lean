import Mathlib.Data.List.Induction
import TrinoGateway.Proof.Statements

/-!
# Valid backends

The seven calls that write backends, one after another (`BackendCall`, `runCalls`).

* `exec_valid`: a statement keeps the stored backends valid, if an `INSERT` has passed
  `Backend.validate` and an `UPDATE` does not carry an empty external URL.
* `BackendCall.valid_iff`: from valid backends a call leads to valid ones exactly if it is not a
  `CreateOrUpdateBackend` that empties the URL of a stored backend.
* `backends_valid_iff`: **every state of a run has valid backends exactly if no call empties a
  URL**.
-/

namespace TrinoGateway

open Interact Prog

/-- The rules of `Backend.validate`, as they are meant. -/
structure Backend.Valid (b : Backend) : Prop where
  id : b.id ≠ "" ∧ b.id.length ≤ 50
  hostname : b.hostname ≠ "" ∧ b.hostname.length ≤ 255
  scheme : b.scheme ∈ schemes
  externalUrl : ∃ u, b.externalUrl = some u ∧ u ≠ "" ∧ u.length ≤ 255

namespace Validation

/-- A required value of bounded length. -/
theorem findSome_length (s : String) (n : ℕ) :
    ([required, runeLength 1 n].findSome? fun rule => rule (some s)) = none ↔
      s ≠ "" ∧ s.length ≤ n := by
  by_cases hs : s = ""
  · simp [required, hs]
  · have hpos : 1 ≤ s.length := by
      rcases Nat.eq_zero_or_pos s.length with h0 | hpos
      · exact absurd (String.length_eq_zero_iff.mp h0) hs
      · exact hpos
    by_cases hn : s.length ≤ n
    · simp [required, runeLength, hs, hn, hpos]
    · simp [required, runeLength, hs, hn]

/-- A required value among a few. -/
theorem findSome_oneOf (vals : List String) (hvals : "" ∉ vals) (s : String) :
    ([required, oneOf vals].findSome? fun rule => rule (some s)) = none ↔ s ∈ vals := by
  by_cases hs : s = ""
  · subst hs
    simp [required, hvals]
  · by_cases hv : s ∈ vals
    · simp [required, oneOf, hs, hv]
    · simp [required, oneOf, hs, hv]

/-- A struct is valid when no field breaks a rule. -/
theorem validateStruct_ok {fields : List (String × Option String × List Rule)} :
    validateStruct fields = .ok () ↔
      ∀ f ∈ fields, (f.2.2.findSome? fun rule => rule f.2.1) = none := by
  have hnil : (fields.filterMap fun f =>
      (f.2.2.findSome? fun rule => rule f.2.1).map (f.1, ·)) = [] ↔
        ∀ f ∈ fields, (f.2.2.findSome? fun rule => rule f.2.1) = none := by
    simp only [List.filterMap_eq_nil_iff, Option.map_eq_none_iff]
  rw [← hnil, validateStruct]
  split
  · rename_i h
    exact iff_of_true rfl h
  · rename_i h
    exact iff_of_false (by simp) h

end Validation

open Validation in
theorem Backend.validate_ok_iff (b : Backend) : b.validate = .ok () ↔ b.Valid := by
  have hurl : ([required, runeLength 1 255].findSome? fun rule => rule b.externalUrl) = none ↔
      ∃ u, b.externalUrl = some u ∧ u ≠ "" ∧ u.length ≤ 255 := by
    cases b.externalUrl with
    | none => simp [required]
    | some u => simpa using findSome_length u 255
  rw [Backend.validate, validateStruct_ok]
  simp only [List.forall_mem_cons, List.not_mem_nil, false_implies, implies_true, and_true,
    findSome_length, findSome_oneOf ["http", "https"] (by decide), hurl]
  exact ⟨fun ⟨hid, hhost, hscheme, hext⟩ => ⟨hid, hhost, hscheme, hext⟩,
    fun h => ⟨h.id, h.hostname, h.scheme, h.externalUrl⟩⟩

/-- Every stored backend is valid. -/
def Db.BackendsValid (db : Db) : Prop := ∀ b ∈ db.backends, b.Valid

/-- Conditions under which a statement keeps the backends valid. -/
def Stmt.KeepsValid : Stmt → Prop
  | insert .backends row => row.validate = .ok ()
  | updates .backends row => row.externalUrl ≠ some ""
  | _ => True

theorem enumSpelling_mem {vals : List String} {s : String} (h : (enum vals s).1 = true) :
    (enumSpelling vals s).getD s ∈ vals := by
  obtain ⟨v, hv⟩ := Option.isSome_iff_exists.mp h
  rw [hv, Option.getD_some]
  exact mem_of_enumSpelling hv

/-- What the columns of a backend hold once the row is accepted. -/
theorem Db.accept_backend {db : Db} {row r : Backend} (h : db.accept .backends row = .ok r) :
    r.id = row.id ∧ r.hostname = row.hostname ∧ r.externalUrl = row.externalUrl ∧
      r.scheme ∈ schemes ∧ row.hostname.length ≤ 255 ∧
        ∃ u, row.externalUrl = some u ∧ u.length ≤ 255 := by
  obtain ⟨rfl, hchecks, -⟩ := Db.accept_ok h
  have hpass := firstFailing_eq_none hchecks
  have hhost := hpass (varchar 255 row.hostname) (by simp [Tbl.checks])
  have hscheme := hpass (enum schemes row.scheme) (by simp [Tbl.checks])
  have hsome := hpass (notNull row.externalUrl) (by simp [Tbl.checks])
  have hlen := hpass (nullable (varchar 255) row.externalUrl) (by simp [Tbl.checks])
  obtain ⟨u, hu⟩ := Option.isSome_iff_exists.mp hsome
  rw [hu] at hlen
  exact ⟨rfl, rfl, rfl, enumSpelling_mem hscheme, length_of_varchar hhost, u, hu,
    length_of_varchar hlen⟩

theorem valid_of_insert {db : Db} {now : ℤ} {row r : Backend} (hv : row.Valid)
    (h : db.accept .backends (Tbl.onInsert now .backends row) = .ok r) : r.Valid := by
  obtain ⟨hid, hhost, hext, hscheme, -⟩ := Db.accept_backend h
  obtain ⟨u, hu, hne, hulen⟩ := hv.externalUrl
  -- texts that are valid fit in their columns
  have hhost' : r.hostname = row.hostname := hhost.trans (cut_of_length_le hv.hostname.2)
  have hext' : r.externalUrl = some u := by
    rw [hext]
    change row.externalUrl.map (cut 255) = some u
    rw [hu, Option.map_some, cut_of_length_le hulen]
  exact ⟨hid ▸ hv.id, hhost' ▸ hv.hostname, hscheme, u, hext', hne, hulen⟩

/-- A text that is written and not empty is not empty in the table, over one that is not. -/
theorem textField_ne_empty {new old : String} (hold : old ≠ "") : textField 255 new old ≠ "" := by
  unfold textField
  split
  · exact hold
  · rename_i h
    exact fun hc => (not_or.mp h).1 ((cut_eq_empty_iff (by decide)).mp hc)

theorem textPointer_ne_empty {new old : Option String} (hnew : new ≠ some "")
    (hold : old ≠ some "") : textPointer 255 new old ≠ some "" := by
  cases new with
  | none => rwa [textPointer_none]
  | some v =>
    rcases textPointer_some 255 v old with h | ⟨-, h⟩
    · rw [h]
      intro hc
      exact hnew (congrArg some ((cut_eq_empty_iff (by decide)).mp (Option.some.inj hc)))
    · rwa [h]

/-- An `UPDATE` of a valid backend makes a valid one, unless it empties the URL. -/
theorem valid_of_update {db : Db} {now : ℤ} {old row r : Backend} (hv : old.Valid)
    (hurl : row.externalUrl ≠ some "")
    (h : db.accept .backends (Tbl.onUpdate now .backends old row) = .ok r) : r.Valid := by
  obtain ⟨hid, hhost, hext, hscheme, hlen, u, hu, hulen⟩ := Db.accept_backend h
  have hne : (Tbl.onUpdate now .backends old row).hostname ≠ "" := textField_ne_empty hv.hostname.1
  have hune : u ≠ "" := by
    rintro rfl
    obtain ⟨v, hv, hvne, -⟩ := hv.externalUrl
    refine textPointer_ne_empty hurl ?_ hu
    rw [hv]
    exact fun hc => hvne (Option.some.inj hc)
  exact ⟨hid ▸ hv.id, hhost ▸ ⟨hne, hlen⟩, hscheme, u, hext.trans hu, hune, hulen⟩

/-- **A statement keeps the backends valid.** -/
theorem exec_valid {db : Db} (hdb : db.BackendsValid) {o : Stmt} (ho : o.KeepsValid) (now : ℤ)
    (fault : Option DbErr) : (exec now fault o db).2.BackendsValid := by
  intro b hb
  rcases exec_mem_rows (t := .backends) hb with hb | ⟨row, rfl, ha⟩ | ⟨row, old, rfl, hold, ha⟩
  · exact hdb b hb
  · exact valid_of_insert ((Backend.validate_ok_iff row).mp ho) ha
  · exact valid_of_update (hdb old (Db.mem_of_find hold)) ho ha

/-- A program of such statements keeps the backends valid. -/
theorem run_valid {α : Type} {p : Srv α} (hp : p.AllOps Stmt.KeepsValid) (env : Env) {w : World}
    (hw : w.db.BackendsValid) : (p.run (mysql env) w).2.db.BackendsValid :=
  hp.run_inv (I := fun w' : World => w'.db.BackendsValid)
    (fun _ _ ho hw' => exec_valid hw' ho _ _) hw

/-- A call that writes backends; the health operations are five of them. -/
inductive BackendCall
  | createOrUpdate (req : BackendMsg)
  | health (id : String) (action : HealthOp)
  | delete (id : String)

namespace BackendCall

def prog : BackendCall → Srv (Result Unit)
  | createOrUpdate req => BackendApi.createOrUpdateBackend req
  | health id action => action.prog id
  | delete id => BackendApi.deleteBackend id

/-- The world after the call. -/
def after (c : BackendCall) (env : Env) (w : World) : World := (c.prog.run (mysql env) w).2

/-- The call empties the URL of a stored backend: the read of `CreateOrUpdateBackend` finds the
backend, and MySQL takes the row that its `UPDATE` makes. -/
def EmptiesUrl (env : Env) (w : World) : BackendCall → Prop
  | createOrUpdate req =>
    req.externalUrl = "" ∧ env.faults w.tick = none ∧
      ∃ old, w.db.find .backends req.id = some old ∧
        w.db.TakesUpdate (env.clock (w.tick + 1)) (env.faults (w.tick + 1)) .backends old
          (BackendApi.backendOf req)
  | _ => False

variable {env : Env} {w : World}

/-- A health operation writes back the URL it read. -/
theorem valid_health (hw : w.db.BackendsValid) (id : String) (action : HealthOp) :
    ((health id action).after env w).db.BackendsValid := by
  obtain ⟨p, hp, hops⟩ := action.allOps_prog (C := Stmt.KeepsValid) id
    fun o ho => by cases o <;> trivial
  change ((action.prog id).run (mysql env) w).2.db.BackendsValid
  rw [hp, andThen, BackendRepo.find, Repo.find]
  rcases Spine.found_or_not env w .backends id with ⟨hfault, row, hrow⟩ | hnone
  · rw [Spine.run_findByID_some env w hfault hrow]
    obtain ⟨u, hu, hne, -⟩ := (hw row (Db.mem_of_find hrow)).externalUrl
    have hkeeps : (p row).AllOps Stmt.KeepsValid := hops row fun row' hsame => by
      change row'.externalUrl ≠ some ""
      rw [hsame.externalUrl, hu]
      exact fun hc => hne (Option.some.inj hc)
    exact run_valid hkeeps env hw
  · obtain ⟨e, hrun⟩ := Spine.run_findByID_none env w hnone
    rw [hrun]
    exact hw

theorem valid_delete (hw : w.db.BackendsValid) (id : String) :
    ((delete id).after env w).db.BackendsValid := by
  refine run_valid ?_ env hw
  refine (Spine.allOps_findByID trivial).andThen fun row => ?_
  exact ⟨trivial, fun q => trivial⟩

/-- A creation validates its row. -/
theorem keepsValid_create (row : Backend) :
    (BackendRepo.create row).AllOps Stmt.KeepsValid := by
  unfold BackendRepo.create Repo.create Spine.create
  split
  · trivial
  · rename_i hvalid
    refine ⟨hvalid, fun q => ?_⟩
    exact (Spine.allOps_saveAssociations (fun _ => trivial) q).bind fun _ => trivial

/-- What an `UPDATE` with an empty URL leaves: an invalid row, if it is executed. -/
theorem updates_valid_iff {db : Db} (hdb : db.BackendsValid) {row old : Backend} (now : ℤ)
    (fault : Option DbErr) (hurl : row.externalUrl = some "")
    (hold : db.find .backends row.id = some old) :
    (exec now fault (.updates .backends row) db).2.BackendsValid ↔
      ¬ db.TakesUpdate now fault .backends old row := by
  rcases exec_updates (t := .backends) hold now fault with ⟨r, htakes, ha, hexec⟩ | ⟨hno, e, hexec⟩
  · rw [hexec]
    refine iff_of_false (fun hvalid => ?_) (not_not_intro htakes)
    obtain ⟨hrid, -, hext, -⟩ := Db.accept_backend ha
    have hrid' : r.id = row.id := hrid.trans (Db.find_id hold : old.id = row.id)
    have hmem : r ∈ (db.put .backends row.id r).backends :=
      Db.mem_of_find (t := .backends) (Db.find_put hold hrid')
    obtain ⟨u, hu, hne, -⟩ := (hvalid r hmem).externalUrl
    -- the URL written is the empty one
    have hwritten : (Tbl.onUpdate now .backends old row).externalUrl = some "" := by
      change textPointer 255 row.externalUrl old.externalUrl = some ""
      rw [hurl]
      exact textPointer_of_length_le (Nat.zero_le 255) old.externalUrl
    rw [hext, hwritten] at hu
    exact hne (Option.some.inj hu).symm
  · rw [hexec]
    exact iff_of_true hdb hno

/-- **From valid backends a call leads to valid ones exactly if it does not empty a URL.** -/
theorem valid_iff (hw : w.db.BackendsValid) (c : BackendCall) :
    (c.after env w).db.BackendsValid ↔ ¬ c.EmptiesUrl env w := by
  cases c with
  | health id action => exact iff_of_true (valid_health hw id action) fun hc => hc
  | delete id => exact iff_of_true (valid_delete hw id) fun hc => hc
  | createOrUpdate req =>
    change ((BackendApi.createOrUpdateBackend req).run (mysql env) w).2.db.BackendsValid ↔ _
    unfold BackendApi.createOrUpdateBackend BackendRepo.find Repo.find
    rw [bind_eq]
    rcases Spine.found_or_not env w .backends req.id with ⟨hfault, old, hold⟩ | hnone
    · rw [Spine.run_findByID_some env w hfault hold]
      have hupd := Repo.run_update env w.next .backends (BackendApi.backendOf req) rfl
      simp only [BackendRepo.update, hupd]
      by_cases hurl : req.externalUrl = ""
      · have hempty : (BackendApi.backendOf req).externalUrl = some "" := congrArg some hurl
        have hiff := updates_valid_iff hw (env.clock (w.tick + 1)) (env.faults (w.tick + 1)) hempty hold
        refine hiff.trans (not_congr ⟨fun h => ⟨hurl, hfault, old, hold, h⟩, fun h => ?_⟩)
        obtain ⟨-, -, old', hold', htakes⟩ := h
        obtain rfl : old = old' := Option.some.inj (hold.symm.trans hold')
        exact htakes
      · have hkeeps : (Stmt.updates .backends (BackendApi.backendOf req)).KeepsValid :=
          fun hc => hurl (Option.some.inj hc)
        exact iff_of_true (exec_valid hw hkeeps _ _) fun hc => hurl hc.1
    · obtain ⟨e, hrun⟩ := Spine.run_findByID_none env w hnone
      rw [hrun]
      refine iff_of_true (run_valid (keepsValid_create _) env hw) ?_
      rintro ⟨-, hfault, old, hold, -⟩
      rcases hnone with hf | hn
      · exact hf hfault
      · rw [hn] at hold
        cases hold

end BackendCall

/-- The world after some calls, one after another. -/
def runCalls (env : Env) (cs : List BackendCall) (w : World) : World :=
  cs.foldl (fun w c => c.after env w) w

theorem runCalls_append (env : Env) (cs cs' : List BackendCall) (w : World) :
    runCalls env (cs ++ cs') w = runCalls env cs' (runCalls env cs w) :=
  List.foldl_append ..

/-- **The backends of a run that began without any are valid in every state exactly if no call
empties the URL of a stored backend**, whatever statements fail. -/
theorem backends_valid_iff (env : Env) (db : Db) (tick : ℕ) (cs : List BackendCall) :
    (∀ pre post, cs = pre ++ post →
      ∀ b ∈ (runCalls env pre ⟨{ db with backends := [] }, tick⟩).db.backends,
        b.validate = .ok ()) ↔
    ∀ pre c post, cs = pre ++ c :: post →
      ¬ c.EmptiesUrl env (runCalls env pre ⟨{ db with backends := [] }, tick⟩) := by
  set w : World := ⟨{ db with backends := [] }, tick⟩ with hw
  simp only [Backend.validate_ok_iff]
  constructor
  · intro h pre c post hcs
    have hbefore := h pre (c :: post) hcs
    have hafter := h (pre ++ [c]) post (by rw [hcs, List.append_assoc]; rfl)
    rw [runCalls_append] at hafter
    exact (BackendCall.valid_iff hbefore c).mp hafter
  · -- the calls of a prefix, from the last one backwards
    intro h pre
    induction pre using List.reverseRecOn with
    | nil =>
      intro post _ b hb
      cases hb
    | append_singleton pre c ih =>
      intro post hcs
      have hcs' : cs = pre ++ c :: post := by rw [hcs, List.append_assoc]; rfl
      have hbefore := ih (c :: post) hcs'
      rw [runCalls_append]
      exact (BackendCall.valid_iff hbefore c).mpr (h pre c post hcs')

/-- A backend's message, and the same one without its URL. -/
def trinoMsg (externalUrl : String) : BackendMsg :=
  { id := "trino-1", hostname := "trino-1:8080", externalUrl := externalUrl }

/-- Two calls on one backend, the second with an empty URL, leave an invalid backend. -/
theorem emptiedUrl_stored :
    ¬ ∀ b ∈ (runCalls (.available fun _ => 0)
        [.createOrUpdate (trinoMsg "trino.example.com"), .createOrUpdate (trinoMsg "")]
        ⟨{}, 0⟩).db.backends, b.validate = .ok () := by
  decide +kernel

end TrinoGateway
