import TrinoGateway.Lib.Record
import TrinoGateway.Proof.PolicySets
import TrinoGateway.Proof.Selection
import TrinoGateway.Proof.Statements
import TrinoGateway.Spec.Gateway

/-!
# What the gateway server learns

A function of the gateway server sees the database only through the answers to its statements, and
others change it between them. `Learns` is the judgement that ties an answer to states in which the
function's own statements found the database.

* `learns_evaluateBackendForGroups`: a backend that is answered was active and was mapped to the
  group answered, in some such states; and that group was asked for and enabled, or is the default.
* `learns_evaluateGroupsForClient`: each dimension of the client's policies allowed each group that
  is answered, in the state in which it was read.
* `learns_findBackendForQuery`, `learns_getBackend`: the record and the row were there.
* `getBackend_misses`: a backend that is not answered was asked for, and no message came of it.
-/

namespace TrinoGateway

open Interact Prog

/-- No stored backend has the empty id. -/
def Db.Named (db : Db) : Prop := ∀ b ∈ db.backends, b.id ≠ ""

/-- The statement was answered from the database that it found. -/
def Answered (e : Event Stmt Stmt.Ans Db) : Prop :=
  (∃ now fault, e.answer = (exec now fault e.op e.before).1) ∧ e.before.Named

/-- A function whose statements are answered so returns an error, or a value and a record of `Q`. -/
abbrev Learns {α : Type} (p : Srv (Result α)) (Q : α → Record Stmt Stmt.Ans Db → Prop)
    (es : Record Stmt Stmt.Ans Db) : Prop :=
  p.Records Answered (fun _ _ => True) (fun res es' => IfOk (fun x => Q x es') res) es

section Learns

variable {α β : Type} {es : Record Stmt Stmt.Ans Db} {Q : α → Record Stmt Stmt.Ans Db → Prop}
  {R : β → Record Stmt Stmt.Ans Db → Prop}

/-- What holds of the values of a program, whatever its statements answer. -/
theorem records_yields {p : Srv α} {P : α → Prop} (h : p.Yields P) :
    p.Records Answered (fun _ _ => True) (fun a _ => P a) es := by
  have hnone : p.Records Answered (fun _ _ => True) (fun _ _ => True) es :=
    Records.of_allOps (J := fun _ => True) (allOps_true p)
      (fun _ _ _ _ _ => ⟨trivial, trivial⟩) trivial
  exact (hnone.yields h).mono fun a new ha => ha.2

theorem Learns.andThen {p : Srv (Result α)} {f : α → Srv (Result β)} (h : Learns p Q es)
    (hf : ∀ x new, Q x (es ++ new) → Learns (f x) R (es ++ new)) : Learns (p.andThen f) R es :=
  Records.andThen h (fun _ _ _ => trivial) hf

theorem learns_ok {x : α} (h : Q x es) : Learns (return .ok x) Q es := h

/-- A query, in the state in which it is performed. -/
theorem learns_perform {o : Stmt} {f : o.Ans → Srv (Result β)} {F : o.Ans → Db → Prop}
    (h : ∀ now fault db, db.Named → F (exec now fault o db).1 db)
    (hf : ∀ a new, Record.Found (es ++ new) (F a) → Learns (f a) R (es ++ new)) :
    Learns ((perform o).bind f) R es := by
  intro s a s' he
  obtain ⟨⟨now, fault, ha⟩, hnamed⟩ := he
  have hF := h now fault s hnamed
  rw [← ha] at hF
  exact ⟨trivial, hf a [_] (Record.Found.last hF)⟩

end Learns

namespace Spine

variable {es : Record Stmt Stmt.Ans Db}

/-- A row that is read by its id was stored under it. -/
theorem learns_findByID (t : Tbl) (id : String) :
    Learns (findByID t id) (fun row es' => es'.Found fun db =>
      db.Named ∧ db.find t id = some row) es := by
  refine learns_perform (F := fun a db => IfOk (fun row => db.Named ∧ db.find t id = some row) a)
    (fun now fault db hnamed => ?_) fun a new ha => ?_
  · cases hrow : (exec now fault (.first t id) db).1 with
    | error e => trivial
    | ok row => exact ⟨hnamed, (exec_first_ok hrow).2⟩
  · cases a with
    | error e => trivial
    | ok row => exact ha

theorem exec_find_ok {now : ℤ} {fault : Option DbErr} {t : Tbl} {w : Where} {db : Db}
    {rows : List t.Row} (h : (exec now fault (.find t w) db).1 = .ok rows) :
    rows = (db.rows t).filter (w.holds t) := by
  cases fault with
  | some e => cases h
  | none => exact (Except.ok.inj h).symm

/-- Rows that are read are those that satisfied the condition. -/
theorem learns_find (t : Tbl) (w : Where) :
    Learns (do
        match ← Gorm.find t w with
        | .error e => return .error (dbError e)
        | .ok rs => return .ok rs)
      (fun rows es' => es'.Found fun db => rows = (db.rows t).filter (w.holds t)) es := by
  refine learns_perform (F := fun a db => IfOk (fun rows => rows = (db.rows t).filter (w.holds t)) a)
    (fun now fault db _ => ?_) fun a new ha => ?_
  · cases hrows : (exec now fault (.find t w) db).1 with
    | error e => trivial
    | ok rows => exact exec_find_ok hrows
  · cases a with
    | error e => trivial
    | ok rows => exact ha

theorem learns_findMany (t : Tbl) (condition : List (String × SqlVal)) :
    Learns (findMany t condition) (fun rows es' => es'.Found fun db =>
      rows = (db.rows t).filter (Where.holds { eqs := condition } t)) es :=
  learns_find t _

theorem learns_findWithConditionByIDs (t : Tbl) (condition : List (String × SqlVal))
    (ids : List String) :
    Learns (findWithConditionByIDs t condition ids) (fun rows es' => es'.Found fun db =>
      rows = (db.rows t).filter (Where.holds { eqs := condition, idIn := some ids } t)) es :=
  learns_find t _

/-- The mappings of a group were there when the group was read. -/
def Mapped (es : Record Stmt Stmt.Ans Db) (g : Group) : Prop :=
  ∀ m ∈ g.groupBackendsMappings.getD [], es.Found fun db => m ∈ db.mappings ∧ m.groupId = g.id

/-- Groups get their mappings, and keep their ids. -/
theorem learns_preload (gs : List Group) :
    Learns (preload gs) (fun gs' es' =>
      gs'.map Group.id = gs.map Group.id ∧ ∀ g ∈ gs', Mapped es' g) es := by
  unfold preload
  split
  · rename_i hnil
    refine ⟨by rw [hnil], fun g hg => ?_⟩
    cases hg
  · refine learns_perform (F := fun a db => IfOk (fun ms => ∀ m ∈ ms, m ∈ db.mappings) a)
      (fun now fault db _ => ?_) fun a new ha => ?_
    · cases fault with
      | some e => trivial
      | none => exact fun m hm => (List.mem_filter.mp hm).1
    · cases a with
      | error e => trivial
      | ok ms =>
        refine ⟨by rw [List.map_map]; rfl, fun g' hg' m hm => ?_⟩
        obtain ⟨g, hg, rfl⟩ := List.mem_map.mp hg'
        obtain ⟨hms, hgroup⟩ := List.mem_filter.mp hm
        exact ha.imp fun db hdb => ⟨hdb m hms, by simpa using hgroup⟩

end Spine

namespace BackendApi

variable {es : Record Stmt Stmt.Ans Db}

/-- The database has the backend of a message under an id. -/
structure Stored (db : Db) (id : String) (msg : BackendMsg) : Prop where
  id_ne : id ≠ ""
  row : ∃ b ∈ db.backends, b.id = id ∧ b.hostname = msg.hostname ∧
    b.externalUrl = some msg.externalUrl

theorem toBackendResponseProto_yields (b : Backend) :
    (toBackendResponseProto b).Yields (IfOk fun msg =>
      b.hostname = msg.hostname ∧ b.externalUrl = some msg.externalUrl) := by
  unfold toBackendResponseProto
  split
  · trivial
  · refine yields_deref fun externalUrl hurl => yields_deref fun _ _ => yields_deref fun _ _ => ?_
    refine yields_deref fun _ _ => yields_deref fun _ _ => yields_deref fun _ _ => ?_
    exact yields_deref fun _ _ => ⟨rfl, hurl⟩

/-- **A backend that is answered was stored.** -/
theorem learns_getBackend (id : String) :
    Learns (getBackend id) (fun msg es' => es'.Found fun db => Stored db id msg) es := by
  refine Learns.andThen (Spine.learns_findByID .backends id) fun row new hrow => ?_
  refine (records_yields (toBackendResponseProto_yields row)).mono fun res new' hres => ?_
  cases res with
  | error e => trivial
  | ok msg =>
    have hstored : ∀ db : Db, db.Named ∧ db.find .backends id = some row → Stored db id msg := by
      rintro db ⟨hnamed, hfind⟩
      have hid : row.id = id := Db.find_id hfind
      have hmem : row ∈ db.backends := Db.mem_of_find hfind
      exact ⟨hid ▸ hnamed row hmem, row, hmem, hid, hres.1, hres.2⟩
    exact (hrow.append_right new').imp hstored

/-- The statement asked for the backend of this id, and no message comes of its answer. -/
def Misses (id : String) : (o : Stmt) → o.Ans → Prop
  | .first .backends rowId, x => rowId = id ∧ ∀ b : Backend, x = .ok b → ¬ b.Encodes
  | _, _ => False

/-- A backend was asked for, and could not be read. -/
def Unread (es : Record Stmt Stmt.Ans Db) (id : String) : Prop :=
  ∃ e ∈ es, Misses id e.op e.answer

theorem Unread.mono {es es' : Record Stmt Stmt.Ans Db} {id : String} (h : Unread es id)
    (hes : es ⊆ es') : Unread es' id := by
  obtain ⟨e, he, hmisses⟩ := h
  exact ⟨e, hes he, hmisses⟩

/-- **A backend that is not answered could not be read**: the statement failed, there was no such
row, or it lacks what the message needs. -/
theorem getBackend_misses (id : String) :
    (rpc (getBackend id)).Records Answered (fun _ _ => True)
      (fun res es' => ∀ err, res = .error err → Unread es' id) es := by
  intro s x s' _
  have hlast : ∀ x : Except DbErr Backend, (∀ b : Backend, x = .ok b → ¬ b.Encodes) →
      Unread (es ++ [⟨Stmt.first .backends id, s, x, s'⟩]) id := fun x hx =>
    ⟨_, List.mem_append_right es (List.mem_singleton_self _), rfl, hx⟩
  refine ⟨trivial, ?_⟩
  cases x with
  | error e =>
    have hunread := hlast (.error e) fun b heq => by cases heq
    exact fun _ _ => hunread
  | ok b =>
    have hb : ¬ b.Encodes → Unread (es ++ [⟨Stmt.first .backends id, s, .ok b, s'⟩]) id :=
      fun hb => hlast _ fun b' heq => Except.ok.inj heq ▸ hb
    show (rpc (toBackendResponseProto b)).Records _ _ _ _
    unfold rpc
    rcases (toBackendResponseProto_allOps b fun _ => False).outcome with ⟨res, hres⟩ | hpanic
    · rw [hres]
      cases res with
      | ok msg => exact nofun
      | error err =>
        have hnone : ¬ b.Encodes := by
          rintro ⟨msg, hmsg⟩
          rw [hres] at hmsg
          cases hmsg
        exact fun _ _ => hb hnone
    · have hnone : ¬ b.Encodes := by
        rintro ⟨msg, hmsg⟩
        rw [hpanic] at hmsg
        cases hmsg
      rw [hpanic]
      exact fun _ _ => hb hnone

end BackendApi

namespace QueryApi

/-- **A backend that is answered for a query was the backend of its record.** -/
theorem learns_findBackendForQuery {es : Record Stmt Stmt.Ans Db} (queryId : String) :
    Learns (findBackendForQuery queryId) (fun pair es' => es'.Found fun db =>
      ∃ q ∈ db.queries, q.id = queryId ∧ q.backendId = pair.1) es := by
  refine Learns.andThen (Spine.learns_findByID .queries queryId) fun row new hrow => ?_
  refine learns_ok (hrow.imp fun db hdb => ?_)
  exact ⟨row, Db.mem_of_find hdb.2, Db.find_id hdb.2, rfl⟩

end QueryApi

section Serves

variable {Op : Type} {Ans : Op → Type}

/-- In states that a record has found, the backend was active, and was mapped to the group. -/
structure Serves (es : Record Op Ans Db) (groupId backendId : String) : Prop where
  active : es.Found fun db =>
    ∃ b ∈ db.backends, b.id = backendId ∧ b.isEnabled = some true ∧ b.isHealthy = some true
  mapped : es.Found fun db => ∃ m ∈ db.mappings, m.groupId = groupId ∧ m.backendId = backendId

theorem Serves.transfer {Op' : Type} {Ans' : Op' → Type} {es : Record Op Ans Db}
    {es' : Record Op' Ans' Db} (hes : ∀ φ, es.Found φ → es'.Found φ) {groupId backendId : String}
    (h : Serves es groupId backendId) : Serves es' groupId backendId :=
  ⟨hes _ h.active, hes _ h.mapped⟩

/-- In a state that a record has found, the group was enabled. -/
def GroupEnabled (es : Record Op Ans Db) (groupId : String) : Prop :=
  es.Found fun db => ∃ g ∈ db.groups, g.id = groupId ∧ g.isEnabled = some true

end Serves

namespace GroupApi

variable {es : Record Stmt Stmt.Ans Db} (cfg : Config)

open Spine in
theorem learns_getGroup (id : String) :
    Learns (getGroup id) (fun g es' => Mapped es' g ∧ g.id = id) es := by
  refine Learns.andThen (learns_findByID .groups id) fun g new hg => ?_
  obtain ⟨e, -, -, hfind⟩ := hg
  have hid : g.id = id := Db.find_id hfind
  refine Learns.andThen (learns_preload [g]) fun gs new' hgs => ?_
  obtain ⟨hids, hmapped⟩ := hgs
  cases gs with
  | nil => cases hids
  | cons g' gs =>
    have hid' : g'.id = g.id := (List.cons.inj hids).1
    exact ⟨hmapped g' List.mem_cons_self, hid'.trans hid⟩

open Spine in
theorem learns_getAllActiveGroups :
    Learns getAllActiveGroups (fun gs es' =>
      ∀ g ∈ gs, Mapped es' g ∧ GroupEnabled es' g.id) es := by
  refine Learns.andThen (learns_findMany .groups _) fun rows new hrows => ?_
  refine (learns_preload rows).mono fun res new' hres => ?_
  cases res with
  | error e => trivial
  | ok gs =>
    intro g hg
    obtain ⟨hids, hmapped⟩ := hres
    have hid : g.id ∈ rows.map Group.id := hids ▸ List.mem_map_of_mem hg
    obtain ⟨row, hrow, hrowid⟩ := List.mem_map.mp hid
    refine ⟨hmapped g hg, (hrows.append_right new').imp fun db hdb => ?_⟩
    rw [hdb] at hrow
    obtain ⟨hmem, hholds⟩ := List.mem_filter.mp hrow
    exact ⟨row, hmem, hrowid, by simpa [Where.holds, Tbl.col] using hholds⟩

theorem leastLoaded_yields (best : Backend) (bs : List Backend) :
    (leastLoaded cfg best bs).Yields (· ∈ best :: bs) := by
  induction bs generalizing best with
  | nil => exact List.mem_cons_self
  | cons b bs ih =>
    refine yields_bind fun lb => yields_bind fun ll => ?_
    refine (ih (if lb < ll then b else best)).mono fun x hx => ?_
    rcases List.mem_cons.mp hx with rfl | hx
    · split
      · exact List.mem_cons_of_mem _ List.mem_cons_self
      · exact List.mem_cons_self
    · exact List.mem_cons_of_mem _ (List.mem_cons_of_mem _ hx)

/-- Every strategy selects one of the active backends. -/
theorem selectBackend_yields (group : Group) (first : Backend) (rest : List Backend) :
    (selectBackend cfg group first (first :: rest)).Yields
      (· ∈ (first :: rest).map Backend.id) := by
  refine yields_deref fun strategy _ => ?_
  split
  · refine yields_deref fun last _ => ?_
    exact roundRobin_mem (by simp) last
  · split
    · refine (leastLoaded_yields cfg first (first :: rest)).bind fun b hb => ?_
      have hmem : b ∈ first :: rest := by simpa using hb
      exact List.mem_map_of_mem hmem
    · exact List.mem_map_of_mem List.mem_cons_self

/-- **A backend that is found for a group serves it.** -/
theorem learns_findBackend {group : Group} (hgroup : Spine.Mapped es group) :
    Learns (findBackend cfg group) (fun b es' => ∀ id, b = some id → Serves es' group.id id) es := by
  refine Learns.andThen (Spine.learns_findWithConditionByIDs .backends _ _) fun bs new hbs => ?_
  cases bs with
  | nil =>
    intro id hid
    cases hid
  | cons first rest =>
    refine (records_yields (selectBackend_yields cfg group first rest)).bind
      fun selected new' hselected => ?_
    refine (records_yields (yields_true _)).bind fun _ new'' _ => ?_
    intro id hid
    obtain rfl := Option.some.inj hid
    obtain ⟨row, hrow, hrowid⟩ := List.mem_map.mp hselected
    have hfound := (hbs.append_right new').append_right new''
    have hholds : row.isEnabled = some true ∧ row.isHealthy = some true ∧
        row.id ∈ (group.groupBackendsMappings.getD []).map GroupBackendsMapping.backendId := by
      obtain ⟨e, -, he⟩ := hbs
      rw [he] at hrow
      obtain ⟨-, hw⟩ := List.mem_filter.mp hrow
      simpa [Where.holds, Tbl.col, Tbl.id, and_assoc] using hw
    refine ⟨hfound.imp fun db hdb => ?_, ?_⟩
    · rw [hdb] at hrow
      exact ⟨row, (List.mem_filter.mp hrow).1, hrowid, hholds.1, hholds.2.1⟩
    · obtain ⟨m, hm, hmid⟩ := List.mem_map.mp hholds.2.2
      have hmapped := (((hgroup m hm).append_right new).append_right new').append_right new''
      exact hmapped.imp fun db hdb => ⟨m, hdb.1, hdb.2, hmid.trans hrowid⟩

theorem learns_findBackends {gs : List Group} (hgs : ∀ g ∈ gs, Spine.Mapped es g) :
    Learns (findBackends cfg gs) (fun bs es' =>
      List.Forall₂ (fun g b => ∀ id, b = some id → Serves es' g.id id) gs bs) es := by
  induction gs generalizing es with
  | nil => exact List.Forall₂.nil
  | cons g gs ih =>
    refine Learns.andThen (learns_findBackend cfg (hgs g List.mem_cons_self))
      fun b new hb => ?_
    have htail : ∀ g' ∈ gs, Spine.Mapped (es ++ new) g' := fun g' hg' m hm =>
      (hgs g' (List.mem_cons_of_mem _ hg') m hm).append_right new
    refine Learns.andThen (ih htail) fun bs new' hbs => ?_
    exact List.Forall₂.cons (fun id hid => (hb id hid).transfer fun φ h => h.append_right new') hbs

/-- **A backend that is answered serves the group that is answered**, and the group was asked for
and enabled, or is the default one. A first group without a backend is answered with the empty
id. -/
theorem learns_evaluateBackendForGroups (ids : List String) :
    Learns (evaluateBackendForGroups cfg ids) (fun pair es' =>
      (pair.1 = "" ∨ Serves es' pair.2 pair.1) ∧
        ((pair.2 ∈ ids ∧ GroupEnabled es' pair.2) ∨ pair.2 = cfg.defaultRoutingGroup)) es := by
  refine Learns.andThen learns_getAllActiveGroups fun active new hactive => ?_
  have heligible : ∀ g ∈ active.filter fun g => ids.contains g.id,
      Spine.Mapped (es ++ new) g ∧ GroupEnabled (es ++ new) g.id ∧ g.id ∈ ids := by
    intro g hg
    obtain ⟨hmem, hids⟩ := List.mem_filter.mp hg
    obtain ⟨hmapped, henabled⟩ := hactive g hmem
    exact ⟨hmapped, henabled, by simpa using hids⟩
  refine Learns.andThen (learns_findBackends cfg fun g hg => (heligible g hg).1)
    fun bs new' hbs => ?_
  split
  · split
    · rename_i chosen gs b bs' hgs hany
      rw [hgs] at hbs heligible
      obtain ⟨-, henabled, hid⟩ := heligible chosen List.mem_cons_self
      cases hbs with
      | cons hfirst _ =>
        refine ⟨?_, Or.inl ⟨hid, henabled.append_right new'⟩⟩
        cases b with
        | none => exact Or.inl rfl
        | some id => exact Or.inr (hfirst id rfl)
    · trivial
  · refine Learns.andThen (learns_getGroup cfg.defaultRoutingGroup) fun chosen new'' hchosen => ?_
    refine Learns.andThen (learns_findBackend cfg hchosen.1) fun b new₃ hb => ?_
    cases b with
    | none => trivial
    | some id => exact ⟨Or.inr (hb id rfl), Or.inr hchosen.2⟩

end GroupApi

namespace PolicyApi

variable {es : Record Stmt Stmt.Ans Db}

theorem learns_findGroupsForPolicyTypes (ruleType ruleValue : String) :
    Learns (findGroupsForPolicyTypes ruleType ruleValue) (fun s es' => es'.Found fun db =>
      s = policySet db (ruleType, ruleValue)) es := by
  refine Learns.andThen (Spine.learns_findMany .policies _) fun rows new hrows => ?_
  have hset : Record.Found (es ++ new) fun db =>
      (rows.map Policy.groupId).toFinset = matchingGroups db ruleType ruleValue := by
    refine hrows.imp fun db hdb => ?_
    rw [hdb, matchingGroups]
    congr 2
    exact List.filter_congr fun p _ => holds_policy ruleType ruleValue p
  have hcard : ∀ db, (rows.map Policy.groupId).toFinset = matchingGroups db ruleType ruleValue →
      ((rows.map Policy.groupId).toFinset.card = 0 ↔ matchingGroups db ruleType ruleValue = ∅) :=
    fun db hdb => by rw [hdb, Finset.card_eq_zero]
  dsimp only
  split
  · rename_i hzero
    refine learns_ok (hset.imp fun db hdb => ?_)
    rw [policySet, if_pos ((hcard db hdb).mp hzero)]
  · rename_i hpos
    refine learns_ok (hset.imp fun db hdb => ?_)
    rw [policySet, if_neg fun h => hpos ((hcard db hdb).mpr h), hdb]

section Allowed

variable {Op Op' : Type} {Ans : Op → Type} {Ans' : Op' → Type}

/-- **What the policies allow a client**, in states that a record has found: each dimension, in
some state, allowed the group if it had any policy, and one of them did name it. -/
structure Allowed (es : Record Op Ans Db) (c : EvaluateClientParams) (groupId : String) :
    Prop where
  named : ∃ d ∈ c.dimensions, es.Found fun db => groupId ∈ matchingGroups db d.1 d.2
  agreed : ∀ d ∈ c.dimensions, es.Found fun db =>
    (matchingGroups db d.1 d.2).Nonempty → groupId ∈ matchingGroups db d.1 d.2

theorem Allowed.transfer {es : Record Op Ans Db} {es' : Record Op' Ans' Db}
    (hes : ∀ φ, es.Found φ → es'.Found φ) {c : EvaluateClientParams} {groupId : String}
    (h : Allowed es c groupId) : Allowed es' c groupId := by
  obtain ⟨⟨d, hd, hnamed⟩, hagreed⟩ := h
  exact ⟨⟨d, hd, hes _ hnamed⟩, fun d hd => hes _ (hagreed d hd)⟩

end Allowed

section Sets

variable {s : GoSet} {d : String × String} {id : String}
  (hs : es.Found fun db => s = policySet db d) (ha : s.Allows id)

include hs ha

/-- A set that allows a group does so in the state in which its policies were read. -/
theorem agreed_of_set : es.Found fun db =>
    (matchingGroups db d.1 d.2).Nonempty → id ∈ matchingGroups db d.1 d.2 :=
  hs.imp fun _ hdb => policySet_allows.mp (hdb ▸ ha)

theorem named_of_set (hne : s ≠ none) : es.Found fun db => id ∈ matchingGroups db d.1 d.2 :=
  hs.imp fun _ hdb => policySet_allows.mp (hdb ▸ ha) (policySet_ne_none.mp (hdb ▸ hne))

end Sets

/-- **The groups that are answered are allowed.** -/
theorem learns_evaluateGroupsForClient (ord : MapOrder) (c : EvaluateClientParams) :
    Learns (evaluateGroupsForClient ord c) (fun ids es' => ∀ id ∈ ids, Allowed es' c id) es := by
  refine Learns.andThen (learns_findGroupsForPolicyTypes _ _) fun s₁ n₁ h₁ => ?_
  refine Learns.andThen (learns_findGroupsForPolicyTypes _ _) fun s₂ n₂ h₂ => ?_
  refine Learns.andThen (learns_findGroupsForPolicyTypes _ _) fun s₃ n₃ h₃ => ?_
  refine Learns.andThen (learns_findGroupsForPolicyTypes _ _) fun s₄ n₄ h₄ => ?_
  refine learns_ok fun id hid => ?_
  rw [ord.mem_keys, GoSet.mem_elems] at hid
  obtain ⟨hne, hallows⟩ := hid
  simp only [setIntersection_allows] at hallows
  obtain ⟨⟨⟨ha₁, ha₂⟩, ha₃⟩, ha₄⟩ := hallows
  replace h₁ := ((h₁.append_right n₂).append_right n₃).append_right n₄
  replace h₂ := (h₂.append_right n₃).append_right n₄
  replace h₃ := h₃.append_right n₄
  have hagreed : ∀ d ∈ c.dimensions, Record.Found (es ++ n₁ ++ n₂ ++ n₃ ++ n₄) fun db =>
      (matchingGroups db d.1 d.2).Nonempty → id ∈ matchingGroups db d.1 d.2 := by
    have hd₁ := agreed_of_set h₁ ha₁
    have hd₂ := agreed_of_set h₂ ha₂
    have hd₃ := agreed_of_set h₃ ha₃
    have hd₄ := agreed_of_set h₄ ha₄
    intro d hd
    simp only [EvaluateClientParams.dimensions, List.mem_cons, List.not_mem_nil, or_false] at hd
    rcases hd with rfl | rfl | rfl | rfl
    · exact hd₁
    · exact hd₂
    · exact hd₃
    · exact hd₄
  refine ⟨?_, hagreed⟩
  simp only [ne_eq, setIntersection_eq_none, not_and_or] at hne
  rcases hne with ((hne | hne) | hne) | hne
  · have hd := named_of_set h₁ ha₁ hne
    exact ⟨_, by simp [EvaluateClientParams.dimensions], hd⟩
  · have hd := named_of_set h₂ ha₂ hne
    exact ⟨_, by simp [EvaluateClientParams.dimensions], hd⟩
  · have hd := named_of_set h₃ ha₃ hne
    exact ⟨_, by simp [EvaluateClientParams.dimensions], hd⟩
  · have hd := named_of_set h₄ ha₄ hne
    exact ⟨_, by simp [EvaluateClientParams.dimensions], hd⟩

end PolicyApi

end TrinoGateway
