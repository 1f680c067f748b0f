import TrinoGateway.Proof.OpenProxy
import TrinoGateway.Proof.Routes
import TrinoGateway.Proof.Saves

/-!
# Sticky routing

A request about a known query should go where the submission that produced the query went. The
record of a query names the backend that was chosen for its submission, so this fails when a
submission goes elsewhere: a new submission with a target in absolute form keeps the host of
the client's choice when its `GetBackend` fails. `sticky_of_getBackendAnswers`: **in every run
in which this does not happen routing is sticky**, whatever else fails, in every interleaving
of requests, saves, and changes of policies, groups and health.

The invariant `StickyInv` ties each stored record to a submission that was sent to the
backend's host. The `satDb` lemmas say, from the RPCs up to a whole request, what each part
ensures while the other tasks go on.
-/

namespace TrinoGateway

open Interact Prog Protocol

/-- The id of the query that a request is about, empty when there is none. -/
def ClientRequest.queryId : ClientRequest → String
  | api => ""
  | ui queryId => queryId
  | query nt => nt.query.id
  | queryApi nt => nt.query.id

/-- A request of this kind reaches the backend at `host`. -/
def ClientRequest.At (b : Backend) (host : String) : ClientRequest → Prop
  | api => False
  | ui _ => b.externalUrl = some host
  | query _ => host = b.hostname
  | queryApi _ => host = b.hostname

variable (gunzip : Gunzip)

/-- A submission that was answered with the id `q`. -/
structure Produces (e : Forwarded) (q : String) (nt : QueryRequest) : Prop where
  request : e.clientRequest = some (.query nt)
  response : ∃ resp, e.response = some resp ∧ 200 ≤ resp.statusCode ∧ resp.statusCode < 400 ∧
    RouterServer.HasResponseId gunzip resp q

/-- Query ids are unique: submissions that were answered with the same id are to one backend,
at one host. -/
def UniqueIds (sent : List Forwarded) : Prop :=
  ∀ e ∈ sent, ∀ e' ∈ sent, ∀ q nt nt', q ≠ "" → Produces gunzip e q nt → Produces gunzip e' q nt' →
    e.host = e'.host ∧ nt.query.backendId = nt'.query.backendId

/-- Every request about a query was sent to the backend that the query's submission was sent
to. -/
def Sticky (s : GatewayState) : Prop :=
  ∀ f ∈ s.sent, ∀ cReq, f.clientRequest = some cReq → cReq.queryId ≠ "" →
    (∃ e ∈ s.sent, ∃ nt, Produces gunzip e cReq.queryId nt) ∧
    ∀ e ∈ s.sent, ∀ nt, Produces gunzip e cReq.queryId nt →
      ∃ b, s.db.find .backends nt.query.backendId = some b ∧ e.host = b.hostname ∧ cReq.At b f.host

/-- A task that is a new submission with a target in absolute form, of this host. -/
def AbsoluteSubmission (task : Task) (host : String) : Prop :=
  ∃ r req nt req₁, task = .request r req ∧ RouterServer.Accepts gunzip r req (.query nt) req₁ ∧
    nt.query.id = "" ∧ req.url.host = host ∧ host ≠ ""

variable {ι : Type} (tasks : ι → Task)

/-- For a new submission with a target in absolute form, `GetBackend` of a stored backend
answers, or the target's host is the backend's. -/
def GetBackendAnswers (i : ι) (o : Stmt) (db : Db) (fault : Option DbErr) : Prop :=
  ∀ host id b, AbsoluteSubmission gunzip (tasks i) host → o = .first .backends id →
    db.find .backends id = some b → (fault = none ∧ b.Encodes) ∨ b.hostname = host

variable (routes : String → Option Route)

/-- Some submission that produced `q` was for the stored backend `id`, and was sent there. -/
def Placed (sent : List Forwarded) (q id : String) : Prop :=
  ∃ e ∈ sent, ∃ nt route, Produces gunzip e q nt ∧ nt.query.backendId = id ∧
    routes id = some route ∧ e.host = route.hostname

/-- The host that a kind of request has for a route. -/
def ClientRequest.hostAt (route : Route) : ClientRequest → Option String
  | api => none
  | ui _ => route.externalUrl
  | query _ => some route.hostname
  | queryApi _ => some route.hostname

/-- A request that may be sent to `host`: one about a query goes to the backend of the query,
and a submission that is sent goes to the backend of its record, if that is stored. -/
structure Sendable (sent : List Forwarded) (cReq : ClientRequest) (host : String) : Prop where
  sticky : cReq.queryId ≠ "" → ∃ id route, Placed gunzip routes sent cReq.queryId id ∧
    routes id = some route ∧ cReq.hostAt route = some host
  target : ∀ nt, cReq = .query nt → host ≠ "" → ∀ route, routes nt.query.backendId = some route →
    host = route.hostname

/-- What holds of every state of a run. -/
structure StickyInv (s : GatewayState) : Prop where
  hosts : s.db.routes = routes
  rows : ∀ row ∈ s.db.queries, row.id ≠ "" → Placed gunzip routes s.sent row.id row.backendId
  sent : ∀ f ∈ s.sent, ∀ cReq, f.clientRequest = some cReq →
    Sendable gunzip routes s.sent cReq f.host
  answered : ∀ f ∈ s.sent, f.host = "" → f.response = none

variable {gunzip tasks routes}

theorem Placed.mono {sent sent' : List Forwarded} {q id : String} (h : Placed gunzip routes sent q id)
    (hs : sent ⊆ sent') : Placed gunzip routes sent' q id := by
  obtain ⟨e, he, rest⟩ := h
  exact ⟨e, hs he, rest⟩

theorem Sendable.mono {sent sent' : List Forwarded} {cReq : ClientRequest} {host : String}
    (h : Sendable gunzip routes sent cReq host) (hs : sent ⊆ sent') :
    Sendable gunzip routes sent' cReq host := by
  refine ⟨fun hq => ?_, h.target⟩
  obtain ⟨id, route, hplaced, rest⟩ := h.sticky hq
  exact ⟨id, route, hplaced.mono hs, rest⟩

/-- A request that a proxy may send keeps the invariant when it is sent. -/
theorem StickyInv.send {s : GatewayState} (h : StickyInv gunzip routes s)
    {shared : RouterServer.ContextSharedObject} {req : Request} {a : Option Response}
    (hok : ∀ cReq, shared.clientRequest = some cReq →
      Sendable gunzip routes s.sent cReq req.url.host)
    (ha : req.url.host = "" → a = none) :
    StickyInv gunzip routes { s with sent := s.sent ++ [forwarded shared req a] } := by
  have hsub : s.sent ⊆ s.sent ++ [forwarded shared req a] := List.subset_append_left _ _
  refine ⟨h.hosts, fun row hrow hid => (h.rows row hrow hid).mono hsub, ?_, ?_⟩
  · intro f hf cReq hc
    rcases List.mem_append.mp hf with hf | hf
    · exact (h.sent f hf cReq hc).mono hsub
    · obtain rfl := List.mem_singleton.mp hf
      exact (hok cReq hc).mono hsub
  · intro f hf hhost
    rcases List.mem_append.mp hf with hf | hf
    · exact h.answered f hf hhost
    · obtain rfl := List.mem_singleton.mp hf
      exact ha hhost

/-- **The invariant gives stickiness**, as far as query ids are unique. -/
theorem StickyInv.sticky {s : GatewayState} (h : StickyInv gunzip routes s)
    (hu : UniqueIds gunzip s.sent) : Sticky gunzip s := by
  intro f hf cReq hc hq
  obtain ⟨id, route, ⟨e₀, he₀, nt₀, route₀, hprod₀, hid₀, hroute₀, hhost₀⟩, hroute, hat⟩ :=
    (h.sent f hf cReq hc).sticky hq
  refine ⟨⟨e₀, he₀, nt₀, hprod₀⟩, fun e he nt hprod => ?_⟩
  obtain ⟨hhost, hback⟩ := hu e he e₀ he₀ _ nt nt₀ hq hprod hprod₀
  have hfound : s.db.routes id = some route := by rw [h.hosts, hroute]
  obtain ⟨b, hb, rfl⟩ := Option.map_eq_some_iff.mp hfound
  have heq : route₀ = b.route := Option.some.inj (hroute₀.symm.trans hroute)
  refine ⟨b, by rw [hback, hid₀, hb], by rw [hhost, hhost₀, heq]; rfl, ?_⟩
  cases cReq with
  | api => exact absurd rfl hq
  | ui queryId => exact hat
  | query nt => exact (Option.some.inj hat).symm
  | queryApi nt => exact (Option.some.inj hat).symm

/-- Each task relies on the others for the history, which they only extend. -/
def stickyProtocol (gunzip : Gunzip) (tasks : ι → Task) (routes : String → Option Route) :
    Protocol ι GatewayOp GatewayOp.Ans GatewayState where
  toSystem := gatewaySystem (GetBackendAnswers gunzip tasks)
  inv := StickyInv gunzip routes
  rely _ s s' := s.sent ⊆ s'.sent
  guar _ _ s _ s' := s.sent ⊆ s'.sent
  rely_refl _ _ := List.Subset.refl _
  rely_trans _ _ _ _ h h' := List.Subset.trans h h'
  guar_rely _ _ _ _ _ _ _ _ _ hg := hg
  env_inv _ _ _ he := he.elim
  env_rely _ _ _ _ he := he.elim

variable {i : ι} {s : GatewayState} {α : Type}

/-- A program of the gateway server in the protocol. -/
abbrev SatDb (gunzip : Gunzip) (tasks : ι → Task) (routes : String → Option Route) (i : ι)
    (p : Srv α) (s : GatewayState) (Q : α → GatewayState → Prop) : Prop :=
  (stickyProtocol gunzip tasks routes).Sat i (onDatabase p) s Q

theorem onDatabase_bind {β : Type} (p : Srv α) (f : α → Srv β) :
    onDatabase (p.bind f) = (onDatabase p).bind fun a => onDatabase (f a) :=
  embed_bind GatewayOp.Ans GatewayOp.stmt p f

theorem StickyInv.steady (h : StickyInv gunzip routes s) {o : Stmt} (ho : o.Steady routes) (now : ℤ)
    (fault : Option DbErr) : StickyInv gunzip routes { s with db := (exec now fault o s.db).2 } := by
  obtain ⟨hroutes, hqueries⟩ := exec_steady h.hosts ho now fault
  refine ⟨hroutes, fun row hrow => ?_, h.sent, h.answered⟩
  exact h.rows row (hqueries ▸ hrow)

/-- A steady program may run at any time. -/
theorem satDb_of_steady {p : Srv α} (hp : SteadyProg routes p) (s : GatewayState) :
    SatDb gunzip tasks routes i p s fun _ _ => True := by
  have hops : (onDatabase p).AllOps fun o => ∃ st : Stmt, o = .stmt st ∧ st.Steady routes :=
    AllOps.embed GatewayOp.Ans hp fun st hst => ⟨st, rfl, hst⟩
  refine Sat.of_allOps (R := fun _ => True) (fun _ _ _ _ => trivial) ?_ hops trivial
  rintro o ⟨st, rfl, hst⟩ s₁ a s₂ - hi ⟨now, fault, -, -, rfl⟩
  exact ⟨List.Subset.refl _, hi.steady hst now fault, trivial⟩

/-- The read of a row, followed by `p`. -/
theorem satDb_first {t : Tbl} {id : String} {k : Except DbErr t.Row → Srv α}
    {Q : α → GatewayState → Prop}
    (hok : ∀ row s₁, s.sent ⊆ s₁.sent → StickyInv gunzip routes s₁ →
      GetBackendAnswers gunzip tasks i (.first t id) s₁.db none → s₁.db.find t id = some row →
      SatDb gunzip tasks routes i (k (.ok row)) s₁ Q)
    (herr : ∀ e s₁ fault, s.sent ⊆ s₁.sent → StickyInv gunzip routes s₁ →
      GetBackendAnswers gunzip tasks i (.first t id) s₁.db fault →
      fault ≠ none ∨ s₁.db.find t id = none → SatDb gunzip tasks routes i (k (.error e)) s₁ Q) :
    SatDb gunzip tasks routes i (op (.first t id) k) s Q := by
  refine Sat.op fun s₁ hrely hi a s₂ hsem => ?_
  obtain ⟨now, fault, hallowed, ha, rfl⟩ := hsem
  have hsame : (exec now fault (.first t id) s₁.db).2 = s₁.db := by
    cases fault with
    | some e => rfl
    | none =>
      simp only [exec, Db.answer]
      cases s₁.db.find t id <;> rfl
  rw [hsame]
  refine ⟨List.Subset.refl _, hi, ?_⟩
  cases a with
  | ok row =>
    obtain ⟨rfl, hrow⟩ := exec_first_ok ha.symm
    exact hok row s₁ hrely hi hallowed hrow
  | error e => exact herr e s₁ fault hrely hi hallowed (exec_first_error ha.symm)

theorem satDb_health (id : String) (action : HealthOp) (s : GatewayState) :
    SatDb gunzip tasks routes i (rpc (action.prog id)) s fun _ _ => True := by
  obtain ⟨p, hp, hsteady⟩ := action.steady_prog routes id
  rw [hp]
  refine satDb_first (fun row s₁ _ hi _ hrow => ?_) fun e s₁ fault _ _ _ _ =>
    Sat.ret fun _ _ _ => trivial
  have hroute : routes row.id = some row.route := by
    have hid : row.id = id := Db.find_id hrow
    rw [← hi.hosts, Db.routes, hid, hrow]
    rfl
  exact satDb_of_steady ((hsteady row hroute).recover _) s₁

/-- The lookup of a query finds the backend that its submission was sent to. -/
theorem satDb_findBackendForQuery (q : String) (s : GatewayState) :
    SatDb gunzip tasks routes i (rpc (QueryApi.findBackendForQuery q)) s fun res s' =>
      ∀ pair, res = .ok pair → q ≠ "" → Placed gunzip routes s'.sent q pair.1 := by
  refine satDb_first (fun (row : Query) s₁ _ hi _ hrow => ?_) fun e s₁ fault _ _ _ _ =>
    Sat.ret fun _ _ _ pair hpair => by cases hpair
  refine Sat.ret fun s' hrely _ pair hpair hq => ?_
  cases hpair
  have hid : row.id = q := Db.find_id hrow
  have hplaced := hi.rows row (Db.mem_of_find hrow) (by rw [hid]; exact hq)
  rw [hid] at hplaced
  exact hplaced.mono hrely

/-- `GetBackend` of `id` may fail for task `i`: if the task keeps a host of its own then, it is
the backend's. -/
def MayFail (gunzip : Gunzip) (tasks : ι → Task) (routes : String → Option Route) (i : ι)
    (id : String) : Prop :=
  ∀ host, AbsoluteSubmission gunzip (tasks i) host → ∀ route, routes id = some route →
    route.hostname = host

/-- `GetBackend` answers with the hosts of the stored backend, and fails only if it may. -/
theorem satDb_getBackend (id : String) (s : GatewayState) :
    SatDb gunzip tasks routes i (rpc (BackendApi.getBackend id)) s fun res _ =>
      (∀ msg, res = .ok msg →
        routes id = some { hostname := msg.hostname, externalUrl := some msg.externalUrl }) ∧
      (∀ err, res = .error err → MayFail gunzip tasks routes i id) := by
  have hstored : ∀ (s₁ : GatewayState) (b : Backend), StickyInv gunzip routes s₁ →
      s₁.db.find .backends id = some b → routes id = some b.route := by
    intro s₁ b hi hb
    rw [← hi.hosts, Db.routes, hb]
    rfl
  refine satDb_first (fun (b : Backend) s₁ _ hi hallowed hb => ?_)
    fun e s₁ fault _ hi hallowed hfail => ?_
  · have hfail : ¬ b.Encodes → MayFail gunzip tasks routes i id := by
      intro henc host habs route hroute
      rcases hallowed host id b habs rfl hb with ⟨-, h⟩ | h
      · exact absurd h henc
      · rw [hstored s₁ b hi hb] at hroute
        cases hroute
        exact h
    -- a row that the message cannot be made of answers with an error, as a failed read does
    change SatDb gunzip tasks routes i ((BackendApi.toBackendResponseProto b).recover _) s₁ _
    rcases (toBackendResponseProto_allOps b fun _ => False).outcome with ⟨res, hres⟩ | hpanic
    · rw [hres]
      cases res with
      | error e =>
        have henc : ¬ b.Encodes := by
          rintro ⟨msg, hmsg⟩
          rw [hres] at hmsg
          cases hmsg
        exact Sat.ret fun _ _ _ => ⟨fun _ h => (by cases h), fun _ _ => hfail henc⟩
      | ok msg =>
        refine Sat.ret fun _ _ _ => ⟨fun msg' h => ?_, fun _ h => by cases h⟩
        cases h
        rw [hstored s₁ b hi hb, route_of_encoded hres]
    · rw [hpanic]
      have henc : ¬ b.Encodes := by
        rintro ⟨msg, hmsg⟩
        rw [hpanic] at hmsg
        cases hmsg
      exact Sat.ret fun _ _ _ => ⟨fun _ h => (by cases h), fun _ _ => hfail henc⟩
  · refine Sat.ret fun _ _ _ => ⟨fun _ h => (by cases h), fun _ _ host habs route hroute => ?_⟩
    rw [← hi.hosts, Db.routes] at hroute
    obtain ⟨b, hb, rfl⟩ := Option.map_eq_some_iff.mp hroute
    rcases hallowed host id b habs rfl hb with ⟨hnone, -⟩ | h
    · rcases hfail with hfault | hmissing
      · exact absurd hnone hfault
      · rw [hmissing] at hb
        cases hb
    · exact h

/-- What a save needs: the query of the record, if it has an id, was sent to the record's
backend, if this is stored. -/
def Recordable (gunzip : Gunzip) (routes : String → Option Route) (params : QueryMsg)
    (sent : List Forwarded) : Prop :=
  params.id ≠ "" → ∀ route, routes params.backendId = some route →
    Placed gunzip routes sent params.id params.backendId

/-- A query that the table accepts has a stored backend. -/
theorem accept_query {db : Db} {row r : Query} (h : db.accept .queries row = .ok r) :
    r = row ∧ (db.find .backends r.backendId).isSome := by
  obtain ⟨hr, -, hrefs⟩ := Db.accept_ok h
  obtain rfl : r = row := hr
  refine ⟨rfl, ?_⟩
  simp only [Db.refsHold, Bool.and_eq_true] at hrefs
  exact hrefs.2

/-- What the rows of the queries are after a save: as before, or under the record's id, at a
stored backend, which is the record's or that of the row it replaces. -/
def SavedRow (db : Db) (row r : Query) : Prop :=
  r ∈ db.queries ∨ (r.id = row.id ∧ (db.find .backends r.backendId).isSome ∧
    (r.backendId = row.backendId ∨ ∃ old ∈ db.queries, old.id = row.id ∧ r.backendId = old.backendId))

theorem insert_saved (db : Db) (now : ℤ) (row : Query) :
    ∀ r ∈ (db.insert now .queries row).2.queries, SavedRow db row r := by
  intro r hr
  unfold Db.insert at hr
  split at hr
  · exact Or.inl hr
  · rename_i r' ha
    split at hr
    · exact Or.inl hr
    · obtain ⟨hr', hsome⟩ := accept_query ha
      rcases List.mem_append.mp hr with hr | hr
      · exact Or.inl hr
      · obtain rfl := List.mem_singleton.mp hr
        exact Or.inr ⟨by rw [hr']; rfl, hsome, Or.inl (by rw [hr']; rfl)⟩

theorem updates_saved (db : Db) (now : ℤ) (row : Query) :
    ∀ r ∈ (db.updates now .queries row).2.queries, SavedRow db row r := by
  intro r hr
  unfold Db.updates at hr
  split at hr
  · exact Or.inl hr
  · split at hr
    · exact Or.inl hr
    · rename_i old hold
      split at hr
      · exact Or.inl hr
      · rename_i r' ha
        obtain ⟨hr', hsome⟩ := accept_query ha
        have hid : old.id = row.id := Db.find_id hold
        have hmem : old ∈ db.queries := Db.mem_of_find hold
        obtain ⟨r₀, hr₀, rfl⟩ := List.mem_map.mp (hr : r ∈ db.queries.map _)
        split
        · refine Or.inr ⟨by rw [hr']; exact hid, hsome, ?_⟩
          -- an empty backend keeps the one of the old row
          by_cases hempty : row.backendId = ""
          · refine Or.inr ⟨old, hmem, hid, ?_⟩
            simp [hr', Tbl.onUpdate, nonZero, hempty]
          · refine Or.inl ?_
            simp [hr', Tbl.onUpdate, nonZero, hempty]
        · exact Or.inl hr₀

/-- A save of a recordable query keeps the invariant. -/
theorem StickyInv.save (h : StickyInv gunzip routes s) {params : QueryMsg}
    (hrec : Recordable gunzip routes params s.sent) {o : Stmt}
    (ho : o = .insert .queries (QueryApi.queryOf params) ∨
      o = .updates .queries (QueryApi.queryOf params)) (now : ℤ) (fault : Option DbErr) :
    StickyInv gunzip routes { s with db := (exec now fault o s.db).2 } := by
  have hframe : ¬ o.writes .backends := by rcases ho with rfl | rfl <;> simp [Stmt.writes]
  have hsaved : ∀ r ∈ (exec now fault o s.db).2.queries,
      SavedRow s.db (QueryApi.queryOf params) r := by
    cases fault with
    | some e => exact fun r hr => Or.inl hr
    | none =>
      rcases ho with rfl | rfl
      · exact insert_saved s.db now _
      · exact updates_saved s.db now _
  refine ⟨?_, fun r hr hne => ?_, h.sent, h.answered⟩
  · exact (Db.routes_congr (exec_rows hframe now fault s.db)).trans h.hosts
  · rcases hsaved r hr with hold | ⟨hid, hsome, hback⟩
    · exact h.rows r hold hne
    · have hid' : r.id = params.id := hid
      rcases hback with hback | ⟨old, hmem, hoid, hback⟩
      · have hback' : r.backendId = params.backendId := hback
        obtain ⟨b, hb⟩ := Option.isSome_iff_exists.mp hsome
        rw [hid'] at hne ⊢
        rw [hback'] at hb ⊢
        refine hrec hne b.route ?_
        rw [← h.hosts, Db.routes, hb]
        rfl
      · have hplaced := h.rows old hmem (by rw [hoid, ← hid]; exact hne)
        rw [hoid, ← hid, ← hback] at hplaced
        exact hplaced

theorem satDb_createOrUpdateQuery {params : QueryMsg}
    (hrec : Recordable gunzip routes params s.sent) :
    SatDb gunzip tasks routes i (rpc (QueryApi.createOrUpdateQuery params)) s fun _ _ => True := by
  let C (o : Stmt) : Prop := o.Steady routes ∨ o = .insert .queries (QueryApi.queryOf params) ∨
    o = .updates .queries (QueryApi.queryOf params)
  have hprog : (rpc (QueryApi.createOrUpdateQuery params)).AllOps C := by
    have hprog := QueryApi.allOps_createOrUpdateQuery (C := C) params (fun _ => Or.inl)
      (Or.inr (Or.inl rfl)) (Or.inr (Or.inr rfl))
    exact hprog.recover _
  have hops : (onDatabase (rpc (QueryApi.createOrUpdateQuery params))).AllOps
      fun o => ∃ st : Stmt, o = .stmt st ∧ C st :=
    AllOps.embed GatewayOp.Ans hprog fun st hst => ⟨st, rfl, hst⟩
  refine Sat.of_allOps (R := fun s => Recordable gunzip routes params s.sent)
    (fun s₁ s₂ hr hs hne route hroute => (hr hne route hroute).mono hs) ?_ hops hrec
  rintro o ⟨st, rfl, hst⟩ s₁ a s₂ hr hi ⟨now, fault, -, -, rfl⟩
  refine ⟨List.Subset.refl _, ?_, hr⟩
  rcases hst with hst | hst
  · exact hi.steady hst now fault
  · exact hi.save hr hst now fault

variable {g : GatewayServer} {r : RouterServer} {Q : α → GatewayState → Prop}

/-- Two programs, one after the other: the history only grows. -/
theorem sat_bind {β : Type} {p : Gateway α} {f : α → Gateway β} {P : α → GatewayState → Prop}
    {Q : β → GatewayState → Prop} (hs : StickyInv gunzip routes s)
    (h : (stickyProtocol gunzip tasks routes).Sat i p s P)
    (hf : ∀ a s', StickyInv gunzip routes s' → s.sent ⊆ s'.sent → P a s' →
      (stickyProtocol gunzip tasks routes).Sat i (f a) s' Q) :
    (stickyProtocol gunzip tasks routes).Sat i (p.bind f) s Q := by
  have hframe := h.frame (R := fun s' => s.sent ⊆ s'.sent) (fun _ _ => List.Subset.trans)
    (fun _ _ _ _ => List.Subset.trans) (List.Subset.refl _)
  exact Sat.bind hs hframe fun a s' hi hP => hf a s' hi hP.2 hP.1

/-- A function of the router asks an RPC, and goes on from what the RPC ensures. -/
theorem satDb_rpc {o : RouterOp} {k : o.Ans → Router α} {P : o.Ans → GatewayState → Prop}
    (hs : StickyInv gunzip routes s) (h : SatDb gunzip tasks routes i (g.serve o) s P)
    (hk : ∀ a s', StickyInv gunzip routes s' → s.sent ⊆ s'.sent → P a s' →
      SatDb gunzip tasks routes i (g.onServer (k a)) s' Q) :
    SatDb gunzip tasks routes i (g.onServer (op o k)) s Q := by
  change SatDb gunzip tasks routes i ((g.serve o).bind fun x => g.onServer (k x)) s Q
  rw [SatDb, onDatabase_bind]
  exact sat_bind hs h hk

/-- Two functions of the router, one after the other. -/
theorem satDb_bind {β : Type} {p : Router α} {f : α → Router β} {P : α → GatewayState → Prop}
    {Q : β → GatewayState → Prop} (hs : StickyInv gunzip routes s)
    (h : SatDb gunzip tasks routes i (g.onServer p) s P)
    (hf : ∀ a s', StickyInv gunzip routes s' → s.sent ⊆ s'.sent → P a s' →
      SatDb gunzip tasks routes i (g.onServer (f a)) s' Q) :
    SatDb gunzip tasks routes i (g.onServer (p.bind f)) s Q := by
  have hbind : g.onServer (p.bind f) = (g.onServer p).bind fun a => g.onServer (f a) :=
    interp_bind g.serve p f
  rw [SatDb, hbind, onDatabase_bind]
  exact sat_bind hs h hf

@[simp] theorem queryId_withServerHost (h : String) (cReq : ClientRequest) :
    (cReq.withServerHost h).queryId = cReq.queryId := by
  cases cReq <;> rfl

@[simp] theorem hostAt_withServerHost (h : String) (cReq : ClientRequest) (route : Route) :
    (cReq.withServerHost h).hostAt route = cReq.hostAt route := by
  cases cReq <;> rfl

/-- The host of a backend's message is the one of its route. -/
theorem hostAt_msg {cReq : ClientRequest} (hc : cReq ≠ .api) (msg : BackendMsg) :
    cReq.hostAt { hostname := msg.hostname, externalUrl := some msg.externalUrl } =
      some (cReq.hostOf msg) := by
  cases cReq with
  | api => exact absurd rfl hc
  | _ => rfl

variable (gunzip tasks routes) in
/-- What the preparation for the backend `id` leaves: the request as it was, after a
`GetBackend` that may fail, or the request pointed at the stored backend. -/
inductive Pointed (i : ι) (req : Request) (id : String) (cReq : ClientRequest) (p : Prepared) : Prop
  | kept (err : GoErr) (herr : p.err = .error err) (hreq : p.req = req) (hc : p.cReq = cReq)
      (hfail : MayFail gunzip tasks routes i id)
  | set (route : Route) (serverHost : String) (hroute : routes id = some route)
      (hhost : cReq.hostAt route = some p.req.url.host)
      (hc : p.cReq = cReq.withServerHost serverHost)

theorem satDb_prepare (hs : StickyInv gunzip routes s) {cReq : ClientRequest} (hc : cReq ≠ .api)
    (req : Request) (id : String) :
    SatDb gunzip tasks routes i (g.onServer (r.prepareReqForRouting req id cReq)) s fun p _ =>
      Pointed gunzip tasks routes i req id cReq p := by
  refine satDb_rpc hs (satDb_getBackend id s) fun res s₁ hi _ hres => ?_
  cases res with
  | error err => exact Sat.ret fun _ _ _ => .kept err rfl rfl rfl (hres.2 err rfl)
  | ok msg =>
    simp only [if_neg hc]
    have hsource : SteadyProg routes (g.serve (.evaluateRequestSourceForClient r.incomingPort)) :=
      (PolicyApi.steady_evaluateRequestSourceForClient _).recover _
    refine satDb_rpc hi (satDb_of_steady hsource s₁) fun res s₂ _ _ _ => ?_
    cases res with
    | error err => exact Sat.ret fun _ _ _ => .set _ _ (hres.1 msg rfl) (hostAt_msg hc msg) rfl
    | ok source => exact Sat.ret fun _ _ _ => .set _ _ (hres.1 msg rfl) (hostAt_msg hc msg) rfl

/-- A request that is pointed at the backend of its query, and of its record, may be sent. -/
theorem sendable_of_route {sent : List Forwarded} {cReq : ClientRequest} {id host : String}
    {route : Route} (hq : cReq.queryId ≠ "" → Placed gunzip routes sent cReq.queryId id)
    (hback : ∀ nt, cReq = .query nt → nt.query.backendId = id) (hroute : routes id = some route)
    (hhost : cReq.hostAt route = some host) : Sendable gunzip routes sent cReq host := by
  refine ⟨fun hne => ⟨id, route, hq hne, hroute, hhost⟩, ?_⟩
  rintro nt rfl - route' hroute'
  rw [hback nt rfl, hroute] at hroute'
  cases hroute'
  exact (Option.some.inj hhost).symm

variable (gunzip routes) in
/-- What a routing without error leaves may be sent. -/
def Routed (x : Result (Option ClientRequest) × Request) (s : GatewayState) : Prop :=
  ∀ cReq, x.1 = .ok (some cReq) → Sendable gunzip routes s.sent cReq x.2.url.host

theorem satDb_error (err : GoErr) (req : Request) (s : GatewayState) :
    SatDb gunzip tasks routes i (ret (.error err, req)) s (Routed gunzip routes) :=
  Sat.ret fun _ _ _ cReq hok => by cases hok

/-- A routing that returns the outcome of a preparation for the query's own backend. -/
theorem satDb_returned (hs : StickyInv gunzip routes s) {cReq : ClientRequest} (hc : cReq ≠ .api)
    {id : String}
    (hq : routes id ≠ none → cReq.queryId ≠ "" → Placed gunzip routes s.sent cReq.queryId id)
    (hback : ∀ nt, cReq = .query nt → nt.query.backendId = id) (req : Request) :
    SatDb gunzip tasks routes i (g.onServer do
      return RouterServer.returned (← r.prepareReqForRouting req id cReq)) s
      (Routed gunzip routes) := by
  refine satDb_bind hs (satDb_prepare hs hc req id) fun p s₁ _ hsub hp => ?_
  refine Sat.ret fun s₂ hrely _ cReq' hok => ?_
  cases hp with
  | kept err herr _ _ _ => simp [RouterServer.returned, herr, Except.map] at hok
  | set route serverHost hroute hhost hp =>
    have hcReq : cReq' = cReq.withServerHost serverHost := by
      cases he : p.err with
      | error err => simp [RouterServer.returned, he, Except.map] at hok
      | ok u =>
        simp only [RouterServer.returned, he, Except.map, Except.ok.injEq, Option.some.injEq] at hok
        rw [← hok, hp]
    subst hcReq
    refine sendable_of_route (fun hne => ?_) (fun nt hnt => ?_) hroute ?_
    · rw [queryId_withServerHost] at hne ⊢
      exact (hq (by simp [hroute]) hne).mono (List.Subset.trans hsub hrely)
    · cases cReq with
      | query nt₀ =>
        cases hnt
        exact hback nt₀ rfl
      | _ => cases hnt
    · rw [hostAt_withServerHost]
      exact hhost

theorem satDb_routeUi (hs : StickyInv gunzip routes s) (req : Request) (queryId : String) :
    SatDb gunzip tasks routes i (g.onServer (r.routeUi req queryId)) s (Routed gunzip routes) := by
  refine satDb_rpc hs (satDb_findBackendForQuery queryId s) fun res s₁ hi _ hres => ?_
  cases res with
  | error err => exact satDb_error err req s₁
  | ok pair =>
    have hq : routes pair.1 ≠ none → (ClientRequest.ui queryId).queryId ≠ "" →
        Placed gunzip routes s₁.sent queryId pair.1 := fun _ hne => hres pair rfl hne
    exact satDb_returned hi (by simp) hq (fun nt hnt => by cases hnt) req

/-- A request about a known query, of either kind. When the lookup fails the id is empty, and no
backend has it. -/
theorem satDb_routeKnown (hempty : routes "" = none) (hs : StickyInv gunzip routes s)
    (req : Request) {kind : QueryRequest → ClientRequest}
    (hkind : kind = .query ∨ kind = .queryApi) (nt : QueryRequest) :
    SatDb gunzip tasks routes i (g.onServer (r.routeKnown req kind nt)) s
      (Routed gunzip routes) := by
  refine satDb_rpc hs (satDb_findBackendForQuery nt.query.id s) fun res s₁ hi _ hres => ?_
  let pair := RouterServer.pairOf res
  have hq : routes pair.1 ≠ none →
      (kind (RouterServer.withBackend nt pair.1 pair.2)).queryId ≠ "" →
      Placed gunzip routes s₁.sent
        (kind (RouterServer.withBackend nt pair.1 pair.2)).queryId pair.1 := by
    have hid : (kind (RouterServer.withBackend nt pair.1 pair.2)).queryId = nt.query.id := by
      rcases hkind with rfl | rfl <;> rfl
    rw [hid]
    intro hroute hne
    cases res with
    | error err => exact absurd hempty hroute
    | ok found => exact hres found rfl hne
  refine satDb_returned hi (by rcases hkind with rfl | rfl <;> simp) hq (fun nt' hnt => ?_) req
  rcases hkind with rfl | rfl
  · cases hnt
    rfl
  · cases hnt

/-- The evaluation of a new submission is steady. -/
theorem steady_evaluateRoutingBackend (g : GatewayServer) (nt : QueryRequest) :
    SteadyProg routes (g.onServer (RouterServer.evaluateRoutingBackend nt)) := by
  have hgroups : SteadyProg routes (g.serve (.evaluateGroupsForClient (RouterServer.clientParams nt))) :=
    (PolicyApi.steady_evaluateGroupsForClient _ _).recover _
  refine hgroups.bind fun res => ?_
  cases res with
  | error err => trivial
  | ok ids =>
    have hbackend : SteadyProg routes (g.serve (.evaluateBackendForGroups ids)) :=
      (GroupApi.steady_evaluateBackendForGroups _ _).recover _
    exact hbackend.bind fun _ => trivial

/-- A new submission. Its host is its own only if `GetBackend` failed. -/
theorem satDb_routeSubmission (hs : StickyInv gunzip routes s) {req : Request}
    {nt : QueryRequest} (hid : nt.query.id = "")
    (habs : req.url.host ≠ "" → AbsoluteSubmission gunzip (tasks i) req.url.host) :
    SatDb gunzip tasks routes i (g.onServer (r.routeSubmission req nt)) s
      (Routed gunzip routes) := by
  refine satDb_bind hs (satDb_of_steady (steady_evaluateRoutingBackend g nt) s)
    fun resolved s₁ hi _ _ => ?_
  refine satDb_bind hi (satDb_prepare hi (by simp) req _) fun p s₂ _ _ hp => ?_
  cases resolved with
  | error err => exact satDb_error err p.req s₂
  | ok pair =>
    have hquery : ∃ nt₁, p.cReq = .query nt₁ ∧ nt₁.query.id = "" := by
      cases hp with
      | kept _ _ _ hc _ => exact ⟨nt, hc, hid⟩
      | set _ _ _ _ hc => exact ⟨_, hc, hid⟩
    have htarget : p.req.url.host ≠ "" → ∀ route, routes pair.1 = some route →
        p.req.url.host = route.hostname := by
      intro hne route hroute
      cases hp with
      | kept _ _ hreq _ hfail =>
        rw [hreq] at hne ⊢
        exact (hfail req.url.host (habs hne) route hroute).symm
      | set route' _ hroute' hhost _ =>
        rw [show routes pair.1 = some route' from hroute'] at hroute
        cases hroute
        exact (Option.some.inj hhost).symm
    obtain ⟨nt₁, hnt, hid₁⟩ := hquery
    simp only [hnt]
    refine Sat.ret fun s₃ _ _ cReq hok => ?_
    cases hok
    refine ⟨fun hne => absurd hid₁ hne, ?_⟩
    rintro nt' hnt' hne route hroute
    cases hnt'
    exact htarget hne route hroute

theorem satDb_routeRequest (hempty : routes "" = none) (hs : StickyInv gunzip routes s)
    {req : Request} {cReq : ClientRequest}
    (habs : ∀ nt, cReq = .query nt → nt.query.id = "" → req.url.host ≠ "" →
      AbsoluteSubmission gunzip (tasks i) req.url.host) :
    SatDb gunzip tasks routes i (g.onServer (r.routeRequest req cReq)) s
      (Routed gunzip routes) := by
  cases cReq with
  | api => exact Sat.ret fun _ _ _ cReq hok => by cases hok
  | ui queryId => exact satDb_routeUi hs req queryId
  | query nt =>
    by_cases hid : nt.query.id = ""
    · simp only [RouterServer.routeRequest, hid, ne_eq, not_true_eq_false, if_false]
      exact satDb_routeSubmission hs hid (habs nt rfl hid)
    · simp only [RouterServer.routeRequest, hid, ne_eq, not_false_eq_true, if_true]
      exact satDb_routeKnown hempty hs req (Or.inl rfl) nt
  | queryApi nt => exact satDb_routeKnown hempty hs req (Or.inr rfl) nt

theorem satDb_processRequest (hempty : routes "" = none) (hs : StickyInv gunzip routes s)
    {req : Request} (htask : tasks i = .request r req) :
    SatDb gunzip tasks routes i (g.onServer (r.processRequest gunzip req)) s
      (Routed gunzip routes) := by
  unfold RouterServer.processRequest
  cases hp : r.parseClientRequest gunzip req with
  | none => exact Sat.panic
  | some x =>
    obtain ⟨parsed, req₁⟩ := x
    cases parsed with
    | error err => exact satDb_error _ req₁ s
    | ok cReq =>
      simp only [bind_eq, deref_some, ret_bind]
      cases hv : cReq.validate with
      | error err => exact satDb_error _ req₁ s
      | ok u =>
        refine satDb_routeRequest hempty hs fun nt hnt hid hne => ?_
        have hurl := RouterServer.parseClientRequest_url hp
        subst hnt
        rw [hurl] at hne ⊢
        exact ⟨r, req, nt, req₁, htask, ⟨hp, hv⟩, hid, rfl, hne⟩

/-- The director: what it leaves may be sent. -/
theorem satDb_handleClientRequest (hempty : routes "" = none) (hs : StickyInv gunzip routes s)
    {req : Request} (htask : tasks i = .request r req) :
    SatDb gunzip tasks routes i (g.onServer (r.handleClientRequest gunzip req)) s fun x s' =>
      ∀ cReq, x.1.clientRequest = some cReq →
        Sendable gunzip routes s'.sent cReq x.2.url.host := by
  refine satDb_bind hs (satDb_processRequest hempty hs htask) fun x s₁ _ _ hx => ?_
  obtain ⟨res, req₁⟩ := x
  cases res with
  | error err => exact Sat.ret fun _ _ _ cReq hc => by cases hc
  | ok c =>
    refine Sat.ret fun s₂ hrely _ cReq hc => ?_
    cases hc
    exact (hx cReq rfl).mono hrely

variable (gunzip r) in
/-- The save that the response to a submission starts. -/
theorem processResponse_query {resp : Response} (nt : QueryRequest)
    (h : 200 ≤ resp.statusCode ∧ resp.statusCode < 400) :
    (r.processResponse gunzip resp (some (.query nt))).map Prod.snd =
      (parseHttpPayloadBody gunzip resp.body (resp.header.get "Content-Encoding")).map fun res =>
        some { body := res.1.toOption.getD "", req := nt.query, utf8 := nt.utf8 } := by
  unfold RouterServer.processResponse
  rw [if_pos h]
  by_cases hlt : resp.statusCode < 300
  · -- rewriting the location changes neither the body nor its encoding
    simp only [if_pos hlt, RouterServer.handleRedirect_encoding, RouterServer.handleRedirect_body,
      Option.map_map]
    rfl
  · simp only [if_neg hlt, Option.map_map]
    rfl

/-- A save that is started is of a submission, under the id of its response. -/
theorem processResponse_save {resp resp' : Response} {cReq : Option ClientRequest}
    {save : RouterServer.QuerySave}
    (h : r.processResponse gunzip resp cReq = some (resp', some save)) :
    200 ≤ resp.statusCode ∧ resp.statusCode < 400 ∧ ∃ nt, cReq = some (.query nt) ∧
      save.req = nt.query ∧ RouterServer.extractQueryIdFromServerResponse save.body =
        RouterServer.responseId gunzip resp := by
  by_cases hstatus : 200 ≤ resp.statusCode ∧ resp.statusCode < 400
  · refine ⟨hstatus.1, hstatus.2, ?_⟩
    by_cases hquery : ∃ nt, cReq = some (.query nt)
    · obtain ⟨nt, rfl⟩ := hquery
      have hsave := processResponse_query gunzip r nt hstatus
      rw [h, Option.map_some] at hsave
      obtain ⟨⟨res, restored⟩, hp, hres⟩ := Option.map_eq_some_iff.mp hsave.symm
      cases hres
      refine ⟨nt, rfl, rfl, ?_⟩
      unfold RouterServer.responseId
      rw [hp]
      cases res with
      | error err =>
        -- an unreadable body counts as empty, and the empty text has no id
        simp only [Except.toOption, Option.getD_none]
        decide
      | ok body => rfl
    · unfold RouterServer.processResponse at h
      rw [if_pos hstatus] at h
      rcases cReq with _ | (_ | _ | nt | _)
      case some.query => exact absurd ⟨nt, rfl⟩ hquery
      all_goals simp at h
  · unfold RouterServer.processResponse at h
    rw [if_neg hstatus] at h
    simp at h

/-- The save of a submission that was sent is recordable. -/
theorem recordable_of_produces (hs : StickyInv gunzip routes s) {e : Forwarded} (he : e ∈ s.sent)
    {nt : QueryRequest} {params : QueryMsg} (hp : params.id ≠ "" → Produces gunzip e params.id nt)
    (hback : params.backendId = nt.query.backendId) :
    Recordable gunzip routes params s.sent := by
  intro hne route hroute
  replace hp := hp hne
  have hhost : e.host ≠ "" := by
    intro hempty
    obtain ⟨resp, hresp, -⟩ := hp.response
    rw [hs.answered e he hempty] at hresp
    cases hresp
  have htarget := (hs.sent e he _ hp.request).target nt rfl hhost route (hback ▸ hroute)
  exact ⟨e, he, nt, route, hp, hback.symm, hroute, htarget⟩

/-- The goroutine of a submission that was sent. -/
theorem satDb_saveQuery (hs : StickyInv gunzip routes s) {e : Forwarded} (he : e ∈ s.sent)
    {nt : QueryRequest} {save : RouterServer.QuerySave} (hreq : save.req = nt.query)
    (hp : RouterServer.extractQueryIdFromServerResponse save.body ≠ "" →
      Produces gunzip e (RouterServer.extractQueryIdFromServerResponse save.body) nt) :
    SatDb gunzip tasks routes i (g.onServer (RouterServer.saveQuery save)) s fun _ _ => True := by
  have hnow : SteadyProg routes (g.serve .unixNow) := ⟨trivial, fun _ => trivial⟩
  refine satDb_rpc hs (satDb_of_steady hnow s) fun now s₁ hi hsub _ => ?_
  have hrec : Recordable gunzip routes { save.req with
      id := RouterServer.extractQueryIdFromServerResponse save.body, submittedAt := now } s₁.sent :=
    recordable_of_produces hi (hsub he) hp (by rw [hreq])
  cases save.utf8 with
  | true =>
    exact satDb_rpc hi (satDb_createOrUpdateQuery hrec) fun _ _ _ _ _ =>
      Sat.ret fun _ _ _ => trivial
  | false => exact Sat.ret fun _ _ _ => trivial

/-- **A request keeps its side of the protocol**, from the director to the save. -/
theorem sat_serveRequest (hempty : routes "" = none) (hs : StickyInv gunzip routes s)
    {req : Request} (htask : tasks i = .request r req) :
    (stickyProtocol gunzip tasks routes).Sat i (serveRequest gunzip g r req) s
      fun _ _ => True := by
  refine sat_bind hs (satDb_handleClientRequest hempty hs htask) fun x s₁ _ _ hx => ?_
  obtain ⟨shared, req₁⟩ := x
  refine Sat.op fun s₂ hrely hi a s₃ hsem => ?_
  obtain ⟨ha, rfl⟩ := hsem
  have hinv := hi.send (fun cReq hc => (hx cReq hc).mono hrely) ha
  refine ⟨List.subset_append_left _ _, hinv, ?_⟩
  cases a with
  | none => exact Sat.ret fun _ _ _ => trivial
  | some resp =>
    cases hresp : r.processResponse gunzip resp shared.clientRequest with
    | none =>
      simp only [ret_bind, bind_eq, hresp, deref_none, panic_bind]
      exact Sat.panic
    | some x =>
      obtain ⟨resp', save⟩ := x
      simp only [ret_bind, bind_eq, hresp, deref_some]
      cases save with
      | none => exact Sat.ret fun _ _ _ => trivial
      | some save =>
        obtain ⟨hlo, hhi, nt, hc, hreq, hid⟩ := processResponse_save hresp
        have hmem : forwarded shared req₁ (some resp) ∈
            s₂.sent ++ [forwarded shared req₁ (some resp)] :=
          List.mem_append_right _ (List.mem_singleton_self _)
        exact satDb_saveQuery hinv hmem hreq fun hne =>
          ⟨hc, resp, rfl, hlo, hhi, (RouterServer.hasResponseId_iff hne).mpr hid.symm⟩

theorem sat_task (hempty : routes "" = none) (hs : StickyInv gunzip routes s) :
    (stickyProtocol gunzip tasks routes).Sat i ((tasks i).prog gunzip g) s fun _ _ => True := by
  cases htask : tasks i with
  | request r req => exact sat_serveRequest hempty hs htask
  | config change =>
    have hsteady : SteadyProg routes ((rpc change.prog).bind fun _ => ret ()) :=
      (change.steady_prog.recover _).bind fun _ => trivial
    exact satDb_of_steady hsteady s
  | health id action =>
    change SatDb gunzip tasks routes i ((rpc (action.prog id)).bind fun _ => ret ()) s _
    rw [SatDb, onDatabase_bind]
    exact sat_bind hs (satDb_health id action s) fun _ _ _ _ _ => Sat.ret fun _ _ _ => trivial

variable (gunzip tasks) in
theorem gatewayPool_good [DecidableEq ι] (g : ι → GatewayServer) (store : Store) :
    (stickyProtocol gunzip tasks store.db.routes).Good (fun _ _ _ => True)
      (gatewayPool gunzip g tasks store) := by
  have hempty : store.db.routes "" = none := by
    rw [Db.routes, Option.map_eq_none_iff, Db.find, List.find?_eq_none]
    intro b hb
    rw [decide_eq_true_iff]
    exact store.backend_id b hb
  have hinv : StickyInv gunzip store.db.routes (gatewayPool gunzip g tasks store).state := by
    refine ⟨Db.routes_congr rfl, ?_, ?_, ?_⟩
    · exact fun row hrow => absurd hrow List.not_mem_nil
    · exact fun f hf => absurd hf List.not_mem_nil
    · exact fun f hf => absurd hf List.not_mem_nil
  exact ⟨hinv, fun i => sat_task hempty hinv⟩

/-- **Sticky routing.** In every state of every run in which `GetBackend` of a stored backend
answers every new submission with a target in absolute form, or the target's host is the
backend's, a request about a query was sent to the very backend that the query's submission was
sent to. -/
theorem sticky_of_getBackendAnswers [DecidableEq ι] (gunzip : Gunzip) (g : ι → GatewayServer)
    (tasks : ι → Task) (store : Store) (P : Pool ι GatewayOp GatewayOp.Ans Unit GatewayState)
    (hr : (gatewaySystem (GetBackendAnswers gunzip tasks)).Reachable
      (gatewayPool gunzip g tasks store) P)
    (hu : UniqueIds gunzip P.state.sent) : Sticky gunzip P.state := by
  have hgood := reachable_sat (gatewayPool_good gunzip tasks g store) hr
  exact hgood.inv.sticky hu

/-- A healthy cluster. -/
def cluster (id : String) : Backend :=
  { id := id, hostname := id ++ ":8080", scheme := "http", externalUrl := some (id ++ ".example"),
    isEnabled := some true, isHealthy := some true, uptimeSchedule := some "* * * * *",
    clusterLoad := some 0, thresholdClusterLoad := some 0, statsUpdatedAt := some 0 }

/-- Two clusters. The default group has the first one. -/
def twoClusters : Store where
  db :=
    { backends := [cluster "trino-1", cluster "trino-2"]
      groups :=
        [{ id := "adhoc", strategy := some "random", isEnabled := some true,
           lastRoutedBackend := some "" }]
      mappings := [{ id := some 1, groupId := "adhoc", backendId := "trino-1" }] }
  backend_id := by decide

/-- A submission, a request to delete its query, and the monitor. The host of a target in
absolute form replaces the `Host` line. -/
def stickyTasks (target : Url) : ℕ → Task
  | 0 => .request { port := 8080, routerHostname := "gateway" }
      { method := "POST", url := { target with path := "/v1/statement" },
        host := if target.host = "" then "gateway" else target.host,
        header := [("X-Trino-User", "alice")],
        body := { bytes := "SELECT 1".toList.map fun c => UInt8.ofNat c.toNat } }
  | 1 => .request { port := 8080, routerHostname := "gateway" }
      { method := "DELETE", url := { path := "/v1/query/q1" }, host := "gateway",
        header := [("X-Trino-User", "alice")] }
  | _ => .health "trino-1" .markUnhealthy

/-- The submission with its save, then the monitor, then the request. -/
def stickyPool (target : Url) (faults : ℕ → Stmt → Option DbErr) :
    Pool ℕ GatewayOp GatewayOp.Ans Unit GatewayState :=
  (List.replicate 20 0 ++ List.replicate 5 2 ++ List.replicate 5 1).foldl
    (System.perform (gatewayHandler 1 faults fun _ => some RouterServer.createdResponse))
    (gatewayPool (fun bytes => .ok bytes) (fun _ => RouterServer.sortedServer) (stickyTasks target)
      twoClusters)

/-- What is sent in such a run: the submission to a host, and the request to the first cluster. -/
def stickySent (clientHost host serverHost : String) : List Forwarded :=
  let nt := RouterServer.routedQuery "SELECT 1"
  [{ clientRequest := some (.query { nt with
       clientHost := clientHost
       query := { nt.query with serverHost := serverHost } })
     host := host
     response := some RouterServer.createdResponse },
   { clientRequest := some (.queryApi { nt with
       query := { nt.query with id := "q1", text := "", serverHost := "http://trino-1.example" } })
     host := "trino-1:8080"
     response := some RouterServer.createdResponse }]

theorem stickySent_unique (clientHost host serverHost : String) :
    UniqueIds gunzip (stickySent clientHost host serverHost) := by
  -- only the first of the two is a submission
  have hfirst : ∀ e ∈ stickySent clientHost host serverHost, ∀ q nt, Produces gunzip e q nt →
      e = (stickySent clientHost host serverHost).head (List.cons_ne_nil _ _) := by
    intro e he q nt hp
    rcases List.mem_cons.mp he with rfl | he
    · rfl
    · obtain rfl := List.mem_singleton.mp he
      cases hp.request
  intro e he e' he' q nt nt' _ hp hp'
  have heq : e = e' := (hfirst e he q nt hp).trans (hfirst e' he' q nt' hp').symm
  subst heq
  have hnt := hp.request.symm.trans hp'.request
  simp only [Option.some.injEq, ClientRequest.query.injEq] at hnt
  exact ⟨rfl, by rw [hnt]⟩

/-- Without failures. -/
def noFault (_ : ℕ) (_ : Stmt) : Option DbErr := none

set_option maxRecDepth 4000 in
theorem stickyPool_sent :
    (stickyPool {} noFault).state.sent =
      stickySent "gateway" "trino-1:8080" "http://trino-1.example" := by
  decide +kernel

/-- In this run nothing fails, and no target is in absolute form. -/
theorem sticky_stickyPool : Sticky (fun bytes => .ok bytes) (stickyPool {} noFault).state := by
  refine sticky_of_getBackendAnswers (fun bytes => .ok bytes) (fun _ => RouterServer.sortedServer)
    (stickyTasks {}) twoClusters (stickyPool {} noFault) ?_ ?_
  · refine System.foldl_perform_reachable _ (gatewayHandler_sem 1 ?_ _) _ _
    rintro i o db host id b ⟨r, req, nt, req₁, htask, -, -, hhost, hne⟩
    rcases i with _ | _ | i
    all_goals
      cases htask
    all_goals exact absurd hhost.symm hne
  · rw [stickyPool_sent]
    exact stickySent_unique _ _ _

/-- A target in absolute form. -/
def elsewhere : Url := { scheme := "http", host := "trino-2:8080" }

/-- `GetBackend` fails for the submission. -/
def lostConnection : ℕ → Stmt → Option DbErr
  | 0, .first .backends _ => some (.other "connection lost")
  | _, _ => none

set_option maxRecDepth 4000 in
theorem elsewhere_sent :
    (stickyPool elsewhere lostConnection).state.sent =
      stickySent "trino-2:8080" "trino-2:8080" "" := by
  decide +kernel

/-- A submission with the target of the second cluster goes there, its record says the first,
and the request to delete the query goes to the first. -/
theorem elsewhere_not_sticky :
    (gatewaySystem anyFailure).Reachable
      (gatewayPool (fun bytes => .ok bytes) (fun _ => RouterServer.sortedServer)
        (stickyTasks elsewhere) twoClusters) (stickyPool elsewhere lostConnection) ∧
    UniqueIds (fun bytes => .ok bytes) (stickyPool elsewhere lostConnection).state.sent ∧
    ¬ Sticky (fun bytes => .ok bytes) (stickyPool elsewhere lostConnection).state := by
  refine ⟨?_, ?_, ?_⟩
  · exact System.foldl_perform_reachable _ (gatewayHandler_sem 1 (fun _ _ _ => trivial) _) _ _
  · rw [elsewhere_sent]
    exact stickySent_unique _ _ _
  · intro h
    have hmem : ∀ f ∈ stickySent "trino-2:8080" "trino-2:8080" "",
        f ∈ (stickyPool elsewhere lostConnection).state.sent := by
      rw [elsewhere_sent]
      exact fun f hf => hf
    have hprod : Produces (fun bytes => .ok bytes)
        ((stickySent "trino-2:8080" "trino-2:8080" "").head (List.cons_ne_nil _ _)) "q1"
        { RouterServer.routedQuery "SELECT 1" with clientHost := "trino-2:8080" } := by
      refine ⟨rfl, RouterServer.createdResponse, rfl, by decide, by decide, ?_⟩
      exact (RouterServer.hasResponseId_iff (by decide)).mpr RouterServer.createdResponse_id
    obtain ⟨b, hb, hhost, -⟩ := (h _ (hmem _ (List.mem_cons_of_mem _ List.mem_cons_self)) _ rfl
      (by decide)).2 _ (hmem _ List.mem_cons_self) _ hprod
    have hfirst : ((stickyPool elsewhere lostConnection).state.db.find .backends
        "trino-1").map Backend.hostname = some "trino-1:8080" := by decide +kernel
    have hfound : (stickyPool elsewhere lostConnection).state.db.find .backends "trino-1" =
        some b := hb
    rw [hfound] at hfirst
    have hsame : "trino-2:8080" = "trino-1:8080" := hhost.trans (Option.some.inj hfirst)
    exact absurd hsame (by decide)

end TrinoGateway
