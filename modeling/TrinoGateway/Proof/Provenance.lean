import TrinoGateway.Proof.FailClosed
import TrinoGateway.Proof.Isolation
import TrinoGateway.Proof.Learning
import TrinoGateway.Proof.OpenProxy
import TrinoGateway.Proof.Replies

/-!
# Where a request is sent, and why

`Sent` says of a request what its own statements must have found for it to be sent to a host: the
backend of the query's record, or for a new query an active backend of a group that the policies
allow the client, or of the default group. A new query whose backend was chosen so and could then
not be read goes where the client said.

* `handleClientRequest_sent`: the director sends a request only so, from what the answers of the
  gateway server tell (`serve_told`).
* `always_named`: no backend ever has the empty id, which stands for one that was not found.
* `exchange_sent`: **every request that is sent, in any interleaving, was sent so**.
-/

namespace TrinoGateway

open Interact Prog

section Reasons

variable {Op Op' : Type} {Ans : Op → Type} {Ans' : Op' → Type}

/-- The host by which requests of a kind reach a backend. -/
def ClientRequest.Reaches (b : Backend) (host : String) : ClientRequest → Prop
  | .api => False
  | .ui _ => b.externalUrl = some host
  | .query _ | .queryApi _ => b.hostname = host

/-- In a state that a record has found, a backend had this id and this host. -/
def HostOf (es : Record Op Ans Db) (cReq : ClientRequest) (id host : String) : Prop :=
  id ≠ "" ∧ es.Found fun db => ∃ b ∈ db.backends, b.id = id ∧ cReq.Reaches b host

/-- In a state that a record has found, the record of the query named this backend. -/
def RecordedAt (es : Record Op Ans Db) (queryId id : String) : Prop :=
  es.Found fun db => ∃ q ∈ db.queries, q.id = queryId ∧ q.backendId = id

/-- The group of a new query: the policies allow it to the client and it is enabled, or it is the
default one. -/
def Eligible (cfg : Config) (c : PolicyApi.EvaluateClientParams) (es : Record Op Ans Db)
    (groupId : String) : Prop :=
  (PolicyApi.Allowed es c groupId ∧ GroupEnabled es groupId) ∨ groupId = cfg.defaultRoutingGroup

/-- The reason for a request to be sent to a host, by its kind. -/
def Grounds (cfg : Config) (c : PolicyApi.EvaluateClientParams) (es : Record Op Ans Db)
    (host : String) : ClientRequest → Prop
  | .api => False
  | .ui queryId => ∃ id, RecordedAt es queryId id ∧ HostOf es (.ui queryId) id host
  | .queryApi nt =>
    RecordedAt es nt.query.id nt.query.backendId ∧ HostOf es (.queryApi nt) nt.query.backendId host
  | .query nt =>
    HostOf es (.query nt) nt.query.backendId host ∧
      (nt.query.id = "" →
        Serves es nt.query.groupId nt.query.backendId ∧ Eligible cfg c es nt.query.groupId) ∧
      (nt.query.id ≠ "" → RecordedAt es nt.query.id nt.query.backendId)

/-- What policies see of a request. -/
def RouterServer.policyParams (r : RouterServer) (req : Request) :
    PolicyApi.EvaluateClientParams :=
  { listeningPort := r.incomingPort
    hostname := req.host
    headerConnectionProperties := TrinoHeaders.get TrinoHeaders.connectionProperties req
    headerClientTags := TrinoHeaders.get TrinoHeaders.clientTags req }

/-- The choice for a new query: a backend that serves the group, or none if the group has no active
one. -/
structure Chosen (cfg : Config) (c : PolicyApi.EvaluateClientParams) (es : Record Op Ans Db)
    (backendId groupId : String) : Prop where
  serves : backendId = "" ∨ Serves es groupId backendId
  eligible : Eligible cfg c es groupId

/-- **Where a request may be sent, by what is in its context**, from what its statements have found.
A request for the state of a cluster goes where the client says, and so does a new query whose
chosen backend was asked for and could not be read. -/
inductive Sent (cfg : Config) (r : RouterServer) (req : Request) (es : Record Stmt Stmt.Ans Db) :
    RouterServer.ContextSharedObject → String → Prop
  | failed (err : GoErr) : Sent cfg r req es ⟨none, some err⟩ RouterServer.invalidHost
  | api (method : req.method = "GET")
      (path : Text.contains req.url.path "v1/info" ∨ Text.contains req.url.path "v1/status") :
      Sent cfg r req es ⟨none, none⟩ req.url.host
  | unprepared (nt : QueryRequest) (new : nt.query.id = "")
      (chosen : Chosen cfg (r.policyParams req) es nt.query.backendId nt.query.groupId)
      (unread : BackendApi.Unread es nt.query.backendId) :
      Sent cfg r req es ⟨some (.query nt), none⟩ req.url.host
  | routed (cReq : ClientRequest) (host : String)
      (h : Grounds cfg (r.policyParams req) es host cReq) :
      Sent cfg r req es ⟨some cReq, none⟩ host

variable {es : Record Op Ans Db} {es' : Record Op' Ans' Db}
  (hes : ∀ φ, es.Found φ → es'.Found φ)

include hes

theorem HostOf.transfer {cReq : ClientRequest} {id host : String} (h : HostOf es cReq id host) :
    HostOf es' cReq id host :=
  ⟨h.1, hes _ h.2⟩

theorem Eligible.transfer {cfg : Config} {c : PolicyApi.EvaluateClientParams} {groupId : String}
    (h : Eligible cfg c es groupId) : Eligible cfg c es' groupId := by
  rcases h with ⟨hallowed, henabled⟩ | hdefault
  · exact Or.inl ⟨hallowed.transfer hes, hes _ henabled⟩
  · exact Or.inr hdefault

theorem Grounds.transfer {cfg : Config} {c : PolicyApi.EvaluateClientParams} {host : String}
    {cReq : ClientRequest} (h : Grounds cfg c es host cReq) : Grounds cfg c es' host cReq := by
  cases cReq with
  | api => exact h
  | ui queryId =>
    obtain ⟨id, hrec, hhost⟩ := h
    exact ⟨id, hes _ hrec, hhost.transfer hes⟩
  | queryApi nt => exact ⟨hes _ h.1, h.2.transfer hes⟩
  | query nt =>
    obtain ⟨hhost, hnew, hknown⟩ := h
    refine ⟨hhost.transfer hes, fun hid => ?_, fun hid => hes _ (hknown hid)⟩
    obtain ⟨hserves, hgroup⟩ := hnew hid
    exact ⟨hserves.transfer hes, hgroup.transfer hes⟩

theorem Chosen.transfer {cfg : Config} {c : PolicyApi.EvaluateClientParams}
    {backendId groupId : String} (h : Chosen cfg c es backendId groupId) :
    Chosen cfg c es' backendId groupId :=
  ⟨h.serves.imp_right fun hserves => hserves.transfer hes, h.eligible.transfer hes⟩

end Reasons

/-- Statements that have come since take no reason away. -/
theorem Sent.transfer {es es' : Record Stmt Stmt.Ans Db} (hes : es ⊆ es') {cfg : Config}
    {r : RouterServer} {req : Request} {shared : RouterServer.ContextSharedObject} {host : String}
    (h : Sent cfg r req es shared host) : Sent cfg r req es' shared host := by
  have hfound : ∀ φ, es.Found φ → es'.Found φ := fun φ hφ => hφ.mono hes fun _ hs => hs
  cases h with
  | failed err => exact .failed err
  | api method path => exact .api method path
  | unprepared nt new chosen unread =>
    exact .unprepared nt new (chosen.transfer hfound) (unread.mono hes)
  | routed cReq host h => exact .routed cReq _ (h.transfer hfound)

/-- A statement of a task, as it was performed. -/
def statementOf : Event DeployOp DeployOp.Ans Db → Option (Event Stmt Stmt.Ans Db)
  | ⟨.stmt o, s, x, s'⟩ => some ⟨o, s, x, s'⟩
  | ⟨.authenticate _ _, _, _, _⟩ | ⟨.roundTrip _ _, _, _, _⟩ | ⟨.withLabelValues _, _, _, _⟩
  | ⟨.inc _, _, _, _⟩ | ⟨.respond _, _, _, _⟩ => none

/-- The statements that a task has performed. -/
def statements (ds : Record DeployOp DeployOp.Ans Db) : Record Stmt Stmt.Ans Db :=
  ds.filterMap statementOf

theorem statements_append (ds ds' : Record DeployOp DeployOp.Ans Db) :
    statements (ds ++ ds') = statements ds ++ statements ds' := List.filterMap_append

theorem statements_embed (es : Record Stmt Stmt.Ans Db) :
    statements (Record.embed DeployOp.stmt es) = es := by
  unfold statements Record.embed
  rw [List.filterMap_map]
  exact List.filterMap_some

theorem found_of_statements {ds : Record DeployOp DeployOp.Ans Db} {φ : Db → Prop}
    (h : (statements ds).Found φ) : ds.Found φ := by
  obtain ⟨e, he, hφ⟩ := h
  obtain ⟨d, hd, heq⟩ := List.mem_filterMap.mp he
  obtain ⟨o, s, x, s'⟩ := d
  cases o with
  | stmt o =>
    obtain rfl := Option.some.inj heq
    exact ⟨_, hd, hφ⟩
  | authenticate username password => cases heq
  | roundTrip shared req => cases heq
  | withLabelValues m => cases heq
  | inc m => cases heq
  | respond reply => cases heq

/-- What the answers of the gateway server tell, by what its statements have found. -/
def Told (g : GatewayServer) : (o : RouterOp) → o.Ans → Record Stmt Stmt.Ans Db → Prop
  | .evaluateGroupsForClient c, res, es =>
    IfOk (fun ids => ∀ id ∈ ids, PolicyApi.Allowed es c id) res
  | .evaluateBackendForGroups ids, res, es =>
    IfOk (fun pair => (pair.1 = "" ∨ Serves es pair.2 pair.1) ∧
      ((pair.2 ∈ ids ∧ GroupEnabled es pair.2) ∨ pair.2 = g.cfg.defaultRoutingGroup)) res
  | .findBackendForQuery queryId, res, es => IfOk (fun pair => RecordedAt es queryId pair.1) res
  | .getBackend id, res, es =>
    IfOk (fun msg => es.Found fun db => BackendApi.Stored db id msg) res ∧
      ∀ err, res = .error err → BackendApi.Unread es id
  | .evaluateRequestSourceForClient _, _, _ | .evaluateAuthDelegationForClient _, _, _
  | .createOrUpdateQuery _, _, _ | .unixNow, _, _ => True

/-- A handler behind HTTP. -/
theorem learns_rpc {α : Type} {p : Srv (Result α)} {Q : α → Record Stmt Stmt.Ans Db → Prop}
    {es : Record Stmt Stmt.Ans Db} (h : Learns p Q es) : Learns (rpc p) Q es :=
  Records.recover (fun _ => trivial) h

theorem serve_told (g : GatewayServer) (o : RouterOp) (es : Record Stmt Stmt.Ans Db) :
    (g.serve o).Records Answered (fun _ _ => True) (Told g o) es := by
  have hany : ∀ p : Srv o.Ans, (∀ res es', Told g o res es') →
      p.Records Answered (fun _ _ => True) (Told g o) es := fun p htold =>
    (records_yields (yields_true p)).mono fun res new _ => htold res _
  cases o with
  | evaluateGroupsForClient c => exact learns_rpc (PolicyApi.learns_evaluateGroupsForClient g.ord c)
  | evaluateBackendForGroups ids =>
    exact learns_rpc (GroupApi.learns_evaluateBackendForGroups g.cfg ids)
  | findBackendForQuery queryId => exact learns_rpc (QueryApi.learns_findBackendForQuery queryId)
  | getBackend id =>
    exact (learns_rpc (BackendApi.learns_getBackend id)).and (BackendApi.getBackend_misses id)
  | evaluateRequestSourceForClient port => exact hany _ fun _ _ => trivial
  | evaluateAuthDelegationForClient port => exact hany _ fun _ _ => trivial
  | createOrUpdateQuery req => exact hany _ fun _ _ => trivial
  | unixNow => exact hany _ fun _ _ => trivial

namespace RouterServer

variable {gunzip : Gunzip} {r : RouterServer} {g : GatewayServer}
  {es : Record Stmt Stmt.Ans Db}

/-- What a preparation leaves: the request parsed, but for its server host, and the request to be
sent at the host of the backend, or where it was, if the backend could not be read. -/
structure PreparedFor (req : Request) (id : String) (cReq : ClientRequest) (p : Prepared)
    (es : Record Stmt Stmt.Ans Db) : Prop where
  kept : ∃ serverHost, p.cReq = cReq ∨ p.cReq = cReq.withServerHost serverHost
  host : (p.err ≠ .ok () ∧ p.req.url.host = req.url.host ∧
      (cReq = .api ∨ BackendApi.Unread es id)) ∨ HostOf es cReq id p.req.url.host

theorem reaches_hostOf {cReq : ClientRequest} (hc : cReq ≠ .api) {b : Backend} {msg : BackendMsg}
    (hhost : b.hostname = msg.hostname) (hurl : b.externalUrl = some msg.externalUrl) :
    cReq.Reaches b (cReq.hostOf msg) := by
  cases cReq with
  | api => exact absurd rfl hc
  | ui queryId => exact hurl
  | query nt => exact hhost
  | queryApi nt => exact hhost

theorem prepareReqForRouting_hears (req : Request) (id : String) (cReq : ClientRequest) :
    (r.prepareReqForRouting req id cReq).Hears (Told g) (PreparedFor req id cReq) es := by
  intro res new htold
  cases res with
  | error err =>
    have hunread : BackendApi.Unread (es ++ new) id := htold.2 err rfl
    exact ⟨⟨"", Or.inl rfl⟩, Or.inl ⟨by simp, rfl, Or.inr hunread⟩⟩
  | ok msg =>
    dsimp only
    split
    · rename_i hc
      exact ⟨⟨"", Or.inl rfl⟩, Or.inl ⟨by simp, rfl, Or.inl hc⟩⟩
    · rename_i hc
      intro source new' _
      have hhost : HostOf (es ++ new ++ new') cReq id (cReq.hostOf msg) := by
        obtain ⟨e, he, hne, b, hb, hid, hhostname, hurl⟩ := htold.1
        have hreach := reaches_hostOf hc hhostname hurl
        exact ⟨hne, e, List.mem_append_left _ he, b, hb, hid, hreach⟩
      cases source with
      | error err => exact ⟨⟨_, Or.inr rfl⟩, Or.inr hhost⟩
      | ok source => exact ⟨⟨_, Or.inr rfl⟩, Or.inr hhost⟩

/-- The server host of a query is no reason. -/
theorem routed_withServerHost {cfg : Config} {c : PolicyApi.EvaluateClientParams} {host : String}
    {cReq : ClientRequest} (h : Grounds cfg c es host cReq) (serverHost : String) :
    Grounds cfg c es host (cReq.withServerHost serverHost) := by
  cases cReq with
  | api => exact h
  | ui queryId => exact h
  | query nt => exact h
  | queryApi nt => exact h

/-- What a routing ends with: there is a reason, or a new query is passed on as it came, since the
backend that was chosen could not be read. -/
def RoutesTo (cfg : Config) (c : PolicyApi.EvaluateClientParams) (req : Request)
    (res : Result (Option ClientRequest) × Request) (es : Record Stmt Stmt.Ans Db) : Prop :=
  IfOk (fun routed => ∃ cReq, routed = some cReq ∧
    (Grounds cfg c es res.2.url.host cReq ∨
      ∃ nt, cReq = .query nt ∧ nt.query.id = "" ∧
        Chosen cfg c es nt.query.backendId nt.query.groupId ∧
        BackendApi.Unread es nt.query.backendId ∧ res.2.url.host = req.url.host)) res.1

variable {c : PolicyApi.EvaluateClientParams} {req : Request}

/-- A routing that ends with what a preparation returned. -/
theorem hears_returned {id : String} {cReq : ClientRequest} {p : Prepared}
    (hp : PreparedFor req id cReq p es)
    (hr : HostOf es cReq id p.req.url.host → Grounds g.cfg c es p.req.url.host cReq) :
    RoutesTo g.cfg c req (returned p) es := by
  unfold returned
  cases herr : p.err with
  | error err => trivial
  | ok _ =>
    obtain ⟨serverHost, hkept⟩ := hp.kept
    have hhost : HostOf es cReq id p.req.url.host := by
      rcases hp.host with ⟨hne, -, -⟩ | hhost
      · exact absurd herr hne
      · exact hhost
    refine ⟨p.cReq, rfl, Or.inl ?_⟩
    rcases hkept with hkept | hkept
    · rw [hkept]
      exact hr hhost
    · rw [hkept]
      exact routed_withServerHost (hr hhost) serverHost

theorem routeUi_hears (queryId : String) :
    (r.routeUi req queryId).Hears (Told g) (RoutesTo g.cfg c req) es := by
  intro res new htold
  cases res with
  | error err => trivial
  | ok pair =>
    refine (prepareReqForRouting_hears req pair.1 (.ui queryId)).bind fun p new' hp => ?_
    have hrec : RecordedAt (es ++ new) queryId pair.1 := htold
    exact hears_returned hp fun hhost => ⟨pair.1, hrec.append_right new', hhost⟩

/-- A lookup that failed leaves the empty id, which no backend has. -/
theorem recordedAt_pairOf {queryId : String} {res : Result (String × String)}
    (htold : IfOk (fun pair => RecordedAt es queryId pair.1) res) (hne : (pairOf res).1 ≠ "") :
    RecordedAt es queryId (pairOf res).1 := by
  cases res with
  | error err => exact absurd rfl hne
  | ok pair => exact htold

theorem routeKnown_hears {kind : QueryRequest → ClientRequest} (nt : QueryRequest)
    (hkind : (kind = .query ∧ nt.query.id ≠ "") ∨ kind = .queryApi) :
    (r.routeKnown req kind nt).Hears (Told g) (RoutesTo g.cfg c req) es := by
  intro res new htold
  refine (prepareReqForRouting_hears req _ _).bind fun p new' hp => ?_
  refine hears_returned hp fun hhost => ?_
  have hrec := (recordedAt_pairOf htold hhost.1).append_right new'
  rcases hkind with ⟨rfl, hknown⟩ | rfl
  · exact ⟨hhost, fun hnew => absurd hnew hknown, fun _ => hrec⟩
  · exact ⟨hrec, hhost⟩

theorem evaluateRoutingBackend_hears (nt : QueryRequest) :
    (evaluateRoutingBackend nt).Hears (Told g) (fun res es' => IfOk (fun pair =>
      Chosen g.cfg (clientParams nt) es' pair.1 pair.2) res) es := by
  intro res new htold
  cases res with
  | error err => trivial
  | ok ids =>
    intro res new' htold'
    cases res with
    | error err => trivial
    | ok pair =>
      obtain ⟨hserves, hgroup⟩ := htold'
      refine ⟨hserves, ?_⟩
      rcases hgroup with ⟨hid, henabled⟩ | hdefault
      · have hallowed : PolicyApi.Allowed (es ++ new) (clientParams nt) pair.2 := htold pair.2 hid
        exact Or.inl ⟨hallowed.transfer fun φ h => h.append_right new', henabled⟩
      · exact Or.inr hdefault

theorem routeSubmission_hears (nt : QueryRequest) (hnew : nt.query.id = "") :
    (r.routeSubmission req nt).Hears (Told g) (RoutesTo g.cfg (clientParams nt) req) es := by
  refine (evaluateRoutingBackend_hears nt).bind fun resolved new hres => ?_
  refine (prepareReqForRouting_hears req _ _).bind fun p new' hp => ?_
  cases resolved with
  | error err => trivial
  | ok pair =>
    obtain ⟨serverHost, hkept⟩ := hp.kept
    have hquery : ∃ nt', p.cReq = .query nt' ∧ nt'.query.id = "" := by
      rcases hkept with hkept | hkept
      · exact ⟨nt, hkept, hnew⟩
      · exact ⟨_, hkept, hnew⟩
    obtain ⟨nt', hcReq, hnew'⟩ := hquery
    rw [hcReq]
    have hchosen : Chosen g.cfg (clientParams nt) (es ++ new ++ new') pair.1 pair.2 :=
      Chosen.transfer (fun φ h => h.append_right new') hres
    refine ⟨_, rfl, ?_⟩
    rcases hp.host with ⟨-, hsame, hapi | hunread⟩ | hhost
    · cases hapi
    · exact Or.inr ⟨_, rfl, hnew', hchosen, hunread, hsame⟩
    · refine Or.inl ⟨hhost, ?_⟩
      rcases hchosen.serves with hempty | hserves
      · exact absurd hempty hhost.1
      · exact ⟨fun _ => ⟨hserves, hchosen.eligible⟩, fun hid => absurd hnew' hid⟩

/-- What a request may be parsed as. -/
inductive ParsedFrom (r : RouterServer) (req : Request) : ClientRequest → Prop
  | api (method : req.method = "GET")
      (path : Text.contains req.url.path "v1/info" ∨ Text.contains req.url.path "v1/status") :
      ParsedFrom r req .api
  | ui (queryId : String) : ParsedFrom r req (.ui queryId)
  | query (query : QueryMsg) (utf8 : Bool) :
      ParsedFrom r req (.query { r.queryRequestOf req query with utf8 := utf8 })
  | queryApi (query : QueryMsg) : ParsedFrom r req (.queryApi (r.queryRequestOf req query))

theorem parsedFrom_parse {mid : Request} {cReq : ClientRequest}
    (h : r.parseClientRequest gunzip req = some (.ok cReq, mid)) : ParsedFrom r req cReq := by
  have hsome : ∀ {cReq' : ClientRequest} {mid' : Request},
      some ((.ok cReq' : Except String ClientRequest), mid') = some (.ok cReq, mid) → cReq' = cReq :=
    fun heq => Except.ok.inj (Prod.mk.inj (Option.some.inj heq)).1
  unfold parseClientRequest at h
  by_cases hget : req.method = "GET"
  · rw [if_pos hget] at h
    split at h
    · obtain rfl := hsome h
      exact .ui req.url.rawQuery
    · split at h
      · rename_i hpath
        obtain rfl := hsome h
        exact .api hget hpath
      · cases h
  · rw [if_neg hget] at h
    split at h
    · obtain ⟨res, -, heq⟩ := Option.map_eq_some_iff.mp h
      obtain rfl := Except.ok.inj (Prod.mk.inj heq).1
      exact .query _ _
    · split at h
      · obtain rfl := hsome h
        exact .queryApi _
      · cases h

theorem routeRequest_hears {mid : Request} {cReq : ClientRequest}
    (hparsed : ParsedFrom r req cReq) (hurl : mid.url = req.url) :
    (r.routeRequest mid cReq).Hears (Told g) (fun res es' => IfOk (fun routed =>
      Sent g.cfg r req es' ⟨routed, none⟩ res.2.url.host) res.1) es := by
  have hsent : ∀ res es', RoutesTo g.cfg (r.policyParams req) mid res es' →
      IfOk (fun routed => Sent g.cfg r req es' ⟨routed, none⟩ res.2.url.host) res.1 := by
    rintro ⟨res, out⟩ es' h
    cases res with
    | error err => trivial
    | ok routed =>
      obtain ⟨cReq', rfl, hrouted | ⟨nt, rfl, hnew, hchosen, hunread, hsame⟩⟩ := h
      · exact Sent.routed cReq' _ hrouted
      · rw [hurl] at hsame
        have hun : Sent g.cfg r req es' ⟨some (.query nt), none⟩ req.url.host :=
          Sent.unprepared nt hnew hchosen hunread
        rw [← hsame] at hun
        exact hun
  cases hparsed with
  | api hmethod hpath =>
    have hapi : Sent g.cfg r req es ⟨none, none⟩ req.url.host := Sent.api hmethod hpath
    rw [← hurl] at hapi
    exact hapi
  | ui queryId => exact (routeUi_hears queryId).mono fun res new hres => hsent res _ hres
  | queryApi query =>
    exact (routeKnown_hears _ (Or.inr rfl)).mono fun res new hres => hsent res _ hres
  | query query utf8 =>
    set nt : QueryRequest := { r.queryRequestOf req query with utf8 := utf8 } with hnt
    have hroutes : (r.routeRequest mid (.query nt)).Hears (Told g)
        (RoutesTo g.cfg (r.policyParams req) mid) es := by
      simp only [routeRequest]
      split
      · rename_i hknown
        exact routeKnown_hears nt (Or.inl ⟨rfl, hknown⟩)
      · rename_i hnew
        -- the parsed query has the fields that policies see of the request
        exact routeSubmission_hears nt (by simpa using hnew)
    exact hroutes.mono fun res new hres => hsent res _ hres

/-- **The director sends a request only where it may be sent.** -/
theorem handleClientRequest_hears (req : Request) :
    (r.handleClientRequest gunzip req).Hears (Told g)
      (fun res es' => Sent g.cfg r req es' res.1 res.2.url.host) es := by
  have hprocess : (r.processRequest gunzip req).Hears (Told g)
      (fun res es' => IfOk (fun routed =>
        Sent g.cfg r req es' ⟨routed, none⟩ res.2.url.host) res.1) es := by
    refine Hears.deref fun parsed hparse => ?_
    obtain ⟨parsed, mid⟩ := parsed
    cases parsed with
    | error err => trivial
    | ok cReq =>
      dsimp only
      cases cReq.validate with
      | error err => trivial
      | ok _ => exact routeRequest_hears (parsedFrom_parse hparse) (parseClientRequest_url hparse)
  refine hprocess.bind fun res new hres => ?_
  obtain ⟨res, out⟩ := res
  cases res with
  | error err => exact Sent.failed err
  | ok routed => exact hres

theorem handleClientRequest_sent (req : Request) :
    (g.onServer (r.handleClientRequest gunzip req)).Records Answered (fun _ _ => True)
      (fun res es' => Sent g.cfg r req es' res.1 res.2.url.host) es :=
  Hears.interp (serve_told g) (handleClientRequest_hears req)

/-- What is due when a request is sent: a reason, in the statements of its record. -/
def SentWhere (cfg : Config) (r : RouterServer) (req : Request)
    (es : Record DeployOp DeployOp.Ans Db) (e : Event DeployOp DeployOp.Ans Db) : Prop :=
  ∀ shared out, e.op = .roundTrip shared out → Sent cfg r req (statements es) shared out.url.host

/-- The operation sends nothing. -/
def NotSent : DeployOp → Prop
  | .roundTrip _ _ => False
  | .stmt _ | .authenticate _ _ | .withLabelValues _ | .inc _ | .respond _ => True

/-- The judgement of a handler: it sends requests only with a reason. -/
abbrev Justified {α : Type} (cfg : Config) (r : RouterServer) (req : Request) (p : Deploy α)
    (Q : α → Record DeployOp DeployOp.Ans Db → Prop) (es : Record DeployOp DeployOp.Ans Db) : Prop :=
  p.Records (fun e => Explained e ∧ e.before.Named) (SentWhere cfg r req) Q es

variable {ds : Record DeployOp DeployOp.Ans Db}

theorem justified_notSent {cfg : Config} {α : Type} {p : Deploy α} (hp : p.AllOps NotSent) :
    Justified cfg r req p (fun _ _ => True) ds := by
  refine Records.of_allOps (J := fun _ => True) hp (fun es e _ he _ => ⟨?_, trivial⟩) trivial
  intro shared out heq
  rw [heq] at he
  exact he.elim

/-- What a function of the gateway server learns, its handler knows. -/
theorem justified_onDb {cfg : Config} {α : Type} {p : Srv α}
    {Q : α → Record Stmt Stmt.Ans Db → Prop}
    (h : p.Records Answered (fun _ _ => True) Q []) :
    Justified cfg r req (Deploy.onDb p)
      (fun a ds' => ∃ es, Q a es ∧ es ⊆ statements ds') ds := by
  refine Prog.Records.embed (e := DeployOp.stmt) ?_
  refine (h.weaken (fun e he => ?_) fun es e _ _ => ?_).mono fun a new ha => ?_
  · obtain ⟨⟨now, fault, -, hanswer, -⟩, hnamed⟩ := he
    exact ⟨⟨now, fault, hanswer⟩, hnamed⟩
  · intro shared out heq
    cases heq
  · refine ⟨_, ha, ?_⟩
    rw [statements_append, statements_embed]
    exact List.subset_append_right _ _

theorem notSent_of_answering {o : DeployOp} (h : o.Answering) : NotSent o := by
  cases o with
  | roundTrip shared out => exact h.elim
  | stmt o => trivial
  | authenticate username password => trivial
  | withLabelValues m => trivial
  | inc m => trivial
  | respond reply => trivial

theorem notSent_onDb {α : Type} (p : Srv α) : (Deploy.onDb p).AllOps NotSent :=
  (allOps_true p).embed DeployOp.Ans fun _ _ => trivial

theorem notSent_authHandler (req : Request) :
    ((r.authHandler req).interp (Deploy.handlerOp g)).AllOps NotSent := by
  refine (allOps_true _).interp fun o _ => ?_
  cases o with
  | rpc o => exact notSent_onDb (g.serve o)
  | authenticate username password => exact ⟨trivial, fun _ => trivial⟩

theorem notSent_runSave (save : Option QuerySave) : (runSave g save).AllOps NotSent := by
  cases save with
  | none => trivial
  | some save => exact notSent_onDb _

theorem director_justified (mid : Request) :
    Justified g.cfg r mid (r.director gunzip g mid)
      (fun res ds' => Sent g.cfg r mid (statements ds') res.1.toContextSharedObject
        res.2.url.host) ds := by
  have hlook : Justified g.cfg r mid (Deploy.withLabelValues
      (.requestsReceivedTotal mid.method (toString r.port))) (fun _ _ => True) ds :=
    justified_notSent ⟨trivial, fun _ => trivial⟩
  refine hlook.bind fun _ new _ => ?_
  refine (justified_onDb (handleClientRequest_sent mid)).bind fun res new' hres => ?_
  obtain ⟨shared, out⟩ := res
  obtain ⟨es, hsent, hes⟩ := hres
  have hhere := hsent.transfer hes
  dsimp only
  split
  · exact hhere
  · have hcount : ∀ m, (Deploy.inc m).AllOps NotSent := by
      intro m
      exact (inc_telling m).mono fun _ ho => notSent_of_answering ho.answering
    refine (justified_notSent (hcount _)).bind fun _ new'' _ => ?_
    have hlater : statements (ds ++ new ++ new') ⊆ statements (ds ++ new ++ new' ++ new'') := by
      rw [statements_append _ new'']
      exact List.subset_append_left _ _
    exact hhere.transfer hlater

/-- The body of a request is no reason. -/
theorem sent_cloned {cfg : Config} {es : Record Stmt Stmt.Ans Db} {shared : ContextSharedObject}
    {host : String} (h : Sent cfg r req.cloned es shared host) : Sent cfg r req es shared host := by
  unfold Request.cloned at h
  split at h
  · cases h with
    | failed err => exact .failed err
    | api hmethod hpath => exact .api hmethod hpath
    | unprepared nt hnew hchosen hunread => exact .unprepared nt hnew hchosen hunread
    | routed cReq host h => exact .routed cReq _ h
  · exact h

theorem reverseProxy_justified (mid : Request) :
    Justified g.cfg r mid (r.reverseProxy gunzip g mid) (fun _ _ => True) ds := by
  have hanswers : ∀ {α : Type} {p : Deploy α} {ds : Record DeployOp DeployOp.Ans Db},
      p.AllOps DeployOp.Answering → Justified g.cfg r mid p (fun _ _ => True) ds :=
    fun hp => justified_notSent (hp.mono fun _ => notSent_of_answering)
  have hdirector : Justified g.cfg r mid (r.director gunzip g mid.cloned)
      (fun res ds' => Sent g.cfg r mid.cloned (statements ds') res.1.toContextSharedObject
        res.2.url.host) ds := by
    refine (director_justified mid.cloned).weaken (fun e he => he) fun es e _ hc shared out heq => ?_
    exact sent_cloned (hc shared out heq)
  refine hdirector.bind fun res new hsent => ?_
  obtain ⟨shared, out⟩ := res
  dsimp only
  split
  · exact hanswers ⟨trivial, fun _ => trivial⟩
  · intro s resp s' _
    refine ⟨fun shared' out' heq => ?_, hanswers (afterRoundTrip_answering _ _ resp)⟩
    obtain ⟨rfl, rfl⟩ := DeployOp.roundTrip.inj heq
    exact sent_cloned hsent

theorem get_delAuthorization (req : Request) {key : String} (hkey : key ≠ "Authorization") :
    req.delAuthorization.header.get key = req.header.get key := by
  rw [Header.get, Header.get, Request.delAuthorization, Header.values_del_of_ne hkey]

theorem trinoHeader_delAuthorization (req : Request) {key : String}
    (hpresto : TrinoHeaders.headerKey "Presto" key ≠ "Authorization")
    (htrino : TrinoHeaders.headerKey "Trino" key ≠ "Authorization") :
    TrinoHeaders.get key req.delAuthorization = TrinoHeaders.get key req := by
  rw [TrinoHeaders.get_eq, TrinoHeaders.get_eq, get_delAuthorization req hpresto,
    get_delAuthorization req htrino]

/-- The password of a request is no reason. -/
theorem sent_delAuthorization {cfg : Config} {shared : ContextSharedObject} {host : String}
    (h : Sent cfg r req.delAuthorization es shared host) : Sent cfg r req es shared host := by
  have hparams : r.policyParams req.delAuthorization = r.policyParams req := by
    unfold policyParams
    rw [trinoHeader_delAuthorization req (by decide) (by decide),
      trinoHeader_delAuthorization req (by decide) (by decide)]
    rfl
  cases h with
  | failed err => exact .failed err
  | api hmethod hpath => exact .api hmethod hpath
  | unprepared nt hnew hchosen hunread => exact .unprepared nt hnew (hparams ▸ hchosen) hunread
  | routed cReq host h => exact .routed cReq _ (hparams ▸ h)

/-- **The judgement of the handlers**: a request is sent only with a reason. -/
theorem serveClient_justified (req : Request) :
    Justified g.cfg r req (r.serveClient gunzip g req) (fun _ _ => True) [] := by
  have hauth := notSent_authHandler (r := r) (g := g) req
  have hproxy : ∀ mid new, (mid = req ∨ mid = req.delAuthorization) →
      Justified g.cfg r req (r.reverseProxy gunzip g mid) (fun _ _ => True) ([] ++ new) := by
    rintro mid new (rfl | rfl)
    · exact reverseProxy_justified _
    · refine (reverseProxy_justified req.delAuthorization).weaken (fun e he => he)
        fun es e _ h shared out heq => ?_
      exact sent_delAuthorization (h shared out heq)
  have hhttp : Justified g.cfg r req (r.serveHTTP gunzip g req) (fun _ _ => True) [] := by
    refine ((justified_notSent hauth).yields (authHandler_decides req).interp).bind
      fun res new hres => ?_
    cases res with
    | refused code msg => exact justified_notSent ⟨trivial, fun _ => trivial⟩
    | served mid => exact hproxy mid new hres.2
  refine hhttp.bind fun res new _ => ?_
  obtain ⟨save, brokenOff⟩ := res
  refine (justified_notSent (notSent_runSave save)).bind fun _ new' _ => ?_
  cases brokenOff with
  | true => trivial
  | false => trivial

end RouterServer

/-- A statement within any scope leaves no backend without an id. -/
theorem exec_named {S : Scope} {o : Stmt} (ho : o.Within S) (now : ℤ) (fault : Option DbErr)
    {db : Db} (h : db.Named) : (exec now fault o db).2.Named := by
  intro b hb
  rcases exec_mem_rows (t := .backends) hb with hb | ⟨row, rfl, ha⟩ | ⟨row, old, rfl, hold, ha⟩
  · exact h b hb
  · have hvalid := (Backend.validate_ok_iff row).mp ho.2
    obtain ⟨hid, -⟩ := Db.accept_backend ha
    rw [hid]
    exact hvalid.id.1
  · obtain ⟨hid, -⟩ := Db.accept_backend ha
    rw [hid]
    exact h old (Db.mem_of_find hold)

namespace Run

variable {ι : Type} [DecidableEq ι] (R : Run ι)

theorem always_named (h : R.db.Named) : R.Always Db.Named :=
  R.always (fun _ now fault _ ho hdb => exec_named ho now fault hdb) h

/-- **Every request that is sent was sent for a reason.** In any interleaving, when the request of a
client is sent to a host, its own statements have found the backend of the query's record under
this host; or for a new query a backend that was active and mapped to a group, which was enabled
and which every kind of policy allowed, or was the default; or the request goes to the invalid
host. It goes where the client says if it asks for the state of a cluster, or if the backend that
was chosen for a new query could not be read. -/
theorem exchange_sent {i : ι} {r : RouterServer} {req : Request}
    (h : R.arrivals i = .client r req) (hnamed : R.db.Named)
    {pre post : Record DeployOp DeployOp.Ans Db} {e : Event DeployOp DeployOp.Ans Db}
    (hrec : R.record i = pre ++ e :: post) {shared : RouterServer.ContextSharedObject}
    {out : Request} (he : e.op = .roundTrip shared out) :
    Sent (R.server i).cfg r req (statements pre) shared out.url.host := by
  have hsound := R.sound_client h (R.always_named hnamed)
    (RouterServer.serveClient_justified req)
  exact hsound.due pre e post hrec shared out he

/-- A cluster that serves the default group, with a policy for the port. -/
def oneBackend : Db where
  backends :=
    [{ id := "trino-1", hostname := "trino-1:8080", scheme := "http", externalUrl := some "trino.dev",
       isEnabled := some true, isHealthy := some true, uptimeSchedule := some "* * * * *",
       clusterLoad := some 0, thresholdClusterLoad := some 0, statsUpdatedAt := some 0 }]
  groups :=
    [{ id := "adhoc", strategy := some "random", isEnabled := some true,
       lastRoutedBackend := some "" }]
  mappings := [{ id := some 1, groupId := "adhoc", backendId := "trino-1" }]
  policies :=
    [{ id := "adhoc-port", ruleType := "listening_port", ruleValue := "8080", groupId := "adhoc",
       fallbackGroupId := some "adhoc", isEnabled := some true, isAuthDelegated := some false,
       setRequestSource := some "" }]

/-- A new query, to its end. -/
def submission : Run Unit :=
  Run.play RouterServer.sortedServer
    (fun _ => .client { port := 8080, routerHostname := "" } RouterServer.selectOne) oneBackend 0
    (fun _ => none) (List.replicate 18 ())

/-- An operation that sends the request of a query to a host. -/
def SendsQuery (host : String) : Option DeployOp → Bool
  | some (.roundTrip shared out) => shared.clientRequest.isSome && out.url.host == host
  | _ => false

theorem sendsQuery_iff {host : String} {o : Option DeployOp} :
    SendsQuery host o = true ↔ ∃ shared out, o = some (.roundTrip shared out) ∧
      shared.clientRequest ≠ none ∧ out.url.host = host := by
  constructor
  · intro h
    unfold SendsQuery at h
    split at h
    · rename_i shared out
      have hand := Bool.and_eq_true_iff.mp h
      exact ⟨shared, out, rfl, Option.isSome_iff_ne_none.mp hand.1, eq_of_beq hand.2⟩
    · cases h
  · rintro ⟨shared, out, rfl, hsome, rfl⟩
    show (shared.clientRequest.isSome && out.url.host == out.url.host) = true
    rw [Option.isSome_iff_ne_none.mpr hsome, beq_self_eq_true, Bool.and_self]

/-- It is sent to the cluster. -/
theorem submission_sent : ∃ shared, shared.clientRequest ≠ none ∧
    Sent RouterServer.sortedServer.cfg { port := 8080, routerHostname := "" }
      RouterServer.selectOne (statements ((submission.record ()).take 14)) shared
      "trino-1:8080" := by
  have hrun : SendsQuery "trino-1:8080" (((submission.record ()).map Event.op)[14]?) = true := by
    decide +kernel
  obtain ⟨shared, out, hop, hsome, hhost⟩ := sendsQuery_iff.mp hrun
  obtain ⟨e, hrec, he⟩ := Record.exists_event hop
  have hnamed : submission.db.Named := by
    intro b hb
    obtain rfl := List.mem_singleton.mp hb
    decide
  have hsent := submission.exchange_sent rfl hnamed hrec he
  rw [hhost] at hsent
  exact ⟨shared, hsome, hsent⟩

end Run

end TrinoGateway
