import TrinoGateway.Proof.Provenance

/-!
# Where the history of queries comes from

The history is written by the goroutine that follows a submission's response, and by the API. A
record is saved in two statements, a query's text and its backend are columns that an update with an
empty value leaves, and any number of saves go on at once.

* `serveClient_logs`: a client's request saves what its own exchange was about, after a response
  that is no error.
* `Run.history_founded`: **in every interleaving, each column of each record is that of a record that
  was there, of an upsert of the API, or of an exchange with the backend**, which has answered with
  this very id.
-/

namespace TrinoGateway

open Interact Prog

/-- The statement writes this record. -/
def Stmt.Saves (row : Query) (o : Stmt) : Prop := o = .insert .queries row ∨ o = .updates .queries row

/-- The columns of a record that say what was asked, by whom, and where it went. -/
def Query.texts : List (Query → String) :=
  [Query.text, Query.clientIp, Query.groupId, Query.backendId, Query.username, Query.serverHost]

/-- The record as the columns keep it. -/
def Query.kept (row : Query) : Query := Tbl.fitted .queries row

/-- A statement that names no query writes no record. -/
theorem Stmt.Within.not_saves {S : Scope} (hS : ∀ id, ¬ S .queries id) {o : Stmt} (h : o.Within S)
    (row : Query) : ¬ o.Saves row := by
  rintro (rfl | rfl)
  · exact hS _ h.1
  · rcases h with hrow | hturn
    · exact hS _ hrow
    · exact hturn

theorem texts_inserted {db : Db} {now : ℤ} {row r : Query}
    (h : db.accept .queries (Tbl.onInsert now .queries row) = .ok r) :
    r.id = row.id ∧ ∀ col ∈ Query.texts, col r = col row.kept := by
  obtain ⟨rfl, -⟩ := Db.accept_ok h
  refine ⟨rfl, fun col hcol => ?_⟩
  unfold Query.texts at hcol
  simp only [List.mem_cons, List.not_mem_nil, or_false] at hcol
  rcases hcol with rfl | rfl | rfl | rfl | rfl | rfl <;> rfl

theorem texts_updated {db : Db} {now : ℤ} {old row r : Query}
    (h : db.accept .queries (Tbl.onUpdate now .queries old row) = .ok r) :
    r.id = old.id ∧ ∀ col ∈ Query.texts, col r = col row.kept ∨ col r = col old := by
  obtain ⟨rfl, -⟩ := Db.accept_ok h
  refine ⟨rfl, fun col hcol => ?_⟩
  have htext : ∀ n new old, textField n new old = cut n new ∨ textField n new old = old :=
    textField_cases
  have hid : ∀ new old : String, nonZero "" new old = new ∨ nonZero "" new old = old :=
    nonZero_eq_or ""
  unfold Query.texts at hcol
  simp only [List.mem_cons, List.not_mem_nil, or_false] at hcol
  rcases hcol with rfl | rfl | rfl | rfl | rfl | rfl
  · exact htext 500 _ _
  · exact htext 255 _ _
  · exact hid _ _
  · exact hid _ _
  · exact htext 255 _ _
  · exact htext 255 _ _

/-- The query is the one that the request submits: its text, its user and where it comes from. -/
structure Submits (gunzip : Gunzip) (req : Request) (query : QueryMsg) : Prop where
  username : query.username = TrinoHeaders.get TrinoHeaders.user req
  clientIp : query.clientIp = req.remoteAddr
  text : ∃ res, constructQueryFromReq gunzip req = some res ∧ query.text = res.1.toOption.getD ""

/-- The exchange of a request ends with this save: the backend's response is no error. -/
def Exchange.EndsIn (gunzip : Gunzip) (r : RouterServer) (req : Request) (x : Exchange)
    (save : RouterServer.QuerySave) : Prop :=
  ∃ resp nt out, x.resp = some resp ∧ 200 ≤ resp.statusCode ∧ resp.statusCode < 400 ∧
    x.shared.clientRequest = some (.query nt) ∧ Submits gunzip req nt.query ∧ save.req = nt.query ∧
    r.processResponse gunzip resp.endToEnd (some (.query nt)) = some (out, some save)

/-- The record that a save writes at a moment. -/
def RouterServer.QuerySave.rowAt (save : RouterServer.QuerySave) (now : ℤ) : Query :=
  QueryApi.queryOf { save.req with
    id := RouterServer.extractQueryIdFromServerResponse save.body
    submittedAt := now }

/-- The record, as the columns keep it, comes from the exchange. -/
def Exchange.Logs (gunzip : Gunzip) (r : RouterServer) (req : Request) (x : Exchange)
    (row : Query) : Prop :=
  ∃ save now, x.EndsIn gunzip r req save ∧ row = (save.rowAt now).kept

namespace RouterServer

variable {gunzip : Gunzip} {r : RouterServer} {g : GatewayServer} {req : Request}

/-- What is due of a client's request: it writes records of its exchange only. -/
def LogsOnly (gunzip : Gunzip) (r : RouterServer) (req : Request)
    (es : Record DeployOp DeployOp.Ans Db) (e : Event DeployOp DeployOp.Ans Db) : Prop :=
  ∀ o row, e.op = .stmt o → o.Saves row →
    ∃ x, .sent x ∈ visible es ∧ x.Logs gunzip r req row.kept

abbrev Logging {α : Type} (gunzip : Gunzip) (r : RouterServer) (req : Request) (p : Deploy α)
    (Q : α → Record DeployOp DeployOp.Ans Db → Prop) (es : Record DeployOp DeployOp.Ans Db) : Prop :=
  p.Records Explained (LogsOnly gunzip r req) Q es

variable {es : Record DeployOp DeployOp.Ans Db}

/-- A part that names no query. -/
theorem logging_silent {α : Type} {p : Deploy α}
    (hp : p.AllOps (DeployOp.OnDb (Stmt.Within fun _ _ => False))) :
    Logging gunzip r req p (fun _ _ => True) es := by
  refine Records.of_allOps (J := fun _ => True) hp (fun es e _ he _ => ⟨?_, trivial⟩) trivial
  intro o row heq hsaves
  rw [heq] at he
  have hwithin : o.Within fun _ _ => False := he
  exact absurd hsaves (hwithin.not_saves (fun _ => id) row)

/-- A question that saves nothing. -/
def Lookup : RouterOp → Prop
  | .createOrUpdateQuery _ => False
  | .evaluateGroupsForClient _ | .evaluateBackendForGroups _ | .findBackendForQuery _ | .getBackend _
  | .evaluateRequestSourceForClient _ | .evaluateAuthDelegationForClient _ | .unixNow => True

/-- A program that only looks up, and does not panic. -/
abbrev LooksUp {α : Type} (p : Router α) : Prop :=
  p.Meets Lookup (fun _ _ => True) fun _ => True

theorem prepareReqForRouting_looksUp (mid : Request) (id : String) (cReq : ClientRequest) :
    LooksUp (r.prepareReqForRouting mid id cReq) := by
  refine ⟨trivial, fun res _ => ?_⟩
  cases res with
  | error err => trivial
  | ok msg =>
    dsimp only
    split
    · trivial
    · refine ⟨trivial, fun source _ => ?_⟩
      cases source <;> trivial

theorem routeRequest_looksUp (mid : Request) (cReq : ClientRequest) :
    LooksUp (r.routeRequest mid cReq) := by
  have hknown : ∀ kind nt, LooksUp (r.routeKnown mid kind nt) := by
    intro kind nt
    exact ⟨trivial, fun _ _ => (prepareReqForRouting_looksUp mid _ _).bind fun _ _ => trivial⟩
  cases cReq with
  | api => trivial
  | ui queryId =>
    refine ⟨trivial, fun res _ => ?_⟩
    cases res with
    | error err => trivial
    | ok pair => exact (prepareReqForRouting_looksUp mid _ _).bind fun _ _ => trivial
  | queryApi nt => exact hknown .queryApi nt
  | query nt =>
    simp only [routeRequest]
    split
    · exact hknown .query nt
    · have hevaluate : LooksUp (evaluateRoutingBackend nt) := by
        refine ⟨trivial, fun res _ => ?_⟩
        cases res with
        | error err => trivial
        | ok ids => exact ⟨trivial, fun _ _ => trivial⟩
      refine hevaluate.bind fun resolved _ =>
        (prepareReqForRouting_looksUp mid _ _).bind fun p _ => ?_
      split <;> trivial

/-- The director only looks up, if the request can be parsed. -/
theorem handleClientRequest_looksUp {mid : Request}
    (h : r.parseClientRequest gunzip mid ≠ none) : LooksUp (r.handleClientRequest gunzip mid) := by
  have hprocess : LooksUp (r.processRequest gunzip mid) := by
    refine Meets.deref (Option.isSome_iff_ne_none.mpr h) fun parsed _ => ?_
    obtain ⟨parsed, restored⟩ := parsed
    cases parsed with
    | error err => trivial
    | ok cReq =>
      dsimp only
      cases cReq.validate with
      | error err => trivial
      | ok _ => exact routeRequest_looksUp restored cReq
  refine hprocess.bind fun res _ => ?_
  obtain ⟨res, out⟩ := res
  cases res <;> trivial

/-- The director asks nothing else, in any case. -/
theorem handleClientRequest_lookups (mid : Request) :
    (r.handleClientRequest gunzip mid).AllOps Lookup := by
  by_cases h : r.parseClientRequest gunzip mid = none
  · unfold handleClientRequest processRequest
    rw [h]
    trivial
  · exact (handleClientRequest_looksUp h).allOps

theorem onServer_silent {α : Type} {p : Router α} (hp : p.AllOps Lookup) :
    (Deploy.onDb (g.onServer p)).AllOps (DeployOp.OnDb (Stmt.Within fun _ _ => False)) := by
  have hserve : (g.onServer p).AllOps (Stmt.Within fun _ _ => False) := by
    refine hp.interp fun o ho => g.serve_within o fun msg heq => ?_
    rw [heq] at ho
    exact ho
  exact hserve.embed DeployOp.Ans fun _ ho => ho

/-- What `AuthHandler` may ask: a lookup, or the authentication service. -/
def AsksLookup (o : HandlerOp) : Prop := ∀ ro, o = .rpc ro → Lookup ro

theorem serveAuthenticated_asks (req : Request) (username password : String) :
    (serveAuthenticated req username password).Meets AsksLookup (fun _ _ => True)
      fun _ => True := by
  refine ⟨nofun, fun res _ => ?_⟩
  cases res with
  | error err => trivial
  | ok isAuthenticated => cases isAuthenticated <;> trivial

/-- `AuthHandler` asks for the port's delegation, and the authentication service. -/
theorem authHandler_asks (req : Request) :
    (r.authHandler req).Meets AsksLookup (fun _ _ => True) fun _ => True := by
  refine ⟨fun ro heq => ?_, fun isAuth _ => ?_⟩
  · obtain rfl := HandlerOp.rpc.inj heq
    trivial
  · simp only [ret_bind]
    split
    · unfold authDelegated
      cases req.basicAuth with
      | none =>
        dsimp only
        split
        · trivial
        · exact serveAuthenticated_asks _ _ _
      | some pair =>
        dsimp only
        split
        · trivial
        · split
          · trivial
          · exact serveAuthenticated_asks _ _ _
    · unfold authUndelegated
      cases req.basicAuth with
      | none => trivial
      | some pair =>
        dsimp only
        split
        · trivial
        · split
          · trivial
          · exact serveAuthenticated_asks _ _ _

theorem authHandler_silent (req : Request) : ((r.authHandler req).interp (Deploy.handlerOp g)).AllOps
    (DeployOp.OnDb (Stmt.Within fun _ _ => False)) := by
  refine (authHandler_asks req).allOps.interp fun o ho => ?_
  cases o with
  | authenticate username password => exact ⟨trivial, fun _ => trivial⟩
  | rpc o =>
    have hserve : (g.serve o).AllOps (Stmt.Within fun _ _ => False) := by
      refine g.serve_within o fun msg heq => ?_
      have hlookup := ho o rfl
      rw [heq] at hlookup
      exact hlookup
    exact hserve.embed DeployOp.Ans fun _ ho => ho

/-- The query in the context is the one that the request submits. -/
def Describes (gunzip : Gunzip) (req : Request) (cReq : ClientRequest) : Prop :=
  ∀ nt, cReq = .query nt → Submits gunzip req nt.query

/-- The resolution and the preparation write other columns. -/
theorem Describes.withServerHost {cReq : ClientRequest} (h : Describes gunzip req cReq)
    (serverHost : String) : Describes gunzip req (cReq.withServerHost serverHost) := by
  rintro nt heq
  cases cReq with
  | api => cases heq
  | ui queryId => cases heq
  | queryApi nt' => cases heq
  | query nt' =>
    obtain rfl := ClientRequest.query.inj heq
    have hsubmits := h nt' rfl
    exact ⟨hsubmits.username, hsubmits.clientIp, hsubmits.text⟩

theorem submits_withBackend {nt : QueryRequest} (h : Submits gunzip req nt.query)
    (backendId groupId : String) : Submits gunzip req (withBackend nt backendId groupId).query :=
  ⟨h.username, h.clientIp, h.text⟩

theorem prepareReqForRouting_describes {cReq : ClientRequest} (h : Describes gunzip req cReq)
    (mid : Request) (id : String) :
    (r.prepareReqForRouting mid id cReq).Yields fun p => Describes gunzip req p.cReq := by
  intro res
  cases res with
  | error err => exact h
  | ok msg =>
    dsimp only
    split
    · exact h
    · intro source
      have hprepared := h.withServerHost (BackendApi.schemeName msg.scheme ++ "://" ++ msg.externalUrl)
      cases source with
      | error err => exact hprepared
      | ok source => exact hprepared

/-- What a routing leaves in the context. -/
def RoutesQuery (gunzip : Gunzip) (req : Request)
    (res : Result (Option ClientRequest) × Request) : Prop :=
  IfOk (fun routed => ∀ nt, routed = some (.query nt) → Submits gunzip req nt.query) res.1

theorem routesQuery_returned {p : Prepared} (h : Describes gunzip req p.cReq) :
    RoutesQuery gunzip req (returned p) := by
  unfold returned RoutesQuery
  cases p.err with
  | error err => trivial
  | ok _ => exact fun nt heq => h nt (Option.some.inj heq)

theorem routeRequest_describes {cReq : ClientRequest} (h : Describes gunzip req cReq)
    (mid : Request) : (r.routeRequest mid cReq).Yields (RoutesQuery gunzip req) := by
  have hknown : ∀ kind nt, (∀ id groupId, Describes gunzip req (kind (withBackend nt id groupId))) →
      (r.routeKnown mid kind nt).Yields (RoutesQuery gunzip req) := by
    intro kind nt hkind res
    exact (prepareReqForRouting_describes (hkind _ _) mid _).bind fun p hp => routesQuery_returned hp
  cases cReq with
  | api => exact fun nt heq => by cases heq
  | ui queryId =>
    intro res
    cases res with
    | error err => trivial
    | ok pair =>
      have hui : Describes gunzip req (.ui queryId) := fun nt heq => by cases heq
      exact (prepareReqForRouting_describes hui mid _).bind fun p hp => routesQuery_returned hp
  | queryApi nt => exact hknown .queryApi nt fun _ _ nt' heq => by cases heq
  | query nt =>
    simp only [routeRequest]
    split
    · refine hknown .query nt fun id groupId nt' heq => ?_
      obtain rfl := ClientRequest.query.inj heq
      exact submits_withBackend (h nt rfl) id groupId
    · refine yields_bind fun resolved => (prepareReqForRouting_describes h mid _).bind fun p hp => ?_
      split
      · trivial
      · rename_i heq
        intro nt' heq'
        obtain rfl := ClientRequest.query.inj (Option.some.inj heq')
        exact submits_withBackend (hp _ heq) _ _
      · exact fun nt' heq' => hp nt' (Option.some.inj heq')

/-- What is parsed of a request is what it submits. -/
theorem parseClientRequest_describes {mid restored : Request} {cReq : ClientRequest}
    (h : r.parseClientRequest gunzip mid = some (.ok cReq, restored)) :
    Describes gunzip mid cReq := by
  rintro nt rfl
  unfold parseClientRequest at h
  by_cases hget : mid.method = "GET"
  · rw [if_pos hget] at h
    split at h
    · cases h
    · split at h <;> cases h
  · rw [if_neg hget] at h
    split at h
    · obtain ⟨res, hres, heq⟩ := Option.map_eq_some_iff.mp h
      obtain rfl := ClientRequest.query.inj (Except.ok.inj (Prod.mk.inj heq).1)
      exact ⟨rfl, rfl, res, hres, rfl⟩
    · split at h <;> cases h

/-- **The director leaves the query that the request submits.** -/
theorem handleClientRequest_describes (mid : Request) :
    (r.handleClientRequest gunzip mid).Yields fun res =>
      ∀ nt, res.1.clientRequest = some (.query nt) → Submits gunzip mid nt.query := by
  have hprocess : (r.processRequest gunzip mid).Yields (RoutesQuery gunzip mid) := by
    refine yields_deref fun parsed hparsed => ?_
    obtain ⟨parsed, restored⟩ := parsed
    cases parsed with
    | error err => trivial
    | ok cReq =>
      dsimp only
      cases cReq.validate with
      | error err => trivial
      | ok _ => exact routeRequest_describes (parseClientRequest_describes hparsed) restored
  refine hprocess.bind fun res hres => ?_
  obtain ⟨res, out⟩ := res
  cases res with
  | error err => exact fun nt heq => by cases heq
  | ok routed => exact hres

/-- What a response that is saved was like. -/
theorem processResponse_save {resp out : Response} {cReq : Option ClientRequest} {save : QuerySave}
    (h : r.processResponse gunzip resp cReq = some (out, some save)) :
    200 ≤ resp.statusCode ∧ resp.statusCode < 400 ∧
      ∃ nt, cReq = some (.query nt) ∧ save.req = nt.query := by
  unfold processResponse at h
  split at h
  · rename_i hstatus
    refine ⟨hstatus.1, hstatus.2, ?_⟩
    dsimp only at h
    split at h
    · rename_i nt
      obtain ⟨res, -, heq⟩ := Option.map_eq_some_iff.mp h
      obtain rfl := Option.some.inj (Prod.mk.inj heq).2
      exact ⟨nt, rfl, rfl⟩
    · cases h
  · cases h

/-- The exchange that a save comes from has been seen. -/
def SavesSeen (gunzip : Gunzip) (r : RouterServer) (req : Request) (save : Option QuerySave)
    (es : Record DeployOp DeployOp.Ans Db) : Prop :=
  ∀ s, save = some s → ∃ x, .sent x ∈ visible es ∧ x.EndsIn gunzip r req s

theorem SavesSeen.append {save : Option QuerySave} (h : SavesSeen gunzip r req save es)
    (new : Record DeployOp DeployOp.Ans Db) : SavesSeen gunzip r req save (es ++ new) := by
  intro s hs
  obtain ⟨x, hx, hends⟩ := h s hs
  refine ⟨x, ?_, hends⟩
  rw [visible_append]
  exact List.mem_append_left _ hx

theorem answering_silent {o : DeployOp} (h : o.Answering) :
    o.OnDb (Stmt.Within fun _ _ => False) := by
  cases o with
  | stmt o => exact h.elim
  | authenticate username password => trivial
  | roundTrip shared out => trivial
  | withLabelValues m => trivial
  | inc m => trivial
  | respond reply => trivial

theorem director_logs (mid : Request) :
    Logging gunzip r req (r.director gunzip g mid) (fun res _ =>
      ∀ nt, res.1.clientRequest = some (.query nt) → Submits gunzip mid nt.query) es := by
  have hsilent : (r.director gunzip g mid).AllOps
      (DeployOp.OnDb (Stmt.Within fun _ _ => False)) :=
    director_allOps (fun _ ho => answering_silent ho.answering)
      (onServer_silent (handleClientRequest_lookups mid))
  have hyields : (r.director gunzip g mid).Yields fun res =>
      ∀ nt, res.1.clientRequest = some (.query nt) → Submits gunzip mid nt.query := by
    intro _
    have hdirected : (Deploy.onDb (g.onServer (r.handleClientRequest gunzip mid))).Yields _ :=
      ((handleClientRequest_describes mid).interp (f := g.serve)).embed DeployOp.Ans
    refine hdirected.bind fun res hres => ?_
    obtain ⟨shared, out⟩ := res
    dsimp only
    split
    · exact hres
    · exact yields_bind fun _ => hres
  exact ((logging_silent hsilent).yields hyields).mono fun res new h => h.2

/-- A save comes from the response of the exchange. -/
theorem afterRoundTrip_save (shared : SharedObject) (out : Request) (answer : Option Response) :
    (r.afterRoundTrip gunzip shared out answer).Yields fun res => ∀ save, res.1 = some save →
      ∃ resp out', answer = some resp ∧
        r.processResponse gunzip resp.endToEnd shared.clientRequest = some (out', some save) := by
  cases answer with
  | none => exact yields_bind fun _ save hsave => by cases hsave
  | some resp =>
    show (if resp.statusCode = 101 then _ else _ : Deploy _).Yields _
    split
    · rename_i hcode
      refine (modifyResponse_yields shared out.method resp).bind fun res hprocess => ?_
      obtain ⟨ok, shared', resp', save⟩ := res
      -- a 101 is no answer to a query
      have hnone : save = none := by
        unfold processResponse at hprocess
        rw [hcode] at hprocess
        exact (Prod.mk.inj (Option.some.inj hprocess)).2.symm
      subst hnone
      cases ok with
      | true => exact yields_bind fun _ save hsave => by cases hsave
      | false => exact fun save hsave => by cases hsave
    · refine (modifyResponse_yields shared out.method resp.endToEnd).bind fun res hprocess => ?_
      obtain ⟨ok, shared', resp', save⟩ := res
      have hsaved : ∀ s, save = some s → ∃ resp₀ out', some resp = some resp₀ ∧
          r.processResponse gunzip resp₀.endToEnd shared.clientRequest = some (out', some s) :=
        fun s hs => ⟨resp, resp', rfl, hs ▸ hprocess⟩
      cases ok with
      | true => exact yields_bind fun _ => hsaved
      | false => exact hsaved

/-- **The proxy** ends with a save of its exchange, or with none. -/
theorem reverseProxy_logs (mid : Request)
    (hsame : ∀ query, Submits gunzip mid.cloned query → Submits gunzip req query) :
    Logging gunzip r req (r.reverseProxy gunzip g mid)
      (fun res es' => SavesSeen gunzip r req res.1 es') es := by
  refine (director_logs mid.cloned).bind fun res new hsubmits => ?_
  obtain ⟨shared, out⟩ := res
  dsimp only
  split
  · intro s taken s' _
    exact ⟨fun o row heq => (by cases heq), fun save hsave => by cases hsave⟩
  · intro s resp s' _
    refine ⟨fun o row heq => (by cases heq), ?_⟩
    have hsilent : Logging gunzip r req (r.afterRoundTrip gunzip shared (mid.leaving out) resp)
        (fun _ _ => True)
        (es ++ new ++ [⟨.roundTrip shared.toContextSharedObject (mid.leaving out), s, resp, s'⟩]) :=
      logging_silent ((afterRoundTrip_answering _ _ resp).mono fun _ => answering_silent)
    refine (hsilent.yields (afterRoundTrip_save _ _ resp)).mono fun res new' hres => ?_
    intro save hsave
    obtain ⟨resp, out', rfl, hprocess⟩ := hres.2 save hsave
    obtain ⟨hlow, hhigh, nt, hnt, hreq⟩ := processResponse_save hprocess
    rw [hnt] at hprocess
    refine ⟨⟨shared.toContextSharedObject, mid.leaving out, some resp⟩, ?_, resp, nt, out', rfl,
      hlow, hhigh, hnt, hsame _ (hsubmits nt hnt), hreq, hprocess⟩
    rw [visible_append, visible_append]
    exact List.mem_append_left _ (List.mem_append_right _ List.mem_cons_self)

/-- The goroutine writes the record of its save. -/
theorem saveQuery_logs {save : QuerySave} (h : SavesSeen gunzip r req (some save) es) :
    Logging gunzip r req (Deploy.onDb (g.onServer (saveQuery save))) (fun _ _ => True) es := by
  let D : Stmt → Prop := fun o => o.Within (fun _ _ => False) ∨ ∃ now, o.Saves (save.rowAt now)
  have hupsert : ∀ now, (rpc (QueryApi.createOrUpdateQuery { save.req with
      id := extractQueryIdFromServerResponse save.body, submittedAt := now })).AllOps D := by
    intro now
    refine AllOps.recover ?_ _
    refine AllOps.bind (Spine.allOps_findByID (Or.inl trivial)) fun res => ?_
    cases res with
    | error e => exact Spine.allOps_create (C := D) (absurd rfl) (Or.inr ⟨now, Or.inl rfl⟩)
    | ok old => exact Spine.allOps_repo_update (C := D) (absurd rfl) (Or.inr ⟨now, Or.inr rfl⟩)
  have hops : (g.onServer (saveQuery save)).AllOps D := by
    show (Prog.op Stmt.unixNow _).AllOps D
    refine ⟨Or.inl trivial, fun now => ?_⟩
    -- the client refuses a text that is not UTF-8
    split
    · exact (hupsert now).bind fun _ => trivial
    · trivial
  have hembed : (Deploy.onDb (g.onServer (saveQuery save))).AllOps (DeployOp.OnDb D) :=
    hops.embed DeployOp.Ans fun _ ho => ho
  refine (Records.of_allOps (J := fun es' => SavesSeen gunzip r req (some save) es') hembed
    (fun es' e hseen he _ => ⟨fun o row heq hsaves => ?_, hseen.append [e]⟩) h).mono fun _ _ _ => trivial
  rw [heq] at he
  rcases he with hwithin | ⟨now, hrow⟩
  · exact absurd hsaves (hwithin.not_saves (fun _ => id) row)
  · obtain ⟨x, hx, hends⟩ := hseen save rfl
    refine ⟨x, hx, save, now, hends, congrArg Query.kept ?_⟩
    rcases hsaves with rfl | rfl
    · rcases hrow with hrow | hrow
      · exact eq_of_heq (Stmt.insert.inj hrow).2
      · cases hrow
    · rcases hrow with hrow | hrow
      · cases hrow
      · exact eq_of_heq (Stmt.updates.inj hrow).2

/-- A request without its password has the same text. -/
theorem constructQueryFromReq_delAuthorization (req : Request) :
    constructQueryFromReq gunzip req.delAuthorization =
      (constructQueryFromReq gunzip req).map fun res => (res.1, res.2.delAuthorization) := by
  unfold constructQueryFromReq
  rw [get_delAuthorization req (by decide)]
  show (if req.method = "GET" then _ else if req.method = "POST" then _ else _) = _
  split
  · rfl
  · split
    · have hnil : req.delAuthorization.nilBody = req.nilBody := rfl
      rw [hnil]
      split
      · rfl
      rw [Option.map_map]
      congr 1
      funext res
      obtain ⟨text, restored⟩ := res
      cases text <;> rfl
    · rfl

theorem submits_delAuthorization {query : QueryMsg} (h : Submits gunzip req.delAuthorization query) :
    Submits gunzip req query := by
  refine ⟨?_, h.clientIp, ?_⟩
  · rw [h.username]
    exact trinoHeader_delAuthorization req (by decide) (by decide)
  · obtain ⟨res, hres, htext⟩ := h.text
    rw [constructQueryFromReq_delAuthorization] at hres
    obtain ⟨res', hres', rfl⟩ := Option.map_eq_some_iff.mp hres
    exact ⟨res', hres', htext⟩

/-- A request without its body, if it has none, has the same text. -/
theorem submits_cloned {query : QueryMsg} (h : Submits gunzip req.cloned query) :
    Submits gunzip req query := by
  unfold Request.cloned at h
  split at h
  · refine ⟨h.username, h.clientIp, ?_⟩
    obtain ⟨res, hres, htext⟩ := h.text
    unfold constructQueryFromReq at hres ⊢
    split at hres
    · rename_i hget
      obtain rfl := Option.some.inj hres
      exact ⟨_, if_pos hget, htext⟩
    · rename_i hget
      split at hres
      · -- the director panics
        cases hres
      · rename_i hpost
        obtain rfl := Option.some.inj hres
        exact ⟨_, (if_neg hget).trans (if_neg hpost), htext⟩
  · exact h

/-- **The judgement of the handlers**: a client's request saves what its exchange was about. -/
theorem serveClient_logs (req : Request) :
    Logging gunzip r req (r.serveClient gunzip g req) (fun _ _ => True) [] := by
  have hhttp : Logging gunzip r req (r.serveHTTP gunzip g req)
      (fun res es' => SavesSeen gunzip r req res.1 es') [] := by
    refine ((logging_silent (authHandler_silent req)).yields (authHandler_decides req).interp).bind
      fun res new hres => ?_
    cases res with
    | refused code msg =>
      intro s taken s' _
      exact ⟨fun o row heq => (by cases heq), fun save hsave => by cases hsave⟩
    | served mid =>
      refine reverseProxy_logs mid fun query hsubmits => ?_
      rcases hres.2 with rfl | rfl
      · exact submits_cloned hsubmits
      · exact submits_delAuthorization (submits_cloned hsubmits)
  refine hhttp.bind fun res new hseen => ?_
  obtain ⟨save, brokenOff⟩ := res
  have hsave : Logging gunzip r req (runSave g save) (fun _ _ => True) ([] ++ new) := by
    cases save with
    | none => trivial
    | some save => exact saveQuery_logs hseen
  refine hsave.bind fun _ new' _ => ?_
  cases brokenOff with
  | true => trivial
  | false => trivial

end RouterServer

/-- What is due of an arrival: it writes the record that it carries, or one of its exchange. -/
def Arrival.LogsOnly (gunzip : Gunzip) (a : Arrival) (es : Record DeployOp DeployOp.Ans Db)
    (e : Event DeployOp DeployOp.Ans Db) : Prop :=
  match a with
  | .client r req => RouterServer.LogsOnly gunzip r req es e
  | .api m req => ∀ o row, e.op = .stmt o → o.Saves row →
    ∃ msg : QueryMsg, Arrival.api m req = .api .createOrUpdateQuery msg ∧ row = QueryApi.queryOf msg

/-- Only an upsert of a query names a query. -/
theorem Arrival.upsert_of_target {m : Method} {req : m.Req} {id : String}
    (h : m.target req = some (.queries, id)) :
    ∃ msg, Arrival.api m req = .api .createOrUpdateQuery msg := by
  cases m with
  | createOrUpdateQuery => exact ⟨req, rfl⟩
  | _ => cases h

theorem Arrival.prog_logs (gunzip : Gunzip) (g : GatewayServer) (a : Arrival) :
    (a.prog gunzip g).Records Explained (a.LogsOnly gunzip) (fun _ _ => True) [] := by
  cases a with
  | client r req => exact RouterServer.serveClient_logs req
  | api m req =>
    let D : Stmt → Prop := fun o => ∀ row, o.Saves row →
      ∃ msg, Arrival.api m req = .api .createOrUpdateQuery msg ∧ row = QueryApi.queryOf msg
    have hhandle : (g.handle m req).Respects D Stmt.ReadsById fun _ => True := by
      by_cases hupsert : ∃ msg, Arrival.api m req = .api .createOrUpdateQuery msg
      · obtain ⟨msg, heq⟩ := hupsert
        cases heq
        have hrow : ∀ o : Stmt, o.Saves (QueryApi.queryOf msg) → D o := by
          rintro o (rfl | rfl) row (hrow | hrow)
          · exact ⟨msg, rfl, (eq_of_heq (Stmt.insert.inj hrow).2).symm⟩
          · cases hrow
          · cases hrow
          · exact ⟨msg, rfl, (eq_of_heq (Stmt.updates.inj hrow).2).symm⟩
        have hops : (QueryApi.createOrUpdateQuery msg).AllOps D := by
          refine AllOps.bind (Spine.allOps_findByID ?_) fun res => ?_
          · rintro row (hrow | hrow) <;> cases hrow
          · cases res with
            | error e => exact Spine.allOps_create (C := D) (absurd rfl) (hrow _ (Or.inl rfl))
            | ok old => exact Spine.allOps_repo_update (C := D) (absurd rfl) (hrow _ (Or.inr rfl))
        exact hops.respects
      · refine (g.handle_within m req).weaken (fun o ho row hsaves => ?_) fun o x hx => hx
        have hnone : ∀ id, ¬ m.scope req .queries id := fun id hid =>
          hupsert (Arrival.upsert_of_target hid)
        exact absurd hsaves (ho.not_saves hnone row)
    have hdone : Respects D (fun o x => DeployOp.AnsOnDb Stmt.ReadsById (DeployOp.stmt o) x)
        (fun _ => True) (do
          let _ ← rpc (g.handle m req)
          return ()) :=
      (Respects.recover hhandle trivial).bind fun _ _ => trivial
    have hprog : ((Arrival.api m req).prog gunzip g).Respects (DeployOp.OnDb D)
        (DeployOp.AnsOnDb Stmt.ReadsById) fun _ => True :=
      hdone.embed (e := DeployOp.stmt) fun _ ho => ho
    refine (hprog.records ?_).weaken (fun _ he => he) fun es e _ hD o row heq hsaves => ?_
    · rintro ⟨o, s, x, s'⟩ he
      cases o with
      | stmt o =>
        obtain ⟨now, fault, -, hanswer, -⟩ := he
        show o.ReadsById x
        rw [show x = (exec now fault o s).1 from hanswer]
        exact exec_readsById now fault o s
      | _ => trivial
    · rw [heq] at hD
      exact hD row hsaves

namespace Run

variable {ι : Type} [DecidableEq ι] (R : Run ι)

/-- Where a record may come from, once these events have been. -/
def Logged (records : ι → Record DeployOp DeployOp.Ans Db) (row : Query) : Prop :=
  row ∈ R.db.queries ∨
  (∃ i msg, R.arrivals i = .api .createOrUpdateQuery msg ∧ row = (QueryApi.queryOf msg).kept) ∨
  ∃ i r req x, R.arrivals i = .client r req ∧ .sent x ∈ visible (records i) ∧
    x.Logs R.gunzip r req row

variable {R} {records : ι → Record DeployOp DeployOp.Ans Db} {row : Query}

theorem Logged.event (h : R.Logged records row) (i : ι) (e : Event DeployOp DeployOp.Ans Db) :
    R.Logged (Function.update records i (records i ++ [e])) row := by
  rcases h with hrow | hapi | ⟨j, r, req, x, harrival, hx, hlogs⟩
  · exact Or.inl hrow
  · exact Or.inr (Or.inl hapi)
  · refine Or.inr (Or.inr ⟨j, r, req, x, harrival, ?_, hlogs⟩)
    by_cases hj : j = i
    · subst hj
      rw [Function.update_self, visible_append]
      exact List.mem_append_left _ hx
    · rw [Function.update_of_ne hj]
      exact hx

/-- What is written was due. -/
theorem logged_of_due {i : ι} {e : Event DeployOp DeployOp.Ans Db} {o : Stmt}
    (h : (R.arrivals i).LogsOnly R.gunzip (records i) e) (ho : e.op = .stmt o)
    (hsaves : o.Saves row) : R.Logged records row.kept := by
  cases harrival : R.arrivals i with
  | client r req =>
    rw [harrival] at h
    obtain ⟨x, hx, hlogs⟩ := h o row ho hsaves
    exact Or.inr (Or.inr ⟨i, r, req, x, harrival, hx, hlogs⟩)
  | api m req =>
    rw [harrival] at h
    obtain ⟨msg, hmsg, hrow⟩ := h o row ho hsaves
    exact Or.inr (Or.inl ⟨i, msg, harrival.trans hmsg, congrArg Query.kept hrow⟩)

/-- Every column of a record comes from somewhere. -/
def Accounted (R : Run ι) (s : Recorded ι DeployOp DeployOp.Ans Db) : Prop :=
  ∀ q ∈ s.now.queries, ∀ col ∈ Query.texts,
    ∃ row, R.Logged s.record row ∧ row.id = q.id ∧ col row = col q

/-- A statement that is due keeps the history accounted for. -/
theorem Accounted.step {s : Recorded ι DeployOp DeployOp.Ans Db} (h : R.Accounted s) {i : ι}
    {e : Event DeployOp DeployOp.Ans Db} (he : Explained e)
    (hdue : (R.arrivals i).LogsOnly R.gunzip (s.record i) e) (hbefore : e.before = s.now) :
    R.Accounted ⟨e.after, Function.update s.record i (s.record i ++ [e])⟩ := by
  have hold : ∀ q ∈ s.now.queries, ∀ col ∈ Query.texts, ∃ row,
      R.Logged (Function.update s.record i (s.record i ++ [e])) row ∧ row.id = q.id ∧
        col row = col q := by
    intro q hq col hcol
    obtain ⟨row, hlogged, hid, htext⟩ := h q hq col hcol
    exact ⟨row, hlogged.event i e, hid, htext⟩
  have hnew : ∀ o row, e.op = .stmt o → o.Saves row →
      R.Logged (Function.update s.record i (s.record i ++ [e])) row.kept :=
    fun o row ho hsaves => (logged_of_due hdue ho hsaves).event i e
  obtain ⟨o, before, a, after⟩ := e
  obtain rfl : before = s.now := hbefore
  intro q hq col hcol
  cases o with
  | stmt o =>
    obtain ⟨now, fault, -, -, hafter⟩ := he
    dsimp only at hafter
    subst hafter
    rcases exec_mem_rows (t := .queries) hq with hmem | ⟨row, ho, ha⟩ | ⟨row, old, ho, hfind, ha⟩
    · exact hold q hmem col hcol
    · obtain ⟨hid, htexts⟩ := texts_inserted ha
      exact ⟨row.kept, hnew o row rfl (Or.inl ho), hid.symm, (htexts col hcol).symm⟩
    · obtain ⟨hid, htexts⟩ := texts_updated ha
      have hrow : old.id = row.id := Db.find_id hfind
      rcases htexts col hcol with htext | htext
      · exact ⟨row.kept, hnew o row rfl (Or.inr ho), hrow.symm.trans hid.symm, htext.symm⟩
      · obtain ⟨row', hlogged', hid', htext'⟩ := hold old (Db.mem_of_find hfind) col hcol
        exact ⟨row', hlogged', hid'.trans hid.symm, htext'.trans htext.symm⟩
  | authenticate username password =>
    obtain rfl : after = s.now := he
    exact hold q hq col hcol
  | roundTrip shared req =>
    obtain rfl : after = s.now := he.2
    exact hold q hq col hcol
  | withLabelValues m =>
    obtain rfl : after = s.now := he
    exact hold q hq col hcol
  | inc m =>
    obtain rfl : after = s.now := he
    exact hold q hq col hcol
  | respond reply =>
    obtain rfl : after = s.now := he
    exact hold q hq col hcol

variable (R)

/-- **The history is accounted for**, at any moment. -/
theorem accounted : R.Accounted R.pool.state := by
  refine System.reachable_records (A := Explained)
    (C := fun i => (R.arrivals i).LogsOnly R.gunzip) (Q := fun _ _ _ => True) ?_
    (fun i => (R.arrivals i).prog_logs R.gunzip (R.server i)) ?_ ?_ ?_ R.reached
  · intro i o s a s' hsem
    cases o <;> exact hsem
  · exact fun i r e he hdue hbefore h => h.step he hdue hbefore
  · exact fun r s' _ henv => henv.elim
  · exact fun q hq col _ => ⟨q, Or.inl hq, rfl, rfl⟩

/-- A record that was there, one that the API was given, or one of an exchange that was sent with
its reasons, the latter two as the columns keep them. -/
def Sourced (row : Query) : Prop :=
  row ∈ R.db.queries ∨
  (∃ i msg, R.arrivals i = .api .createOrUpdateQuery msg ∧ row = (QueryApi.queryOf msg).kept) ∨
  ∃ i r req x pre e post, R.arrivals i = .client r req ∧ R.record i = pre ++ e :: post ∧
    Visible.ofEvent e = some (.sent x) ∧ x.Logs R.gunzip r req row ∧
      Sent (R.server i).cfg r req (statements pre) x.shared x.req.url.host

theorem sourced_of_logged (hnamed : R.db.Named) (h : R.Logged R.pool.state.record row) :
    R.Sourced row := by
  rcases h with hrow | hapi | ⟨i, r, req, x, harrival, hx, hlogs⟩
  · exact Or.inl hrow
  · exact Or.inr (Or.inl hapi)
  · obtain ⟨e, he, hsent⟩ := List.mem_filterMap.mp hx
    obtain ⟨pre, post, hsplit⟩ := List.append_of_mem he
    have hop : e.op = .roundTrip x.shared x.req := by
      obtain ⟨o, s, a, s'⟩ := e
      cases o with
      | roundTrip shared out =>
        obtain rfl := Visible.sent.inj (Option.some.inj hsent)
        rfl
      | stmt o => cases hsent
      | authenticate username password => cases hsent
      | withLabelValues m => cases hsent
      | inc m => cases hsent
      | respond reply => cases hsent
    have hsound := R.sound_client harrival (R.always_named hnamed)
      (RouterServer.serveClient_justified req)
    exact Or.inr (Or.inr ⟨i, r, req, x, pre, e, post, harrival, hsplit, hsent, hlogs,
      hsound.due pre e post hsplit x.shared x.req hop⟩)

/-- **The history tells the truth.** In every interleaving, each column of a record has been in a
record of this query that was there in the beginning, that the API was given, or that an exchange
ended in: a client's request was sent, for a reason, in the context that the record shows, and the
response gave the query this id. The record names the backend that was chosen, also where that one
could not be read and the request went where the client said. -/
theorem history_founded (hnamed : R.db.Named) {q : Query} (hq : q ∈ R.now.queries)
    {col : Query → String} (hcol : col ∈ Query.texts) :
    ∃ row, R.Sourced row ∧ row.id = q.id ∧ col row = col q := by
  obtain ⟨row, hlogged, hid, htext⟩ := R.accounted q hq col hcol
  exact ⟨row, R.sourced_of_logged hnamed hlogged, hid, htext⟩

/-- A new query that the cluster gives an id, to the end of its save. -/
def answered : Run Unit :=
  Run.play RouterServer.sortedServer
    (fun _ => .client { port := 8080, routerHostname := "" } RouterServer.selectOne) oneBackend 60
    (fun _ => some RouterServer.createdResponse) (List.replicate 24 ())

/-- Its record names the cluster. -/
theorem answered_founded : ∃ row, answered.Sourced row ∧ row.id = "q1" ∧ row.backendId = "trino-1" := by
  have hsaved : ∃ q ∈ answered.now.queries, q.id = "q1" ∧ q.backendId = "trino-1" := by
    decide +kernel
  have hnamed : answered.db.Named := by
    intro b hb
    obtain rfl := List.mem_singleton.mp hb
    decide
  obtain ⟨q, hq, hid, hbackend⟩ := hsaved
  have hcol : Query.backendId ∈ Query.texts := by
    unfold Query.texts
    simp
  obtain ⟨row, hsourced, hrow, htext⟩ := answered.history_founded hnamed hq hcol
  exact ⟨row, hsourced, hrow.trans hid, htext.trans hbackend⟩

end Run

end TrinoGateway
