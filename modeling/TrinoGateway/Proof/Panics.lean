import TrinoGateway.Proof.History
import TrinoGateway.Proof.NullColumns
import TrinoGateway.Proof.Payload

/-!
# What panics in service

* `ApiCall.interleaved_never_panic`: no handler of the API panics, **however the statements of any
  number of calls interleave and fail**, on tables without `NULL`: a row that is read may have been
  written by any other call in between.
* `Run.panic_iff`: **a request that is over has panicked just when its exchange has brought a
  response that cannot be read, or its reply broke off**, and a request that itself cannot be read is
  never sent. What cannot be read is a body that is labelled as gzip and does not begin like it, and
  a `POST` without a body.
-/

namespace TrinoGateway

open Interact Prog

/-- The statements of handlers that no server recovers: they may fail, at any time of the clock. -/
def handlerSystem {ι : Type} : System ι Stmt Stmt.Ans Db where
  sem _ o db a db' := ∃ now fault, a = (exec now fault o db).1 ∧ db' = (exec now fault o db).2
  env _ _ := False

/-- A call, whose result is not looked at. -/
def ApiCall.task (c : ApiCall) : Srv Unit := do
  let _ ← c.prog
  return ()

theorem ApiCall.task_meets (c : ApiCall) :
    c.task.Meets Stmt.Complete Stmt.ReadsNonNull fun _ => True :=
  Meets.bind (nullSafe_handle c.server c.method c.message) fun _ _ => trivial

/-- **No handler panics, in any interleaving**, and none stores a `NULL` in a backend, a group or a
policy. -/
theorem ApiCall.interleaved_never_panic {ι : Type} [DecidableEq ι] (calls : ι → ApiCall) {db : Db}
    (hdb : db.NonNull) {P : Pool ι Stmt Stmt.Ans Unit Db}
    (hr : handlerSystem.Reachable ⟨fun i => (calls i).task, db⟩ P) :
    P.state.NonNull ∧ ∀ i, P.procs i ≠ panic := by
  have hmeets := System.reachable_meets (D := fun _ => Stmt.Complete) (B := Stmt.ReadsNonNull)
    (Q := fun _ _ => True) (I := Db.NonNull) ?_ ?_ (fun i => (calls i).task_meets) hdb hr
  · refine ⟨hmeets.1, fun i hpanic => ?_⟩
    have hi := hmeets.2 i
    rw [hpanic] at hi
    exact hi
  · rintro i o db a db' ho hnull ⟨now, fault, rfl, rfl⟩
    exact ⟨exec_readsNonNull hnull o now fault, exec_nonNull hnull ho now fault⟩
  · exact fun db db' _ henv => henv.elim

/-- A choice of a backend for a group, and a call that disables the group. -/
def ApiCall.turned (i : Bool) : ApiCall :=
  if i then ⟨RouterServer.sortedServer, .evaluateBackendForGroups, ["adhoc"]⟩
  else ⟨RouterServer.sortedServer, .disableGroup, "adhoc"⟩

/-- They take turns, statement by statement. -/
def ApiCall.disabling : Pool Bool Stmt Stmt.Ans Unit Db :=
  [true, false, true, true, false, true, true, true, false].foldl
    (System.perform fun _ o db => exec 60 none o db)
    ⟨fun i => (ApiCall.turned i).task, Run.oneBackend⟩

theorem Run.oneBackend_nonNull : Run.oneBackend.NonNull := by
  intro t r hr
  cases t with
  | backends =>
    obtain rfl := List.mem_singleton.mp hr
    exact ⟨rfl, rfl, rfl, rfl, rfl, rfl, rfl⟩
  | groups =>
    obtain rfl := List.mem_singleton.mp hr
    exact ⟨rfl, rfl, rfl⟩
  | policies =>
    obtain rfl := List.mem_singleton.mp hr
    exact ⟨rfl, rfl, rfl, rfl⟩
  | queries => cases hr

theorem ApiCall.disabling_survives :
    ApiCall.disabling.state.NonNull ∧ ∀ i, ApiCall.disabling.procs i ≠ panic :=
  ApiCall.interleaved_never_panic ApiCall.turned Run.oneBackend_nonNull
    (handlerSystem.foldl_perform_reachable (fun _ _ _ => ⟨60, none, rfl, rfl⟩) _ _)

/-- The body of a `POST` is nil, or is labelled as gzip and does not begin like it. -/
def Request.Unreadable (gunzip : Gunzip) (req : Request) : Prop :=
  req.method = "POST" ∧
    (req.nilBody = true ∨ BadGzip gunzip req.body (req.header.get "Content-Encoding"))

/-- The response to a query is no error, and its body is labelled as gzip and does not begin like
it. -/
def Response.Unreadable (gunzip : Gunzip) (resp : Response) (cReq : Option ClientRequest) : Prop :=
  (200 ≤ resp.statusCode ∧ resp.statusCode < 400) ∧ (∃ nt, cReq = some (.query nt)) ∧
    BadGzip gunzip resp.body (resp.header.get "Content-Encoding")

/-- An exchange that has brought such a response. -/
def Exchange.Unreadable (gunzip : Gunzip) (x : Exchange) : Prop :=
  ∃ resp, x.resp = some resp ∧ resp.endToEnd.Unreadable gunzip x.shared.clientRequest

/-- A response that is passed on, but not to its end. -/
def Reply.BreaksOff (taken : Bool) : Reply → Prop
  | passed resp => taken = false ∨ resp.body.err ≠ none
  | httpError _ _ | errorHandler _ _ | switched _ | nothing => False

namespace Visible

/-- An exchange with a response that cannot be read. -/
def Unreadable (gunzip : Gunzip) : Visible → Prop
  | sent x => x.Unreadable gunzip
  | counted _ | replied _ _ => False

/-- A reply that breaks off. -/
def BreaksOff : Visible → Prop
  | replied reply taken => reply.BreaksOff taken
  | sent _ | counted _ => False

end Visible

theorem parseHttpPayloadBody_eq_none {gunzip : Gunzip} {body : Body} {encoding : String} :
    parseHttpPayloadBody gunzip body encoding = none ↔ BadGzip gunzip body encoding := by
  constructor
  · intro h
    unfold parseHttpPayloadBody at h
    split at h
    · cases h
    · rename_i herr
      split at h
      · rename_i hencoding
        split at h
        · rename_i err hunzip
          exact ⟨herr, hencoding, err, hunzip⟩
        · cases h
        · cases h
      · cases h
  · rintro ⟨herr, hencoding, err, hunzip⟩
    unfold parseHttpPayloadBody
    rw [herr]
    dsimp only
    rw [if_pos hencoding, hunzip]

namespace RouterServer

variable {gunzip : Gunzip} {r : RouterServer} {g : GatewayServer} {req : Request}

/-- `ParseClientRequest` panics on these requests only. -/
theorem parseClientRequest_eq_none :
    r.parseClientRequest gunzip req = none ↔ req.Unreadable gunzip := by
  unfold parseClientRequest Request.Unreadable
  by_cases hget : req.method = "GET"
  · rw [if_pos hget]
    have hpost : ¬ req.method = "POST" := by
      rw [hget]
      decide
    refine iff_of_false ?_ fun h => hpost h.1
    split
    · exact Option.some_ne_none _
    · split <;> exact Option.some_ne_none _
  · rw [if_neg hget]
    by_cases hpost : req.method = "POST"
    · rw [if_pos hpost, Option.map_eq_none_iff]
      unfold constructQueryFromReq
      rw [if_neg hget, if_pos hpost, and_iff_right hpost]
      split
      · rename_i hnil
        exact iff_of_true rfl (Or.inl hnil)
      · rename_i hnil
        rw [Option.map_eq_none_iff, parseHttpPayloadBody_eq_none]
        exact (or_iff_right hnil).symm
    · rw [if_neg hpost]
      refine iff_of_false ?_ fun h => hpost h.1
      split <;> exact Option.some_ne_none _

/-- A request without its password is as readable. -/
theorem unreadable_delAuthorization :
    req.delAuthorization.cloned.Unreadable gunzip ↔ req.cloned.Unreadable gunzip := by
  have hcloned : req.delAuthorization.cloned = req.cloned.delAuthorization := by
    unfold Request.cloned Request.delAuthorization
    split <;> rfl
  unfold Request.Unreadable
  rw [hcloned, get_delAuthorization req.cloned (by decide)]
  exact Iff.rfl

/-- The director panics with the parser. -/
theorem handleClientRequest_panics (h : req.Unreadable gunzip) :
    r.handleClientRequest gunzip req = panic := by
  unfold handleClientRequest processRequest
  rw [parseClientRequest_eq_none.mpr h]
  rfl

/-- `ProcessResponse` panics on these responses only. -/
theorem processResponse_eq_none {resp : Response} {cReq : Option ClientRequest} :
    r.processResponse gunzip resp cReq = none ↔ resp.Unreadable gunzip cReq := by
  unfold processResponse Response.Unreadable
  by_cases hstatus : 200 ≤ resp.statusCode ∧ resp.statusCode < 400
  · rw [if_pos hstatus]
    dsimp only
    have hsame : ∀ mid, mid = (if resp.statusCode < 300 then r.handleRedirect resp else resp) →
        (parseHttpPayloadBody gunzip mid.body (mid.header.get "Content-Encoding") = none ↔
          BadGzip gunzip resp.body (resp.header.get "Content-Encoding")) := by
      rintro mid rfl
      rw [parseHttpPayloadBody_eq_none]
      split
      · rw [handleRedirect_body, handleRedirect_encoding]
      · exact Iff.rfl
    split
    · rename_i nt
      rw [Option.map_eq_none_iff, hsame _ rfl]
      exact ⟨fun h => ⟨hstatus, ⟨nt, rfl⟩, h⟩, fun h => h.2.2⟩
    · rename_i hquery
      refine iff_of_false (Option.some_ne_none _) fun h => ?_
      obtain ⟨nt, hnt⟩ := h.2.1
      exact hquery nt hnt
  · rw [if_neg hstatus]
    exact iff_of_false (Option.some_ne_none _) fun h => hstatus h.1

/-- The response of a backend can be read, and a reply is passed on to its end. -/
def Readable (gunzip : Gunzip) : (o : DeployOp) → o.Ans → Prop
  | .roundTrip shared _, resp =>
    ∀ x, resp = some x → ¬ x.endToEnd.Unreadable gunzip shared.clientRequest
  | .respond reply, taken => ¬ reply.BreaksOff taken
  | .stmt _, _ | .authenticate _ _, _ | .withLabelValues _, _ | .inc _, _ => True

/-- A program that does not panic, as long as the backends' responses can be read and the replies
are passed on. -/
abbrev Survives {α : Type} (gunzip : Gunzip) (p : Deploy α) (Q : α → Prop) : Prop :=
  p.Meets (fun _ => True) (Readable gunzip) Q

theorem survives_serve (o : RouterOp) : (g.serve o).Meets (fun _ => True) (fun _ _ => True)
    fun _ => True := by
  cases o with
  | unixNow => exact ⟨trivial, fun _ _ => trivial⟩
  | _ => exact meets_recover _ _

theorem survives_onServer {α : Type} {C : RouterOp → Prop} {p : Router α}
    (hp : p.Meets C (fun _ _ => True) fun _ => True) :
    Survives gunzip (Deploy.onDb (g.onServer p)) fun _ => True := by
  have hserver : (g.onServer p).Meets (fun _ => True) (fun _ _ => True) fun _ => True :=
    hp.interp fun o _ => survives_serve o
  refine Meets.embed (e := DeployOp.stmt) (C := fun _ => True) ?_ fun _ _ => trivial
  exact hserver

theorem survives_authHandler (req : Request) :
    Survives gunzip ((r.authHandler req).interp (Deploy.handlerOp g)) (AuthResult.Decides req) := by
  have hboth := (authHandler_asks (r := r) req).yields (authHandler_decides req)
  refine (hboth.mono fun _ h => h.2).interp fun o _ => ?_
  cases o with
  | authenticate username password => exact ⟨trivial, fun _ _ => trivial⟩
  | rpc o =>
    refine Meets.embed (e := DeployOp.stmt) (C := fun _ => True) ?_ fun _ _ => trivial
    exact survives_serve o

theorem survives_inc (m : Metric) : Survives gunzip (Deploy.inc m) fun _ => True :=
  ⟨trivial, fun _ _ => ⟨trivial, fun _ _ => trivial⟩⟩

theorem survives_director (hreq : ¬ req.Unreadable gunzip) :
    Survives gunzip (r.director gunzip g req) fun _ => True := by
  refine ⟨trivial, fun _ _ => ?_⟩
  have hparse : r.parseClientRequest gunzip req ≠ none := fun h =>
    hreq (parseClientRequest_eq_none.mp h)
  refine (survives_onServer (handleClientRequest_looksUp hparse)).bind fun res _ => ?_
  obtain ⟨shared, out⟩ := res
  dsimp only
  split
  · trivial
  · exact (survives_inc _).bind fun _ _ => trivial

theorem survives_errorHandler (shared : SharedObject) (method : String) :
    Survives gunzip (errorHandler shared method) fun _ => True :=
  ⟨trivial, fun _ _ => survives_inc _⟩

theorem survives_modifyResponse {shared : SharedObject} {resp : Response}
    (hresp : ¬ resp.Unreadable gunzip shared.clientRequest) (method : String) :
    Survives gunzip (modifyResponse gunzip r shared method resp) fun _ => True := by
  have hsome : (r.processResponseErr gunzip resp shared.clientRequest).isSome := by
    unfold processResponseErr
    rw [Option.isSome_map, Option.isSome_iff_ne_none]
    exact fun h => hresp (processResponse_eq_none.mp h)
  have hserver : Survives gunzip (r.handleServerResponse gunzip shared method resp)
      fun _ => True := by
    refine Meets.deref hsome fun res _ => ?_
    obtain ⟨err, out, save⟩ := res
    cases err with
    | error e => trivial
    | ok _ => exact (survives_inc _).bind fun _ _ => trivial
  refine hserver.bind fun res _ => ?_
  obtain ⟨shared', err, out, save⟩ := res
  cases err with
  | error e => exact (survives_errorHandler _ _).bind fun _ _ => trivial
  | ok _ => trivial

theorem survives_handleUpgradeResponse (shared : SharedObject) (req : Request) (resp : Response) :
    Survives gunzip (handleUpgradeResponse shared req resp) fun _ => True := by
  have herror : Survives gunzip (errorHandler shared req.method) fun _ => True :=
    survives_errorHandler shared req.method
  have hrest : Survives gunzip
      (if !Text.eqFold req.header.upgradeType resp.header.upgradeType then
        errorHandler shared req.method
      else if !resp.isConnection then errorHandler shared req.method
      else do
        let written ← Deploy.respond (.switched resp)
        if !written then errorHandler shared req.method) fun _ => True := by
    split
    · exact herror
    · split
      · exact herror
      · refine ⟨trivial, fun written _ => ?_⟩
        cases written with
        | true => trivial
        | false => exact herror
  unfold handleUpgradeResponse
  dsimp only
  split
  · exact herror.bind fun _ _ => hrest
  · exact hrest

/-- After a readable response the proxy breaks nothing off. -/
theorem survives_afterRoundTrip {shared : SharedObject} {out : Request} {answer : Option Response}
    (h : ∀ resp, answer = some resp → ¬ resp.endToEnd.Unreadable gunzip shared.clientRequest) :
    Survives gunzip (r.afterRoundTrip gunzip shared out answer) fun res => res.2 = false := by
  cases answer with
  | none => exact (survives_errorHandler _ _).bind fun _ _ => rfl
  | some resp =>
    show Survives gunzip (if resp.statusCode = 101 then _ else _) _
    split
    · rename_i hcode
      have hresp : ¬ resp.Unreadable gunzip shared.clientRequest := by
        rintro ⟨⟨hlow, -⟩, -⟩
        omega
      refine (survives_modifyResponse hresp _).bind fun res _ => ?_
      obtain ⟨ok, shared', resp', save⟩ := res
      cases ok with
      | true => exact (survives_handleUpgradeResponse _ _ _).bind fun _ _ => rfl
      | false => rfl
    · refine (survives_modifyResponse (h resp rfl) _).bind fun res _ => ?_
      obtain ⟨ok, shared', resp', save⟩ := res
      cases ok with
      | true =>
        refine ⟨trivial, fun taken htaken => ?_⟩
        have hwhole : taken = true ∧ resp'.body.err = none := by
          simpa [Readable, Reply.BreaksOff] using htaken
        show (!taken || decide (resp'.body.err ≠ none)) = false
        rw [hwhole.1, hwhole.2]
        rfl
      | false => rfl

theorem survives_reverseProxy (hreq : ¬ req.cloned.Unreadable gunzip) :
    Survives gunzip (r.reverseProxy gunzip g req) fun res => res.2 = false := by
  refine (survives_director hreq).bind fun res _ => ?_
  obtain ⟨shared, out⟩ := res
  dsimp only
  split
  · exact ⟨trivial, fun _ _ => rfl⟩
  · exact ⟨trivial, fun answer hanswer => survives_afterRoundTrip hanswer⟩

theorem survives_runSave (save : Option QuerySave) :
    Survives gunzip (runSave g save) fun _ => True := by
  cases save with
  | none => trivial
  | some save =>
    have hsave : (saveQuery save).Meets (fun _ => True) (fun _ _ => True) fun _ => True := by
      refine ⟨trivial, fun now _ => ?_⟩
      show Meets _ _ _ (if save.utf8 then _ else _)
      split
      · exact ⟨trivial, fun _ _ => trivial⟩
      · trivial
    exact survives_onServer hsave

theorem survives_serveClient (hreq : ¬ req.cloned.Unreadable gunzip) :
    Survives gunzip (r.serveClient gunzip g req) fun _ => True := by
  have hhttp : Survives gunzip (r.serveHTTP gunzip g req) fun res => res.2 = false := by
    refine (survives_authHandler req).bind fun res hres => ?_
    cases res with
    | refused code msg => exact ⟨trivial, fun _ _ => rfl⟩
    | served mid =>
      refine survives_reverseProxy ?_
      rcases hres with rfl | rfl
      · exact hreq
      · rwa [unreadable_delAuthorization]
  refine hhttp.bind fun res hwhole => ?_
  obtain ⟨save, brokenOff⟩ := res
  obtain rfl : brokenOff = false := hwhole
  exact (survives_runSave save).bind fun _ _ => trivial

/-- Nothing of this kind has been seen so far. -/
def Unseen (φ : Visible → Prop) (es : Record DeployOp DeployOp.Ans Db) : Prop :=
  ∀ v ∈ visible es, ¬ φ v

/-- Nothing of this kind is seen of the operation. -/
def Spares (φ : Visible → Prop) (o : DeployOp) : Prop :=
  ∀ s a s' v, Visible.ofEvent ⟨o, s, a, s'⟩ = some v → ¬ φ v

variable {φ : Visible → Prop} {es : Record DeployOp DeployOp.Ans Db}

theorem Unseen.nil : Unseen φ [] := fun _ hv => by cases hv

theorem Unseen.append {e : Event DeployOp DeployOp.Ans Db} (h : Unseen φ es)
    (he : Spares φ e.op) : Unseen φ (es ++ [e]) := by
  intro v hv
  rw [visible_append, List.mem_append] at hv
  rcases hv with hv | hv
  · exact h v hv
  · obtain ⟨e', he', hseen⟩ := List.mem_filterMap.mp hv
    obtain rfl := List.mem_singleton.mp he'
    exact he _ _ _ v hseen

/-- A part by which nothing of this kind is seen. -/
theorem records_spares {α : Type} {p : Deploy α} (hp : p.AllOps (Spares φ)) (h : Unseen φ es) :
    p.Records Explained (fun es e => Unseen φ es ∧ Unseen φ (es ++ [e])) (fun _ es => Unseen φ es)
      es :=
  Records.of_allOps hp (fun _ _ hes he _ => ⟨⟨hes, hes.append he⟩, hes.append he⟩) h

/-- What sends nothing shows no exchange. -/
theorem NotSent.spares (hφ : ∀ v, φ v → ∃ x, v = .sent x) {o : DeployOp} (h : NotSent o) :
    Spares φ o := by
  intro s a s' v hv hbad
  obtain ⟨x, rfl⟩ := hφ v hbad
  cases o with
  | roundTrip shared out => exact h
  | _ => cases hv

theorem exists_sent_of_unreadable : ∀ v : Visible, v.Unreadable gunzip → ∃ x, v = .sent x := by
  intro v hv
  cases v with
  | sent x => exact ⟨x, rfl⟩
  | _ => exact hv.elim

theorem notSent_director (req : Request) : (r.director gunzip g req).AllOps NotSent :=
  director_allOps (fun _ ho => notSent_of_answering ho.answering) (notSent_onDb _)

/-- The judgement of a task that panics at a response that it cannot read: before any event, and at
the end, there has been none. -/
abbrev Reads {α : Type} (gunzip : Gunzip) (p : Deploy α)
    (es : Record DeployOp DeployOp.Ans Db) : Prop :=
  p.Records Explained (fun es _ => Unseen (Visible.Unreadable gunzip) es)
    (fun _ es => Unseen (Visible.Unreadable gunzip) es) es

theorem reads_notSent {α : Type} {p : Deploy α} (hp : p.AllOps NotSent)
    (h : Unseen (Visible.Unreadable gunzip) es) : Reads gunzip p es :=
  (records_spares (hp.mono fun _ => NotSent.spares exists_sent_of_unreadable) h).weaken
    (fun _ he => he) fun _ _ _ hes => hes.1

/-- At a response that it cannot read the proxy panics. -/
theorem afterRoundTrip_panics {shared : SharedObject} {out : Request} {resp : Response}
    (h : resp.endToEnd.Unreadable gunzip shared.clientRequest) :
    r.afterRoundTrip gunzip shared out (some resp) = panic := by
  have hcode : resp.statusCode ≠ 101 := by
    obtain ⟨⟨hlow, -⟩, -⟩ := h
    have hlow' : 200 ≤ resp.statusCode := hlow
    omega
  show (if resp.statusCode = 101 then _ else _) = panic
  rw [if_neg hcode]
  unfold modifyResponse handleServerResponse processResponseErr
  rw [processResponse_eq_none.mpr h]
  rfl

theorem reads_reverseProxy (h : Unseen (Visible.Unreadable gunzip) es) :
    Reads gunzip (r.reverseProxy gunzip g req) es := by
  refine (reads_notSent (notSent_director req.cloned) h).bind fun res new hnew => ?_
  obtain ⟨shared, out⟩ := res
  dsimp only
  split
  · exact reads_notSent ⟨trivial, fun _ => trivial⟩ hnew
  · intro s answer s' _
    refine ⟨hnew, ?_⟩
    by_cases hbad : ∃ resp, answer = some resp ∧
        resp.endToEnd.Unreadable gunzip shared.clientRequest
    · obtain ⟨resp, rfl, hresp⟩ := hbad
      show Records _ _ _ (r.afterRoundTrip gunzip shared (req.leaving out) (some resp)) _
      rw [afterRoundTrip_panics hresp]
      trivial
    · refine reads_notSent ((afterRoundTrip_answering _ _ _).mono fun _ => notSent_of_answering) ?_
      intro v hv
      rw [visible_append, List.mem_append] at hv
      rcases hv with hv | hv
      · exact hnew v hv
      · obtain rfl := List.mem_singleton.mp hv
        exact hbad

/-- **Before any event of a client's request, and at its end, each response could be read.** -/
theorem reads_serveClient (req : Request) : Reads gunzip (r.serveClient gunzip g req) [] := by
  have hhttp : Reads gunzip (r.serveHTTP gunzip g req) [] := by
    refine (reads_notSent (notSent_authHandler req) Unseen.nil).bind fun res new hnew => ?_
    cases res with
    | refused code msg => exact reads_notSent ⟨trivial, fun _ => trivial⟩ hnew
    | served mid => exact reads_reverseProxy hnew
  refine hhttp.bind fun res new hnew => ?_
  obtain ⟨save, brokenOff⟩ := res
  refine (reads_notSent (notSent_runSave save) hnew).bind fun _ new' hnew' => ?_
  cases brokenOff with
  | true => trivial
  | false => exact hnew'

/-- The judgement of a handler that tells whether the reply breaks off. -/
abbrev Tells {α : Type} (p : Deploy α) (Q : α → Record DeployOp DeployOp.Ans Db → Prop)
    (es : Record DeployOp DeployOp.Ans Db) : Prop :=
  p.Records Explained (fun _ _ => True) Q es

/-- An operation that passes no response on. -/
def NotPassed : DeployOp → Prop
  | .respond (.passed _) => False
  | .respond _ | .stmt _ | .authenticate _ _ | .roundTrip _ _ | .withLabelValues _ | .inc _ => True

theorem tells_notPassed {α : Type} {p : Deploy α} (hp : p.AllOps NotPassed)
    (h : Unseen Visible.BreaksOff es) :
    Tells p (fun _ es' => Unseen Visible.BreaksOff es') es := by
  refine (records_spares (hp.mono fun o ho => ?_) h).weaken (fun _ he => he) fun _ _ _ _ => trivial
  intro s a s' v hv hbad
  cases v with
  | replied reply taken =>
    cases o with
    | respond reply' =>
      obtain ⟨rfl, -⟩ := Visible.replied.inj (Option.some.inj hv)
      cases reply' with
      | passed resp => exact ho
      | _ => exact hbad
    | _ => cases hv
  | _ => exact hbad

theorem notPassed_of_telling {o : DeployOp} (h : o.Telling) : NotPassed o := by
  cases o with
  | respond reply =>
    cases reply with
    | passed resp => exact h
    | _ => trivial
  | _ => trivial

theorem notPassed_onDb {α : Type} (p : Srv α) : (Deploy.onDb p).AllOps NotPassed :=
  (allOps_true p).embed DeployOp.Ans fun _ _ => trivial

theorem notPassed_authHandler (req : Request) :
    ((r.authHandler req).interp (Deploy.handlerOp g)).AllOps NotPassed := by
  refine (allOps_true _).interp fun o _ => ?_
  cases o with
  | rpc o => exact notPassed_onDb (g.serve o)
  | authenticate username password => exact ⟨trivial, fun _ => trivial⟩

theorem notPassed_runSave (save : Option QuerySave) : (runSave g save).AllOps NotPassed := by
  cases save with
  | none => trivial
  | some save => exact notPassed_onDb _

theorem tells_afterRoundTrip {shared : SharedObject} {out : Request} {answer : Option Response}
    (h : Unseen Visible.BreaksOff es) :
    Tells (r.afterRoundTrip gunzip shared out answer)
      (fun res es' => res.2 = false → Unseen Visible.BreaksOff es') es := by
  have htell : ∀ {α : Type} {p : Deploy α}, p.AllOps DeployOp.Telling →
      Tells p (fun _ es' => Unseen Visible.BreaksOff es') es :=
    fun hp => tells_notPassed (hp.mono fun _ => notPassed_of_telling) h
  cases answer with
  | none => exact (htell (errorHandler_telling _ _)).bind fun _ new hnew _ => hnew
  | some resp =>
    show Tells (if resp.statusCode = 101 then _ else _) _ es
    split
    · refine (htell (modifyResponse_telling _ _ _)).bind fun res new hnew => ?_
      obtain ⟨ok, shared', resp', save⟩ := res
      cases ok with
      | true =>
        refine (tells_notPassed ((handleUpgradeResponse_telling shared' out resp').mono
          fun _ => notPassed_of_telling) hnew).bind fun _ new' hnew' _ => hnew'
      | false => exact fun _ => hnew
    · refine (htell (modifyResponse_telling _ _ _)).bind fun res new hnew => ?_
      obtain ⟨ok, shared', resp', save⟩ := res
      cases ok with
      | true =>
        intro s taken s' _
        refine ⟨trivial, fun hwhole v hv hbad => ?_⟩
        rw [visible_append, List.mem_append] at hv
        rcases hv with hv | hv
        · exact hnew v hv hbad
        · -- the reply itself
          obtain rfl := List.mem_singleton.mp hv
          have hends : taken = true ∧ resp'.body.err = none := by simpa using hwhole
          rcases hbad with hbad | hbad
          · rw [hends.1] at hbad
            cases hbad
          · exact hbad hends.2
      | false => exact fun _ => hnew

/-- **At the end of a client's request the reply has not broken off.** -/
theorem tells_serveClient (req : Request) :
    Tells (r.serveClient gunzip g req) (fun _ es => Unseen Visible.BreaksOff es) [] := by
  have hproxy : ∀ (mid : Request) (es : Record DeployOp DeployOp.Ans Db),
      Unseen Visible.BreaksOff es → Tells (r.reverseProxy gunzip g mid)
        (fun res es' => res.2 = false → Unseen Visible.BreaksOff es') es := by
    intro mid es hes
    have hdirector : (r.director gunzip g mid.cloned).AllOps NotPassed :=
      director_allOps (fun _ => notPassed_of_telling) (notPassed_onDb _)
    refine (tells_notPassed hdirector hes).bind fun res new hnew => ?_
    obtain ⟨shared, out⟩ := res
    dsimp only
    split
    · refine (tells_notPassed (p := Deploy.respond .nothing) ⟨trivial, fun _ => trivial⟩ hnew).bind
        fun _ new' hnew' _ => hnew'
    · intro s answer s' _
      refine ⟨trivial, tells_afterRoundTrip (hnew.append fun s a s' v hv hbad => ?_)⟩
      obtain rfl := Option.some.inj hv
      exact hbad
  have hhttp : Tells (r.serveHTTP gunzip g req)
      (fun res es' => res.2 = false → Unseen Visible.BreaksOff es') [] := by
    refine (tells_notPassed (notPassed_authHandler req) Unseen.nil).bind fun res new hnew => ?_
    cases res with
    | refused code msg =>
      refine (tells_notPassed (p := Deploy.respond (.httpError code msg)) ⟨trivial, fun _ => trivial⟩
        hnew).bind fun _ new' hnew' _ => hnew'
    | served mid => exact hproxy mid _ hnew
  refine hhttp.bind fun res new hnew => ?_
  obtain ⟨save, brokenOff⟩ := res
  cases brokenOff with
  | true =>
    have hsave : Tells (runSave g save) (fun _ _ => True) ([] ++ new) :=
      Records.of_allOps (J := fun _ => True) (allOps_true _) (fun _ _ _ _ _ => ⟨trivial, trivial⟩)
        trivial
    exact hsave.bind fun _ _ _ => trivial
  | false =>
    exact (tells_notPassed (notPassed_runSave save) (hnew rfl)).bind fun _ new' hnew' => hnew'

/-- A request that cannot be read is not sent, and it ends only where it is refused. -/
theorem unreadable_serveClient (hreq : req.cloned.Unreadable gunzip) :
    (r.serveClient gunzip g req).Records Explained
      (fun es e => Unseen (fun v => ∃ x, v = .sent x) (es ++ [e]))
      (fun _ es => ∃ code msg taken, .replied (.httpError code msg) taken ∈ visible es) [] := by
  have hunsent : ∀ {α : Type} {p : Deploy α} {es : Record DeployOp DeployOp.Ans Db},
      p.AllOps NotSent → Unseen (fun v => ∃ x, v = .sent x) es → p.Records Explained
        (fun es e => Unseen (fun v => ∃ x, v = .sent x) (es ++ [e]))
        (fun _ es' => Unseen (fun v => ∃ x, v = .sent x) es') es :=
    fun hp hes => (records_spares (hp.mono fun _ => NotSent.spares fun _ hv => hv) hes).weaken
      (fun _ he => he) fun _ _ _ hc => hc.2
  have hhttp : (r.serveHTTP gunzip g req).Records Explained
      (fun es e => Unseen (fun v => ∃ x, v = .sent x) (es ++ [e]))
      (fun res es' => Unseen (fun v => ∃ x, v = .sent x) es' ∧
        ∃ code msg taken, .replied (.httpError code msg) taken ∈ visible es') [] := by
    refine ((hunsent (notSent_authHandler req) Unseen.nil).yields
      (authHandler_decides req).interp).bind fun res new hres => ?_
    cases res with
    | refused code msg =>
      intro s taken s' _
      have hsame := hres.1.append (e := ⟨.respond (.httpError code msg), s, taken, s'⟩)
        (NotSent.spares (fun _ hv => hv) trivial)
      refine ⟨hsame, hsame, code, msg, taken, ?_⟩
      rw [visible_append]
      exact List.mem_append_right _ List.mem_cons_self
    | served mid =>
      have hmid : mid.cloned.Unreadable gunzip := by
        rcases hres.2 with rfl | rfl
        · exact hreq
        · rwa [unreadable_delAuthorization]
      -- the director panics
      have hpanic : r.reverseProxy gunzip g mid = (Deploy.withLabelValues
          (.requestsReceivedTotal mid.cloned.method (toString r.port))).bind fun _ => panic := by
        unfold reverseProxy director
        rw [handleClientRequest_panics hmid]
        rfl
      show Records _ _ _ (r.reverseProxy gunzip g mid) _
      rw [hpanic]
      exact (hunsent (p := Deploy.withLabelValues _) ⟨trivial, fun _ => trivial⟩ hres.1).bind
        fun _ _ _ => trivial
  refine hhttp.bind fun res new hres => ?_
  obtain ⟨save, brokenOff⟩ := res
  obtain ⟨hnone, code, msg, taken, hreplied⟩ := hres
  refine (hunsent (notSent_runSave save) hnone).bind fun _ new' _ => ?_
  cases brokenOff with
  | true => trivial
  | false =>
    refine ⟨code, msg, taken, ?_⟩
    rw [visible_append]
    exact List.mem_append_left _ hreplied

end RouterServer

/-- Each operation has an event. -/
theorem exists_explained (o : DeployOp) (db : Db) : ∃ a db', Explained ⟨o, db, a, db'⟩ :=
  ⟨_, _, deployHandler_sem 0 (fun _ => none) () o db⟩

namespace Run

variable {ι : Type} [DecidableEq ι] (R : Run ι)

/-- Task `i` has no step left. -/
def Over (i : ι) : Prop := R.Ended i ∨ R.pool.procs i = panic

theorem visible_of_mem {es : Record DeployOp DeployOp.Ans Db} {e : Event DeployOp DeployOp.Ans Db}
    (he : e ∈ es) {v : Visible} (hv : Visible.ofEvent e = some v) : v ∈ visible es :=
  List.mem_filterMap.mpr ⟨e, he, hv⟩

/-- A request panics at the response that it cannot read. -/
theorem panic_of_unreadable {i : ι} {r : RouterServer} {req : Request}
    (h : R.arrivals i = .client r req) {v : Visible} (hv : v ∈ visible (R.record i))
    (hbad : v.Unreadable R.gunzip) : R.pool.procs i = panic := by
  have hsound := R.sound_client h (I := fun _ => True) (fun _ _ => trivial)
    ((RouterServer.reads_serveClient req).weaken (fun _ he => he.1) fun _ _ _ hes => hes)
  have hsat := hsound.sat
  cases hproc : R.pool.procs i with
  | panic => rfl
  | ret _ =>
    rw [hproc] at hsat
    exact absurd hbad (hsat v hv)
  | op o k =>
    rw [hproc] at hsat
    obtain ⟨a, db', he⟩ := exists_explained o R.now
    exact absurd hbad ((hsat _ a db' ⟨he, trivial⟩).1 v hv)

/-- A request whose reply broke off does not end otherwise than by a panic. -/
theorem not_ended_of_breaksOff {i : ι} {r : RouterServer} {req : Request}
    (h : R.arrivals i = .client r req) {v : Visible} (hv : v ∈ visible (R.record i))
    (hbad : v.BreaksOff) : ¬ R.Ended i := by
  intro hend
  have hsound := R.sound_client h (I := fun _ => True) (fun _ _ => trivial)
    ((RouterServer.tells_serveClient req).weaken (fun _ he => he.1) fun _ _ _ hes => hes)
  exact hsound.result hend v hv hbad

/-- Where each response could be read and was passed on, a readable request goes on. -/
theorem seen_of_panic {i : ι} {r : RouterServer} {req : Request}
    (h : R.arrivals i = .client r req) (hreq : ¬ req.cloned.Unreadable R.gunzip)
    (hpanic : R.pool.procs i = panic) :
    ∃ v ∈ visible (R.record i), v.Unreadable R.gunzip ∨ v.BreaksOff := by
  by_contra hnone
  have hprog : ((R.arrivals i).prog R.gunzip (R.server i)).Meets (fun _ => True)
      (RouterServer.Readable R.gunzip) fun _ => True := by
    rw [h]
    exact RouterServer.survives_serveClient hreq
  have hmeets := System.recorded_meets (i := i) hprog R.reached fun e he => ?_
  · rw [hpanic] at hmeets
    exact hmeets
  · obtain ⟨o, s, a, s'⟩ := e
    cases o with
    | roundTrip shared out =>
      rintro resp rfl hbad
      exact hnone ⟨_, visible_of_mem he rfl, Or.inl ⟨resp, rfl, hbad⟩⟩
    | respond reply => exact fun hbad => hnone ⟨_, visible_of_mem he rfl, Or.inr hbad⟩
    | _ => trivial

/-- **The panics of a gateway in service.** Whatever else is going on, a request that can be read
has panicked, once it is over, exactly when its exchange has brought a response that cannot be read
or its reply broke off; at such a response it panics at once. A request that cannot be read is never
sent, and unless it is refused it panics. -/
theorem panic_iff {i : ι} {r : RouterServer} {req : Request} (h : R.arrivals i = .client r req) :
    (¬ req.cloned.Unreadable R.gunzip → R.Over i →
      (R.pool.procs i = panic ↔
        ∃ v ∈ visible (R.record i), v.Unreadable R.gunzip ∨ v.BreaksOff)) ∧
    (∀ v ∈ visible (R.record i), v.Unreadable R.gunzip → R.pool.procs i = panic) ∧
    (req.cloned.Unreadable R.gunzip → (∀ x, .sent x ∉ visible (R.record i)) ∧
      (R.Ended i → ∃ code msg taken, .replied (.httpError code msg) taken ∈ visible (R.record i))) := by
  refine ⟨fun hreq hover => ⟨R.seen_of_panic h hreq, ?_⟩,
    fun v hv hbad => R.panic_of_unreadable h hv hbad, fun hreq => ?_⟩
  · rintro ⟨v, hv, hbad | hbad⟩
    · exact R.panic_of_unreadable h hv hbad
    · exact hover.resolve_left (R.not_ended_of_breaksOff h hv hbad)
  · have hsound := R.sound_client h (I := fun _ => True) (fun _ _ => trivial)
      ((RouterServer.unreadable_serveClient hreq).weaken (fun _ he => he.1) fun _ _ _ hes => hes)
    have hlast : RouterServer.Unseen (fun v => ∃ x, v = .sent x) (R.record i) :=
      hsound.last RouterServer.Unseen.nil fun _ _ hes => hes
    exact ⟨fun x hx => hlast _ hx ⟨x, rfl⟩, fun hend => hsound.result hend⟩

/-- A response that is labelled as gzip and is empty. -/
def emptyGzip : Response where
  statusCode := 200
  header := [("Content-Encoding", "gzip")]

/-- The query of Alice, that the cluster answers so. -/
def garbled : Run Unit where
  gunzip _ := .badHeader "EOF"
  server _ := RouterServer.sortedServer
  arrivals _ := .client { port := 8080, routerHostname := "" }
    { RouterServer.selectOne with host := "gateway" }
  db := oneBackend
  pool := (List.replicate 15 ()).foldl
    (System.perform (System.recordingHandler (deployHandler 0 fun _ => some emptyGzip)))
    (System.begin (fun _ => (Arrival.client { port := 8080, routerHostname := "" }
      { RouterServer.selectOne with host := "gateway" }).prog (fun _ => .badHeader "EOF")
        RouterServer.sortedServer) oneBackend)
  reached := System.foldl_perform_reachable _
    (System.recordingHandler_sem (deployHandler_sem 0 fun _ => some emptyGzip)) _ _

/-- The request as it is sent. -/
def garbledExchange : Exchange where
  shared := ⟨some ((ClientRequest.query (RouterServer.routedQuery "SELECT 1")).withServerHost
    "http://trino.dev"), none⟩
  req := { RouterServer.selectOne with
    url := { scheme := "http", host := "trino-1:8080", path := "/v1/statement" }
    host := "trino-1:8080"
    header := [("X-Trino-User", "alice"), ("X-Forwarded-Host", "trino-1:8080"), ("User-Agent", "")] }
  resp := some emptyGzip

/-- The router panics at the response. -/
theorem garbled_panics : garbled.pool.procs () = panic := by
  have hreq : ¬ ({ RouterServer.selectOne with host := "gateway" } : Request).cloned.Unreadable
      garbled.gunzip := by
    rintro ⟨-, hnil | ⟨-, hgzip, -⟩⟩
    · cases hnil
    · exact absurd hgzip (by decide)
  have hsent : (visible (garbled.record ()))[1]? = some (.sent garbledExchange) := by
    decide +kernel
  have hbad : garbledExchange.Unreadable garbled.gunzip :=
    ⟨emptyGzip, rfl, by decide, ⟨_, rfl⟩, rfl, by decide, "EOF", rfl⟩
  have hall := garbled.panic_iff (i := ()) rfl
  have hpanic : garbled.pool.procs () = panic :=
    hall.2.1 _ (List.mem_of_getElem? hsent) hbad
  exact (hall.1 hreq (Or.inr hpanic)).mpr ⟨_, List.mem_of_getElem? hsent, Or.inl hbad⟩

end Run

end TrinoGateway
