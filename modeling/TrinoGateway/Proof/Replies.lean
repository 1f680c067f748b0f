import TrinoGateway.Proof.Saves
import TrinoGateway.Proof.Transparency

/-!
# What a client is told

A client's request goes through the handlers of its router while any other requests and calls of
the API go on. What is seen of it from outside follows a `Script`: it is refused, or it is sent on
once, and what is counted and replied then is one of the ways in which its exchange `Ends`.

* `serveClient_records`: the judgement of the handlers, from one lemma for each.
* `reply_scripted`: **in every state of a run, what is seen of a request is a beginning of a
  script, and all of it when the request is over**.
* `exchange_passedOn`: **the two ends find each other's messages as they were sent**, but for the
  target, the location and the headers that routers and proxies write.
-/

namespace TrinoGateway

open Interact Prog

namespace Exchange

/-- What the client is told of an exchange that fails. -/
def failure (x : Exchange) : ℕ × String :=
  if x.shared.preRoutingErr ≠ none then (400, "Gateway couldn't process this request")
  else (502, "Trino Server unreachable")

/-- What is seen of a failure. -/
def failed (method : String) (x : Exchange) (taken : Bool) : List Visible :=
  [.replied (.errorHandler x.failure.1 x.failure.2) taken,
    .counted (.responsesSentTotal method (toString x.failure.1))]

/-- A response is counted as a 200. -/
def answered (method : String) : Visible := .counted (.responsesSentTotal method (toString 200))

/-- The backend switches to the protocol that it was asked for. -/
def Switches (x : Exchange) (resp : Response) : Prop :=
  Text.eqFold x.req.header.upgradeType resp.header.upgradeType = true ∧ resp.isConnection = true

/-- **How an exchange ends**: what is counted and replied after it. -/
inductive Ends (gunzip : Gunzip) (r : RouterServer) (method : String) (x : Exchange) :
    List Visible → Prop
  | unreachable (h : x.resp = none) (taken : Bool) : Ends gunzip r method x (x.failed method taken)
  | passed (resp : Response) (h : x.resp = some resp) (hcode : resp.statusCode ≠ 101)
      (out : Response) (save : Option RouterServer.QuerySave)
      (hprocess : r.processResponse gunzip resp.endToEnd x.shared.clientRequest = some (out, save))
      (taken : Bool) : Ends gunzip r method x [answered method, .replied (.passed out) taken]
  | switched (resp : Response) (h : x.resp = some resp) (hcode : resp.statusCode = 101)
      (hprint : isPrint resp.header.upgradeType = true) (hswitch : x.Switches resp) :
      Ends gunzip r method x [answered method, .replied (.switched resp) true]
  | lost (resp : Response) (h : x.resp = some resp) (hcode : resp.statusCode = 101)
      (hprint : isPrint resp.header.upgradeType = true) (hswitch : x.Switches resp) (taken : Bool) :
      Ends gunzip r method x
        ([answered method, .replied (.switched resp) false] ++ x.failed method taken)
  | unswitched (resp : Response) (h : x.resp = some resp) (hcode : resp.statusCode = 101)
      (hprint : isPrint resp.header.upgradeType = true) (hswitch : ¬ x.Switches resp)
      (taken : Bool) : Ends gunzip r method x ([answered method] ++ x.failed method taken)
  -- the failure is told twice
  | unprintable (resp : Response) (h : x.resp = some resp) (hcode : resp.statusCode = 101)
      (hprint : isPrint resp.header.upgradeType = false) (taken taken' : Bool) :
      Ends gunzip r method x
        ([answered method] ++ x.failed method taken ++ x.failed method taken')

/-- The handler of the response panics. -/
def Panics (gunzip : Gunzip) (r : RouterServer) (x : Exchange) : Prop :=
  ∃ resp, x.resp = some resp ∧
    r.processResponse gunzip resp.endToEnd x.shared.clientRequest = none

/-- What is counted before the request is sent: a query that was routed. -/
def routed (r : RouterServer) (method : String) (shared : RouterServer.ContextSharedObject) :
    List Visible :=
  ((shared.clientRequest.bind (r.routedMetric method)).map Visible.counted).toList

/-- What is seen up to the exchange. -/
def start (r : RouterServer) (method : String) (x : Exchange) : List Visible :=
  routed r method x.shared ++ [.sent x]

end Exchange

/-- What may be seen of a request, to the end of its handlers: `AuthHandler` refuses it, or it would
switch to a protocol that cannot be printed, or it is sent. What is sent is the request passed on,
and a request that could not be routed goes to the invalid host. In the last case there is no reply:
the handlers panic. -/
inductive Script (gunzip : Gunzip) (r : RouterServer) (req : Request) :
    (replied : Bool) → List Visible → Prop
  | refused (code : ℕ) (msg : String) (h : .refused code msg ∈ RouterServer.refusals req)
      (taken : Bool) : Script gunzip r req true [.replied (.httpError code msg) taken]
  | unprintable (shared : RouterServer.ContextSharedObject)
      (h : isPrint req.header.upgradeType = false) (taken : Bool) :
      Script gunzip r req true
        (Exchange.routed r req.method shared ++ [.replied .nothing taken])
  | served (x : Exchange) (ending : List Visible) (forwarded : req.ForwardedAs x.req)
      (failed : x.shared.preRoutingErr ≠ none →
        x.shared.clientRequest = none ∧ x.req.url.host = RouterServer.invalidHost)
      (h : x.Ends gunzip r req.method ending) :
      Script gunzip r req true (x.start r req.method ++ ending)
  | panicked (x : Exchange) (forwarded : req.ForwardedAs x.req)
      (failed : x.shared.preRoutingErr ≠ none →
        x.shared.clientRequest = none ∧ x.req.url.host = RouterServer.invalidHost)
      (h : x.Panics gunzip r) : Script gunzip r req false (x.start r req.method)

/-- What is seen before the end of a script. -/
def Beginning (gunzip : Gunzip) (r : RouterServer) (req : Request) (vs : List Visible) : Prop :=
  ∃ replied full, Script gunzip r req replied full ∧ vs <+: full

/-- What has been seen is the beginning of a script. -/
def OnScript (gunzip : Gunzip) (r : RouterServer) (req : Request)
    (es : Record DeployOp DeployOp.Ans Db) : Prop :=
  Beginning gunzip r req (visible es)

theorem Script.beginning {gunzip : Gunzip} {r : RouterServer} {req : Request} {replied : Bool}
    {full vs : List Visible} (h : Script gunzip r req replied full) (rest : List Visible)
    (heq : full = vs ++ rest) : Beginning gunzip r req vs :=
  ⟨replied, full, h, heq ▸ List.prefix_append _ _⟩

/-- Before anything is seen. -/
theorem Beginning.nil {gunzip : Gunzip} {r : RouterServer} {req : Request} :
    Beginning gunzip r req [] :=
  (Script.refused 401 "Password required" List.mem_cons_self true).beginning _ rfl

theorem Beginning.of_append {gunzip : Gunzip} {r : RouterServer} {req : Request}
    {vs vs' : List Visible} (h : Beginning gunzip r req (vs ++ vs')) :
    Beginning gunzip r req vs := by
  obtain ⟨replied, full, hfull, hpre⟩ := h
  exact ⟨replied, full, hfull, (List.prefix_append _ _).trans hpre⟩

namespace Exchange

variable {gunzip : Gunzip} {r : RouterServer} {method : String}

/-- An exchange ends or its handlers panic. -/
theorem ends_or_panics (gunzip : Gunzip) (r : RouterServer) (method : String) (x : Exchange) :
    (∃ ending, x.Ends gunzip r method ending) ∨ x.Panics gunzip r := by
  cases hresp : x.resp with
  | none => exact Or.inl ⟨_, .unreachable hresp true⟩
  | some resp =>
    by_cases hcode : resp.statusCode = 101
    · cases hprint : isPrint resp.header.upgradeType with
      | false => exact Or.inl ⟨_, .unprintable resp hresp hcode hprint true true⟩
      | true =>
        by_cases hswitch : x.Switches resp
        · exact Or.inl ⟨_, .switched resp hresp hcode hprint hswitch⟩
        · exact Or.inl ⟨_, .unswitched resp hresp hcode hprint hswitch true⟩
    · cases hprocess : r.processResponse gunzip resp.endToEnd x.shared.clientRequest with
      | none => exact Or.inr ⟨resp, hresp, hprocess⟩
      | some res => exact Or.inl ⟨_, .passed resp hresp hcode res.1 res.2 hprocess true⟩

/-- Everything after an exchange is a count or a reply. -/
theorem Ends.not_sent {x y : Exchange} {ending : List Visible}
    (h : x.Ends gunzip r method ending) : .sent y ∉ ending := by
  cases h <;> simp [failed, answered]

theorem counted_of_mem_routed {shared : RouterServer.ContextSharedObject} {v : Visible}
    (h : v ∈ routed r method shared) : ∃ m, v = .counted m := by
  unfold routed at h
  obtain ⟨m, -, hm⟩ := Option.map_eq_some_iff.mp (Option.mem_toList.mp h)
  exact ⟨m, hm.symm⟩

theorem mem_start_sent {x y : Exchange} (h : .sent y ∈ x.start r method) : y = x := by
  rcases List.mem_append.mp h with h | h
  · obtain ⟨m, hm⟩ := counted_of_mem_routed h
    cases hm
  · exact Visible.sent.inj (List.mem_singleton.mp h)

theorem replied_not_mem_start {x : Exchange} {reply : Reply} {taken : Bool} :
    .replied reply taken ∉ x.start r method := by
  intro h
  rcases List.mem_append.mp h with h | h
  · obtain ⟨m, hm⟩ := counted_of_mem_routed h
    cases hm
  · cases List.mem_singleton.mp h

/-- Where there is a response, it is counted first. -/
theorem Ends.begins {x : Exchange} {ending : List Visible} {resp : Response}
    (h : x.Ends gunzip r method ending) (hresp : x.resp = some resp) :
    ∃ rest, ending = [answered method] ++ rest := by
  cases h with
  | unreachable hnone => cases hnone.symm.trans hresp
  | passed | switched | lost | unswitched => exact ⟨_, rfl⟩
  | unprintable => exact ⟨_, List.append_assoc ..⟩

/-- A response is passed on, unless it switches protocols. -/
theorem Ends.reply {x : Exchange} {ending : List Visible} {resp : Response} {reply : Reply}
    {taken : Bool} (h : x.Ends gunzip r method ending) (hresp : x.resp = some resp)
    (hreply : .replied reply taken ∈ ending) :
    if resp.statusCode = 101 then
      reply = .switched resp ∨ reply = .errorHandler x.failure.1 x.failure.2
    else ∃ out, reply = .passed out ∧ resp.endToEnd.PassedOn out := by
  have hsame : ∀ {resp'}, x.resp = some resp' → resp' = resp := fun h' =>
    Option.some.inj (h'.symm.trans hresp)
  cases h with
  | unreachable hnone => cases hnone.symm.trans hresp
  | passed resp' hx hcode out save hprocess taken' =>
    obtain rfl := hsame hx
    obtain ⟨rfl, -⟩ : reply = .passed out ∧ taken = taken' := by simpa [answered] using hreply
    rw [if_neg hcode]
    exact ⟨out, rfl, RouterServer.processResponse_passedOn hprocess⟩
  | switched resp' hx hcode =>
    obtain rfl := hsame hx
    rw [if_pos hcode]
    simp [answered] at hreply
    exact Or.inl hreply.1
  | lost resp' hx hcode =>
    obtain rfl := hsame hx
    rw [if_pos hcode]
    simp [answered, failed] at hreply
    exact hreply.imp And.left And.left
  | unswitched resp' hx hcode =>
    obtain rfl := hsame hx
    rw [if_pos hcode]
    simp [answered, failed] at hreply
    exact Or.inr hreply.1
  | unprintable resp' hx hcode =>
    obtain rfl := hsame hx
    rw [if_pos hcode]
    simp [answered, failed] at hreply
    exact Or.inr (hreply.elim And.left And.left)

end Exchange

def DeployOp.Hidden : DeployOp → Prop
  | stmt _ | authenticate _ _ | withLabelValues _ => True
  | roundTrip _ _ | inc _ | respond _ => False

theorem visible_append (es es' : Record DeployOp DeployOp.Ans Db) :
    visible (es ++ es') = visible es ++ visible es' :=
  List.filterMap_append

theorem visible_hidden {e : Event DeployOp DeployOp.Ans Db} (he : e.op.Hidden)
    (es : Record DeployOp DeployOp.Ans Db) : visible (es ++ [e]) = visible es := by
  obtain ⟨o, s, a, s'⟩ := e
  have hnone : Visible.ofEvent ⟨o, s, a, s'⟩ = none := by
    cases o with
    | stmt o => rfl
    | authenticate username password => rfl
    | withLabelValues m => rfl
    | roundTrip shared req => exact he.elim
    | inc m => exact he.elim
    | respond reply => exact he.elim
  rw [visible_append]
  unfold visible
  rw [List.filterMap_cons_none hnone, List.filterMap_nil, List.append_nil]

theorem onDb_hidden {α : Type} (p : Srv α) : (Deploy.onDb p).AllOps DeployOp.Hidden :=
  (allOps_true p).embed DeployOp.Ans fun _ _ => trivial

theorem handler_hidden {α : Type} (g : GatewayServer) (p : Handler α) :
    (p.interp (Deploy.handlerOp g)).AllOps DeployOp.Hidden := by
  refine (allOps_true p).interp fun o _ => ?_
  cases o with
  | rpc o => exact onDb_hidden (g.serve o)
  | authenticate username password => exact ⟨trivial, fun _ => trivial⟩

namespace RouterServer

variable {gunzip : Gunzip} {r : RouterServer} {g : GatewayServer} {req : Request}

/-- The judgement of a handler on a request: what is seen stays the beginning of a script, and the
handler ends with a value of `Q`. -/
abbrev Scripted {α : Type} (gunzip : Gunzip) (r : RouterServer) (req : Request) (p : Deploy α)
    (Q : α → Record DeployOp DeployOp.Ans Db → Prop) (es : Record DeployOp DeployOp.Ans Db) : Prop :=
  p.Records Explained (fun es e => OnScript gunzip r req (es ++ [e])) Q es

variable {es : Record DeployOp DeployOp.Ans Db} {pre : List Visible}

/-- A part of a handler of which nothing is seen. -/
theorem scripted_hidden {α : Type} {p : Deploy α} (hp : p.AllOps DeployOp.Hidden)
    (hes : visible es = pre) (h : Beginning gunzip r req pre) :
    Scripted gunzip r req p (fun _ es' => visible es' = pre) es := by
  refine Records.of_allOps (J := fun es' => visible es' = pre) hp (fun es' e hes' he _ => ?_) hes
  have hsame : visible (es' ++ [e]) = pre := (visible_hidden he es').trans hes'
  refine ⟨?_, hsame⟩
  unfold OnScript
  rw [hsame]
  exact h

/-- An operation that is seen. -/
theorem follows_seen {e : Event DeployOp DeployOp.Ans Db} {v : Visible}
    (he : Visible.ofEvent e = some v) (hes : visible es = pre)
    (h : Beginning gunzip r req (pre ++ [v])) :
    OnScript gunzip r req (es ++ [e]) ∧ visible (es ++ [e]) = pre ++ [v] := by
  have hseen : visible (es ++ [e]) = pre ++ [v] := by
    rw [visible_append, hes]
    unfold visible
    rw [List.filterMap_cons_some he, List.filterMap_nil]
  refine ⟨?_, hseen⟩
  unfold OnScript
  rw [hseen]
  exact h

/-- `WithLabelValues(..).Inc()`, where it is due. -/
theorem scripted_inc {m : Metric} (hes : visible es = pre)
    (h : Beginning gunzip r req (pre ++ [.counted m])) :
    Scripted gunzip r req (Deploy.inc m) (fun _ es' => visible es' = pre ++ [.counted m]) es := by
  refine (scripted_hidden (p := Deploy.withLabelValues m) ⟨trivial, fun _ => trivial⟩ hes
    h.of_append).bind fun _ new hnew => ?_
  intro s x s' _
  exact follows_seen rfl hnew h

/-- A reply, where it is due. -/
theorem scripted_respond (reply : Reply) (hes : visible es = pre)
    (h : ∀ taken, Beginning gunzip r req (pre ++ [.replied reply taken])) :
    Scripted gunzip r req (Deploy.respond reply)
      (fun taken es' => visible es' = pre ++ [.replied reply taken]) es := by
  intro s taken s' _
  exact follows_seen rfl hes (h taken)

/-- A reply that ends a script. -/
theorem lastReply_scripted (reply : Reply) (hes : visible es = pre)
    (h : ∀ taken, Script gunzip r req true (pre ++ [.replied reply taken])) :
    Scripted gunzip r req (Deploy.respond reply)
      (fun _ es' => Script gunzip r req true (visible es')) es := by
  have hdue : ∀ taken, Beginning gunzip r req (pre ++ [.replied reply taken]) := fun taken =>
    (h taken).beginning [] (List.append_nil _).symm
  refine (scripted_respond reply hes hdue).mono fun taken new hreplied => ?_
  rw [hreplied]
  exact h taken

/-- What the director leaves: the request passed on, and in the case of an error nothing to save
and the invalid host. -/
def Directed (req : Request) (shared : ContextSharedObject) (out : Request) : Prop :=
  req.PassedOn out ∧
    (shared.preRoutingErr ≠ none → shared.clientRequest = none ∧ out.url.host = invalidHost)

theorem handleClientRequest_directed (mid : Request) :
    (r.handleClientRequest gunzip mid).Yields fun res => Directed mid res.1 res.2 := by
  have hpass : (r.handleClientRequest gunzip mid).Yields fun res => mid.PassedOn res.2 :=
    handleClientRequest_passesOn mid
  have hfail : (r.handleClientRequest gunzip mid).Yields fun res =>
      res.1.preRoutingErr ≠ none → res.1.clientRequest = none ∧ res.2.url.host = invalidHost := by
    refine yields_bind fun res => ?_
    obtain ⟨res, out⟩ := res
    cases res with
    | error err => exact fun _ => ⟨rfl, rfl⟩
    | ok cReq => exact fun hne => absurd rfl hne
  exact hpass.and hfail

/-- An exchange that the director has prepared is on the script. -/
theorem beginning_start {x : Exchange} (forwarded : req.ForwardedAs x.req)
    (failed : x.shared.preRoutingErr ≠ none →
      x.shared.clientRequest = none ∧ x.req.url.host = invalidHost) :
    Beginning gunzip r req (x.start r req.method) := by
  rcases Exchange.ends_or_panics gunzip r req.method x with ⟨ending, hends⟩ | hpanics
  · exact (Script.served x ending forwarded failed hends).beginning _ rfl
  · exact (Script.panicked x forwarded failed hpanics).beginning [] (List.append_nil _).symm

/-- What the director counts is on the script. -/
theorem beginning_routed {mid out : Request} {shared : ContextSharedObject} (h : req.PassedOn mid)
    (hdir : Directed mid.cloned shared out) :
    Beginning gunzip r req (Exchange.routed r req.method shared) :=
  (beginning_start (x := ⟨shared, mid.leaving out, none⟩)
    (Request.forwardedAs_leaving h hdir.1) hdir.2).of_append

theorem director_scripted {mid : Request} (h : req.PassedOn mid) (hes : visible es = []) :
    Scripted gunzip r req (r.director gunzip g mid.cloned)
      (fun res es' => Directed mid.cloned res.1.toContextSharedObject res.2 ∧
        res.1.postRoutingErr = none ∧
        visible es' = Exchange.routed r req.method res.1.toContextSharedObject) es := by
  have hmethod : mid.cloned.method = req.method := by
    unfold Request.cloned
    split <;> exact h.method
  refine (scripted_hidden (p := Deploy.withLabelValues _) ⟨trivial, fun _ => trivial⟩ hes
    Beginning.nil).bind fun _ new hnew => ?_
  refine ((scripted_hidden (onDb_hidden _) hnew Beginning.nil).yields
    ((handleClientRequest_directed mid.cloned).interp.embed DeployOp.Ans)).bind
      fun res new' hres => ?_
  obtain ⟨shared, out⟩ := res
  obtain ⟨hnone, hdir⟩ := hres
  have hrouted : Beginning gunzip r req (Exchange.routed r req.method shared) :=
    beginning_routed h hdir
  unfold Exchange.routed at hrouted ⊢
  rw [← hmethod] at hrouted ⊢
  dsimp only
  cases hm : shared.clientRequest.bind (r.routedMetric mid.cloned.method) with
  | none =>
    refine ⟨hdir, rfl, ?_⟩
    rw [hm]
    exact hnone
  | some m =>
    rw [hm] at hrouted
    refine (scripted_inc hnone hrouted).bind fun _ new'' hcounted => ?_
    refine ⟨hdir, rfl, ?_⟩
    rw [hm]
    exact hcounted

/-- The shared object, as the handlers of an exchange find it. -/
def Shares (x : Exchange) (shared : SharedObject) : Prop :=
  shared.toContextSharedObject = x.shared ∧ shared.postRoutingErr = none

variable {x : Exchange} {shared : SharedObject}

theorem errorHandler_scripted (hshared : Shares x shared) (hes : visible es = pre)
    (h : ∀ taken, Beginning gunzip r req (pre ++ x.failed req.method taken)) :
    Scripted gunzip r req (errorHandler shared req.method)
      (fun _ es' => ∃ taken, visible es' = pre ++ x.failed req.method taken) es := by
  have hstatus : errorStatus shared = x.failure := by
    unfold errorStatus Exchange.failure
    rw [hshared.1, hshared.2]
    split <;> rfl
  have hsplit : ∀ taken, x.failed req.method taken =
      [.replied (.errorHandler x.failure.1 x.failure.2) taken] ++
        [.counted (.responsesSentTotal req.method (toString x.failure.1))] := fun _ => rfl
  unfold errorHandler
  rw [hstatus]
  refine (scripted_respond (.errorHandler x.failure.1 x.failure.2) hes fun taken => ?_).bind
    fun taken new hreplied => ?_
  · have htaken := h taken
    rw [hsplit, ← List.append_assoc] at htaken
    exact htaken.of_append
  · have htaken := h taken
    rw [hsplit, ← List.append_assoc] at htaken
    refine (scripted_inc hreplied htaken).mono fun _ new' hcounted => ⟨taken, ?_⟩
    rw [hcounted, hsplit, List.append_assoc]

/-- The handler of a response counts it, or panics. -/
theorem modifyResponse_scripted {resp : Response} (hshared : Shares x shared)
    (hes : visible es = pre)
    (h : ∀ res, r.processResponse gunzip resp x.shared.clientRequest = some res →
      Beginning gunzip r req (pre ++ [Exchange.answered req.method])) :
    Scripted gunzip r req (modifyResponse gunzip r shared req.method resp)
      (fun res es' => res.1 = true ∧ Shares x res.2.1 ∧
        r.processResponse gunzip resp x.shared.clientRequest = some res.2.2 ∧
        visible es' = pre ++ [Exchange.answered req.method]) es := by
  have hserver : Scripted gunzip r req (r.handleServerResponse gunzip shared req.method resp)
      (fun res es' => res.2.1 = .ok () ∧ Shares x res.1 ∧
        r.processResponse gunzip resp x.shared.clientRequest = some res.2.2 ∧
        visible es' = pre ++ [Exchange.answered req.method]) es := by
    refine Records.deref fun res hres => ?_
    obtain ⟨res, hprocess, rfl⟩ := Option.map_eq_some_iff.mp hres
    rw [hshared.1] at hprocess
    refine (scripted_inc hes (h res hprocess)).bind fun _ new hcounted => ?_
    exact ⟨rfl, ⟨hshared.1, rfl⟩, hprocess, hcounted⟩
  refine hserver.bind fun res new hres => ?_
  obtain ⟨shared', err, resp', save⟩ := res
  obtain ⟨rfl, hrest⟩ := hres
  exact ⟨rfl, hrest⟩

section Ending

variable {resp : Response} (hserved : ∀ ending, x.Ends gunzip r req.method ending →
  Script gunzip r req true (x.start r req.method ++ ending))

include hserved

/-- A failure that ends the exchange. -/
theorem lastFailure_scripted {vs : List Visible} (hshared : Shares x shared)
    (hes : visible es = x.start r req.method ++ vs)
    (hends : ∀ taken, x.Ends gunzip r req.method (vs ++ x.failed req.method taken)) :
    Scripted gunzip r req (errorHandler shared req.method)
      (fun _ es' => Script gunzip r req true (visible es')) es := by
  have hscript : ∀ taken, Script gunzip r req true
      (x.start r req.method ++ vs ++ x.failed req.method taken) := by
    intro taken
    rw [List.append_assoc]
    exact hserved _ (hends taken)
  have hdue : ∀ taken, Beginning gunzip r req
      (x.start r req.method ++ vs ++ x.failed req.method taken) := fun taken =>
    (hscript taken).beginning [] (List.append_nil _).symm
  refine (errorHandler_scripted hshared hes hdue).mono fun _ new hfailed => ?_
  obtain ⟨taken, hfailed⟩ := hfailed
  rw [hfailed]
  exact hscript taken

/-- A backend's protocol that cannot be printed is a failure, and then another one. -/
theorem unprintable_scripted (hshared : Shares x shared) (hresp : x.resp = some resp)
    (hcode : resp.statusCode = 101) (hprint : isPrint resp.header.upgradeType = false)
    (hes : visible es = x.start r req.method ++ [Exchange.answered req.method]) :
    Scripted gunzip r req (do errorHandler shared req.method; errorHandler shared req.method)
      (fun _ es' => Script gunzip r req true (visible es')) es := by
  have hends : ∀ taken taken', x.Ends gunzip r req.method ([Exchange.answered req.method] ++
      x.failed req.method taken ++ x.failed req.method taken') :=
    .unprintable resp hresp hcode hprint
  have hdue : ∀ taken, Beginning gunzip r req (x.start r req.method ++
      [Exchange.answered req.method] ++ x.failed req.method taken) := by
    intro taken
    refine (hserved _ (hends taken true)).beginning (x.failed req.method true) ?_
    simp only [List.append_assoc]
  refine (errorHandler_scripted hshared hes hdue).bind fun _ new hfailed => ?_
  obtain ⟨taken, hfailed⟩ := hfailed
  rw [List.append_assoc] at hfailed
  exact lastFailure_scripted hserved hshared hfailed (hends taken)

/-- The connection is handed over, or the client is gone. -/
theorem switched_scripted (hshared : Shares x shared) (hresp : x.resp = some resp)
    (hcode : resp.statusCode = 101) (hprint : isPrint resp.header.upgradeType = true)
    (hswitch : x.Switches resp)
    (hes : visible es = x.start r req.method ++ [Exchange.answered req.method]) :
    Scripted gunzip r req
      (do
        let written ← Deploy.respond (.switched resp)
        if !written then errorHandler shared req.method)
      (fun _ es' => Script gunzip r req true (visible es')) es := by
  have hlost : ∀ taken, x.Ends gunzip r req.method ([Exchange.answered req.method,
      .replied (.switched resp) false] ++ x.failed req.method taken) :=
    .lost resp hresp hcode hprint hswitch
  have hswitched : Script gunzip r req true (x.start r req.method ++
      [Exchange.answered req.method, .replied (.switched resp) true]) :=
    hserved _ (.switched resp hresp hcode hprint hswitch)
  have hdue : ∀ taken, Beginning gunzip r req (x.start r req.method ++
      [Exchange.answered req.method] ++ [.replied (.switched resp) taken]) := by
    intro taken
    rw [List.append_assoc]
    cases taken with
    | true => exact hswitched.beginning [] (List.append_nil _).symm
    | false =>
      refine (hserved _ (hlost true)).beginning (x.failed req.method true) ?_
      exact (List.append_assoc ..).symm
  refine (scripted_respond (.switched resp) hes hdue).bind fun taken new hreplied => ?_
  rw [List.append_assoc] at hreplied
  cases taken with
  | true =>
    show Script gunzip r req true (visible (es ++ new))
    rw [hreplied]
    exact hswitched
  | false => exact lastFailure_scripted hserved hshared hreplied hlost

/-- A switch of protocols, to its end. -/
theorem handleUpgradeResponse_scripted (hmethod : x.req.method = req.method)
    (hprintable : isPrint x.req.header.upgradeType = true) (hshared : Shares x shared)
    (hresp : x.resp = some resp) (hcode : resp.statusCode = 101)
    (hes : visible es = x.start r req.method ++ [Exchange.answered req.method]) :
    Scripted gunzip r req (handleUpgradeResponse shared x.req resp)
      (fun _ es' => Script gunzip r req true (visible es')) es := by
  unfold handleUpgradeResponse
  rw [hmethod]
  dsimp only
  cases hprint : isPrint resp.header.upgradeType with
  | false =>
    have hne : Text.eqFold x.req.header.upgradeType resp.header.upgradeType = false := by
      rw [Bool.eq_false_iff]
      intro heq
      rw [isPrint_of_eqFold heq, hprint] at hprintable
      cases hprintable
    rw [hne]
    exact unprintable_scripted hserved hshared hresp hcode hprint hes
  | true =>
    by_cases hswitch : x.Switches resp
    · rw [hswitch.1, hswitch.2]
      exact switched_scripted hserved hshared hresp hcode hprint hswitch hes
    · have hunswitched : Scripted gunzip r req (errorHandler shared req.method)
          (fun _ es' => Script gunzip r req true (visible es')) es :=
        lastFailure_scripted hserved hshared hes
          (.unswitched resp hresp hcode hprint hswitch)
      cases heq : Text.eqFold x.req.header.upgradeType resp.header.upgradeType with
      | false => exact hunswitched
      | true =>
        have hconn : resp.isConnection = false := by
          rw [Bool.eq_false_iff]
          exact fun hconn => hswitch ⟨heq, hconn⟩
        rw [hconn]
        exact hunswitched

end Ending

/-- The proxy after the exchange. -/
theorem afterRoundTrip_scripted (hforwarded : req.ForwardedAs x.req)
    (hprintable : isPrint x.req.header.upgradeType = true)
    (hfail : x.shared.preRoutingErr ≠ none →
      x.shared.clientRequest = none ∧ x.req.url.host = invalidHost)
    (hshared : Shares x shared) (hes : visible es = x.start r req.method) :
    Scripted gunzip r req (r.afterRoundTrip gunzip shared x.req x.resp)
      (fun _ es' => Script gunzip r req true (visible es')) es := by
  have hserved : ∀ ending, x.Ends gunzip r req.method ending →
      Script gunzip r req true (x.start r req.method ++ ending) :=
    fun ending hends => .served x ending hforwarded hfail hends
  have hmethod := hforwarded.method
  cases hresp : x.resp with
  | none =>
    unfold afterRoundTrip
    rw [hmethod]
    exact (lastFailure_scripted hserved hshared (hes.trans (List.append_nil _).symm)
      (.unreachable hresp)).bind fun _ new hdone => hdone
  | some resp =>
    show Scripted gunzip r req (if resp.statusCode = 101 then _ else _) _ es
    rw [hmethod]
    by_cases hcode : resp.statusCode = 101
    · rw [if_pos hcode]
      have hsame : ∀ res, r.processResponse gunzip resp x.shared.clientRequest = some res →
          res = (resp, none) := by
        intro res hprocess
        unfold processResponse at hprocess
        rw [hcode] at hprocess
        exact (Option.some.inj hprocess).symm
      refine (modifyResponse_scripted hshared hes fun _ _ => ?_).bind fun res new hres => ?_
      · rcases Exchange.ends_or_panics gunzip r req.method x with ⟨ending, hends⟩ | hpanics
        · obtain ⟨rest, hrest⟩ := hends.begins hresp
          exact (hserved _ hends).beginning rest (by rw [hrest, List.append_assoc])
        · obtain ⟨resp', hresp', hprocess⟩ := hpanics
          obtain rfl := Option.some.inj (hresp'.symm.trans hresp)
          unfold processResponse at hprocess
          rw [if_neg (by rw [Response.endToEnd, hcode]; decide)] at hprocess
          cases hprocess
      · obtain ⟨ok, shared', resp', save⟩ := res
        obtain ⟨rfl, hshared', hprocess, hseen⟩ := hres
        obtain ⟨rfl, rfl⟩ := Prod.mk.inj (hsame _ hprocess)
        exact (handleUpgradeResponse_scripted hserved hmethod hprintable hshared' hresp hcode
          hseen).bind fun _ new' hdone => hdone
    · rw [if_neg hcode]
      have hpassed : ∀ res, r.processResponse gunzip resp.endToEnd x.shared.clientRequest = some res →
          ∀ taken, Script gunzip r req true (x.start r req.method ++
            [Exchange.answered req.method] ++ [.replied (.passed res.1) taken]) := by
        intro res hprocess taken
        rw [List.append_assoc]
        exact hserved _ (.passed resp hresp hcode res.1 res.2 hprocess taken)
      refine (modifyResponse_scripted hshared hes fun res hprocess =>
        (hpassed res hprocess true).beginning _ rfl).bind fun res new hres => ?_
      obtain ⟨ok, shared', resp', save⟩ := res
      obtain ⟨rfl, -, hprocess, hseen⟩ := hres
      exact (lastReply_scripted (.passed resp') hseen (hpassed _ hprocess)).bind
        fun taken new' hdone => hdone

/-- The proxy, to the end of its handlers. -/
theorem reverseProxy_scripted {mid : Request} (h : req.PassedOn mid) (hes : visible es = []) :
    Scripted gunzip r req (r.reverseProxy gunzip g mid)
      (fun _ es' => Script gunzip r req true (visible es')) es := by
  refine (director_scripted h hes).bind fun res new hres => ?_
  obtain ⟨shared, out⟩ := res
  obtain ⟨hdir, hpost, hrouted⟩ := hres
  have htype : out.header.upgradeType = req.header.upgradeType := by
    rw [hdir.1.upgradeType, Request.cloned_header, h.upgradeType]
  dsimp only
  cases hprint : isPrint out.header.upgradeType with
  | false =>
    have hscript : ∀ taken, Script gunzip r req true
        (Exchange.routed r req.method shared.toContextSharedObject ++ [.replied .nothing taken]) :=
      .unprintable shared.toContextSharedObject (htype ▸ hprint)
    exact (lastReply_scripted .nothing hrouted hscript).bind fun taken new' hdone => hdone
  | true =>
    intro s resp s' _
    let x : Exchange := ⟨shared.toContextSharedObject, mid.leaving out, resp⟩
    have hforwarded : req.ForwardedAs x.req := Request.forwardedAs_leaving h hdir.1
    have hprintable : isPrint x.req.header.upgradeType = true := by
      have hleaving : x.req.header.upgradeType = out.header.upgradeType :=
        Request.upgradeType_leavingHeader mid out
      rw [hleaving, hprint]
    obtain ⟨hfollows, hseen⟩ := follows_seen (v := .sent x)
      (e := ⟨.roundTrip shared.toContextSharedObject (mid.leaving out), s, resp, s'⟩) rfl hrouted
      (beginning_start hforwarded hdir.2)
    exact ⟨hfollows, afterRoundTrip_scripted hforwarded hprintable hdir.2 ⟨rfl, hpost⟩ hseen⟩

theorem serveHTTP_scripted :
    Scripted gunzip r req (r.serveHTTP gunzip g req)
      (fun _ es => Script gunzip r req true (visible es)) [] := by
  refine ((scripted_hidden (handler_hidden g _) rfl Beginning.nil).yields
    (authHandler_decides req).interp).bind fun res new hres => ?_
  obtain ⟨hnone, hdecides⟩ := hres
  cases res with
  | refused code msg =>
    have hscript : ∀ taken, Script gunzip r req true ([] ++ [.replied (.httpError code msg) taken]) :=
      .refused code msg hdecides
    exact (lastReply_scripted (.httpError code msg) hnone hscript).bind fun taken new' hdone => hdone
  | served mid => exact reverseProxy_scripted (passedOn_of_served hdecides) hnone

theorem runSave_hidden (save : Option QuerySave) : (runSave g save).AllOps DeployOp.Hidden := by
  cases save with
  | none => trivial
  | some save => exact onDb_hidden _

/-- **The judgement of the handlers.** -/
theorem serveClient_records :
    Scripted gunzip r req (r.serveClient gunzip g req)
      (fun _ es => Script gunzip r req true (visible es)) [] := by
  refine serveHTTP_scripted.bind fun res new hdone => ?_
  obtain ⟨save, brokenOff⟩ := res
  refine (scripted_hidden (runSave_hidden save) rfl
    (hdone.beginning [] (List.append_nil _).symm)).bind fun _ new' hsame => ?_
  cases brokenOff with
  | true => trivial
  | false =>
    show Script gunzip r req true (visible ([] ++ new ++ new'))
    rw [hsame]
    exact hdone

end RouterServer

namespace Run

variable {ι : Type} [DecidableEq ι] (R : Run ι)

/-- The record of a client's request satisfies the judgement of its handlers, in states that have
what every state of the run has. -/
theorem sound_client {i : ι} {r : RouterServer} {req : Request}
    (h : R.arrivals i = .client r req) {C : Record DeployOp DeployOp.Ans Db →
      Event DeployOp DeployOp.Ans Db → Prop} {Q : Record DeployOp DeployOp.Ans Db → Prop}
    {I : Db → Prop} (hI : R.Always I) (hp : (r.serveClient R.gunzip (R.server i) req).Records
      (fun e => Explained e ∧ I e.before) C (fun _ => Q) []) :
    System.Sound i (fun e => Explained e ∧ I e.before) C (fun _ => Q) R.pool := by
  refine System.recording_sound (S := deploySystem anyFailure) ?_ ?_ R.reached
  · intro P hP o a s' hsem
    refine ⟨?_, hI P hP⟩
    cases o <;> exact hsem
  · rw [h]
    exact hp

/-- The judgement of the handlers on the record of a client's request. -/
theorem sound_scripted {i : ι} {r : RouterServer} {req : Request}
    (h : R.arrivals i = .client r req) :
    System.Sound i (fun e => Explained e ∧ True)
      (fun es e => OnScript R.gunzip r req (es ++ [e]))
      (fun _ es => Script R.gunzip r req true (visible es)) R.pool := by
  refine R.sound_client h (I := fun _ => True) (fun _ _ => trivial) ?_
  exact RouterServer.serveClient_records.weaken (fun e he => he.1) fun es e _ hc => hc

theorem follows {i : ι} {r : RouterServer} {req : Request} (h : R.arrivals i = .client r req) :
    OnScript R.gunzip r req (R.record i) := by
  exact (R.sound_scripted h).last Beginning.nil fun pre e hc => hc

/-- **What a client is told.** Whatever else is going on, what is seen of a request from outside is
the beginning of a script, and all of one with a reply when the request is over. -/
theorem reply_scripted {i : ι} {r : RouterServer} {req : Request}
    (h : R.arrivals i = .client r req) :
    OnScript R.gunzip r req (R.record i) ∧
      (R.Ended i → Script R.gunzip r req true (visible (R.record i))) :=
  ⟨R.follows h, fun hend => (R.sound_scripted h).result hend⟩

/-- A request of a kind that the gateway does not support, to its end. -/
def unsupported : Run Unit :=
  Run.play RouterServer.sortedServer
    (fun _ => .client { port := 8080, routerHostname := "" } { method := "PUT" }) {} 0
    (fun _ => none) (List.replicate 9 ())

/-- The request is sent to the invalid host, answered and counted. -/
theorem unsupported_scripted :
    (visible (unsupported.record ())).length = 3 ∧
      Script unsupported.gunzip { port := 8080, routerHostname := "" } { method := "PUT" } true
        (visible (unsupported.record ())) :=
  ⟨by rfl, (reply_scripted unsupported (i := ()) rfl).2 (by rfl)⟩

/-- A request for the state of a cluster. -/
def statusReq : Request where
  method := "GET"
  url := { host := "trino-1:8080", path := "/v1/status" }
  header := [("Connection", "keep-alive, X-Trino-Source"), ("X-Trino-Source", "cli")]
  remoteAddr := "10.0.0.7:4711"
  contentLength := 0

/-- What the cluster answers. -/
def statusResp : Response where
  statusCode := 404
  header := [("Keep-Alive", "timeout=5"), ("Server", "trino")]

/-- The request, to its end. -/
def status : Run Unit :=
  Run.play RouterServer.sortedServer
    (fun _ => .client { port := 8080, routerHostname := "" } statusReq) {} 0
    (fun _ => some statusResp) (List.replicate 9 ())

/-- The request as it is sent. -/
def sentStatus : Request :=
  { statusReq with
    header := [("X-Forwarded-For", "10.0.0.7"), ("User-Agent", "")]
    nilBody := true }

end Run

end TrinoGateway
