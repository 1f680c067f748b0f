import TrinoGateway.Proof.Impersonation
import TrinoGateway.Proof.Provenance

/-!
# Who is let in

`AuthHandler` decides in the middle of everything else: it asks the policies whether the port's
authentication is delegated, and then the authentication service, while others change the policies.

* `Authorised` are the decisions, each with its grounds in the request's own record: what the port's
  policies were found to say, and what the service answered about the pair of the request.
* `Run.decision_founded`: a request is sent only after a decision to serve it, and refused only
  after a decision to refuse it in these words.
* `Run.delegated_vouched`: **behind a port that a policy delegates, which nobody touches, every
  request that is sent was vouched for by the service**, under the name of its user header and with a
  password, or its own lookup of the policies had failed. An error of the lookup opens the port.
-/

namespace TrinoGateway

open Interact Prog

/-- An enabled policy of the port delegates its authentication. -/
def Policy.Delegates (p : Policy) (port : ℤ) : Prop :=
  p.isEnabled = some true ∧ p.ruleType = "listening_port" ∧ p.ruleValue = toString port ∧
    p.isAuthDelegated = some true

instance (p : Policy) (port : ℤ) : Decidable (p.Delegates port) :=
  inferInstanceAs (Decidable (_ ∧ _ ∧ _ ∧ _))

/-- Some policy delegates the authentication of the port. -/
def Db.Delegates (db : Db) (port : ℤ) : Prop := ∃ p ∈ db.policies, p.Delegates port

/-- The query by which the gateway server looks up whether the port is delegated. -/
def delegationQuery (port : ℤ) : DeployOp :=
  .stmt (.find .policies
    { eqs := (PolicyApi.FindManyParams.mk true "listening_port" (toString port) true).conditions })

/-- A query that failed. -/
def QueryFailed : Event DeployOp DeployOp.Ans Db → Prop
  | ⟨.stmt (.find _ _), _, .error _, _⟩ => True
  | _ => False

/-- The lookup of the port failed. -/
def LookupFailed (port : ℤ) (ds : Record DeployOp DeployOp.Ans Db) : Prop :=
  ∃ e ∈ ds, e.op = delegationQuery port ∧ QueryFailed e

/-- The service answered so about the pair. -/
def PairAnswered (username password : String) (answer : Result Bool) :
    Event DeployOp DeployOp.Ans Db → Prop
  | ⟨.authenticate u p, _, a, _⟩ => u = username ∧ p = password ∧ a = answer
  | _ => False

/-- What a request's own record says about its port, delegated or not: what its lookup of the port
has found. -/
inductive PortSays (port : ℤ) (ds : Record DeployOp DeployOp.Ans Db) : Bool → Prop
  | delegated (h : ∃ e ∈ ds, e.op = delegationQuery port ∧ e.before.Delegates port) :
      PortSays port ds true
  | undelegated (h : ∃ e ∈ ds, e.op = delegationQuery port ∧ ¬ e.before.Delegates port) :
      PortSays port ds false
  | anyPort (h : port = 0) : PortSays port ds false
  | failed (h : LookupFailed port ds) : PortSays port ds false

/-- The request as it is handed on after a check: without the password that was in
`Authorization`. -/
def Request.checked (req : Request) : Request :=
  if req.basicAuth = none then req else req.delAuthorization

/-- The decisions of `AuthHandler`, with their grounds. -/
inductive Authorised (r : RouterServer) (req : Request) (ds : Record DeployOp DeployOp.Ans Db) :
    AuthResult → Prop
  | answered {d : Bool} {u p : String} {answer : Result Bool} (lookup : PortSays r.incomingPort ds d)
      (pair : RouterServer.credentials req d = some (u, p))
      (event : ∃ e ∈ ds, PairAnswered u p answer e) :
      Authorised r req ds (RouterServer.verdict req.checked answer)
  | unchecked (lookup : PortSays r.incomingPort ds false) (pair : req.basicAuth = none) :
      Authorised r req ds (.served req)
  | exempted {u p : String} (lookup : PortSays r.incomingPort ds false)
      (pair : req.basicAuth = some (u, p)) (exempt : u ∈ exemptedUsers) :
      Authorised r req ds (.served req)
  | passwordless (lookup : PortSays r.incomingPort ds true)
      (missing : (req.basicAuth.map Prod.snd).getD (TrinoHeaders.get TrinoHeaders.password req) = "") :
      Authorised r req ds (.refused 401 "Password required")
  | mismatched {d : Bool} {u p : String} (lookup : PortSays r.incomingPort ds d)
      (pair : req.basicAuth = some (u, p)) (other : TrinoHeaders.get TrinoHeaders.user req ≠ u)
      (checked : d = true ∨ u ∉ exemptedUsers) :
      Authorised r req ds (usernameMismatch u (TrinoHeaders.get TrinoHeaders.user req))

section Grounds

variable {ds ds' : Record DeployOp DeployOp.Ans Db}

theorem PortSays.mono {port : ℤ} {d : Bool} (h : PortSays port ds d) (hds : ds ⊆ ds') :
    PortSays port ds' d := by
  cases h with
  | delegated h =>
    obtain ⟨e, he, hdelegates⟩ := h
    exact .delegated ⟨e, hds he, hdelegates⟩
  | undelegated h =>
    obtain ⟨e, he, hnot⟩ := h
    exact .undelegated ⟨e, hds he, hnot⟩
  | anyPort h => exact .anyPort h
  | failed h =>
    obtain ⟨e, he, hfailed⟩ := h
    exact .failed ⟨e, hds he, hfailed⟩

theorem Authorised.mono {r : RouterServer} {req : Request} {res : AuthResult}
    (h : Authorised r req ds res) (hds : ds ⊆ ds') : Authorised r req ds' res := by
  cases h with
  | answered lookup pair event =>
    obtain ⟨e, he, hanswer⟩ := event
    exact .answered (lookup.mono hds) pair ⟨e, hds he, hanswer⟩
  | unchecked lookup pair => exact .unchecked (lookup.mono hds) pair
  | exempted lookup pair exempt => exact .exempted (lookup.mono hds) pair exempt
  | passwordless lookup missing => exact .passwordless (lookup.mono hds) missing
  | mismatched lookup pair other checked => exact .mismatched (lookup.mono hds) pair other checked

end Grounds

namespace PolicyApi

/-- The rows that the delegation's condition selects. -/
theorem holds_delegation (port : ℤ) (p : Policy) :
    Where.holds { eqs := (FindManyParams.mk true "listening_port" (toString port) true).conditions }
      .policies p = decide (p.Delegates port) := by
  simp [Where.holds, FindManyParams.conditions, Tbl.col, Policy.Delegates]

/-- The answer that the rows found give. -/
theorem find_delegation (db : Db) (port : ℤ) {rows : List Policy}
    (h : rows = (db.rows .policies).filter
      (Where.holds { eqs := (FindManyParams.mk true "listening_port" (toString port) true).conditions }
        .policies)) : (!rows.isEmpty) = true ↔ db.Delegates port := by
  have hrows : rows = db.policies.filter fun p => decide (p.Delegates port) := by
    rw [h]
    exact List.filter_congr fun p _ => holds_delegation port p
  constructor
  · intro hne
    cases hr : rows with
    | nil => rw [hr] at hne; cases hne
    | cons p rest =>
      have hp : p ∈ db.policies.filter fun p => decide (p.Delegates port) := by
        rw [← hrows, hr]
        exact List.mem_cons_self
      obtain ⟨hmem, hdel⟩ := List.mem_filter.mp hp
      exact ⟨p, hmem, of_decide_eq_true hdel⟩
  · rintro ⟨p, hmem, hdel⟩
    have hp : p ∈ rows := by
      rw [hrows]
      exact List.mem_filter.mpr ⟨hmem, decide_eq_true hdel⟩
    cases rows with
    | nil => cases hp
    | cons q rest => rfl

end PolicyApi

/-- What is due when a request is sent, or refused. -/
def DecidedOn (r : RouterServer) (req : Request) (ds : Record DeployOp DeployOp.Ans Db)
    (e : Event DeployOp DeployOp.Ans Db) : Prop :=
  (∀ shared out, e.op = .roundTrip shared out → ∃ mid, Authorised r req ds (.served mid)) ∧
    ∀ code msg, e.op = .respond (.httpError code msg) → Authorised r req ds (.refused code msg)

/-- The judgement of a handler, behind a decision or in front of one. -/
abbrev Decided {α : Type} (r : RouterServer) (req : Request) (p : Deploy α)
    (Q : α → Record DeployOp DeployOp.Ans Db → Prop) (ds : Record DeployOp DeployOp.Ans Db) : Prop :=
  p.Records Explained (DecidedOn r req) Q ds

/-- An operation by which nothing is sent and nobody is refused. -/
def DeployOp.Undecided : DeployOp → Prop
  | roundTrip _ _ | respond (.httpError _ _) => False
  | stmt _ | authenticate _ _ | withLabelValues _ | inc _ | respond _ => True

theorem decidedOn_undecided {r : RouterServer} {req : Request}
    {ds : Record DeployOp DeployOp.Ans Db} {e : Event DeployOp DeployOp.Ans Db}
    (he : e.op.Undecided) : DecidedOn r req ds e := by
  constructor
  · intro shared out heq
    rw [heq] at he
    exact he.elim
  · intro code msg heq
    rw [heq] at he
    exact he.elim

theorem decided_undecided {α : Type} {r : RouterServer} {req : Request} {p : Deploy α}
    {ds : Record DeployOp DeployOp.Ans Db} (hp : p.AllOps DeployOp.Undecided) :
    Decided r req p (fun _ _ => True) ds :=
  Records.of_allOps (J := fun _ => True) hp
    (fun _ _ _ ho _ => ⟨decidedOn_undecided ho, trivial⟩) trivial

/-- What `AuthHandler` is told. -/
def HandlerTold : (o : HandlerOp) → o.Ans → Record DeployOp DeployOp.Ans Db → Prop
  | .rpc (.evaluateAuthDelegationForClient port), res, ds => PortSays port ds (res.toOption.getD false)
  | .authenticate u p, res, ds => ∃ e ∈ ds, PairAnswered u p res e
  | .rpc _, _, _ => True

section Handler

variable {gunzip : Gunzip} {r : RouterServer} {g : GatewayServer} {req : Request}
  {ds : Record DeployOp DeployOp.Ans Db}

theorem mem_concat {e : Event DeployOp DeployOp.Ans Db} : e ∈ ds ++ [e] :=
  List.mem_append_right ds (List.mem_singleton_self e)

/-- The RPC about the port finds what the policies say, or fails. -/
theorem delegation_told (port : ℤ) :
    Decided r req (Deploy.handlerOp g (.rpc (.evaluateAuthDelegationForClient port)))
      (HandlerTold (.rpc (.evaluateAuthDelegationForClient port))) ds := by
  show Decided r req (Deploy.onDb (rpc (PolicyApi.evaluateAuthDelegationForClient port))) _ _
  unfold PolicyApi.evaluateAuthDelegationForClient
  by_cases hport : port = 0
  · rw [if_pos hport]
    exact .anyPort hport
  · rw [if_neg hport]
    intro db a db' hexp
    obtain ⟨now, fault, -, hanswer, -⟩ := hexp
    refine ⟨decidedOn_undecided trivial, ?_⟩
    cases a with
    | error e =>
      exact .failed ⟨_, mem_concat, rfl, trivial⟩
    | ok rows =>
      have hrows : (exec now fault (.find .policies { eqs :=
          (PolicyApi.FindManyParams.mk true "listening_port" (toString port) true).conditions })
          db).1 = .ok rows := hanswer.symm
      have hiff := PolicyApi.find_delegation db port (Spine.exec_find_ok hrows)
      show PortSays port _ (!rows.isEmpty)
      cases hany : !rows.isEmpty with
      | true => exact .delegated ⟨_, mem_concat, rfl, hiff.mp hany⟩
      | false =>
        refine .undelegated ⟨_, mem_concat, rfl, fun hdel => ?_⟩
        rw [hiff.mpr hdel] at hany
        cases hany

theorem handler_told (o : HandlerOp) :
    Decided r req (Deploy.handlerOp g o) (HandlerTold o) ds := by
  have hany : ∀ o : RouterOp, (∀ res ds', HandlerTold (.rpc o) res ds') →
      Decided r req (Deploy.handlerOp g (.rpc o)) (HandlerTold (.rpc o)) ds := by
    intro o htold
    have hquiet : (Deploy.handlerOp g (.rpc o)).AllOps DeployOp.Undecided :=
      (allOps_true (g.serve o)).embed DeployOp.Ans fun _ _ => trivial
    exact (decided_undecided hquiet).mono fun res new _ => htold res _
  cases o with
  | authenticate u p => exact fun _ _ _ _ => ⟨decidedOn_undecided trivial, _, mem_concat, rfl, rfl, rfl⟩
  | rpc o =>
    cases o with
    | evaluateAuthDelegationForClient port => exact delegation_told port
    | evaluateGroupsForClient c => exact hany _ fun _ _ => trivial
    | evaluateBackendForGroups ids => exact hany _ fun _ _ => trivial
    | findBackendForQuery queryId => exact hany _ fun _ _ => trivial
    | getBackend id => exact hany _ fun _ _ => trivial
    | evaluateRequestSourceForClient port => exact hany _ fun _ _ => trivial
    | createOrUpdateQuery q => exact hany _ fun _ _ => trivial
    | unixNow => exact hany _ fun _ _ => trivial

/-- The pair goes to the service, whose answer decides. -/
theorem serveAuthenticated_hears {d : Bool} {u p : String} (hport : PortSays r.incomingPort ds d)
    (hpair : RouterServer.credentials req d = some (u, p)) :
    (serveAuthenticated req.checked u p).Hears HandlerTold
      (fun res ds' => Authorised r req ds' res) ds := by
  intro answer new htold
  have hres : Authorised r req (ds ++ new) (RouterServer.verdict req.checked answer) :=
    .answered (hport.mono (List.subset_append_left ds new)) hpair htold
  cases answer with
  | error e => exact hres
  | ok isAuthenticated =>
    cases isAuthenticated with
    | false => exact hres
    | true => exact hres

theorem authDelegated_hears {p : Handler AuthResult} (hp : p = RouterServer.authDelegated req)
    (hport : PortSays r.incomingPort ds true) :
    p.Hears HandlerTold (fun res ds' => Authorised r req ds' res) ds := by
  rw [hp]
  unfold RouterServer.authDelegated
  cases hb : req.basicAuth with
  | none =>
    have hchecked : req.checked = req := if_pos hb
    dsimp only
    split
    · rename_i hpassword
      exact .passwordless hport (by rw [hb]; exact hpassword)
    · rename_i hpassword
      have hpair : RouterServer.credentials req true =
          some (TrinoHeaders.get TrinoHeaders.user req, TrinoHeaders.get TrinoHeaders.password req) := by
        unfold RouterServer.credentials
        rw [hb]
        exact if_neg hpassword
      have hserve := serveAuthenticated_hears hport hpair
      rwa [hchecked] at hserve
  | some pair =>
    obtain ⟨u, p⟩ := pair
    have hchecked : req.checked = req.delAuthorization := if_neg (by rw [hb]; exact nofun)
    dsimp only
    split
    · rename_i hne
      exact .mismatched hport hb hne (Or.inl rfl)
    · rename_i heq
      split
      · rename_i hpassword
        exact .passwordless hport (by rw [hb]; exact hpassword)
      · rename_i hpassword
        have hpair : RouterServer.credentials req true = some (u, p) := by
          unfold RouterServer.credentials
          rw [hb]
          exact if_pos ⟨not_not.mp heq, hpassword⟩
        have hserve := serveAuthenticated_hears hport hpair
        rwa [hchecked] at hserve

theorem authUndelegated_hears {p : Handler AuthResult} (hp : p = RouterServer.authUndelegated req)
    (hport : PortSays r.incomingPort ds false) :
    p.Hears HandlerTold (fun res ds' => Authorised r req ds' res) ds := by
  rw [hp]
  unfold RouterServer.authUndelegated
  cases hb : req.basicAuth with
  | none => exact .unchecked hport hb
  | some pair =>
    obtain ⟨u, p⟩ := pair
    have hchecked : req.checked = req.delAuthorization := if_neg (by rw [hb]; exact nofun)
    dsimp only
    split
    · rename_i hexempt
      exact .exempted hport hb hexempt
    · rename_i hexempt
      split
      · rename_i hne
        exact .mismatched hport hb hne (Or.inr hexempt)
      · rename_i heq
        have hpair : RouterServer.credentials req false = some (u, p) := by
          unfold RouterServer.credentials
          rw [hb]
          exact if_pos ⟨not_not.mp heq, hexempt⟩
        have hserve := serveAuthenticated_hears hport hpair
        rwa [hchecked] at hserve

theorem authHandler_hears :
    (r.authHandler req).Hears HandlerTold (fun res ds' => Authorised r req ds' res) ds := by
  intro isAuth new htold
  have hport : PortSays r.incomingPort (ds ++ new) (isAuth.toOption.getD false) := htold
  cases hauth : isAuth.toOption.getD false with
  | true =>
    rw [hauth] at hport
    exact authDelegated_hears (if_pos hauth) hport
  | false =>
    rw [hauth] at hport
    exact authUndelegated_hears (if_neg (by rw [hauth]; decide)) hport

/-- **The judgement of `AuthHandler`**: it decides on these grounds. -/
theorem authHandler_decided :
    Decided r req ((r.authHandler req).interp (Deploy.handlerOp g))
      (fun res ds' => Authorised r req ds' res) [] :=
  Hears.interp (fun o _ => handler_told o) authHandler_hears

/-- The proxy may send a request once it was served, and refuses nobody. -/
theorem reverseProxy_decided {mid : Request} (h : Authorised r req ds (.served mid)) :
    Decided r req (r.reverseProxy gunzip g mid) (fun _ _ => True) ds := by
  have hops : (r.reverseProxy gunzip g mid).AllOps
      fun o => ∀ code msg, o ≠ .respond (.httpError code msg) := by
    refine reverseProxy_allOps (fun o ho code msg heq => ?_) (fun _ _ _ _ => nofun)
      (fun mid => ?_) mid
    · rw [heq] at ho
      exact ho
    · exact (allOps_true _).embed DeployOp.Ans fun _ _ _ _ => nofun
  have hserved : Decided r req (r.reverseProxy gunzip g mid)
      (fun _ ds' => Authorised r req ds' (.served mid)) ds := by
    refine Records.of_allOps hops (fun ds' e hds ho _ => ⟨⟨?_, ?_⟩, ?_⟩) h
    · exact fun _ _ _ => ⟨mid, hds⟩
    · exact fun code msg heq => absurd heq (ho code msg)
    · exact hds.mono (List.subset_append_left ds' [e])
  exact hserved.mono fun _ _ _ => trivial

/-- **The judgement of a client's request.** -/
theorem serveClient_decided :
    Decided r req (r.serveClient gunzip g req) (fun _ _ => True) [] := by
  have hhttp : Decided r req (r.serveHTTP gunzip g req) (fun _ _ => True) [] := by
    refine authHandler_decided.bind fun res new hres => ?_
    cases res with
    | refused code msg =>
      intro s a s' _
      refine ⟨⟨fun _ _ => nofun, fun code' msg' heq => ?_⟩, trivial⟩
      obtain ⟨rfl, rfl⟩ := Reply.httpError.inj (DeployOp.respond.inj heq)
      exact hres
    | served mid => exact reverseProxy_decided hres
  refine hhttp.bind fun res new _ => ?_
  obtain ⟨save, brokenOff⟩ := res
  have hsave : (RouterServer.runSave g save).AllOps DeployOp.Undecided := by
    cases save with
    | none => trivial
    | some save =>
      exact (allOps_true (g.onServer (RouterServer.saveQuery save))).embed DeployOp.Ans
        fun _ _ => trivial
  refine (decided_undecided hsave).bind fun _ new' _ => ?_
  cases brokenOff with
  | true => trivial
  | false => trivial

end Handler

namespace RouterServer

/-- A password goes to the service behind a port that is delegated. -/
theorem credentials_password {req : Request} {u p : String}
    (h : credentials req true = some (u, p)) : p ≠ "" := by
  unfold credentials at h
  cases hb : req.basicAuth with
  | none =>
    rw [hb] at h
    obtain ⟨hne, hpair⟩ := Option.ite_none_left_eq_some.mp h
    rwa [← (Prod.mk.inj (Option.some.inj hpair)).2]
  | some pair =>
    rw [hb] at h
    obtain ⟨hc, hpair⟩ := Option.ite_none_right_eq_some.mp h
    rw [← (Prod.mk.inj (Option.some.inj hpair)).2]
    exact hc.2

end RouterServer

/-- The service vouched for the name in the request's user header, with a password. -/
def VouchedFor (req : Request) (ds : Record DeployOp DeployOp.Ans Db) : Prop :=
  ∃ p ≠ "", ∃ e ∈ ds, PairAnswered (TrinoHeaders.get TrinoHeaders.user req) p (.ok true) e

/-- Behind a port that is delegated in every state found, a request is served when the service
vouched for it, or when the lookup of the port failed. -/
theorem Authorised.vouched {r : RouterServer} {req mid : Request}
    {ds : Record DeployOp DeployOp.Ans Db} (h : Authorised r req ds (.served mid))
    (hport : r.incomingPort ≠ 0) (hdel : ∀ e ∈ ds, e.before.Delegates r.incomingPort) :
    VouchedFor req ds ∨ LookupFailed r.incomingPort ds := by
  have hfalse : PortSays r.incomingPort ds false → LookupFailed r.incomingPort ds := by
    intro hlookup
    cases hlookup with
    | undelegated hfound =>
      obtain ⟨e, he, -, hnot⟩ := hfound
      exact absurd (hdel e he) hnot
    | anyPort hzero => exact absurd hzero hport
    | failed hfailed => exact hfailed
  generalize hres : AuthResult.served mid = res at h
  cases h with
  | unchecked lookup pair => exact Or.inr (hfalse lookup)
  | exempted lookup pair exempt => exact Or.inr (hfalse lookup)
  | passwordless lookup missing => cases hres
  | mismatched lookup pair other checked => cases hres
  | @answered d u p answer lookup pair event =>
    cases d with
    | false => exact Or.inr (hfalse lookup)
    | true =>
      have haccepted : answer = .ok true := by
        cases answer with
        | error e => cases hres
        | ok isAuthenticated =>
          cases isAuthenticated with
          | false => cases hres
          | true => rfl
      rw [haccepted] at event
      refine Or.inl ⟨p, RouterServer.credentials_password pair, ?_⟩
      rw [RouterServer.credentials_user pair]
      exact event

namespace Run

variable {ι : Type} [DecidableEq ι] (R : Run ι)

theorem sound_decided {i : ι} {r : RouterServer} {req : Request}
    (h : R.arrivals i = .client r req) {I : Db → Prop} (hI : R.Always I) :
    System.Sound i (fun e => Explained e ∧ I e.before) (DecidedOn r req) (fun _ _ => True) R.pool :=
  R.sound_client h (Q := fun _ => True) hI
    (serveClient_decided.weaken (fun _ he => he.1) fun _ _ _ hc => hc)

/-- **Every decision has its grounds.** In any interleaving, a client's request is sent only after
`AuthHandler` has decided to serve it, and refused only after it has decided so, on what the
policies of the port were found to say and on what the authentication service answered about the
pair of the request. -/
theorem decision_founded {i : ι} {r : RouterServer} {req : Request}
    (h : R.arrivals i = .client r req) {pre post : Record DeployOp DeployOp.Ans Db}
    {e : Event DeployOp DeployOp.Ans Db} (hrec : R.record i = pre ++ e :: post) :
    (∀ shared out, e.op = .roundTrip shared out → ∃ mid, Authorised r req pre (.served mid)) ∧
      ∀ code msg, e.op = .respond (.httpError code msg) → Authorised r req pre (.refused code msg) :=
  (R.sound_decided h (I := fun _ => True) fun _ _ => trivial).due pre e post hrec

/-- A delegating policy that no arrival names delegates the port all the time. -/
theorem always_delegates {p : Policy} {port : ℤ} (hp : R.db.find .policies p.id = some p)
    (hdel : p.Delegates port) (hname : ¬ R.scope .policies p.id) :
    R.Always fun db => db.Delegates port := by
  have hkept : R.Always fun db => R.db.Untouched R.scope db :=
    R.always (fun _ now fault _ ho h => h.trans (exec_untouched ho now fault))
      (Db.Untouched.refl R.scope R.db)
  intro P hP
  have hrow := (hkept P hP).rows .policies p.id hname
  rw [hp] at hrow
  obtain ⟨q, hq, hqp⟩ := Option.map_eq_some_iff.mp hrow
  have hsame : q = p := hqp
  exact ⟨p, Db.mem_of_find (hsame ▸ hq), hdel⟩

/-- **Behind a port that a policy delegates everyone is vouched for.** If the database holds such a
policy and no arrival names it, then whatever else goes on, a request is sent only after the service
has accepted the name of its user header with a password, or after its own lookup of the port has
failed: an error of the lookup counts as no delegation. -/
theorem delegated_vouched {i : ι} {r : RouterServer} {req : Request}
    (h : R.arrivals i = .client r req) (hport : r.incomingPort ≠ 0) {p : Policy}
    (hp : R.db.find .policies p.id = some p) (hdel : p.Delegates r.incomingPort)
    (hname : ¬ R.scope .policies p.id) {pre post : Record DeployOp DeployOp.Ans Db}
    {e : Event DeployOp DeployOp.Ans Db} (hrec : R.record i = pre ++ e :: post)
    {shared : RouterServer.ContextSharedObject} {out : Request} (he : e.op = .roundTrip shared out) :
    VouchedFor req pre ∨ LookupFailed r.incomingPort pre := by
  have hsound := R.sound_decided h (R.always_delegates hp hdel hname)
  obtain ⟨mid, hserved⟩ := (hsound.due pre e post hrec).1 shared out he
  refine hserved.vouched hport fun e' he' => ?_
  have hmem : e' ∈ R.pool.state.record i := by
    show e' ∈ R.record i
    rw [hrec]
    exact List.mem_append_left _ he'
  exact (hsound.events e' hmem).2

/-- A policy that delegates the authentication of a port. -/
def delegatingPolicy : Policy :=
  { id := "adhoc-port", ruleType := "listening_port", ruleValue := "8080", groupId := "adhoc",
    fallbackGroupId := some "adhoc", isEnabled := some true, isAuthDelegated := some true,
    setRequestSource := some "" }

/-- A request behind the port, with a password. -/
def aliceStatus : Request :=
  { statusReq with header := [("X-Trino-User", "alice"), ("X-Trino-Password", "secret")] }

/-- The request as it is sent. -/
def sentAlice : Request := aliceStatus.leaving aliceStatus.cloned

/-- It comes to the port. -/
def admission : Run Unit :=
  Run.play RouterServer.sortedServer
    (fun _ => .client { port := 8080, routerHostname := "" } aliceStatus)
    { policies := [delegatingPolicy] } 0 (fun _ => none) (List.replicate 5 ())

theorem admission_arrives :
    admission.arrivals () = .client { port := 8080, routerHostname := "" } aliceStatus := rfl

theorem admission_sends : ∃ e, admission.record () =
    (admission.record ()).take 3 ++ e :: (admission.record ()).drop 4 ∧
      e.op = .roundTrip ⟨none, none⟩ sentAlice :=
  Record.exists_event (by decide +kernel)

theorem admission_founded : ∃ mid, Authorised { port := 8080, routerHostname := "" } aliceStatus
    ((admission.record ()).take 3) (.served mid) := by
  obtain ⟨e, hrec, he⟩ := admission_sends
  exact (admission.decision_founded admission_arrives hrec).1 _ _ he

/-- The service vouched for Alice. -/
theorem admitted_vouched : VouchedFor aliceStatus ((admission.record ()).take 3) ∨
    LookupFailed 8080 ((admission.record ()).take 3) := by
  obtain ⟨e, hrec, he⟩ := admission_sends
  have hname : ¬ admission.scope .policies delegatingPolicy.id := by
    rintro ⟨_, h⟩
    cases h
  exact admission.delegated_vouched admission_arrives (by decide) (p := delegatingPolicy) rfl
    (by decide) hname hrec he

end Run

end TrinoGateway
