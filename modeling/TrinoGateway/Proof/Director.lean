import TrinoGateway.Spec.Router

/-!
# What the director does, outcome by outcome

For a table `out` of outcomes of the RPCs, `prepared` is what `prepareReqForRouting` leaves
behind and `resolution` the backend that a request is resolved to. The run lemmas give the
result of `routeRequest` for each kind of request, with the RPCs it asked.
-/

namespace TrinoGateway

open Interact Prog

/-- Whether an RPC was answered by an error. -/
def RouterOp.failed (out : (o : RouterOp) → o.Ans) : RouterOp → Bool
  | evaluateGroupsForClient req => !(out (evaluateGroupsForClient req)).toBool
  | evaluateBackendForGroups ids => !(out (evaluateBackendForGroups ids)).toBool
  | findBackendForQuery id => !(out (findBackendForQuery id)).toBool
  | getBackend id => !(out (getBackend id)).toBool
  | evaluateRequestSourceForClient port => !(out (evaluateRequestSourceForClient port)).toBool
  | evaluateAuthDelegationForClient port => !(out (evaluateAuthDelegationForClient port)).toBool
  | createOrUpdateQuery req => !(out (createOrUpdateQuery req)).toBool
  | unixNow => false

/-- A body that can be read is put back. -/
theorem parseHttpPayloadBody_restores {gunzip : Gunzip} {body body' : Body} {encoding : String}
    {res : Result String} (h : parseHttpPayloadBody gunzip body encoding = some (res, body'))
    (herr : body.err = none) : body' = body := by
  unfold parseHttpPayloadBody at h
  rw [herr] at h
  simp only at h
  split at h
  · split at h
    · cases h
    · exact (Prod.mk.inj (Option.some.inj h)).2.symm
    · exact (Prod.mk.inj (Option.some.inj h)).2.symm
  · exact (Prod.mk.inj (Option.some.inj h)).2.symm

/-- Reading the text of a request changes its body at most. -/
theorem constructQueryFromReq_body {gunzip : Gunzip} {req req' : Request}
    {res : Except String String} (h : constructQueryFromReq gunzip req = some (res, req')) :
    ∃ body, (req.body.err = none → body = req.body) ∧ req' = { req with body := body } := by
  unfold constructQueryFromReq at h
  split at h
  · obtain ⟨-, rfl⟩ := Prod.mk.inj (Option.some.inj h)
    exact ⟨req.body, fun _ => rfl, rfl⟩
  · split at h
    · split at h
      · cases h
      · obtain ⟨⟨text, restored⟩, hparse, heq⟩ := Option.map_eq_some_iff.mp h
        refine ⟨restored, parseHttpPayloadBody_restores hparse, ?_⟩
        cases text with
        | ok text => exact (Prod.mk.inj heq).2.symm
        | error e => exact (Prod.mk.inj heq).2.symm
    · obtain ⟨-, rfl⟩ := Prod.mk.inj (Option.some.inj h)
      exact ⟨req.body, fun _ => rfl, rfl⟩

theorem toBool_of_ok {α : Type} {x : Result α} {a : α} (h : x = .ok a) : x.toBool = true := by
  rw [h]
  rfl

theorem toBool_of_error {α : Type} {x : Result α} {e : GoErr} (h : x = .error e) :
    x.toBool = false := by
  rw [h]
  rfl

namespace RouterServer

variable (r : RouterServer) (out : (o : RouterOp) → o.Ans)

/-- What `prepareReqForRouting` leaves behind. -/
def prepared (req : Request) (bId : String) (cReq : ClientRequest) : Prepared :=
  match out (.getBackend bId) with
  | .error err => { err := .error err, cReq := cReq, req := req }
  | .ok backend =>
    let scheme := BackendApi.schemeName backend.scheme
    let req := req.setHost scheme (cReq.hostOf backend)
    { err := (out (.evaluateRequestSourceForClient r.incomingPort)).map fun _ => ()
      cReq := cReq.withServerHost (scheme ++ "://" ++ backend.externalUrl)
      req :=
        match out (.evaluateRequestSourceForClient r.incomingPort) with
        | .error _ => req
        | .ok source => req.setForwarded source (cReq.hostOf backend) }

/-- The RPCs that it asks. -/
def prepareAsks (bId : String) : List RouterOp :=
  .getBackend bId ::
    if (out (.getBackend bId)).toBool then [.evaluateRequestSourceForClient r.incomingPort] else []

theorem prepareReqForRouting_run {cReq : ClientRequest} (hc : cReq ≠ .api) (req : Request)
    (bId : String) (trace : List RouterOp) :
    (r.prepareReqForRouting req bId cReq).run (logged out) trace =
      (some (prepared r out req bId cReq), trace ++ prepareAsks r out bId) := by
  simp only [prepareReqForRouting, bind_eq, perform_bind, run_op, logged_fst, logged_snd]
  unfold prepared prepareAsks
  cases hb : out (.getBackend bId) with
  | error err =>
    rw [toBool_of_error rfl]
    rfl
  | ok backend =>
    rw [toBool_of_ok rfl]
    simp only [if_neg hc, run_op, logged_fst, logged_snd]
    cases hs : out (.evaluateRequestSourceForClient r.incomingPort) with
    | error err => simp [Except.map]
    | ok source => simp [Except.map]

/-- Both RPCs of the preparation succeed. -/
def Prepares (bId : String) : Prop :=
  (out (.getBackend bId)).toBool ∧ (out (.evaluateRequestSourceForClient r.incomingPort)).toBool

theorem ok_of_toBool {α : Type} {x : Result α} (h : x.toBool) : ∃ a, x = .ok a := by
  cases x with
  | error e => exact absurd h (by simp [Except.toBool])
  | ok a => exact ⟨a, rfl⟩

/-- A preparation that succeeds: the request points at the backend. -/
theorem prepared_of_prepares {bId : String} (h : Prepares r out bId) (req : Request)
    (cReq : ClientRequest) :
    ∃ backend source, out (.getBackend bId) = .ok backend ∧
      out (.evaluateRequestSourceForClient r.incomingPort) = .ok source ∧
      prepared r out req bId cReq =
        { err := .ok ()
          cReq := cReq.withServerHost
            (BackendApi.schemeName backend.scheme ++ "://" ++ backend.externalUrl)
          req := (req.setHost (BackendApi.schemeName backend.scheme)
            (cReq.hostOf backend)).setForwarded source (cReq.hostOf backend) } := by
  obtain ⟨backend, hb⟩ := ok_of_toBool h.1
  obtain ⟨source, hs⟩ := ok_of_toBool h.2
  refine ⟨backend, source, hb, hs, ?_⟩
  simp only [prepared, hb, hs]
  rfl

/-- A preparation that fails says so. -/
theorem prepared_err {bId : String} (h : ¬ Prepares r out bId) (req : Request)
    (cReq : ClientRequest) : ∃ e, (prepared r out req bId cReq).err = .error e := by
  unfold prepared
  cases hb : out (.getBackend bId) with
  | error err => exact ⟨err, rfl⟩
  | ok backend =>
    cases hs : out (.evaluateRequestSourceForClient r.incomingPort) with
    | error err => exact ⟨err, rfl⟩
    | ok source => exact absurd ⟨toBool_of_ok hb, toBool_of_ok hs⟩ h

/-- A preparation that fails has asked an RPC that failed. -/
theorem prepareAsks_failed {bId : String} (h : ¬ Prepares r out bId) :
    ∃ o ∈ prepareAsks r out bId, o.failed out := by
  unfold prepareAsks
  by_cases hb : (out (.getBackend bId)).toBool
  · have hs : ¬ (out (.evaluateRequestSourceForClient r.incomingPort)).toBool := fun hs => h ⟨hb, hs⟩
    refine ⟨.evaluateRequestSourceForClient r.incomingPort, ?_, ?_⟩
    · rw [if_pos hb]
      simp
    · simpa [RouterOp.failed] using hs
  · exact ⟨.getBackend bId, List.mem_cons_self, by simpa [RouterOp.failed] using hb⟩

theorem prepareAsks_ok {bId : String} (h : Prepares r out bId) :
    ∀ o ∈ prepareAsks r out bId, o.failed out = false := by
  intro o ho
  unfold prepareAsks at ho
  rw [if_pos h.1] at ho
  simp only [List.mem_cons, List.not_mem_nil, or_false] at ho
  rcases ho with rfl | rfl
  · simpa [RouterOp.failed] using h.1
  · simpa [RouterOp.failed] using h.2

/-- The params of a submission's policy evaluation. -/
def clientParams (nt : QueryRequest) : PolicyApi.EvaluateClientParams :=
  { listeningPort := nt.incomingPort
    hostname := nt.clientHost
    headerConnectionProperties := nt.headerConnectionProperties
    headerClientTags := nt.headerClientTags }

/-- The backend and the group for a new submission. -/
def evaluated (nt : QueryRequest) : Result (String × String) :=
  (out (.evaluateGroupsForClient (clientParams nt))).bind fun groupIds =>
    out (.evaluateBackendForGroups groupIds)

def evaluateAsks (nt : QueryRequest) : List RouterOp :=
  .evaluateGroupsForClient (clientParams nt) ::
    match out (.evaluateGroupsForClient (clientParams nt)) with
    | .error _ => []
    | .ok groupIds => [.evaluateBackendForGroups groupIds]

theorem evaluateRoutingBackend_run (nt : QueryRequest) (trace : List RouterOp) :
    (evaluateRoutingBackend nt).run (logged out) trace =
      (some (evaluated out nt), trace ++ evaluateAsks out nt) := by
  simp only [evaluateRoutingBackend, bind_eq, perform_bind, run_op, logged_fst, logged_snd]
  rw [← clientParams.eq_def]
  unfold evaluated evaluateAsks
  cases hg : out (.evaluateGroupsForClient (clientParams nt)) with
  | error err => simp [Except.bind]
  | ok groupIds => simp [Except.bind]

theorem evaluateAsks_ok {nt : QueryRequest} (h : (evaluated out nt).toBool) :
    ∀ o ∈ evaluateAsks out nt, o.failed out = false := by
  intro o ho
  unfold evaluated at h
  unfold evaluateAsks at ho
  cases hg : out (.evaluateGroupsForClient (clientParams nt)) with
  | error err =>
    rw [hg] at h
    exact absurd h (by simp [Except.bind, Except.toBool])
  | ok groupIds =>
    rw [hg] at h ho
    simp only [List.mem_cons, List.not_mem_nil, or_false] at ho
    rcases ho with rfl | rfl
    · simp [RouterOp.failed, toBool_of_ok hg]
    · simpa [RouterOp.failed, Except.bind] using h

/-- The backend and the group that a request is resolved to. -/
def resolution : ClientRequest → Result (String × String)
  | .api => .error (.text "unresolved")
  | .ui queryId => out (.findBackendForQuery queryId)
  | .query nt =>
    if nt.query.id ≠ "" then out (.findBackendForQuery nt.query.id) else evaluated out nt
  | .queryApi nt => out (.findBackendForQuery nt.query.id)

theorem routeUi_run (req : Request) (queryId : String) (trace : List RouterOp) :
    (r.routeUi req queryId).run (logged out) trace =
      match out (.findBackendForQuery queryId) with
      | .error err => (some (.error err, req), trace ++ [.findBackendForQuery queryId])
      | .ok pair => (some (returned (prepared r out req pair.1 (.ui queryId))),
          trace ++ .findBackendForQuery queryId :: prepareAsks r out pair.1) := by
  simp only [routeUi, bind_eq, perform_bind, run_op, logged_fst, logged_snd]
  cases hf : out (.findBackendForQuery queryId) with
  | error err => rfl
  | ok pair =>
    simp only
    rw [run_bind_some _ (prepareReqForRouting_run r out (by simp) req pair.1 _)]
    simp

theorem routeKnown_run (req : Request) {kind : QueryRequest → ClientRequest}
    (hk : ∀ nt, kind nt ≠ .api) (nt : QueryRequest) (trace : List RouterOp) :
    let pair := pairOf (out (.findBackendForQuery nt.query.id))
    (r.routeKnown req kind nt).run (logged out) trace =
      (some (returned (prepared r out req pair.1 (kind (withBackend nt pair.1 pair.2)))),
        trace ++ .findBackendForQuery nt.query.id :: prepareAsks r out pair.1) := by
  intro pair
  simp only [routeKnown, bind_eq, perform_bind, run_op, logged_fst, logged_snd]
  rw [run_bind_some _ (prepareReqForRouting_run r out (hk _) req pair.1 _)]
  simp [pair]

/-- A new submission goes by the resolution alone. -/
theorem routeSubmission_run (req : Request) (nt : QueryRequest) (trace : List RouterOp) :
    let pair := pairOf (evaluated out nt)
    let p := prepared r out req pair.1 (.query nt)
    ∃ nt', (r.routeSubmission req nt).run (logged out) trace =
      (some ((evaluated out nt).map fun _ => some (.query nt'), p.req),
        trace ++ (evaluateAsks out nt ++ prepareAsks r out pair.1)) ∧
      nt'.query.backendId = pair.1 ∧ nt'.query.groupId = pair.2 := by
  intro pair p
  -- the preparation keeps the kind of the request, so its last case is never taken
  have hkind : ∃ nt₁, p.cReq = .query nt₁ := by
    simp only [p, prepared]
    cases out (.getBackend pair.1) with
    | error err => exact ⟨nt, rfl⟩
    | ok backend => exact ⟨_, rfl⟩
  obtain ⟨nt₁, hnt⟩ := hkind
  refine ⟨withBackend nt₁ pair.1 pair.2, ?_, rfl, rfl⟩
  simp only [routeSubmission, bind_eq]
  rw [run_bind_some _ (evaluateRoutingBackend_run out nt trace)]
  rw [run_bind_some _ (prepareReqForRouting_run r out (by simp) req pair.1 _)]
  have hp : prepared r out req pair.1 (.query nt) = p := rfl
  rw [hp, hnt]
  cases he : evaluated out nt with
  | error err => simp [Except.map]
  | ok found => simp [Except.map, pair, he]

end RouterServer

end TrinoGateway
