import TrinoGateway.Proof.Director

/-!
# Fail-closed routing

A request that the director lets pass should point at the backend it was resolved to, and a
request for which anything failed should carry an error and the invalid host. Two slips break
this. A new submission drops the error of its preparation, so that it passes although
`GetBackend` or the source lookup failed. A request about a known query goes on after a failed
lookup with the empty id. `failClosed_iff`: **routing is fail-closed on a request exactly when
neither happens**.
-/

namespace TrinoGateway

open Interact Prog

namespace RouterServer

variable (gunzip : Gunzip) (r : RouterServer) (out : (o : RouterOp) → o.Ans)

/-- The director on a request: what it leaves, and the RPCs it asked. -/
def directorRun (req : Request) : Option (ContextSharedObject × Request) × List RouterOp :=
  (r.handleClientRequest gunzip req).run (logged out) []

/-- The outgoing request is for the backend that the request was resolved to, which
`GetBackend` has answered, and carries the port's source. -/
def PointsAtBackend (cReq : ClientRequest) (trace : List RouterOp) (req' : Request) : Prop :=
  ∃ bId gId backend source, resolution out cReq = .ok (bId, gId) ∧
    .getBackend bId ∈ trace ∧ out (.getBackend bId) = .ok backend ∧
    req'.url.scheme = BackendApi.schemeName backend.scheme ∧
    req'.url.host = cReq.hostOf backend ∧ req'.host = cReq.hostOf backend ∧
    out (.evaluateRequestSourceForClient r.incomingPort) = .ok source ∧
    (source ≠ "" → req'.header.values "X-Trino-Source" = [source])

/-- The request is of a kind that the gateway supports, and valid. -/
def Accepts (req : Request) (cReq : ClientRequest) (req₁ : Request) : Prop :=
  r.parseClientRequest gunzip req = some (.ok cReq, req₁) ∧ cReq.validate = .ok ()

/-- Without a pre-routing error the request points at its backend; if an RPC or the
validation failed, there is such an error and the host is the invalid one. -/
structure FailClosed (req : Request) : Prop where
  routed : ∀ shared req' trace, directorRun gunzip r out req = (some (shared, req'), trace) →
    shared.preRoutingErr = none → ∀ cReq req₁,
      r.parseClientRequest gunzip req = some (.ok cReq, req₁) → cReq ≠ .api →
      PointsAtBackend r out cReq trace req'
  failed : ∀ shared req' trace, directorRun gunzip r out req = (some (shared, req'), trace) →
    ((∃ o ∈ trace, o.failed out) ∨ ¬ ∃ cReq req₁, Accepts gunzip r req cReq req₁) →
    shared.preRoutingErr ≠ none ∧ req'.url.host = invalidHost

/-- What goes wrong: the preparation of a new submission fails, or the lookup of a known query
fails and the empty id prepares all the same. -/
def Dropped : ClientRequest → Prop
  | .api => False
  | .ui _ => False
  | .query nt =>
    if nt.query.id ≠ "" then
      ¬ (out (.findBackendForQuery nt.query.id)).toBool ∧ Prepares r out ""
    else (evaluated out nt).toBool ∧ ¬ Prepares r out (pairOf (evaluated out nt)).1
  | .queryApi nt =>
    ¬ (out (.findBackendForQuery nt.query.id)).toBool ∧ Prepares r out ""

/-- A routing that ends without error points at the backend, and no RPC failed. -/
def Closed (cReq : ClientRequest)
    (x : Option (Result (Option ClientRequest) × Request) × List RouterOp) : Prop :=
  ∀ c req' trace, x = (some (.ok c, req'), trace) →
    PointsAtBackend r out cReq trace req' ∧ ∀ o ∈ trace, o.failed out = false

variable {gunzip r out}

theorem closed_of_error {cReq : ClientRequest} {e : GoErr} {req : Request}
    {trace : List RouterOp} : Closed r out cReq (some (.error e, req), trace) := by
  intro c req' trace' h
  simp at h

/-- A preparation that succeeds points the request at the backend. -/
theorem pointsAtBackend_of_prepares {cReq cReq' : ClientRequest} {bId gId : String}
    (hres : resolution out cReq = .ok (bId, gId))
    (hhost : ∀ b, cReq'.hostOf b = cReq.hostOf b) (hp : Prepares r out bId) (req : Request)
    (pre : List RouterOp) :
    PointsAtBackend r out cReq (pre ++ prepareAsks r out bId) (prepared r out req bId cReq').req := by
  obtain ⟨backend, source, hb, hs, hprep⟩ := prepared_of_prepares r out hp req cReq'
  refine ⟨bId, gId, backend, source, hres, ?_, hb, ?_⟩
  · exact List.mem_append_right pre List.mem_cons_self
  · rw [hprep]
    refine ⟨rfl, hhost backend, hhost backend, hs, fun hne => ?_⟩
    simp only [Request.setForwarded, if_pos hne]
    rw [Header.values_set_of_ne (by decide), Header.values_set]

/-- A routing that ends in a preparation, after RPCs that succeeded. -/
theorem closed_of_prepares {cReq cReq' : ClientRequest} {bId gId : String}
    (hres : resolution out cReq = .ok (bId, gId))
    (hhost : ∀ b, cReq'.hostOf b = cReq.hostOf b) (hp : Prepares r out bId) (req : Request)
    (pre : List RouterOp) (hpre : ∀ o ∈ pre, o.failed out = false) :
    Closed r out cReq
      (some (returned (prepared r out req bId cReq')), pre ++ prepareAsks r out bId) := by
  intro c req' trace h
  simp only [returned, Prod.mk.injEq, Option.some.injEq] at h
  obtain ⟨⟨-, rfl⟩, rfl⟩ := h
  refine ⟨pointsAtBackend_of_prepares hres hhost hp req pre, fun o ho => ?_⟩
  rcases List.mem_append.mp ho with ho | ho
  · exact hpre o ho
  · exact prepareAsks_ok r out hp o ho

/-- A preparation that fails ends the routing with its error. -/
theorem closed_of_not_prepares {cReq cReq' : ClientRequest} {bId : String}
    (hp : ¬ Prepares r out bId) (req : Request) (trace : List RouterOp) :
    Closed r out cReq (some (returned (prepared r out req bId cReq')), trace) := by
  obtain ⟨e, he⟩ := prepared_err r out hp req cReq'
  have hret : returned (prepared r out req bId cReq') =
      (.error e, (prepared r out req bId cReq').req) := by
    simp only [returned, he]
    rfl
  rw [hret]
  exact closed_of_error

theorem closed_ui (req : Request) (queryId : String) :
    Closed r out (.ui queryId) ((r.routeUi req queryId).run (logged out) []) := by
  rw [routeUi_run]
  cases hf : out (.findBackendForQuery queryId) with
  | error err => exact closed_of_error
  | ok pair =>
    by_cases hp : Prepares r out pair.1
    · have hres : resolution out (.ui queryId) = .ok (pair.1, pair.2) := hf
      refine closed_of_prepares hres (fun b => rfl) hp req [.findBackendForQuery queryId] ?_
      intro o ho
      rw [List.mem_singleton.mp ho]
      simp [RouterOp.failed, toBool_of_ok hf]
    · exact closed_of_not_prepares hp req _

/-- A request about a known query, for the two kinds of it. -/
theorem closed_known_iff (req : Request) {kind : QueryRequest → ClientRequest} {nt : QueryRequest}
    (hhost : ∀ nt' b, (kind nt').hostOf b = (kind nt).hostOf b) (hk : ∀ nt, kind nt ≠ .api)
    (hres : resolution out (kind nt) = out (.findBackendForQuery nt.query.id)) :
    Closed r out (kind nt) ((r.routeKnown req kind nt).run (logged out) []) ↔
      ¬ (¬ (out (.findBackendForQuery nt.query.id)).toBool ∧ Prepares r out "") := by
  rw [routeKnown_run r out req hk]
  cases hf : out (.findBackendForQuery nt.query.id) with
  | error err =>
    have hpair : pairOf (.error err) = ("", "") := rfl
    rw [hpair]
    by_cases hp : Prepares r out ""
    · -- the lookup's failure goes unnoticed
      refine iff_of_false (fun h => ?_) (by simp [hp, Except.toBool])
      obtain ⟨backend, source, -, -, hprep⟩ := prepared_of_prepares r out hp req
        (kind (withBackend nt "" ""))
      have hok := h _ _ _ (by simp only [returned, hprep]; rfl)
      have hfail := hok.2 (.findBackendForQuery nt.query.id) (by simp)
      simp [RouterOp.failed, toBool_of_error hf] at hfail
    · exact iff_of_true (closed_of_not_prepares hp req _) (fun h => hp h.2)
  | ok pair =>
    have hpair : pairOf (.ok pair) = pair := rfl
    rw [hpair]
    refine iff_of_true ?_ (fun h => h.1 rfl)
    by_cases hp : Prepares r out pair.1
    · have hres' : resolution out (kind nt) = .ok (pair.1, pair.2) := by rw [hres, hf]
      refine closed_of_prepares hres' (hhost _) hp req [.findBackendForQuery nt.query.id] ?_
      intro o ho
      rw [List.mem_singleton.mp ho]
      simp [RouterOp.failed, toBool_of_ok hf]
    · exact closed_of_not_prepares hp req _

/-- A new submission. -/
theorem closed_submission_iff (req : Request) {nt : QueryRequest} (hid : nt.query.id = "") :
    Closed r out (.query nt) ((r.routeSubmission req nt).run (logged out) []) ↔
      ¬ ((evaluated out nt).toBool ∧ ¬ Prepares r out (pairOf (evaluated out nt)).1) := by
  have hres : resolution out (.query nt) = evaluated out nt := by simp [resolution, hid]
  obtain ⟨nt', hrun, -⟩ := routeSubmission_run r out req nt []
  rw [hrun, List.nil_append]
  cases he : evaluated out nt with
  | error err => exact iff_of_true closed_of_error (by simp [Except.toBool])
  | ok pair =>
    have hpair : pairOf (.ok pair) = pair := rfl
    simp only [hpair]
    by_cases hp : Prepares r out pair.1
    · refine iff_of_true (fun c req' trace h => ?_) (fun h => h.2 hp)
      simp only [Except.map, Prod.mk.injEq, Option.some.injEq] at h
      obtain ⟨⟨-, rfl⟩, rfl⟩ := h
      have hres' : resolution out (.query nt) = .ok (pair.1, pair.2) := by rw [hres, he]
      refine ⟨pointsAtBackend_of_prepares hres' (fun b => rfl) hp req _, fun o ho => ?_⟩
      rcases List.mem_append.mp ho with ho | ho
      · exact evaluateAsks_ok out (toBool_of_ok he) o ho
      · exact prepareAsks_ok r out hp o ho
    · -- the failure of the preparation is dropped
      refine iff_of_false (fun h => ?_) (by simp [hp, Except.toBool])
      obtain ⟨o, ho, hfail⟩ := prepareAsks_failed r out hp
      have hok := (h _ _ _ rfl).2 o (List.mem_append_right _ ho)
      rw [hok] at hfail
      exact absurd hfail (by decide)

/-- The routing is closed exactly when no failure is dropped. -/
theorem closed_iff {cReq : ClientRequest} (hc : cReq ≠ .api) (req : Request) :
    Closed r out cReq ((r.routeRequest req cReq).run (logged out) []) ↔ ¬ Dropped r out cReq := by
  cases cReq with
  | api => exact absurd rfl hc
  | ui queryId => exact iff_of_true (closed_ui req queryId) (fun h => h)
  | query nt =>
    by_cases hid : nt.query.id = ""
    · simp only [routeRequest, Dropped, hid, ne_eq, not_true_eq_false, if_false]
      exact closed_submission_iff req hid
    · simp only [routeRequest, Dropped, hid, ne_eq, not_false_eq_true, if_true]
      exact closed_known_iff req (fun _ _ => rfl) (by simp) (by simp [resolution, hid])
  | queryApi nt =>
    exact closed_known_iff req (fun _ _ => rfl) (by simp) rfl

variable (out) in
/-- The director lets a routed request pass, and marks one that failed. -/
theorem directorRun_of_accepts {req req₁ : Request} {cReq : ClientRequest}
    (h : Accepts gunzip r req cReq req₁) :
    directorRun gunzip r out req =
      match (r.routeRequest req₁ cReq).run (logged out) [] with
      | (some (.ok c, req'), trace) =>
        (some ({ clientRequest := c, preRoutingErr := none }, req'), trace)
      | (some (.error err, req'), trace) =>
        (some ({ clientRequest := none, preRoutingErr := some err },
          { req' with url := { req'.url with host := invalidHost } }), trace)
      | (none, trace) => (none, trace) := by
  simp only [directorRun, handleClientRequest, processRequest, h.1, h.2, bind_eq, deref_some,
    ret_bind]
  rw [run_bind]
  cases hr : (r.routeRequest req₁ cReq).run (logged out) [] with
  | mk res trace =>
    cases res with
    | none => rfl
    | some x =>
      obtain ⟨res, req'⟩ := x
      cases res <;> rfl

/-- A request that is not accepted carries an error and the invalid host. -/
theorem directorRun_of_not_accepts {req : Request}
    (h : ¬ ∃ cReq req₁, Accepts gunzip r req cReq req₁) {shared : ContextSharedObject}
    {req' : Request} {trace : List RouterOp}
    (hrun : directorRun gunzip r out req = (some (shared, req'), trace)) :
    shared.preRoutingErr ≠ none ∧ req'.url.host = invalidHost := by
  simp only [directorRun, handleClientRequest, processRequest, bind_eq] at hrun
  cases hp : r.parseClientRequest gunzip req with
  | none => simp [hp] at hrun
  | some x =>
    obtain ⟨parsed, req₁⟩ := x
    cases parsed with
    | error err =>
      simp only [hp, deref_some, ret_bind, pure_eq, run_ret, Prod.mk.injEq,
        Option.some.injEq] at hrun
      obtain ⟨⟨rfl, rfl⟩, -⟩ := hrun
      exact ⟨by simp, rfl⟩
    | ok cReq =>
      cases hv : cReq.validate with
      | error err =>
        simp only [hp, hv, deref_some, ret_bind, pure_eq, run_ret, Prod.mk.injEq,
          Option.some.injEq] at hrun
        obtain ⟨⟨rfl, rfl⟩, -⟩ := hrun
        exact ⟨by simp, rfl⟩
      | ok u => exact absurd ⟨cReq, req₁, hp, hv⟩ h

/-- On an accepted request the promise comes down to its routing. -/
theorem failClosed_iff_closed {req req₁ : Request} {cReq : ClientRequest}
    (h : Accepts gunzip r req cReq req₁) (hc : cReq ≠ .api) :
    FailClosed gunzip r out req ↔ Closed r out cReq ((r.routeRequest req₁ cReq).run (logged out) []) := by
  have hdir := directorRun_of_accepts out h
  constructor
  · intro hf c req' trace hrun
    rw [hrun] at hdir
    refine ⟨hf.routed _ _ _ hdir rfl cReq req₁ h.1 hc, fun o ho => ?_⟩
    by_contra hfail
    exact (hf.failed _ _ _ hdir (Or.inl ⟨o, ho, by simpa using hfail⟩)).1 rfl
  · intro hclosed
    cases hr : (r.routeRequest req₁ cReq).run (logged out) [] with
    | mk res trace =>
      rw [hr] at hdir hclosed
      cases res with
      | none =>
        -- a panic: there is no outcome
        exact ⟨fun _ _ _ hd => by simp [hdir] at hd, fun _ _ _ hd => by simp [hdir] at hd⟩
      | some x =>
        obtain ⟨res, req'⟩ := x
        cases res with
        | error err =>
          simp only at hdir
          refine ⟨fun _ _ _ hd hnone => ?_, fun _ _ _ hd _ => ?_⟩
          · simp only [hdir, Prod.mk.injEq, Option.some.injEq] at hd
            rw [← hd.1.1] at hnone
            exact absurd hnone (by simp)
          · simp only [hdir, Prod.mk.injEq, Option.some.injEq] at hd
            rw [← hd.1.1, ← hd.1.2]
            exact ⟨by simp, rfl⟩
        | ok c =>
          simp only at hdir
          obtain ⟨hpoint, hok⟩ := hclosed c req' trace rfl
          refine ⟨fun _ _ _ hd _ cReq' req₁' hp _ => ?_, fun _ _ _ hd hbad => ?_⟩
          · simp only [hdir, Prod.mk.injEq, Option.some.injEq] at hd
            rw [h.1] at hp
            simp only [Option.some.injEq, Prod.mk.injEq, Except.ok.injEq] at hp
            rw [← hd.1.2, ← hd.2, ← hp.1]
            exact hpoint
          · simp only [hdir, Prod.mk.injEq, Option.some.injEq] at hd
            rcases hbad with ⟨o, ho, hfail⟩ | hno
            · rw [← hd.2] at ho
              rw [hok o ho] at hfail
              exact absurd hfail (by decide)
            · exact absurd ⟨cReq, req₁, h⟩ hno

/-- An info or status request is passed on without any RPC. -/
theorem failClosed_api {req req₁ : Request} (h : Accepts gunzip r req .api req₁) :
    FailClosed gunzip r out req := by
  have hdir := directorRun_of_accepts out h
  simp only [routeRequest, pure_eq, run_ret] at hdir
  refine ⟨fun _ _ _ _ _ cReq' req₁' hp hne => ?_, fun _ _ _ hd hbad => ?_⟩
  · rw [h.1] at hp
    simp only [Option.some.injEq, Prod.mk.injEq, Except.ok.injEq] at hp
    exact absurd hp.1.symm hne
  · simp only [hdir, Prod.mk.injEq, Option.some.injEq] at hd
    rcases hbad with ⟨o, ho, -⟩ | hno
    · rw [← hd.2] at ho
      exact absurd ho (by simp)
    · exact absurd ⟨.api, req₁, h⟩ hno

variable (gunzip r out)

/-- **When routing is fail-closed.** For every request and every combination of outcomes of
its RPCs, exactly when no failure is dropped. -/
theorem failClosed_iff (req : Request) :
    FailClosed gunzip r out req ↔
      ∀ cReq req₁, Accepts gunzip r req cReq req₁ → ¬ Dropped r out cReq := by
  by_cases hacc : ∃ cReq req₁, Accepts gunzip r req cReq req₁
  · obtain ⟨cReq, req₁, h⟩ := hacc
    have huniq : ∀ cReq' req₁', Accepts gunzip r req cReq' req₁' → cReq' = cReq := by
      intro cReq' req₁' h'
      have hp := h'.1
      rw [h.1] at hp
      simp only [Option.some.injEq, Prod.mk.injEq, Except.ok.injEq] at hp
      exact hp.1.symm
    by_cases hc : cReq = .api
    · rw [hc] at h
      refine iff_of_true (failClosed_api h) (fun cReq' req₁' h' => ?_)
      rw [huniq cReq' req₁' h', hc]
      exact fun hd => hd
    · rw [failClosed_iff_closed h hc, closed_iff hc]
      refine ⟨fun hd cReq' req₁' h' => ?_, fun hd => hd cReq req₁ h⟩
      rw [huniq cReq' req₁' h']
      exact hd
  · -- a request that is not accepted is marked
    refine iff_of_true ⟨fun _ _ _ hd hnone => ?_, fun _ _ _ hd _ => ?_⟩
      (fun cReq req₁ h => absurd ⟨cReq, req₁, h⟩ hacc)
    · exact absurd hnone (directorRun_of_not_accepts hacc hd).1
    · exact directorRun_of_not_accepts hacc hd

/-- A submission sent to a port of the gateway. -/
def selectOne : Request :=
  { method := "POST"
    url := { path := "/v1/statement" }
    header := [("X-Trino-User", "alice")]
    body := { bytes := "SELECT 1".toList.map fun c => UInt8.ofNat c.toNat } }

/-- The outcomes in which everything succeeds but `GetBackend`. -/
def noBackend : (o : RouterOp) → o.Ans
  | .evaluateGroupsForClient _ => .ok ["adhoc"]
  | .evaluateBackendForGroups _ => .ok ("trino-1", "adhoc")
  | .findBackendForQuery _ => .ok ("trino-1", "adhoc")
  | .getBackend _ => .error (.text "unavailable")
  | .evaluateRequestSourceForClient _ => .ok ""
  | .evaluateAuthDelegationForClient _ => .ok false
  | .createOrUpdateQuery _ => .ok ()
  | .unixNow => 0

/-- The submission passes without an error although its backend is unknown. -/
theorem selectOne_passes :
    ¬ FailClosed (fun bytes => .ok bytes) { port := 8080, routerHostname := "" } noBackend
      selectOne := by
  intro h
  have hnone : (directorRun (fun bytes => .ok bytes) { port := 8080, routerHostname := "" }
      noBackend selectOne).1.map (fun x => x.1.preRoutingErr) = some none := by decide
  obtain ⟨⟨shared, req'⟩, hrun, herr⟩ := Option.map_eq_some_iff.mp hnone
  obtain ⟨bId, gId, backend, source, -, -, hb, -⟩ :=
    h.routed shared req' _ (Prod.ext hrun rfl) herr (.query _) _ rfl (by simp)
  simp [noBackend] at hb

end RouterServer

end TrinoGateway
