import TrinoGateway.Proof.FailClosed

/-!
# Where a request may go

A request target in absolute form brings a host of the client's choice into the outgoing URL.
The director replaces it by a stored backend's host or by the invalid host, with two
exceptions: info and status requests are passed on as they came, and so is a new submission
whose `GetBackend` fails. `notOpen_iff`: **a request goes only where the gateway may send it
exactly when it is neither, or its own host is such a place**.
-/

namespace TrinoGateway

open Interact Prog

/-- The outcomes of the RPCs, with the stored backends that `GetBackend` answers from. -/
structure Answers where
  out : (o : RouterOp) → o.Ans
  stored : List Backend
  getBackend_stored : ∀ id msg, out (.getBackend id) = .ok msg →
    ∃ b ∈ stored, b.hostname = msg.hostname ∧ b.externalUrl = some msg.externalUrl

/-- The hosts that the gateway may send a request to: a stored backend's hostname or external
url, no host, or the invalid one. -/
def Answers.Allowed (a : Answers) (host : String) : Prop :=
  (∃ b ∈ a.stored, b.hostname = host ∨ b.externalUrl = some host) ∨ host = "" ∨
    host = RouterServer.invalidHost

/-- The host of an answer is allowed for the kinds that have one. -/
theorem Answers.allowed_hostOf (a : Answers) {id : String} {msg : BackendMsg}
    (h : a.out (.getBackend id) = .ok msg) (cReq : ClientRequest) :
    a.Allowed (cReq.hostOf msg) := by
  obtain ⟨b, hb, hn, hu⟩ := a.getBackend_stored id msg h
  cases cReq with
  | api => exact Or.inr (Or.inl rfl)
  | ui queryId => exact Or.inl ⟨b, hb, Or.inr hu⟩
  | query nt => exact Or.inl ⟨b, hb, Or.inl hn⟩
  | queryApi nt => exact Or.inl ⟨b, hb, Or.inl hn⟩

namespace RouterServer

variable (gunzip : Gunzip) (r : RouterServer) (a : Answers)

/-- The outgoing URL host is one of the allowed ones. -/
def NotOpen (req : Request) : Prop :=
  ∀ shared req' trace, directorRun gunzip r a.out req = (some (shared, req'), trace) →
    a.Allowed req'.url.host

/-- The requests that keep the host they came with. -/
def KeepsHost : ClientRequest → Prop
  | .api => True
  | .ui _ => False
  | .query nt => nt.query.id = "" ∧ (evaluated a.out nt).toBool ∧
      ¬ (a.out (.getBackend (pairOf (evaluated a.out nt)).1)).toBool
  | .queryApi _ => False

variable {gunzip r a}

/-- Parsing leaves the URL alone. -/
theorem parseClientRequest_url {req req₁ : Request} {parsed : Except String ClientRequest}
    (h : r.parseClientRequest gunzip req = some (parsed, req₁)) : req₁.url = req.url := by
  unfold parseClientRequest at h
  by_cases hget : req.method = "GET"
  · rw [if_pos hget] at h
    split at h
    · simp only [Option.some.injEq, Prod.mk.injEq] at h
      rw [← h.2]
    · split at h
      all_goals
        simp only [Option.some.injEq, Prod.mk.injEq] at h
        rw [← h.2]
  · rw [if_neg hget] at h
    by_cases hpost : req.method = "POST"
    · rw [if_pos hpost] at h
      obtain ⟨⟨text, restored⟩, hconstruct, hreq⟩ := Option.map_eq_some_iff.mp h
      rw [← (Prod.mk.inj hreq).2]
      obtain ⟨body, -, rfl⟩ := constructQueryFromReq_body hconstruct
      rfl
    · rw [if_neg hpost] at h
      split at h
      all_goals
        simp only [Option.some.injEq, Prod.mk.injEq] at h
        rw [← h.2]

/-- The host after a preparation: the backend's, if `GetBackend` answers. -/
theorem prepared_host (out : (o : RouterOp) → o.Ans) (req : Request) (bId : String)
    (cReq : ClientRequest) :
    (prepared r out req bId cReq).req.url.host =
      match out (.getBackend bId) with
      | .error _ => req.url.host
      | .ok backend => cReq.hostOf backend := by
  unfold prepared
  cases out (.getBackend bId) with
  | error err => rfl
  | ok backend => cases out (.evaluateRequestSourceForClient r.incomingPort) <;> rfl

/-- The routing of a request ends in an error, or at an allowed host, or it panics. -/
def EndsAllowed (a : Answers)
    (x : Option (Result (Option ClientRequest) × Request) × List RouterOp) : Prop :=
  ∀ c req' trace, x = (some (.ok c, req'), trace) → a.Allowed req'.url.host

/-- A routing that returns the outcome of a preparation. -/
theorem endsAllowed_returned (req : Request) (bId : String) (cReq : ClientRequest)
    (trace : List RouterOp) :
    EndsAllowed a (some (returned (prepared r a.out req bId cReq)), trace) := by
  intro c req' trace' h
  simp only [returned, Prod.mk.injEq, Option.some.injEq] at h
  obtain ⟨⟨hok, rfl⟩, -⟩ := h
  cases hb : a.out (.getBackend bId) with
  | error err =>
    -- the error is returned, so this is no success
    simp [prepared, hb, Except.map] at hok
  | ok backend =>
    rw [prepared_host, hb]
    exact a.allowed_hostOf hb cReq

theorem endsAllowed_ui (req : Request) (queryId : String) :
    EndsAllowed a ((r.routeUi req queryId).run (logged a.out) []) := by
  rw [routeUi_run]
  cases a.out (.findBackendForQuery queryId) with
  | error err => exact fun c req' trace h => by simp at h
  | ok pair => exact endsAllowed_returned req _ _ _

theorem endsAllowed_known (req : Request) {kind : QueryRequest → ClientRequest}
    (hk : ∀ nt, kind nt ≠ .api) (nt : QueryRequest) :
    EndsAllowed a ((r.routeKnown req kind nt).run (logged a.out) []) := by
  rw [routeKnown_run r a.out req hk]
  exact endsAllowed_returned req _ _ _

/-- A new submission whose `GetBackend` fails keeps its host. -/
theorem endsAllowed_submission_iff (req : Request) (nt : QueryRequest) :
    EndsAllowed a ((r.routeSubmission req nt).run (logged a.out) []) ↔
      ((evaluated a.out nt).toBool ∧
        ¬ (a.out (.getBackend (pairOf (evaluated a.out nt)).1)).toBool → a.Allowed req.url.host) := by
  obtain ⟨nt', hrun, -⟩ := routeSubmission_run r a.out req nt []
  rw [hrun]
  cases he : evaluated a.out nt with
  | error err =>
    -- a failed evaluation is returned as an error, whatever the preparation did
    refine iff_of_true (fun c req' trace h => ?_) (fun h => ?_)
    · simp [Except.map] at h
    · exact absurd h.1 (by simp [Except.toBool])
  | ok pair =>
    have hpair : pairOf (.ok pair) = pair := rfl
    simp only [hpair]
    have hends : EndsAllowed a (some ((Except.ok pair).map fun _ => some (ClientRequest.query nt'),
        (prepared r a.out req pair.1 (.query nt)).req),
        [] ++ (evaluateAsks a.out nt ++ prepareAsks r a.out pair.1)) ↔
        a.Allowed (prepared r a.out req pair.1 (.query nt)).req.url.host := by
      constructor
      · exact fun h => h _ _ _ rfl
      · intro h c req' trace hx
        simp only [Except.map, Prod.mk.injEq, Option.some.injEq] at hx
        rw [← hx.1.2]
        exact h
    rw [hends, prepared_host]
    change _ ↔ (true = true ∧ ¬ (a.out (.getBackend pair.1)).toBool → _)
    cases hb : a.out (.getBackend pair.1) with
    | error err => simp [Except.toBool]
    | ok backend => exact iff_of_true (a.allowed_hostOf hb _) (fun h => absurd rfl h.2)

theorem endsAllowed_iff (req : Request) (cReq : ClientRequest) :
    EndsAllowed a ((r.routeRequest req cReq).run (logged a.out) []) ↔
      (KeepsHost a cReq → a.Allowed req.url.host) := by
  cases cReq with
  | api =>
    constructor
    · exact fun h _ => h _ _ _ rfl
    · intro h c req' trace hx
      simp only [routeRequest, pure_eq, run_ret, Prod.mk.injEq, Option.some.injEq] at hx
      rw [← hx.1.2]
      exact h trivial
  | ui queryId => exact iff_of_true (endsAllowed_ui req queryId) (fun h => absurd h (fun h => h))
  | query nt =>
    by_cases hid : nt.query.id = ""
    · simp only [routeRequest, KeepsHost, hid, ne_eq, not_true_eq_false, if_false, true_and]
      exact endsAllowed_submission_iff req nt
    · simp only [routeRequest, KeepsHost, hid, ne_eq, not_false_eq_true, if_true, false_and]
      exact iff_of_true (endsAllowed_known req (by simp) nt) (fun h => absurd h (fun h => h))
  | queryApi nt =>
    exact iff_of_true (endsAllowed_known req (by simp) nt) (fun h => absurd h (fun h => h))

variable (gunzip r a)

/-- **When the gateway is no open proxy.** A request with any target and any outcome of its
RPCs goes to an allowed host exactly when it does not keep its own, or its own is allowed. -/
theorem notOpen_iff (req : Request) :
    NotOpen gunzip r a req ↔
      ∀ cReq req₁, Accepts gunzip r req cReq req₁ → KeepsHost a cReq → a.Allowed req.url.host := by
  by_cases hacc : ∃ cReq req₁, Accepts gunzip r req cReq req₁
  · obtain ⟨cReq, req₁, h⟩ := hacc
    have hdir := directorRun_of_accepts a.out h
    have hurl := parseClientRequest_url h.1
    have hends := endsAllowed_iff (r := r) (a := a) req₁ cReq
    rw [hurl] at hends
    have hall : NotOpen gunzip r a req ↔
        EndsAllowed a ((r.routeRequest req₁ cReq).run (logged a.out) []) := by
      constructor
      · intro hn c req' trace hr
        rw [hr] at hdir
        exact hn _ _ _ hdir
      · intro he shared req' trace hd
        rw [hdir] at hd
        split at hd
        · rename_i hr
          simp only [Prod.mk.injEq, Option.some.injEq] at hd
          rw [← hd.1.2]
          exact he _ _ _ hr
        · simp only [Prod.mk.injEq, Option.some.injEq] at hd
          rw [← hd.1.2]
          exact Or.inr (Or.inr rfl)
        · simp at hd
    rw [hall, hends]
    constructor
    · intro hk cReq' req₁' h'
      have hp := h'.1
      rw [h.1] at hp
      simp only [Option.some.injEq, Prod.mk.injEq, Except.ok.injEq] at hp
      rw [← hp.1]
      exact hk
    · exact fun hk => hk cReq req₁ h
  · refine iff_of_true (fun shared req' trace hd => ?_)
      (fun cReq req₁ h => absurd ⟨cReq, req₁, h⟩ hacc)
    exact Or.inr (Or.inr (directorRun_of_not_accepts hacc hd).2)

/-- An info request for a host outside the gateway. -/
def evilInfo : Request :=
  { method := "GET", url := { scheme := "http", host := "evil.example", path := "/v1/info" } }

/-- A gateway without backends. -/
def noBackends : Answers where
  out := noBackend
  stored := []
  getBackend_stored := fun id msg h => by simp [noBackend] at h

/-- The info request goes where its client says. -/
theorem evilInfo_open :
    ¬ NotOpen (fun bytes => .ok bytes) { port := 8080, routerHostname := "" } noBackends
      evilInfo := by
  intro h
  have hrun : directorRun (fun bytes => .ok bytes) { port := 8080, routerHostname := "" }
      noBackends.out evilInfo =
        (some ({ clientRequest := none, preRoutingErr := none }, evilInfo), []) := by rfl
  rcases h _ _ _ hrun with ⟨b, hb, -⟩ | hempty | hinvalid
  · exact absurd hb (by simp [noBackends])
  · exact absurd hempty (by decide)
  · exact absurd hinvalid (by decide)

end RouterServer

end TrinoGateway
