import TrinoGateway.Proof.FailClosed
import TrinoGateway.Proof.Impersonation

/-!
# Transactions are not supported

A submission and a query API request are refused for the transaction that `trinoheaders.Get` finds,
the first value under the first prefix that has one. Routing then forwards every transaction line
as it came.

`transactionsRefused_iff`: **no transaction is forwarded with a request exactly when none of its
transaction lines names one**, or it is refused whatever the RPCs answer.
-/

namespace TrinoGateway

open Interact Prog TrinoHeaders

/-- The values that name no transaction. -/
def NoTransaction (value : String) : Prop := value = "" ∨ value = "NONE"

instance (value : String) : Decidable (NoTransaction value) :=
  inferInstanceAs (Decidable (value = "" ∨ value = "NONE"))

/-- The transaction lines of a forwarded request are the ones it came with. -/
theorem lines_transactionId_setForwarded (req : Request) (source host : String) :
    lines transactionId (req.setForwarded source host).header = lines transactionId req.header := by
  have hset : ∀ (h : Header) {key : String} (v : String),
      (∀ w ∈ allowedPrefixes, headerKey w transactionId ≠ key) →
      lines transactionId (h.set key v) = lines transactionId h := by
    intro h key v hne
    rw [lines_eq, lines_eq, Header.values_set_of_ne (hne _ (by decide)),
      Header.values_set_of_ne (hne _ (by decide))]
  unfold Request.setForwarded
  simp only
  rw [hset _ _ (by decide)]
  split
  · exact hset _ _ (by decide)
  · rfl

namespace RouterServer

variable (gunzip : Gunzip) (r : RouterServer)

/-- A request that is returned for forwarding carries no transaction. -/
def TransactionsRefused (req : Request) : Prop :=
  ∀ (out : (o : RouterOp) → o.Ans) c req' trace,
    (r.processRequest gunzip req).run (logged out) [] = (some (.ok c, req'), trace) →
      ∀ v ∈ lines transactionId req'.header, NoTransaction v

variable {gunzip r} {out : (o : RouterOp) → o.Ans}

theorem lines_transactionId_prepared (req : Request) (bId : String) (cReq : ClientRequest) :
    lines transactionId (prepared r out req bId cReq).req.header =
      lines transactionId req.header := by
  unfold prepared
  cases out (.getBackend bId) with
  | error err => rfl
  | ok backend =>
    cases out (.evaluateRequestSourceForClient r.incomingPort) with
    | error err => rfl
    | ok source => exact lines_transactionId_setForwarded _ _ _

/-- Routing keeps the transaction lines. -/
theorem lines_transactionId_routeRequest (req : Request) (cReq : ClientRequest) {res req' trace}
    (h : (r.routeRequest req cReq).run (logged out) [] = (some (res, req'), trace)) :
    lines transactionId req'.header = lines transactionId req.header := by
  have hret : ∀ {bId cReq' trace'}, (some (returned (prepared r out req bId cReq')), trace') =
      (some (res, req'), trace) → lines transactionId req'.header = lines transactionId req.header := by
    intro bId cReq' trace' he
    simp only [returned, Prod.mk.injEq, Option.some.injEq] at he
    rw [← he.1.2]
    exact lines_transactionId_prepared req bId cReq'
  cases cReq with
  | api =>
    simp only [routeRequest, pure_eq, run_ret, Prod.mk.injEq, Option.some.injEq] at h
    rw [h.1.2]
  | ui queryId =>
    simp only [routeRequest, routeUi_run] at h
    split at h
    · simp only [Prod.mk.injEq, Option.some.injEq] at h
      rw [h.1.2]
    · exact hret h
  | query nt =>
    by_cases hid : nt.query.id = ""
    · simp only [routeRequest, hid, ne_eq, not_true_eq_false, if_false] at h
      obtain ⟨nt', hrun, -⟩ := routeSubmission_run r out req nt []
      rw [hrun] at h
      simp only [Prod.mk.injEq, Option.some.injEq] at h
      rw [← h.1.2]
      exact lines_transactionId_prepared req _ _
    · simp only [routeRequest, hid, ne_eq, not_false_eq_true, if_true] at h
      rw [routeKnown_run r out req (by simp)] at h
      exact hret h
  | queryApi nt =>
    simp only [routeRequest] at h
    rw [routeKnown_run r out req (by simp)] at h
    exact hret h

/-- What is parsed is the request with its body restored. -/
theorem parseClientRequest_header {req req₁ : Request} {parsed : Except String ClientRequest}
    (h : r.parseClientRequest gunzip req = some (parsed, req₁)) : req₁.header = req.header := by
  unfold parseClientRequest at h
  split at h
  · -- a request without a text is kept whole
    split at h
    · obtain ⟨-, rfl⟩ : _ ∧ req = req₁ := by simpa using h
      rfl
    · split at h
      all_goals
        obtain ⟨-, rfl⟩ : _ ∧ req = req₁ := by simpa using h
        rfl
  split at h
  · rename_i hget hpost
    obtain ⟨⟨text, restored⟩, hconstruct, hres⟩ := Option.map_eq_some_iff.mp h
    rw [← (Prod.mk.inj hres).2]
    obtain ⟨body, -, rfl⟩ := constructQueryFromReq_body hconstruct
    rfl
  · split at h
    all_goals
      obtain ⟨-, rfl⟩ : _ ∧ req = req₁ := by simpa using h
      rfl

/-- A request that is returned was accepted, and then routed. -/
theorem accepts_of_processRequest {req req' : Request} {c : Option ClientRequest}
    {trace : List RouterOp}
    (h : (r.processRequest gunzip req).run (logged out) [] = (some (.ok c, req'), trace)) :
    ∃ cReq req₁, Accepts gunzip r req cReq req₁ ∧
      (r.routeRequest req₁ cReq).run (logged out) [] = (some (.ok c, req'), trace) := by
  simp only [processRequest, bind_eq] at h
  cases hp : r.parseClientRequest gunzip req with
  | none => simp [hp] at h
  | some x =>
    obtain ⟨parsed, req₁⟩ := x
    cases parsed with
    | error err => simp [hp, pure_eq] at h
    | ok cReq =>
      simp only [hp, deref_some, ret_bind] at h
      cases hv : cReq.validate with
      | error err => simp [hv, pure_eq] at h
      | ok u =>
        rw [hv] at h
        exact ⟨cReq, req₁, ⟨hp, hv⟩, h⟩

theorem processRequest_of_accepts {req req₁ : Request} {cReq : ClientRequest}
    (h : Accepts gunzip r req cReq req₁) :
    r.processRequest gunzip req = r.routeRequest req₁ cReq := by
  simp only [processRequest, h.1, h.2, bind_eq, deref_some, ret_bind]

/-- The outcomes in which everything succeeds. -/
def allOk : (o : RouterOp) → o.Ans
  | .evaluateGroupsForClient _ => .ok []
  | .evaluateBackendForGroups _ => .ok ("", "")
  | .findBackendForQuery _ => .ok ("", "")
  | .getBackend _ => .ok {}
  | .evaluateRequestSourceForClient _ => .ok ""
  | .evaluateAuthDelegationForClient _ => .ok false
  | .createOrUpdateQuery _ => .ok ()
  | .unixNow => 0

/-- With everything succeeding, an accepted request is returned. -/
theorem routeRequest_allOk (req : Request) (cReq : ClientRequest) :
    ∃ c req' trace, (r.routeRequest req cReq).run (logged allOk) [] =
      (some (.ok c, req'), trace) := by
  have hret : ∀ (req : Request) (cReq : ClientRequest) (trace : List RouterOp), ∃ c req' trace',
      (some (returned (prepared r allOk req "" cReq)), trace) =
        ((some (.ok c, req'), trace') : Option (Result (Option ClientRequest) × Request) × _) :=
    fun req cReq trace => ⟨_, _, _, rfl⟩
  cases cReq with
  | api => exact ⟨_, _, _, rfl⟩
  | ui queryId =>
    simp only [routeRequest, routeUi_run]
    exact hret _ _ _
  | query nt =>
    by_cases hid : nt.query.id = ""
    · simp only [routeRequest, hid, ne_eq, not_true_eq_false, if_false]
      obtain ⟨nt', hrun, -⟩ := routeSubmission_run r allOk req nt []
      rw [hrun]
      exact ⟨_, _, _, rfl⟩
    · simp only [routeRequest, hid, ne_eq, not_false_eq_true, if_true]
      rw [routeKnown_run r allOk req (by simp)]
      exact hret _ _ _
  | queryApi nt =>
    simp only [routeRequest]
    rw [routeKnown_run r allOk req (by simp)]
    exact hret _ _ _

variable (gunzip r)

/-- A submission or a query API request with nothing to refuse: it has a user, the lookup finds
no transaction, and there is a text or a query id. -/
def Forwardable (req : Request) : Prop :=
  get user req ≠ "" ∧ NoTransaction (get transactionId req) ∧
    (req.method = "POST" ∧ req.nilBody = false ∧
        (∃ text body, parseHttpPayloadBody gunzip req.body (req.header.get "Content-Encoding") =
          some (.ok text, body) ∧ text ≠ "") ∨
      req.method = "DELETE" ∧ Text.hasPrefix req.url.path "/v1/query" ∧
        Text.trimPrefix req.url.path "/v1/query/" ≠ "")

variable {gunzip}

theorem checkTransaction_iff (tag : String) {nt : QueryRequest} :
    nt.checkTransaction tag = .ok () ↔ NoTransaction nt.transactionId := by
  unfold QueryRequest.checkTransaction NoTransaction
  split
  · rename_i h
    exact iff_of_true rfl h
  · rename_i h
    exact iff_of_false (fun he => by cases he) h

/-- Two checks, and then a third. -/
theorem checked_iff {p q : Prop} [Decidable p] [Decidable q] {e e' : String}
    {x : Except String Unit} :
    (if p then .error e else if q then .error e' else x) = .ok () ↔ ¬ p ∧ x = .ok () ∧ ¬ q := by
  by_cases hp : p
  · simp [hp]
  · by_cases hq : q
    · simp [hp, hq]
    · simp [hp, hq]

theorem validate_query_iff {nt : QueryRequest} :
    (ClientRequest.query nt).validate = .ok () ↔
      nt.query.username ≠ "" ∧ NoTransaction nt.transactionId ∧ nt.query.text ≠ "" := by
  rw [← checkTransaction_iff "query submission"]
  exact checked_iff

theorem validate_queryApi_iff {nt : QueryRequest} :
    (ClientRequest.queryApi nt).validate = .ok () ↔
      nt.query.username ≠ "" ∧ NoTransaction nt.transactionId ∧ nt.query.id ≠ "" := by
  rw [← checkTransaction_iff "query api"]
  exact checked_iff

theorem exists_accepts_iff {req : Request} (hm : req.method = "POST" ∨ req.method = "DELETE") :
    (∃ cReq req₁, Accepts gunzip r req cReq req₁) ↔ Forwardable gunzip req := by
  unfold Accepts Forwardable parseClientRequest
  rcases hm with hm | hm
  · have hget : req.method ≠ "GET" := by simp [hm]
    have hdel : req.method ≠ "DELETE" := by simp [hm]
    simp only [hm, if_true, constructQueryFromReq]
    by_cases hnil : req.nilBody = true
    · simp [hnil]
    rw [Bool.not_eq_true] at hnil
    simp only [hnil, Bool.false_eq_true, if_false, true_and]
    cases hp : parseHttpPayloadBody gunzip req.body (req.header.get "Content-Encoding") with
    | none => simp
    | some x =>
      obtain ⟨res, body⟩ := x
      cases res with
      | error err => simp [validate_query_iff, queryRequestOf, Except.toOption]
      | ok text => simp [validate_query_iff, queryRequestOf, Except.toOption]
  · by_cases hpath : Text.hasPrefix req.url.path "/v1/query"
    · simp [hm, hpath, validate_queryApi_iff, queryRequestOf]
    · simp [hm, hpath]

variable (gunzip)

/-- **When transactions are refused.** No transaction goes to a backend with a submission or a
query API request exactly when no transaction line names one, or the request is refused for
something else, or for the transaction that is looked up. -/
theorem transactionsRefused_iff {req : Request}
    (hm : req.method = "POST" ∨ req.method = "DELETE") :
    TransactionsRefused gunzip r req ↔
      (∀ v ∈ lines transactionId req.header, NoTransaction v) ∨ ¬ Forwardable gunzip req := by
  rw [← exists_accepts_iff r hm]
  constructor
  · intro h
    by_contra! hno
    obtain ⟨⟨v, hv, htrans⟩, cReq, req₁, hacc⟩ := hno
    obtain ⟨c, req', trace, hrun⟩ := routeRequest_allOk (r := r) req₁ cReq
    have hlines := lines_transactionId_routeRequest req₁ cReq hrun
    rw [parseClientRequest_header hacc.1] at hlines
    rw [← processRequest_of_accepts hacc] at hrun
    exact htrans (h allOk c req' trace hrun v (hlines ▸ hv))
  · rintro hcond out c req' trace hrun v hv
    obtain ⟨cReq, req₁, hacc, hroute⟩ := accepts_of_processRequest hrun
    rw [lines_transactionId_routeRequest req₁ cReq hroute,
      parseClientRequest_header hacc.1] at hv
    exact hcond.resolve_right (fun hno => hno ⟨cReq, req₁, hacc⟩) v hv

/-- On a submission with no transaction line. -/
theorem selectOne_transactionsRefused :
    TransactionsRefused (fun bytes => .ok bytes) { port := 8080, routerHostname := "" } selectOne :=
  (transactionsRefused_iff _ _ (Or.inl rfl)).mpr (Or.inl (by decide))

/-- A submission in a transaction, which the other prefix denies. -/
def inTransaction : Request :=
  { selectOne with
    header := [("X-Trino-User", "alice"), ("X-Presto-Transaction-Id", "NONE"),
      ("X-Trino-Transaction-Id", "abc")] }

/-- The submission is forwarded with its transaction. -/
theorem inTransaction_forwarded :
    ¬ TransactionsRefused (fun bytes => .ok bytes) { port := 8080, routerHostname := "" }
      inTransaction := by
  intro h
  obtain ⟨c, req', trace, hrun, hmem⟩ : ∃ c req' trace,
      (processRequest (fun bytes => .ok bytes) { port := 8080, routerHostname := "" }
        inTransaction).run (logged allOk) [] = (some (.ok c, req'), trace) ∧
      "abc" ∈ lines transactionId req'.header := ⟨_, _, _, rfl, by decide⟩
  rcases h allOk c req' trace hrun "abc" hmem with hv | hv
  all_goals exact absurd hv (by decide)

end RouterServer

end TrinoGateway
