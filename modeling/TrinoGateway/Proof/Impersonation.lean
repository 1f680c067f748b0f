import TrinoGateway.Spec.Auth

/-!
# Who a request speaks for

The authentication handler authenticates one name, and the proxy passes on every line of
both user headers. `noImpersonation_iff`: **the user lines behind an accepted pair all carry
its name exactly when the request's user lines are all the same**. The lookup takes the first
line of `X-Presto-User` before any of `X-Trino-User`, so another line of either goes unchecked.
-/

namespace TrinoGateway

open Interact Prog

namespace TrinoHeaders

/-- All lines of a header, under both words. -/
def lines (key : String) (h : Header) : List String :=
  allowedPrefixes.flatMap fun w => h.values (headerKey w key)

/-- The lines of a header all carry the same value. -/
def SameLines (key : String) (h : Header) : Prop :=
  ∀ v ∈ lines key h, ∀ v' ∈ lines key h, v = v'

instance (key : String) (h : Header) : Decidable (SameLines key h) :=
  inferInstanceAs (Decidable (∀ v ∈ lines key h, ∀ v' ∈ lines key h, v = v'))

theorem lines_eq (key : String) (h : Header) :
    lines key h = h.values (headerKey "Presto" key) ++ h.values (headerKey "Trino" key) := by
  simp [lines, allowedPrefixes]

/-- The value looked up is one of the lines, or it is empty. -/
theorem get_mem_lines (key : String) (req : Request) :
    get key req ∈ lines key req.header ∨
      get key req = "" ∧ (lines key req.header ≠ [] → "" ∈ lines key req.header) := by
  have hhead : ∀ l : List String, l.headD "" ∈ l ∨ l = [] := by
    intro l
    cases l with
    | nil => exact Or.inr rfl
    | cons v l => exact Or.inl (List.mem_cons_self)
  rw [get_eq, lines_eq]
  unfold Header.get
  split
  · rename_i hp
    rcases hhead (req.header.values (headerKey "Presto" key)) with h | h
    · exact Or.inl (List.mem_append_left _ h)
    · rw [h] at hp
      exact absurd rfl hp
  · rename_i hp
    rcases hhead (req.header.values (headerKey "Trino" key)) with h | h
    · exact Or.inl (List.mem_append_right _ h)
    · refine Or.inr ⟨by rw [h]; rfl, fun hne => ?_⟩
      rcases hhead (req.header.values (headerKey "Presto" key)) with h' | h'
      · rw [not_not.mp hp] at h'
        exact List.mem_append_left _ h'
      · exact absurd (by rw [h, h']; rfl) hne

/-- The lines all carry the value looked up exactly when they are all the same. -/
theorem forall_lines_eq_get_iff (key : String) (req : Request) :
    (∀ v ∈ lines key req.header, v = get key req) ↔ SameLines key req.header := by
  constructor
  · intro h v hv v' hv'
    rw [h v hv, h v' hv']
  · intro h v hv
    rcases get_mem_lines key req with hg | ⟨he, hg⟩
    · exact h v hv _ hg
    · rw [he]
      exact h v hv "" (hg (List.ne_nil_of_mem hv))

end TrinoHeaders

open TrinoHeaders

/-- Dropping the credentials leaves the user lines alone. -/
theorem lines_user_delAuthorization (req : Request) :
    lines user req.delAuthorization.header = lines user req.header := by
  have hp : headerKey "Presto" user ≠ "Authorization" := by decide
  have ht : headerKey "Trino" user ≠ "Authorization" := by decide
  rw [lines_eq, lines_eq]
  simp [Request.delAuthorization, Header.values_del_of_ne hp, Header.values_del_of_ne ht]

namespace RouterServer

/-- The pair that the handler takes to the authentication service, if it gets there. -/
def credentials (req : Request) : (delegated : Bool) → Option (String × String)
  | true =>
    match req.basicAuth with
    | none =>
      if get password req = "" then none else some (get user req, get password req)
    | some (username, pw) =>
      if get user req = username ∧ pw ≠ "" then some (username, pw) else none
  | false =>
    match req.basicAuth with
    | none => none
    | some (username, pw) =>
      if get user req = username ∧ username ∉ exemptedUsers then some (username, pw) else none

/-- The name of the pair is the one looked up in the user headers. -/
theorem credentials_user {req : Request} {d : Bool} {u p : String}
    (h : credentials req d = some (u, p)) : get user req = u := by
  cases d with
  | true =>
    simp only [credentials] at h
    split at h
    · obtain ⟨-, hpair⟩ := Option.ite_none_left_eq_some.mp h
      exact congrArg Prod.fst (Option.some.inj hpair)
    · obtain ⟨hc, hpair⟩ := Option.ite_none_right_eq_some.mp h
      exact hc.1.trans (congrArg Prod.fst (Option.some.inj hpair))
  | false =>
    simp only [credentials] at h
    split at h
    · cases h
    · obtain ⟨hc, hpair⟩ := Option.ite_none_right_eq_some.mp h
      exact hc.1.trans (congrArg Prod.fst (Option.some.inj hpair))

variable (r : RouterServer) (out : (o : HandlerOp) → o.Ans) (req : Request)

/-- Whether the policies delegate the port's authentication. -/
def delegated : Bool :=
  (out (.rpc (.evaluateAuthDelegationForClient r.incomingPort))).toOption.getD false

/-- The handler's decision and the operations it asked. -/
def authRun : Option AuthResult × List HandlerOp := (r.authHandler req).run (logged out) []

/-- Every user line of a request that is handed on after the service accepted a pair carries
the name of that pair. -/
def NoImpersonation : Prop :=
  ∀ req' trace, authRun r out req = (some (.served req'), trace) →
    ∀ u p, .authenticate u p ∈ trace → out (.authenticate u p) = .ok true →
      ∀ v ∈ lines user req'.header, v = u

/-- The decision on a pair. -/
def verdict (req' : Request) : Result Bool → AuthResult
  | .error _ => .refused 404 "Unable to Authenticate the user"
  | .ok true => .served req'
  | .ok false => .refused 401 "User not authenticated"

/-- With a pair, the service is asked about it and the decision goes by its answer, on a
request with the same user lines; without one, the service is not asked. -/
inductive Follows (p : Handler AuthResult) : Option (String × String) → Prop
  | asks {u pw : String} (h : ∀ trace, ∃ req', lines user req'.header = lines user req.header ∧
      p.run (logged out) trace =
        (some (verdict req' (out (.authenticate u pw))), trace ++ [.authenticate u pw])) :
      Follows p (some (u, pw))
  | silent (h : ∀ trace, (p.run (logged out) trace).2 = trace) : Follows p none

theorem serveAuthenticated_run (req' : Request) (u p : String) (trace : List HandlerOp) :
    (serveAuthenticated req' u p).run (logged out) trace =
      (some (verdict req' (out (.authenticate u p))), trace ++ [.authenticate u p]) := by
  simp only [serveAuthenticated, bind_eq, perform_bind, run_op, logged_fst, logged_snd]
  cases out (.authenticate u p) with
  | error e => rfl
  | ok b => cases b <;> rfl

/-- A pair that is taken to the service with the credentials dropped. -/
theorem follows_delAuthorization (u pw : String) :
    Follows out req (serveAuthenticated req.delAuthorization u pw) (some (u, pw)) :=
  .asks fun trace => ⟨req.delAuthorization, lines_user_delAuthorization req,
    serveAuthenticated_run out _ u pw trace⟩

theorem authDelegated_follows :
    Follows out req (authDelegated req) (credentials req true) := by
  unfold authDelegated credentials
  cases hb : req.basicAuth with
  | none =>
    by_cases hp : get password req = ""
    · simp only [hp, if_true]
      exact .silent fun trace => rfl
    · simp only [if_neg hp]
      exact .asks fun trace => ⟨req, rfl, serveAuthenticated_run out req _ _ trace⟩
  | some c =>
    obtain ⟨u, pw⟩ := c
    by_cases hu : get user req = u
    · by_cases hp : pw = ""
      · simp only [hu, hp, ne_eq, not_true_eq_false, if_false, if_true, and_false]
        exact .silent fun trace => rfl
      · simp only [hu, hp, ne_eq, not_true_eq_false, if_false, not_false_eq_true, and_self,
          if_true]
        exact follows_delAuthorization out req u pw
    · simp only [hu, ne_eq, not_false_eq_true, if_true, false_and, if_false]
      exact .silent fun trace => rfl

theorem authUndelegated_follows :
    Follows out req (authUndelegated req) (credentials req false) := by
  unfold authUndelegated credentials
  cases hb : req.basicAuth with
  | none => exact .silent fun trace => rfl
  | some c =>
    obtain ⟨u, pw⟩ := c
    by_cases hx : u ∈ exemptedUsers
    · simp only [hx, if_true, not_true_eq_false, and_false, if_false]
      exact .silent fun trace => rfl
    · by_cases hu : get user req = u
      · simp only [hu, hx, ne_eq, not_true_eq_false, if_false, not_false_eq_true, and_self,
          if_true]
        exact follows_delAuthorization out req u pw
      · simp only [hu, hx, ne_eq, not_false_eq_true, if_true, if_false, false_and]
        exact .silent fun trace => rfl

/-- The handler asks about the port, and then follows the credentials. -/
theorem authRun_follows :
    ∃ p, authRun r out req =
        p.run (logged out) [.rpc (.evaluateAuthDelegationForClient r.incomingPort)] ∧
      Follows out req p (credentials req (delegated r out)) := by
  cases hd : delegated r out with
  | true =>
    refine ⟨authDelegated req, ?_, authDelegated_follows out req⟩
    simp only [authRun, authHandler, bind_eq, perform_bind, run_op, logged_fst, logged_snd]
    exact congrArg (fun p : Handler AuthResult => p.run (logged out) _) (if_pos hd)
  | false =>
    refine ⟨authUndelegated req, ?_, authUndelegated_follows out req⟩
    simp only [authRun, authHandler, bind_eq, perform_bind, run_op, logged_fst, logged_snd]
    exact congrArg (fun p : Handler AuthResult => p.run (logged out) _)
      (if_neg (by rw [← delegated.eq_def, hd]; decide))

/-- **When nobody is impersonated.** The handler keeps the promise on a request exactly when
the request takes no accepted pair to the service, or its user lines are all the same. -/
theorem noImpersonation_iff :
    NoImpersonation r out req ↔
      ∀ u p, credentials req (delegated r out) = some (u, p) →
        out (.authenticate u p) = .ok true → SameLines user req.header := by
  obtain ⟨prog, hrun, hf⟩ := authRun_follows r out req
  constructor
  · intro h u p hc ha
    rw [hc] at hf
    -- an accepted pair is served, with the user lines of the request
    obtain ⟨hasks⟩ := hf
    obtain ⟨req', hl, hrun'⟩ := hasks [.rpc (.evaluateAuthDelegationForClient r.incomingPort)]
    rw [← hrun, ha] at hrun'
    rw [← forall_lines_eq_get_iff, credentials_user hc, ← hl]
    exact h req' _ hrun' u p (by simp) ha
  · intro h req' trace hserved u p hmem ha v hv
    cases hc : credentials req (delegated r out) with
    | none =>
      -- the service was not asked
      rw [hc] at hf
      obtain ⟨⟩ | ⟨hsilent⟩ := hf
      have htr := hsilent [.rpc (.evaluateAuthDelegationForClient r.incomingPort)]
      rw [← hrun, hserved] at htr
      simp only at htr
      rw [htr] at hmem
      exact absurd hmem (by simp)
    | some c =>
      obtain ⟨u', p'⟩ := c
      rw [hc] at hf
      obtain ⟨hasks⟩ := hf
      obtain ⟨req'', hl, hrun'⟩ := hasks [.rpc (.evaluateAuthDelegationForClient r.incomingPort)]
      rw [← hrun, hserved] at hrun'
      simp only [Prod.mk.injEq, Option.some.injEq] at hrun'
      obtain ⟨hv', htr⟩ := hrun'
      rw [htr] at hmem
      have hup : u = u' ∧ p = p' := by simpa using hmem
      obtain ⟨rfl, rfl⟩ := hup
      rw [ha] at hv'
      have hreq : req' = req'' := by simpa [verdict] using hv'
      -- all lines are the one that the lookup found, which names the pair's user
      have hsame := (forall_lines_eq_get_iff user req).mpr (h u p hc ha)
      rw [credentials_user hc] at hsame
      rw [hreq, hl] at hv
      exact hsame v hv

/-- Alice's password, with `root` on the second user header. -/
def rootRequest : Request :=
  { method := "POST"
    header := [("X-Presto-User", "alice"), ("X-Trino-User", "root"),
      ("X-Trino-Password", "secret")] }

/-- The outcomes in which the port's authentication is delegated and every pair accepted. -/
def acceptAll : (o : HandlerOp) → o.Ans
  | .rpc (.evaluateGroupsForClient _) => .ok []
  | .rpc (.evaluateBackendForGroups _) => .ok ("", "")
  | .rpc (.findBackendForQuery _) => .ok ("", "")
  | .rpc (.getBackend _) => .ok {}
  | .rpc (.evaluateRequestSourceForClient _) => .ok ""
  | .rpc (.evaluateAuthDelegationForClient _) => .ok true
  | .rpc (.createOrUpdateQuery _) => .ok ()
  | .rpc .unixNow => 0
  | .authenticate _ _ => .ok true

/-- Authenticated as `alice`, served with a line that says `root`. -/
theorem alice_served_as_root :
    ¬ NoImpersonation { port := 8080, routerHostname := "" } acceptAll rootRequest := by
  intro h
  have hrun : authRun { port := 8080, routerHostname := "" } acceptAll rootRequest =
      (some (.served rootRequest),
        [.rpc (.evaluateAuthDelegationForClient 8080), .authenticate "alice" "secret"]) := by decide
  exact absurd (h rootRequest _ hrun "alice" "secret" (by simp) rfl "root" (by decide))
    (by decide)

end RouterServer

end TrinoGateway
