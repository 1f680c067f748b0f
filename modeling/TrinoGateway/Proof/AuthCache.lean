import TrinoGateway.Spec.Auth

/-!
# How long a cached password is trusted

A hit of the authentication cache stores the entry anew, so the trust in a pair ends one
interval after its last successful use, not after its last validation. `AuthRuns` are the runs
of the service, `Vouched` is the chain of successful calls behind a pair, and
`authenticate_vouched` says that **every accepted pair goes back, in steps no longer than the
interval, to a call in which the provider accepted it**.
-/

namespace TrinoGateway

open Interact Prog

/-- A call, and what the provider answers if the call asks it. -/
structure AuthCall where
  time : ℤ
  username : String
  password : String
  answer : Result Body

/-- The answers that the operations of a call get. -/
def AuthCall.outcomes (c : AuthCall) : (o : AuthOp) → o.Ans
  | .now => c.time
  | .post _ _ _ => c.answer

/-- A call that has returned, with the operations it asked. -/
structure AuthEvent extends AuthCall where
  res : Result Bool
  asked : List AuthOp

namespace AuthService

variable (s : AuthService)

/-- The provider was asked about the pair in this call, and answered ok. -/
def Validated (e : AuthEvent) (u p : String) : Prop :=
  s.validationRequest u p ∈ e.asked ∧ e.answer.bind decodeAnswer = .ok true

/-- The runs of the service from its start, newest call first, at non-decreasing times. -/
inductive AuthRuns : List AuthEvent → Option InMemorySimpleCache → Prop
  | start : AuthRuns [] none
  | call {es : List AuthEvent} {ctx ctx' : Option InMemorySimpleCache} (c : AuthCall)
      {res : Result Bool} {asked : List AuthOp} (h : AuthRuns es ctx)
      (htime : ∀ e ∈ es, e.time ≤ c.time)
      (hrun : (s.authenticate c.username c.password ctx).run (logged c.outcomes) [] =
        (some (res, ctx'), asked)) :
      AuthRuns ({ c with res := res, asked := asked } :: es) ctx'

/-- A successful call on a pair. -/
def Accepted (e : AuthEvent) (u p : String) : Prop :=
  e.username = u ∧ e.password = p ∧ e.res = .ok true

/-- A chain of accepted calls leads to the pair at this time: the first one was validated by the
provider, and each one follows the one before it within the interval. -/
inductive Vouched (es : List AuthEvent) (u p : String) : ℤ → Prop
  | validated {e : AuthEvent} (he : e ∈ es) (ha : Accepted e u p) (hv : s.Validated e u p) :
      Vouched es u p e.time
  | renewed {e : AuthEvent} {t : ℤ} (he : e ∈ es) (ha : Accepted e u p) (h : Vouched es u p t)
      (hle : t ≤ e.time) (hgap : e.time - t ≤ s.cacheTTL) : Vouched es u p e.time

variable {s}

theorem Vouched.mono {es es' : List AuthEvent} {u p : String} {t : ℤ} (h : s.Vouched es u p t)
    (hsub : ∀ e ∈ es, e ∈ es') : s.Vouched es' u p t := by
  induction h with
  | validated he ha hv => exact .validated (hsub _ he) ha hv
  | renewed he ha _ hle hgap ih => exact .renewed (hsub _ he) ha ih hle hgap

/-- A vouched pair was accepted at that very time. -/
theorem Vouched.accepted {es : List AuthEvent} {u p : String} {t : ℤ} (h : s.Vouched es u p t) :
    ∃ e ∈ es, Accepted e u p ∧ e.time = t := by
  cases h with
  | validated he ha _ => exact ⟨_, he, ha, rfl⟩
  | renewed he ha _ _ _ => exact ⟨_, he, ha, rfl⟩

variable (s)

/-- What the cache knows: its interval, and for each entry the chain behind it. -/
structure CacheOK (es : List AuthEvent) (authCache : InMemorySimpleCache) : Prop where
  interval : authCache.expiryInterval = s.cacheTTL
  entry : ∀ u entry, authCache.cache u = some entry → s.Vouched es u entry.value entry.timestamp

variable {s} {es : List AuthEvent} {authCache : InMemorySimpleCache}

theorem CacheOK.mono {es' : List AuthEvent} (h : s.CacheOK es authCache)
    (hsub : ∀ e ∈ es, e ∈ es') : s.CacheOK es' authCache :=
  ⟨h.interval, fun u entry he => (h.entry u entry he).mono hsub⟩

theorem cacheOK_start : s.CacheOK es (s.getInMemoryAuthCache none) :=
  ⟨rfl, fun u entry he => by simp [getInMemoryAuthCache] at he⟩

/-- Reading may delete an expired entry. -/
theorem CacheOK.get (h : s.CacheOK es authCache) (now : ℤ) (key : String) :
    s.CacheOK es (authCache.get now key).2 := by
  unfold InMemorySimpleCache.get
  split
  · exact h
  · split
    · refine ⟨h.interval, fun u entry he => ?_⟩
      by_cases hu : u = key
      · rw [hu] at he
        simp at he
      · simp only [Function.update_of_ne hu] at he
        exact h.entry u entry he
    · exact h

/-- Storing a pair at a time at which it is vouched for. -/
theorem CacheOK.update (h : s.CacheOK es authCache) {now : ℤ} {u p : String}
    (hv : s.Vouched es u p now) : s.CacheOK es (authCache.update now u p) := by
  refine ⟨h.interval, fun u' entry he => ?_⟩
  unfold InMemorySimpleCache.update at he
  by_cases hu : u' = u
  · subst hu
    simp only [Function.update_self, Option.some.injEq] at he
    rw [← he]
    exact hv
  · simp only [Function.update_of_ne hu] at he
    exact h.entry u' entry he

/-- A hit: the entry is there, and within the interval if there is one. -/
theorem get_eq_some {now : ℤ} {key v : String} (h : (authCache.get now key).1 = some v) :
    ∃ entry, authCache.cache key = some entry ∧ entry.value = v ∧
      (0 < authCache.expiryInterval → now - entry.timestamp ≤ authCache.expiryInterval) := by
  unfold InMemorySimpleCache.get at h
  split at h
  · exact absurd h (by simp)
  · rename_i entry he
    split at h
    · exact absurd h (by simp)
    · rename_i hc
      refine ⟨entry, he, by simpa using h, fun hpos => ?_⟩
      by_contra hlt
      exact hc ⟨hpos, by omega⟩

variable (s) in
/-- What a call finds in the cache, and the cache after that. -/
def got (c : AuthCall) (ctx : Option InMemorySimpleCache) : Option String × InMemorySimpleCache :=
  (s.getInMemoryAuthCache ctx).get c.time c.username

variable (s) in
/-- The context after the pair of a call is stored. -/
def stored (c : AuthCall) (ctx : Option InMemorySimpleCache) : Option InMemorySimpleCache :=
  some ((got s c ctx).2.update c.time c.username c.password)

/-- What a call does: a hit renews the entry; otherwise the provider decides, and only a pair
that it accepts is stored. -/
theorem authenticate_run (c : AuthCall) (ctx : Option InMemorySimpleCache) :
    (s.authenticate c.username c.password ctx).run (logged c.outcomes) [] =
      if (got s c ctx).1 = some c.password then
        (some (.ok true, stored s c ctx), [.now, .now])
      else
        match c.answer.bind decodeAnswer with
        | .ok true => (some (.ok true, stored s c ctx),
            [.now, s.validationRequest c.username c.password, .now])
        | res => (some (res, some (got s c ctx).2),
            [.now, s.validationRequest c.username c.password]) := by
  have hgot : (s.getInMemoryAuthCache ctx).get c.time c.username = got s c ctx := rfl
  have hans : ∀ u p, (logged c.outcomes (s.validationRequest u p) [AuthOp.now]).1 = c.answer :=
    fun u p => rfl
  simp only [authenticate, validateFromValidationProvider, bind_eq, perform_bind, run_op,
    logged_fst, logged_snd, AuthCall.outcomes, hgot, List.nil_append]
  by_cases hhit : (got s c ctx).1 = some c.password
  · rw [if_pos hhit, if_pos hhit]
    rfl
  · rw [if_neg hhit, if_neg hhit]
    -- the provider's answer, then the value it decodes to
    cases ha : c.answer with
    | error err =>
      simp only [op_bind, run_op, hans, ha]
      rfl
    | ok body =>
      have hb : (Except.ok body : Result Body).bind decodeAnswer = decodeAnswer body := rfl
      simp only [op_bind, run_op, hans, ha, logged_snd, pure_eq, ret_bind, hb]
      cases decodeAnswer body with
      | error err => rfl
      | ok isValid => cases isValid <;> rfl

/-- The cases of a call that has returned. -/
theorem authenticate_cases {c : AuthCall} {ctx ctx' : Option InMemorySimpleCache}
    {res : Result Bool} {asked : List AuthOp}
    (hrun : (s.authenticate c.username c.password ctx).run (logged c.outcomes) [] =
      (some (res, ctx'), asked)) :
    ((got s c ctx).1 = some c.password ∧ res = .ok true ∧ ctx' = stored s c ctx) ∨
    (s.validationRequest c.username c.password ∈ asked ∧
      res = c.answer.bind decodeAnswer ∧
      ((res = .ok true ∧ ctx' = stored s c ctx) ∨
        (res ≠ .ok true ∧ ctx' = some (got s c ctx).2))) := by
  rw [authenticate_run] at hrun
  by_cases hhit : (got s c ctx).1 = some c.password
  · rw [if_pos hhit] at hrun
    simp only [Prod.mk.injEq, Option.some.injEq] at hrun
    exact Or.inl ⟨hhit, hrun.1.1.symm, hrun.1.2.symm⟩
  · rw [if_neg hhit] at hrun
    right
    split at hrun
    · rename_i hok
      simp only [Prod.mk.injEq, Option.some.injEq] at hrun
      obtain ⟨⟨hres, hctx⟩, hasked⟩ := hrun
      rw [← hres, ← hasked, hok]
      exact ⟨by simp, rfl, Or.inl ⟨rfl, hctx.symm⟩⟩
    · rename_i hno
      simp only [Prod.mk.injEq, Option.some.injEq] at hrun
      obtain ⟨⟨hres, hctx⟩, hasked⟩ := hrun
      rw [← hres, ← hasked]
      exact ⟨by simp, rfl, Or.inr ⟨hno, hctx.symm⟩⟩

variable (hTTL : 0 < s.cacheTTL) {ctx ctx' : Option InMemorySimpleCache}

include hTTL

/-- A hit comes from an accepted call on the pair, at most one interval ago. -/
theorem vouched_of_hit {c : AuthCall} (hok : s.CacheOK es authCache)
    (htime : ∀ e ∈ es, e.time ≤ c.time)
    (hhit : (authCache.get c.time c.username).1 = some c.password) :
    ∃ t, s.Vouched es c.username c.password t ∧ t ≤ c.time ∧ c.time - t ≤ s.cacheTTL := by
  obtain ⟨entry, he, hv, hgap⟩ := get_eq_some hhit
  have hvouched := hok.entry _ _ he
  rw [hv] at hvouched
  obtain ⟨e', he', -, ht⟩ := hvouched.accepted
  have hle : entry.timestamp ≤ c.time := by rw [← ht]; exact htime e' he'
  have hint := hok.interval
  exact ⟨entry.timestamp, hvouched, hle, by rw [← hint]; exact hgap (by omega)⟩

/-- One call: the cache stays right, and an accepted pair is vouched for. -/
theorem call_step {c : AuthCall} {res : Result Bool} {asked : List AuthOp}
    (hok : s.CacheOK es (s.getInMemoryAuthCache ctx)) (htime : ∀ e ∈ es, e.time ≤ c.time)
    (hrun : (s.authenticate c.username c.password ctx).run (logged c.outcomes) [] =
      (some (res, ctx'), asked)) :
    let e : AuthEvent := { c with res := res, asked := asked }
    s.CacheOK (e :: es) (s.getInMemoryAuthCache ctx') ∧
      (res = .ok true → s.Vouched (e :: es) c.username c.password c.time) := by
  intro e
  have hsub : ∀ e' ∈ es, e' ∈ e :: es := fun e' he' => List.mem_cons_of_mem e he'
  have hget := (hok.get c.time c.username).mono hsub
  rcases authenticate_cases hrun with ⟨hhit, hres, hctx⟩ | ⟨hasked, hres, hcase⟩
  · obtain ⟨t, hv, hle, hgap⟩ := vouched_of_hit hTTL hok htime hhit
    have hvouched : s.Vouched (e :: es) c.username c.password c.time :=
      .renewed (e := e) List.mem_cons_self ⟨rfl, rfl, hres⟩ (hv.mono hsub) hle hgap
    rw [hctx]
    exact ⟨hget.update hvouched, fun _ => hvouched⟩
  · rcases hcase with ⟨htrue, hctx⟩ | ⟨hfalse, hctx⟩
    · have hvouched : s.Vouched (e :: es) c.username c.password c.time :=
        .validated (e := e) List.mem_cons_self ⟨rfl, rfl, htrue⟩ ⟨hasked, by rw [← htrue, hres]⟩
      rw [hctx]
      exact ⟨hget.update hvouched, fun _ => hvouched⟩
    · rw [hctx]
      exact ⟨hget, fun h => absurd h hfalse⟩

/-- Along a run the cache stays right. -/
theorem AuthRuns.cacheOK (h : s.AuthRuns es ctx) : s.CacheOK es (s.getInMemoryAuthCache ctx) := by
  induction h with
  | start => exact cacheOK_start
  | call c _ htime hrun ih => exact (call_step hTTL ih htime hrun).1

/-- **Trust ends one interval after the last use.** In every run, a pair that the newest call
accepts goes back through accepted calls on it, each within the interval of the one before, to
one in which the provider accepted it; and unless the provider accepts it in this very call,
an earlier call within the interval did. -/
theorem authenticate_vouched {e : AuthEvent} (h : s.AuthRuns (e :: es) ctx)
    (hres : e.res = .ok true) :
    s.Vouched (e :: es) e.username e.password e.time ∧
      (¬ s.Validated e e.username e.password →
        ∃ e' ∈ es, Accepted e' e.username e.password ∧ e'.time ≤ e.time ∧
          e.time - e'.time ≤ s.cacheTTL) := by
  cases h with
  | call c hruns htime hrun =>
    have hok := hruns.cacheOK hTTL
    refine ⟨(call_step hTTL hok htime hrun).2 hres, fun hnot => ?_⟩
    rcases authenticate_cases hrun with ⟨hhit, -, -⟩ | ⟨hasked, hres', -⟩
    · obtain ⟨t, hv, hle, hgap⟩ := vouched_of_hit hTTL hok htime hhit
      obtain ⟨e', he', ha, ht⟩ := hv.accepted
      rw [← ht] at hle hgap
      exact ⟨e', he', ha, hle, hgap⟩
    · exact absurd ⟨hasked, by rw [← hres', ← hres]⟩ hnot

omit hTTL

/-- A service whose cache keeps an entry for ten units of time. -/
def tenService : AuthService :=
  { validationProviderURL := "", validationProviderToken := "", cacheTTL := 10 }

/-- The provider's `ok`. -/
def okBody : Body := { bytes := "\x7b\"ok\": true\x7d".toList.map fun c => UInt8.ofNat c.toNat }

theorem decodeAnswer_okBody : decodeAnswer okBody = .ok true := by decide

def aliceCall (time : ℤ) (answer : Result Body) : AuthCall :=
  { time := time, username := "alice", password := "secret", answer := answer }

/-- The answer of a provider that no longer accepts the pair. -/
def refusal : Result Body := .error (.text "refused")

/-- Alice's first call asks the provider. -/
def aliceFirst : AuthEvent :=
  { aliceCall 0 (.ok okBody) with
    res := .ok true
    asked := [.now, tenService.validationRequest "alice" "secret", .now] }

/-- A later call of alice's hits the cache. -/
def aliceHit (time : ℤ) : AuthEvent :=
  { aliceCall time refusal with res := .ok true, asked := [.now, .now] }

/-- A validation at 0 and hits at 10 and 20. -/
theorem alice_runs : ∃ ctx, tenService.AuthRuns [aliceHit 20, aliceHit 10, aliceFirst] ctx := by
  have hfirst : tenService.AuthRuns [aliceFirst]
      (stored tenService (aliceCall 0 (.ok okBody)) none) := by
    refine .call (aliceCall 0 (.ok okBody)) .start (by simp) ?_
    have hok : (aliceCall 0 (.ok okBody)).answer.bind decodeAnswer = .ok true := decodeAnswer_okBody
    rw [authenticate_run, if_neg (by decide), hok]
    rfl
  have hsecond := AuthRuns.call (aliceCall 10 refusal) hfirst
    (by simp [aliceFirst, aliceCall]) (by rw [authenticate_run, if_pos (by decide)])
  have hthird := AuthRuns.call (aliceCall 20 refusal) hsecond
    (by simp [aliceFirst, aliceCall]) (by rw [authenticate_run, if_pos (by decide)])
  exact ⟨_, hthird⟩

/-- At 20 alice is accepted on the strength of her call at 10. -/
theorem alice_vouched :
    tenService.Vouched [aliceHit 20, aliceHit 10, aliceFirst] "alice" "secret" 20 ∧
      (¬ tenService.Validated (aliceHit 20) "alice" "secret" →
        ∃ e' ∈ [aliceHit 10, aliceFirst], Accepted e' "alice" "secret" ∧ e'.time ≤ 20 ∧
          20 - e'.time ≤ 10) := by
  obtain ⟨ctx, h⟩ := alice_runs
  exact authenticate_vouched (by decide) h rfl

/-- Trust bounded by the last validation: the provider accepted the pair of an accepted call at
most one interval before. -/
def BoundedTrust (s : AuthService) : Prop :=
  ∀ e es ctx, s.AuthRuns (e :: es) ctx → e.res = .ok true →
    ∃ e' ∈ e :: es, s.Validated e' e.username e.password ∧ e'.time ≤ e.time ∧
      e.time - e'.time ≤ s.cacheTTL

/-- Alice's pair outlives its validation by two intervals. -/
theorem alice_not_boundedTrust : 0 < tenService.cacheTTL ∧ ¬ BoundedTrust tenService := by
  refine ⟨by decide, fun h => ?_⟩
  obtain ⟨ctx, hrun⟩ := alice_runs
  obtain ⟨e', he', hv, -, hgap⟩ := h _ _ ctx hrun rfl
  simp only [List.mem_cons, List.not_mem_nil, or_false] at he'
  rcases he' with rfl | rfl | rfl
  · exact absurd hv.1 (by decide)
  · exact absurd hv.1 (by decide)
  · exact absurd hgap (by decide)

end AuthService

end TrinoGateway
