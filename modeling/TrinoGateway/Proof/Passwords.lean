import TrinoGateway.Proof.Impersonation

/-!
# Where a password goes

Two runs of the authentication handler, on requests whose header lines differ in passwords only.
The handler drops the `Authorization` lines of a basic authentication, and leaves the lines of the
password headers where they are.

`credentialsStop_iff`: on a port with delegated authentication **the password makes no difference to
what the proxy is handed exactly when the request has no password line**, or is refused whatever the
service says.
-/

namespace TrinoGateway

open Interact Prog

/-- The name and the password of an `Authorization` line. -/
def basicAuthOf (value : String) : Option (String × String) :=
  Request.basicAuth { method := "", header := [("Authorization", value)] }

/-- The keys of the password headers. -/
def passwordKeys : List String :=
  TrinoHeaders.allowedPrefixes.map fun w => TrinoHeaders.headerKey w TrinoHeaders.password

/-- Two header lines that are the same up to the password they carry. -/
inductive SameButPassword : String × String → String × String → Prop
  | same (line : String × String) : SameButPassword line line
  | secret {key : String} (hkey : key ∈ passwordKeys) (v v' : String) :
      SameButPassword (key, v) (key, v')
  | basic {v v' u pw pw' : String} (h : basicAuthOf v = some (u, pw))
      (h' : basicAuthOf v' = some (u, pw')) :
      SameButPassword ("Authorization", v) ("Authorization", v')

/-- Two requests that are the same up to the passwords in their header. -/
def Request.DiffersInPassword (req req' : Request) : Prop :=
  ∃ header : Header, List.Forall₂ SameButPassword req.header header ∧ req' = { req with header := header }

open TrinoHeaders

theorem SameButPassword.key {line line' : String × String} (h : SameButPassword line line') :
    line.1 = line'.1 := by
  cases h <;> rfl

/-- Lines under another key than these are the same. -/
theorem SameButPassword.eq {line line' : String × String} (h : SameButPassword line line')
    (hp : line.1 ≠ headerKey "Presto" password) (ht : line.1 ≠ headerKey "Trino" password)
    (ha : line.1 ≠ "Authorization") : line = line' := by
  cases h with
  | same => rfl
  | secret hkey v v' =>
    simp only [passwordKeys, allowedPrefixes, List.map_cons, List.map_nil, List.mem_cons, List.not_mem_nil,
      or_false] at hkey
    rcases hkey with rfl | rfl
    · exact absurd rfl hp
    · exact absurd rfl ht
  | basic => exact absurd rfl ha

section Lines

variable {h h' : Header}

/-- A part of two headers that is cut out by the keys. -/
theorem forall₂_filter_key (hh : List.Forall₂ SameButPassword h h') (keep : String → Bool) :
    List.Forall₂ SameButPassword (h.filter fun line => keep line.1)
      (h'.filter fun line => keep line.1) := by
  induction hh with
  | nil => exact .nil
  | cons hl _ ih =>
    rw [List.filter_cons, List.filter_cons, hl.key]
    split
    · exact .cons hl ih
    · exact ih

/-- Where no line carries a password, the headers are the same. -/
theorem eq_of_forall₂ (hh : List.Forall₂ SameButPassword h h')
    (hkeys : ∀ line ∈ h, line.1 ≠ headerKey "Presto" password ∧
      line.1 ≠ headerKey "Trino" password ∧ line.1 ≠ "Authorization") : h = h' := by
  induction hh with
  | nil => rfl
  | cons hl _ ih =>
    obtain ⟨hp, ht, ha⟩ := hkeys _ (List.mem_cons_self ..)
    rw [hl.eq hp ht ha, ih fun line hline => hkeys line (List.mem_cons_of_mem _ hline)]

/-- The first values of `Authorization`: the same, or of one name's basic authentication. -/
theorem authorization_of_forall₂ (hh : List.Forall₂ SameButPassword h h') :
    h.get "Authorization" = h'.get "Authorization" ∨
      ∃ u pw pw', basicAuthOf (h.get "Authorization") = some (u, pw) ∧
        basicAuthOf (h'.get "Authorization") = some (u, pw') := by
  have hf := forall₂_filter_key hh fun k => k = "Authorization"
  have hkeys : ∀ line ∈ h.filter fun line => line.1 = "Authorization", line.1 = "Authorization" :=
    fun line hline => by simpa using (List.mem_filter.mp hline).2
  unfold Header.get Header.values
  generalize h.filter _ = l at hf hkeys
  generalize h'.filter _ = l' at hf
  cases hf with
  | nil => exact Or.inl rfl
  | cons hl _ =>
    cases hl with
    | same => exact Or.inl rfl
    | secret hkey =>
      have hauth := hkeys _ (List.mem_cons_self ..)
      simp only at hauth
      rw [hauth] at hkey
      exact absurd hkey (by decide)
    | basic hb hb' => exact Or.inr ⟨_, _, _, hb, hb'⟩

end Lines

theorem basicAuth_eq (req : Request) :
    req.basicAuth = basicAuthOf (req.header.get "Authorization") := by
  have hget : Header.get [("Authorization", req.header.get "Authorization")] "Authorization" =
      req.header.get "Authorization" := by
    simp [Header.get, Header.values]
  unfold basicAuthOf Request.basicAuth
  rw [hget]

/-- Both have a basic authentication, or neither has. -/
theorem Request.DiffersInPassword.basicAuth_isSome {req req' : Request}
    (h : req.DiffersInPassword req') : req.basicAuth.isSome = req'.basicAuth.isSome := by
  obtain ⟨header, hh, rfl⟩ := h
  rw [basicAuth_eq, basicAuth_eq]
  rcases authorization_of_forall₂ hh with he | ⟨u, pw, pw', hb, hb'⟩
  · rw [he]
  · rw [hb, hb']
    rfl

namespace RouterServer

variable (r : RouterServer) (req : Request)

/-- The request behind an accepted pair on a port with delegated authentication. -/
def handed (req : Request) : Request :=
  if req.basicAuth.isSome then req.delAuthorization else req

theorem verdict_eq_served {s s' : Request} {answer : Result Bool} :
    verdict s' answer = .served s ↔ answer = .ok true ∧ s = s' := by
  cases answer with
  | error e => simp [verdict]
  | ok b => cases b <;> simp [verdict, eq_comm]

/-- A request is served when the service accepts its pair. -/
theorem authRun_served {out : (o : HandlerOp) → o.Ans} (hd : delegated r out = true)
    {s : Request} :
    (authRun r out req).1 = some (.served s) ↔
      ∃ u pw, credentials req true = some (u, pw) ∧ out (.authenticate u pw) = .ok true ∧
        s = handed req := by
  have hrun : authRun r out req = (authDelegated req).run (logged out)
      [.rpc (.evaluateAuthDelegationForClient r.incomingPort)] := by
    simp only [authRun, authHandler, bind_eq, perform_bind, run_op, logged_fst, logged_snd]
    exact congrArg (fun p : Handler AuthResult => p.run (logged out) _) (if_pos hd)
  rw [hrun]
  unfold authDelegated credentials handed
  cases hb : req.basicAuth with
  | none =>
    by_cases hp : get password req = ""
    · simp [hp, pure_eq]
    · simp [hp, serveAuthenticated_run, verdict_eq_served]
  | some c =>
    obtain ⟨u, pw⟩ := c
    by_cases hu : get user req = u
    · by_cases hp : pw = ""
      · simp [hu, hp, pure_eq]
      · simp [hu, hp, serveAuthenticated_run, verdict_eq_served]
    · simp [hu, usernameMismatch, pure_eq]

/-- What the proxy is handed does not depend on the password of the request. -/
def CredentialsStop : Prop :=
  ∀ out, delegated r out = true → ∀ req', req.DiffersInPassword req' → ∀ s s',
    (authRun r out req).1 = some (.served s) → (authRun r out req').1 = some (.served s') → s = s'

/-- A request that has no password line has a basic authentication, if it has a pair. -/
theorem basicAuth_of_credentials {req : Request} {u pw : String}
    (hc : credentials req true = some (u, pw)) (hl : lines password req.header = []) :
    req.basicAuth.isSome := by
  have hget : get password req = "" := by
    rcases get_mem_lines password req with h | ⟨h, -⟩
    · rw [hl] at h
      cases h
    · exact h
  cases hb : req.basicAuth with
  | some c => rfl
  | none =>
    simp only [credentials, hb, hget, if_true] at hc
    cases hc

/-- Without password lines, the credentials dropped are all that the passwords made. -/
theorem handed_eq_of_lines_nil {req' : Request} (hd : req.DiffersInPassword req')
    (hb : req.basicAuth.isSome) (hl : lines password req.header = []) :
    handed req = handed req' := by
  have hb' : req'.basicAuth.isSome := hd.basicAuth_isSome ▸ hb
  obtain ⟨header, hh, rfl⟩ := hd
  have hdel : req.header.del "Authorization" = header.del "Authorization" := by
    refine eq_of_forall₂ (forall₂_filter_key hh fun k => k ≠ "Authorization") fun line hline => ?_
    have hmem := List.mem_filter.mp hline
    rw [lines_eq, List.append_eq_nil_iff] at hl
    -- a line of a password header would be among the password lines
    have hne : ∀ w, req.header.values (headerKey w password) = [] →
        line.1 ≠ headerKey w password := by
      intro w hw hkey
      have : line.2 ∈ req.header.values (headerKey w password) :=
        List.mem_map_of_mem (List.mem_filter.mpr ⟨hmem.1, by simpa using hkey⟩)
      rw [hw] at this
      cases this
    exact ⟨hne _ hl.1, hne _ hl.2, by simpa using hmem.2⟩
  simp only [handed, hb, hb', if_true, Request.delAuthorization, hdel]

/-- A line with a longer password, if it carries one. -/
def longerLine (line : String × String) : String × String :=
  if line.1 ∈ passwordKeys then (line.1, line.2 ++ "x") else line

def longer (h : Header) : Header := h.map longerLine

@[simp] theorem longerLine_fst (line : String × String) : (longerLine line).1 = line.1 := by
  unfold longerLine
  split <;> rfl

theorem forall₂_longer (h : Header) : List.Forall₂ SameButPassword h (longer h) := by
  rw [longer, List.forall₂_map_right_iff, List.forall₂_same]
  intro line _
  unfold longerLine
  split
  · rename_i hkey
    exact .secret hkey line.2 (line.2 ++ "x")
  · exact .same line

theorem values_longer (h : Header) (key : String) :
    (longer h).values key =
      if key ∈ passwordKeys then (h.values key).map (· ++ "x") else h.values key := by
  have hcomp : (fun line : String × String => decide (line.1 = key)) ∘ longerLine =
      fun line => decide (line.1 = key) := by
    funext line
    simp
  simp only [Header.values, longer, List.filter_map, List.map_map, hcomp]
  split
  all_goals
    rename_i hk
    refine List.map_congr_left fun line hline => ?_
    have hkey : line.1 = key := by simpa using (List.mem_filter.mp hline).2
    simp [longerLine, hkey, hk]

theorem lines_longer (h : Header) :
    lines password (longer h) = (lines password h).map (· ++ "x") := by
  rw [lines_eq, lines_eq, values_longer, values_longer, if_pos (by decide), if_pos (by decide),
    List.map_append]

/-- A longer password is taken to the service in place of the pair's own. -/
theorem credentials_longer {u pw : String} (hc : credentials req true = some (u, pw))
    (hl : lines password req.header ≠ []) :
    ∃ pw', credentials { req with header := longer req.header } true = some (u, pw') := by
  have huser : get user { req with header := longer req.header } = get user req := by
    have hline : ∀ w ∈ allowedPrefixes, Header.get (longer req.header) (headerKey w user) =
        req.header.get (headerKey w user) := by
      intro w hw
      have hkey : ∀ w ∈ allowedPrefixes, headerKey w user ∉ passwordKeys := by decide
      rw [Header.get, Header.get, values_longer, if_neg (hkey w hw)]
    rw [get_eq, get_eq, hline "Presto" (by decide), hline "Trino" (by decide)]
  have hbasic : Request.basicAuth { req with header := longer req.header } = req.basicAuth := by
    rw [basicAuth_eq, basicAuth_eq, Header.get, Header.get, values_longer, if_neg (by decide)]
  -- every password line is now longer, so none of them is empty
  have hpw : get password { req with header := longer req.header } ≠ "" := by
    intro hget
    rcases get_mem_lines password { req with header := longer req.header } with h | ⟨-, h⟩
    all_goals simp [hget, lines_longer, hl] at h
  unfold credentials at hc ⊢
  rw [huser, hbasic]
  cases hb : req.basicAuth with
  | none =>
    simp only [hb, hpw, if_false] at hc ⊢
    obtain ⟨-, hpair⟩ := Option.ite_none_left_eq_some.mp hc
    have hu : get user req = u := congrArg Prod.fst (Option.some.inj hpair)
    exact ⟨_, by rw [hu]⟩
  | some c =>
    simp only [hb] at hc ⊢
    exact ⟨pw, hc⟩

/-- The password lines are handed on. -/
theorem lines_password_handed : lines password (handed req).header = lines password req.header := by
  unfold handed
  split
  · rw [lines_eq, lines_eq, Request.delAuthorization, Header.values_del_of_ne (by decide),
      Header.values_del_of_ne (by decide)]
  · rfl

/-- **When credentials stop at the gateway.** What is handed on behind delegated authentication is
independent of the password exactly when the request has no line of a password header, or
never gets to the service. -/
theorem credentialsStop_iff :
    CredentialsStop r req ↔ lines password req.header = [] ∨ credentials req true = none := by
  constructor
  · intro h
    by_contra! hno
    obtain ⟨hl, hc⟩ := hno
    obtain ⟨⟨u, pw⟩, hc⟩ := Option.ne_none_iff_exists'.mp hc
    obtain ⟨pw', hc'⟩ := credentials_longer req hc hl
    have hd : delegated r acceptAll = true := rfl
    have hs := h acceptAll hd _ ⟨_, forall₂_longer req.header, rfl⟩ _ _
      ((authRun_served r req hd).mpr ⟨u, pw, hc, rfl, rfl⟩)
      ((authRun_served r _ hd).mpr ⟨u, pw', hc', rfl, rfl⟩)
    have hlines := congrArg (fun s => lines password s.header) hs
    simp only [lines_password_handed, lines_longer] at hlines
    -- the first password line handed on would be its own prolongation
    obtain ⟨v, l, hvl⟩ := List.exists_cons_of_ne_nil hl
    rw [hvl, List.map_cons, List.cons.injEq] at hlines
    have hlen := congrArg String.length hlines.1
    simp at hlen
  · rintro hcond out hd req' hdiff s s' hs hs'
    obtain ⟨u, pw, hc, -, rfl⟩ := (authRun_served r req hd).mp hs
    obtain ⟨u', pw', -, -, rfl⟩ := (authRun_served r req' hd).mp hs'
    rcases hcond with hl | hnone
    · exact handed_eq_of_lines_nil req hdiff (basicAuth_of_credentials hc hl) hl
    · rw [hnone] at hc
      cases hc

/-- A password of the custom authentication. -/
def customRequest (pw : String) : Request :=
  { method := "POST", header := [("X-Trino-User", "alice"), ("X-Trino-Password", pw)] }

/-- The proxy is handed the password that was accepted, whichever it is. -/
theorem password_handed_on :
    ¬ CredentialsStop { port := 8080, routerHostname := "" } (customRequest "secret") := by
  intro h
  have hdiff : (customRequest "secret").DiffersInPassword (customRequest "other") :=
    ⟨_, .cons (.same _) (.cons (.secret (by decide) _ _) .nil), rfl⟩
  have hs := h acceptAll rfl _ hdiff (customRequest "secret") (customRequest "other")
    (by decide) (by decide)
  exact absurd hs (by decide)

end RouterServer

end TrinoGateway
