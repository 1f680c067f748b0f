import TrinoGateway.Proof.Director
import TrinoGateway.Spec.Deployment

/-!
# What the handlers leave alone

`Request.PassedOn` and `Response.PassedOn` say what of a message the handlers of a router leave as
it was. Whatever the gateway server and the authentication service answer, **each handler passes
requests and responses on** (`authHandler_decides`, `handleClientRequest_passesOn`,
`processResponse_passedOn`). `Request.ForwardedAs` adds what the reverse proxy does to the headers
(`forwardedAs_leaving`).
-/

namespace TrinoGateway

open Interact Prog

/-- The headers of a request that a router writes or takes away. -/
def Request.rewritten : List String := ["Authorization", "X-Trino-Source", "X-Forwarded-Host"]

/-- The headers that the proxy adds. -/
def Request.added : List String := ["Te", "Connection", "Upgrade", "X-Forwarded-For", "User-Agent"]

/-- The request `out` is `req`, but for where it goes and the headers that a router writes. -/
structure Request.PassedOn (req out : Request) : Prop where
  method : out.method = req.method
  path : out.url.path = req.url.path
  rawQuery : out.url.rawQuery = req.url.rawQuery
  remoteAddr : out.remoteAddr = req.remoteAddr
  body : req.body.err = none → out.body = req.body
  contentLength : out.contentLength = req.contentLength
  header : ∀ key, key ∉ Request.rewritten → out.header.values key = req.header.values key

/-- The request `out` is what a backend is sent for `req`: it has no headers that are for one
connection only, but those that the proxy adds, and the client's address after those that came. -/
structure Request.ForwardedAs (req out : Request) : Prop where
  method : out.method = req.method
  path : out.url.path = req.url.path
  rawQuery : out.url.rawQuery = req.url.rawQuery
  remoteAddr : out.remoteAddr = req.remoteAddr
  body : req.contentLength ≠ 0 → req.body.err = none → out.body = req.body
  noBody : req.contentLength = 0 → out.body = {}
  header : ∀ key, key ∉ Request.rewritten → key ∉ Request.added →
    out.header.values key = req.header.removeHopByHopHeaders.values key
  forwardedFor : ∀ ip, splitHost req.remoteAddr = some ip →
    out.header.values "X-Forwarded-For" = [", ".intercalate
      (req.header.removeHopByHopHeaders.values "X-Forwarded-For" ++ [ip])]

/-- The response `out` is `resp`, but for its location. -/
structure Response.PassedOn (resp out : Response) : Prop where
  statusCode : out.statusCode = resp.statusCode
  body : resp.body.err = none → out.body = resp.body
  header : ∀ key, key ≠ "Location" → out.header.values key = resp.header.values key

namespace Request.PassedOn

theorem refl (req : Request) : req.PassedOn req :=
  ⟨rfl, rfl, rfl, rfl, fun _ => rfl, rfl, fun _ _ => rfl⟩

theorem trans {req mid out : Request} (h : req.PassedOn mid) (h' : mid.PassedOn out) :
    req.PassedOn out where
  method := h'.method.trans h.method
  path := h'.path.trans h.path
  rawQuery := h'.rawQuery.trans h.rawQuery
  remoteAddr := h'.remoteAddr.trans h.remoteAddr
  body herr := by
    have hmid := h.body herr
    rw [h'.body (by rw [hmid, herr]), hmid]
  contentLength := h'.contentLength.trans h.contentLength
  header key hkey := (h'.header key hkey).trans (h.header key hkey)

/-- The target may change. -/
theorem setHost (req : Request) (scheme host : String) : req.PassedOn (req.setHost scheme host) :=
  ⟨rfl, rfl, rfl, rfl, fun _ => rfl, rfl, fun _ _ => rfl⟩

theorem invalidHost (req : Request) :
    req.PassedOn { req with url := { req.url with host := RouterServer.invalidHost } } :=
  ⟨rfl, rfl, rfl, rfl, fun _ => rfl, rfl, fun _ _ => rfl⟩

theorem withBody {req : Request} {restored : Body} (h : req.body.err = none → restored = req.body) :
    req.PassedOn { req with body := restored } :=
  ⟨rfl, rfl, rfl, rfl, h, rfl, fun _ _ => rfl⟩

theorem setForwarded (req : Request) (source host : String) :
    req.PassedOn (req.setForwarded source host) where
  method := rfl
  path := rfl
  rawQuery := rfl
  remoteAddr := rfl
  body _ := rfl
  contentLength := rfl
  header key hkey := by
    have hsource : key ≠ "X-Trino-Source" := fun h => hkey (by rw [h]; simp [rewritten])
    have hhost : key ≠ "X-Forwarded-Host" := fun h => hkey (by rw [h]; simp [rewritten])
    unfold Request.setForwarded
    by_cases hs : source ≠ ""
    · simp only [if_pos hs]
      rw [Header.values_set_of_ne hhost, Header.values_set_of_ne hsource]
    · simp only [if_neg hs]
      rw [Header.values_set_of_ne hhost]

theorem delAuthorization (req : Request) : req.PassedOn req.delAuthorization where
  method := rfl
  path := rfl
  rawQuery := rfl
  remoteAddr := rfl
  body _ := rfl
  contentLength := rfl
  header key hkey := by
    have hauth : key ≠ "Authorization" := fun h => hkey (by rw [h]; simp [rewritten])
    exact Header.values_del_of_ne hauth

end Request.PassedOn

namespace Header

theorem values_foldl_del (keys : List String) (h : Header) (key : String) :
    (keys.foldl del h).values key = if key ∈ keys then [] else h.values key := by
  induction keys generalizing h with
  | nil => rfl
  | cons k keys ih =>
    rw [List.foldl_cons, ih]
    by_cases hk : key = k
    · subst hk
      simp [values_del]
    · simp [values_del_of_ne hk, hk]

/-- What is for one connection only goes, and the rest stays. -/
theorem values_removeHopByHopHeaders (h : Header) (key : String) :
    h.removeHopByHopHeaders.values key = if key ∈ h.hopByHop then [] else h.values key :=
  values_foldl_del _ _ _

/-- Headers with the same `Connection` lines lose the same. -/
theorem values_removeHopByHopHeaders_congr {h h' : Header} {key : String}
    (hconn : h'.values "Connection" = h.values "Connection") (hkey : h'.values key = h.values key) :
    h'.removeHopByHopHeaders.values key = h.removeHopByHopHeaders.values key := by
  have hhops : h'.hopByHop = h.hopByHop := by
    unfold hopByHop connectionNamed
    rw [hconn]
  rw [values_removeHopByHopHeaders, values_removeHopByHopHeaders, hhops, hkey]

theorem values_setIf_of_ne {h : Header} {p : Prop} [Decidable p] {key key' v : String}
    (hk : key' ≠ key) : (h.setIf p key v).values key' = h.values key' := by
  unfold setIf
  split
  · exact values_set_of_ne hk
  · rfl

theorem values_setIf_eq {h : Header} {p : Prop} [Decidable p] {key v : String} :
    (h.setIf p key v).values key = if p then [v] else h.values key := by
  unfold setIf
  split
  · exact values_set
  · rfl

theorem values_setIf {h : Header} {p : Prop} [Decidable p] {key v : String} (hp : p) :
    (h.setIf p key v).values key = [v] := by
  rw [values_setIf_eq, if_pos hp]

theorem upgradeType_congr {h h' : Header} (hconn : h'.values "Connection" = h.values "Connection")
    (hupgrade : h'.values "Upgrade" = h.values "Upgrade") : h'.upgradeType = h.upgradeType := by
  unfold upgradeType get
  rw [hconn, hupgrade]

end Header

theorem isPrint_toLower (c : Char) :
    (' ' ≤ c.toLower && c.toLower ≤ '~') = (' ' ≤ c && c ≤ '~') := by
  unfold Char.toLower
  split
  · rename_i hupper
    have hlow : 65 ≤ c.toNat := UInt32.le_iff_toNat_le.mp hupper.1
    have hhigh : c.toNat ≤ 90 := UInt32.le_iff_toNat_le.mp hupper.2
    rw [Bool.eq_iff_iff]
    simp [Char.le_def, UInt32.le_iff_toNat_le]
    omega
  · rfl

/-- Texts that differ in case only can both be printed, or neither. -/
theorem isPrint_of_eqFold {s t : String} (h : Text.eqFold s t = true) : isPrint s = isPrint t := by
  have hall : ∀ u : String, isPrint u =
      (u.toList.map Char.toLower).all fun c => ' ' ≤ c && c ≤ '~' := by
    intro u
    rw [List.all_map]
    exact congrArg u.toList.all (funext fun c => (isPrint_toLower c).symm)
  rw [hall s, hall t, of_decide_eq_true h]
namespace Request

/-- A header that the proxy does not add leaves as the removal leaves it. -/
theorem values_leavingHeader {req out : Request} {key : String} (hkey : key ∉ added) :
    (req.leavingHeader out).values key = out.header.removeHopByHopHeaders.values key := by
  simp only [added, List.mem_cons, List.not_mem_nil, or_false, not_or] at hkey
  obtain ⟨hte, hconn, hupgrade, hfor, hagent⟩ := hkey
  unfold leavingHeader
  rw [Header.values_setIf_of_ne hagent, Header.values_setIf_of_ne hfor,
    Header.values_setIf_of_ne hupgrade, Header.values_setIf_of_ne hconn,
    Header.values_setIf_of_ne hte]

/-- The client's address is told, after those that came with the request. -/
theorem forwardedFor_leavingHeader {req out : Request} {ip : String}
    (hip : splitHost req.remoteAddr = some ip) :
    (req.leavingHeader out).values "X-Forwarded-For" = [", ".intercalate
      (out.header.removeHopByHopHeaders.values "X-Forwarded-For" ++ [ip])] := by
  unfold leavingHeader
  rw [Header.values_setIf_of_ne (by decide), hip, Header.values_setIf (by rfl),
    Header.values_setIf_of_ne (by decide), Header.values_setIf_of_ne (by decide),
    Header.values_setIf_of_ne (by decide)]
  rfl

/-- The request to switch protocols is kept. -/
theorem upgradeType_leavingHeader (req out : Request) :
    (req.leavingHeader out).upgradeType = out.header.upgradeType := by
  have hgone : ∀ key, key ∈ Header.hopHeaders →
      out.header.removeHopByHopHeaders.values key = [] := by
    intro key hkey
    rw [Header.values_removeHopByHopHeaders]
    exact if_pos (List.mem_append_right _ hkey)
  have hconn : (req.leavingHeader out).values "Connection" =
      if out.header.upgradeType ≠ "" then ["Upgrade"] else [] := by
    unfold leavingHeader
    rw [Header.values_setIf_of_ne (by decide), Header.values_setIf_of_ne (by decide),
      Header.values_setIf_of_ne (by decide), Header.values_setIf_eq,
      Header.values_setIf_of_ne (by decide), hgone _ (by decide)]
  have hupgrade : (req.leavingHeader out).values "Upgrade" =
      if out.header.upgradeType ≠ "" then [out.header.upgradeType] else [] := by
    unfold leavingHeader
    rw [Header.values_setIf_of_ne (by decide), Header.values_setIf_of_ne (by decide),
      Header.values_setIf_eq, Header.values_setIf_of_ne (by decide),
      Header.values_setIf_of_ne (by decide), hgone _ (by decide)]
  rw [Header.upgradeType, Header.get, hconn, hupgrade]
  by_cases h : out.header.upgradeType = ""
  · rw [h]
    rfl
  · rw [if_pos h, if_pos h]
    exact if_pos (by decide)

theorem cloned_header (req : Request) : req.cloned.header = req.header := by
  unfold cloned
  split <;> rfl

theorem PassedOn.upgradeType {req out : Request} (h : req.PassedOn out) :
    out.header.upgradeType = req.header.upgradeType :=
  Header.upgradeType_congr (h.header _ (by decide)) (h.header _ (by decide))

/-- **What a backend is sent**, when `AuthHandler` has made `mid` of the request and the director
`out` of that. -/
theorem forwardedAs_leaving {req mid out : Request} (h : req.PassedOn mid)
    (h' : mid.cloned.PassedOn out) : req.ForwardedAs (mid.leaving out) := by
  have hsame : mid.PassedOn out ∨ mid.contentLength = 0 := by
    by_cases hzero : mid.contentLength = 0
    · exact Or.inr hzero
    · rw [cloned, if_neg hzero] at h'
      exact Or.inl h'
  have hcloned : mid.cloned.method = mid.method ∧ mid.cloned.url = mid.url ∧
      mid.cloned.remoteAddr = mid.remoteAddr := by
    unfold cloned
    split <;> exact ⟨rfl, rfl, rfl⟩
  obtain ⟨hmethod, hurl, haddr⟩ := hcloned
  have hvalues : ∀ key, key ∉ rewritten → out.header.values key = req.header.values key := by
    intro key hkey
    rw [h'.header key hkey, cloned_header, h.header key hkey]
  have hconn := hvalues "Connection" (by decide)
  refine ⟨h'.method.trans (hmethod.trans h.method), ?_, ?_, ?_, ?_, ?_, ?_, ?_⟩
  · exact (h'.path.trans (congrArg Url.path hurl)).trans h.path
  · exact (h'.rawQuery.trans (congrArg Url.rawQuery hurl)).trans h.rawQuery
  · exact (h'.remoteAddr.trans haddr).trans h.remoteAddr
  · intro hlen herr
    rcases hsame with hpass | hzero
    · exact (h.trans hpass).body herr
    · exact absurd (h.contentLength ▸ hzero) hlen
  · intro hlen
    have hnil : mid.cloned.body = {} := by
      unfold cloned
      rw [if_pos (h.contentLength.trans hlen)]
    have hout : out.body = mid.cloned.body := h'.body (by rw [hnil])
    exact hout.trans hnil
  · intro key hkey hadded
    show (mid.leavingHeader out).values key = _
    rw [values_leavingHeader hadded]
    exact Header.values_removeHopByHopHeaders_congr hconn (hvalues key hkey)
  · intro ip hip
    have hmid : splitHost mid.remoteAddr = some ip := by rw [h.remoteAddr, hip]
    show (mid.leavingHeader out).values _ = _
    rw [forwardedFor_leavingHeader hmid,
      Header.values_removeHopByHopHeaders_congr hconn (hvalues _ (by decide))]

end Request

namespace RouterServer

variable {gunzip : Gunzip} {r : RouterServer}

theorem constructQueryFromReq_passedOn {req req' : Request} {res : Except String String}
    (h : constructQueryFromReq gunzip req = some (res, req')) : req.PassedOn req' := by
  obtain ⟨body, hbody, rfl⟩ := constructQueryFromReq_body h
  exact Request.PassedOn.withBody hbody

theorem parseClientRequest_passedOn {req req' : Request} {res : Except String ClientRequest}
    (h : r.parseClientRequest gunzip req = some (res, req')) : req.PassedOn req' := by
  have hsame : ∀ {a b : Except String ClientRequest}, some (a, req) = some (b, req') →
      req.PassedOn req' := fun heq => by
    obtain ⟨-, rfl⟩ := Prod.mk.inj (Option.some.inj heq)
    exact Request.PassedOn.refl _
  unfold parseClientRequest at h
  simp only at h
  split at h
  · split at h
    · exact hsame h
    · split at h
      · exact hsame h
      · exact hsame h
  · split at h
    · obtain ⟨⟨text, restored⟩, hconstruct, heq⟩ := Option.map_eq_some_iff.mp h
      rw [← (Prod.mk.inj heq).2]
      exact constructQueryFromReq_passedOn hconstruct
    · split at h
      · exact hsame h
      · exact hsame h

/-- The preparation passes the request on, whether it succeeds or not. -/
theorem prepareReqForRouting_passesOn (req : Request) (backendId : String) (cReq : ClientRequest) :
    (r.prepareReqForRouting req backendId cReq).Yields fun p => req.PassedOn p.req := by
  unfold prepareReqForRouting
  intro res
  cases res with
  | error err => exact Request.PassedOn.refl req
  | ok backend =>
    dsimp only
    split
    · exact Request.PassedOn.refl req
    · intro source
      have hhost := Request.PassedOn.setHost req (BackendApi.schemeName backend.scheme)
        (cReq.hostOf backend)
      cases source with
      | error err => exact hhost
      | ok source => exact hhost.trans (Request.PassedOn.setForwarded _ _ _)

/-- A routing that ends with what a preparation returned. -/
theorem yields_returned {req : Request} {p : Prepared} (h : req.PassedOn p.req) :
    (ret (returned p) : Router _).Yields fun res => req.PassedOn res.2 := h

theorem routeRequest_passesOn (req : Request) (cReq : ClientRequest) :
    (r.routeRequest req cReq).Yields fun res => req.PassedOn res.2 := by
  have hknown : ∀ (kind : QueryRequest → ClientRequest) (nt : QueryRequest),
      (r.routeKnown req kind nt).Yields fun res => req.PassedOn res.2 := fun kind nt res =>
    (prepareReqForRouting_passesOn req _ _).bind fun p hp => yields_returned hp
  cases cReq with
  | api => exact Request.PassedOn.refl req
  | ui queryId =>
    intro res
    cases res with
    | error err => exact Request.PassedOn.refl req
    | ok pair => exact (prepareReqForRouting_passesOn req _ _).bind fun p hp => yields_returned hp
  | queryApi nt => exact hknown .queryApi nt
  | query nt =>
    simp only [routeRequest]
    split
    · exact hknown .query nt
    · refine yields_bind fun resolved => (prepareReqForRouting_passesOn req _ _).bind fun p hp => ?_
      split
      · exact hp
      · exact hp
      · exact hp

/-- **The director passes the request on**, also when it fails. -/
theorem handleClientRequest_passesOn (req : Request) :
    (r.handleClientRequest gunzip req).Yields fun res => req.PassedOn res.2 := by
  have hprocess : (r.processRequest gunzip req).Yields fun res => req.PassedOn res.2 := by
    refine yields_deref fun parsed hparsed => ?_
    obtain ⟨parsed, mid⟩ := parsed
    have hparse := parseClientRequest_passedOn hparsed
    cases parsed with
    | error err => exact hparse
    | ok cReq =>
      dsimp only
      cases cReq.validate with
      | error err => exact hparse
      | ok _ => exact (routeRequest_passesOn mid cReq).mono fun res hres => hparse.trans hres
  refine hprocess.bind fun res hres => ?_
  obtain ⟨res, out⟩ := res
  cases res with
  | error err => exact hres.trans (Request.PassedOn.invalidHost out)
  | ok cReq => exact hres

/-- The ways in which `AuthHandler` refuses a request. -/
def refusals (req : Request) : List AuthResult :=
  [.refused 401 "Password required", .refused 401 "User not authenticated",
    .refused 404 "Unable to Authenticate the user",
    usernameMismatch ((req.basicAuth.map Prod.fst).getD "") (TrinoHeaders.get TrinoHeaders.user req)]

/-- What `AuthHandler` decides about a request. -/
def AuthResult.Decides (req : Request) : AuthResult → Prop
  | .served out => out = req ∨ out = req.delAuthorization
  | .refused code msg => .refused code msg ∈ refusals req

/-- **`AuthHandler` serves the request**, with or without its password, or refuses it in one of
these ways. -/
theorem authHandler_decides (req : Request) :
    (r.authHandler req).Yields (AuthResult.Decides req) := by
  have hrefused : ∀ code msg, AuthResult.refused code msg ∈ refusals req →
      (ret (.refused code msg) : Handler AuthResult).Yields (AuthResult.Decides req) :=
    fun _ _ h => h
  have hpassword := hrefused 401 "Password required" (by simp [refusals])
  have hserve : ∀ (out : Request) (username password : String),
      (out = req ∨ out = req.delAuthorization) →
      (serveAuthenticated out username password).Yields (AuthResult.Decides req) := by
    intro out username password hout res
    cases res with
    | error err => exact hrefused 404 _ (by simp [refusals])
    | ok isAuthenticated =>
      cases isAuthenticated with
      | false => exact hrefused 401 _ (by simp [refusals])
      | true => exact hout
  have hmismatch : ∀ pair, req.basicAuth = some pair →
      (ret (usernameMismatch pair.1 (TrinoHeaders.get TrinoHeaders.user req)) :
        Handler AuthResult).Yields (AuthResult.Decides req) :=
    fun pair hpair => hrefused 401 _ (by simp [refusals, usernameMismatch, hpair])
  intro isAuth
  simp only [ret_bind]
  split
  · unfold authDelegated
    cases hauth : req.basicAuth with
    | none =>
      dsimp only
      split
      · exact hpassword
      · exact hserve req _ _ (Or.inl rfl)
    | some pair =>
      dsimp only
      split
      · exact hmismatch pair hauth
      · split
        · exact hpassword
        · exact hserve _ _ _ (Or.inr rfl)
  · unfold authUndelegated
    cases hauth : req.basicAuth with
    | none => exact Or.inl rfl
    | some pair =>
      dsimp only
      split
      · exact Or.inl rfl
      · split
        · exact hmismatch pair hauth
        · exact hserve _ _ _ (Or.inr rfl)

theorem passedOn_of_served {req out : Request} (h : out = req ∨ out = req.delAuthorization) :
    req.PassedOn out := by
  rcases h with rfl | rfl
  · exact Request.PassedOn.refl _
  · exact Request.PassedOn.delAuthorization req

theorem handleRedirect_passedOn (resp : Response) : resp.PassedOn (r.handleRedirect resp) := by
  unfold handleRedirect
  dsimp only
  split
  · exact ⟨rfl, fun _ => rfl, fun key hkey => Header.values_set_of_ne hkey⟩
  · exact ⟨rfl, fun _ => rfl, fun _ _ => rfl⟩

/-- **`ProcessResponse` passes the response on.** -/
theorem processResponse_passedOn {resp out : Response} {cReq : Option ClientRequest}
    {save : Option QuerySave} (h : r.processResponse gunzip resp cReq = some (out, save)) :
    resp.PassedOn out := by
  have hrefl : resp.PassedOn resp := ⟨rfl, fun _ => rfl, fun _ _ => rfl⟩
  unfold processResponse at h
  split at h
  · have hmid : resp.PassedOn (if resp.statusCode < 300 then r.handleRedirect resp else resp) := by
      split
      · exact handleRedirect_passedOn resp
      · exact hrefl
    dsimp only at h
    generalize (if resp.statusCode < 300 then r.handleRedirect resp else resp) = mid at h hmid
    split at h
    · obtain ⟨⟨text, restored⟩, hparse, heq⟩ := Option.map_eq_some_iff.mp h
      rw [← (Prod.mk.inj heq).1]
      refine ⟨hmid.statusCode, fun herr => ?_, hmid.header⟩
      have hbody := hmid.body herr
      rw [← hbody]
      exact parseHttpPayloadBody_restores hparse (by rw [hbody, herr])
    · rw [← (Prod.mk.inj (Option.some.inj h)).1]
      exact hmid
  · rw [← (Prod.mk.inj (Option.some.inj h)).1]
    exact hrefl

/-- What the proxy goes on with is what `ProcessResponse` returned. -/
theorem modifyResponse_yields (shared : SharedObject) (method : String) (resp : Response) :
    (modifyResponse gunzip r shared method resp).Yields fun res =>
      r.processResponse gunzip resp shared.clientRequest = some res.2.2 := by
  have hserver : (r.handleServerResponse gunzip shared method resp).Yields fun res =>
      r.processResponse gunzip resp shared.clientRequest = some res.2.2 := by
    refine yields_deref fun res hres => ?_
    obtain ⟨res, hprocess, rfl⟩ := Option.map_eq_some_iff.mp hres
    exact yields_bind fun _ => hprocess
  refine hserver.bind fun res hres => ?_
  obtain ⟨shared', err, resp', save⟩ := res
  cases err with
  | error e => exact yields_bind fun _ => hres
  | ok _ => exact hres

end RouterServer

end TrinoGateway
