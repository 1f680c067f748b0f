import TrinoGateway.Spec.Router

/-!
# Authentication, `internal/router/auth.go`

* `InMemorySimpleCache` is the cache of `internal/utils`: the last accepted password of each
  user, with the time it was stored. Times are in nanoseconds.
* `AuthService.authenticate` asks the cache first, and the validation provider when the cache
  does not know the pair. A hit stores the entry anew.
* `RouterServer.authHandler` stands in front of the proxy.
-/

namespace TrinoGateway

open Interact Prog

structure CacheEntry where
  timestamp : ℤ
  value : String
deriving DecidableEq, Repr

structure InMemorySimpleCache where
  cache : String → Option CacheEntry := fun _ => none
  expiryInterval : ℤ

namespace InMemorySimpleCache

/-- `Get`, at time `now`: an entry past the interval is deleted. -/
def get (authCache : InMemorySimpleCache) (now : ℤ) (key : String) :
    Option String × InMemorySimpleCache :=
  match authCache.cache key with
  | none => (none, authCache)
  | some entry =>
    if 0 < authCache.expiryInterval ∧ authCache.expiryInterval < now - entry.timestamp then
      (none, { authCache with cache := Function.update authCache.cache key none })
    else (some entry.value, authCache)

/-- `Update`, at time `now`. -/
def update (authCache : InMemorySimpleCache) (now : ℤ) (key value : String) :
    InMemorySimpleCache :=
  { authCache with
    cache := Function.update authCache.cache key (some { timestamp := now, value := value }) }

end InMemorySimpleCache

/-- The service, with the expiry interval its cache gets: `0` if the configured one does not
parse. -/
structure AuthService where
  validationProviderURL : String
  validationProviderToken : String
  cacheTTL : ℤ
deriving DecidableEq, Repr

/-- The JSON document posted to the provider. -/
structure ValidationPayload where
  email : String
  token : String
deriving DecidableEq, Repr

/-- What the service asks: the provider, by HTTP, and the clock. -/
inductive AuthOp
  | now
  | post (url : String) (header : Header) (payload : ValidationPayload)
deriving DecidableEq

abbrev AuthOp.Ans : AuthOp → Type
  | now => ℤ
  | post _ _ _ => Result Body

namespace AuthService

variable (s : AuthService)

/-- The `ok` of the provider's answer. -/
def decodeAnswer (respBody : Body) : Result Bool :=
  match (Json.parse (Bytes.text respBody.bytes)).bind (Json.boolField "ok") with
  | none => .error (.text "json")
  | some ok => .ok ok

/-- The request to the provider for a pair. -/
def validationRequest (username password : String) : AuthOp :=
  .post s.validationProviderURL
    [("X-Auth-Token", s.validationProviderToken), ("Content-Type", "application/json")]
    { email := username, token := password }

def validateFromValidationProvider (username password : String) :
    Prog AuthOp AuthOp.Ans (Result Bool) := do
  match ← perform (s.validationRequest username password) with
  | .error err => return .error err
  | .ok respBody => return decodeAnswer respBody

/-- The cache of the router's context, created on the first call. -/
def getInMemoryAuthCache (ctx : Option InMemorySimpleCache) : InMemorySimpleCache :=
  ctx.getD { expiryInterval := s.cacheTTL }

/-- The answer, and the context left behind. -/
def authenticate (username password : String) (ctx : Option InMemorySimpleCache) :
    Prog AuthOp AuthOp.Ans (Result Bool × Option InMemorySimpleCache) := do
  let (entry, authCache) := (s.getInMemoryAuthCache ctx).get (← perform AuthOp.now) username
  if entry = some password then
    -- a hit renews the entry
    return (.ok true, some (authCache.update (← perform AuthOp.now) username password))
  else
    match ← s.validateFromValidationProvider username password with
    | .error err => return (.error err, some authCache)
    | .ok isValid =>
      if isValid then
        return (.ok true, some (authCache.update (← perform AuthOp.now) username password))
      else return (.ok false, some authCache)

end AuthService

/-- What the handler asks: the gateway server, and the authentication service. -/
inductive HandlerOp
  | rpc (o : RouterOp)
  | authenticate (username password : String)
deriving DecidableEq

abbrev HandlerOp.Ans : HandlerOp → Type
  | rpc o => o.Ans
  | authenticate _ _ => Result Bool

abbrev Handler := Prog HandlerOp HandlerOp.Ans

/-- The handler's decision: the request as handed to the proxy, or an HTTP error. -/
inductive AuthResult
  | served (req : Request)
  | refused (status : ℕ) (errorMsg : String)
deriving DecidableEq, Repr

def exemptedUsers : List String :=
  ["capital-scorecard", "care", "cyber-helpdesk", "datum", "disputes", "magic-checkout",
    "partnerships", "prod_api", "api-service-payments.de-apps@razorpay.com", "settlements"]

def usernameMismatch (username u : String) : AuthResult :=
  .refused 401 ("Username from basicauth - " ++ username ++
    " does not match with User principal - " ++ u)

/-- Hand the request on if the service accepts the pair. -/
def serveAuthenticated (req : Request) (username password : String) : Handler AuthResult := do
  match ← perform (HandlerOp.authenticate username password) with
  | .error _ => return .refused 404 "Unable to Authenticate the user"
  | .ok isAuthenticated =>
    if isAuthenticated then return .served req
    else return .refused 401 "User not authenticated"

/-- The request without its `Authorization` lines. -/
def Request.delAuthorization (req : Request) : Request :=
  { req with header := req.header.del "Authorization" }

namespace RouterServer

/-- On a port with delegated authentication. -/
def authDelegated (req : Request) : Handler AuthResult :=
  let servePassword (req : Request) (username password : String) : Handler AuthResult :=
    if password = "" then return .refused 401 "Password required"
    else serveAuthenticated req username password
  match req.basicAuth with
  | none =>
    servePassword req (TrinoHeaders.get TrinoHeaders.user req)
      (TrinoHeaders.get TrinoHeaders.password req)
  | some (username, password) =>
    -- only the line that the lookup finds is compared
    let u := TrinoHeaders.get TrinoHeaders.user req
    if u ≠ username then return usernameMismatch username u
    else servePassword req.delAuthorization username password

/-- On any other port. -/
def authUndelegated (req : Request) : Handler AuthResult :=
  match req.basicAuth with
  | none => return .served req
  | some (username, password) =>
    if username ∈ exemptedUsers then return .served req
    else
      let u := TrinoHeaders.get TrinoHeaders.user req
      if u ≠ username then return usernameMismatch username u
      else serveAuthenticated req.delAuthorization username password

def authHandler (r : RouterServer) (req : Request) : Handler AuthResult := do
  -- an error of the policy lookup counts as no delegation
  let isAuth ← perform (HandlerOp.rpc (.evaluateAuthDelegationForClient r.incomingPort))
  if isAuth.toOption.getD false then authDelegated req else authUndelegated req

end RouterServer

end TrinoGateway
