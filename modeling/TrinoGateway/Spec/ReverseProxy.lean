import Mathlib.Data.List.DropRight
import TrinoGateway.Spec.Http

/-!
# What the reverse proxy does to messages

`net/http/httputil.ReverseProxy` handles the headers that concern one connection only. It takes them
out of a request once the director is done with it, and out of a response before the handler of the
response sees it; what it adds is about itself. A body of length zero is nil from the beginning.
-/

namespace TrinoGateway

open Interact

def isOWS (c : Char) : Bool := c = ' ' || c = '\t'

/-- What `textproto.TrimString` cuts off. -/
def isASCIISpace (c : Char) : Bool := c = ' ' || c = '\t' || c = '\n' || c = '\r'

/-- The elements of a list in a header value, with blanks around them cut off. -/
def elements (blank : Char → Bool) (v : String) : List String :=
  (v.toList.splitOn ',').map fun cs => String.ofList ((cs.dropWhile blank).rdropWhile blank)

/-- `httpguts.HeaderValuesContainsToken`. -/
def headerValuesContainsToken (values : List String) (token : String) : Bool :=
  values.any fun v => (elements isOWS v).any fun e => Text.eqFold e token

def validHeaderFieldByte (c : Char) : Bool :=
  c.isAlphanum || "!#$%&'*+-.^_`|~".toList.contains c

/-- Upper case at the beginning and after a hyphen. -/
def capitalized : Bool → List Char → List Char
  | _, [] => []
  | upper, c :: cs => (if upper then c.toUpper else c.toLower) :: capitalized (c = '-') cs

/-- `textproto.CanonicalMIMEHeaderKey`. -/
def canonicalMIMEHeaderKey (s : String) : String :=
  if s.toList.all validHeaderFieldByte then String.ofList (capitalized true s.toList) else s

example : canonicalMIMEHeaderKey "x-forwarded-HOST" = "X-Forwarded-Host" := by decide

namespace Header

def hopHeaders : List String :=
  ["Connection", "Proxy-Connection", "Keep-Alive", "Proxy-Authenticate", "Proxy-Authorization",
    "Te", "Trailer", "Transfer-Encoding", "Upgrade"]

/-- The headers that the `Connection` lines name. -/
def connectionNamed (h : Header) : List String :=
  (((h.values "Connection").flatMap (elements isASCIISpace)).filter (· ≠ "")).map
    canonicalMIMEHeaderKey

/-- The headers that are for one connection only. -/
def hopByHop (h : Header) : List String := h.connectionNamed ++ hopHeaders

def removeHopByHopHeaders (h : Header) : Header := h.hopByHop.foldl del h

def setIf (h : Header) (p : Prop) [Decidable p] (key v : String) : Header :=
  if p then h.set key v else h

/-- The protocol that a message wants to switch to. -/
def upgradeType (h : Header) : String :=
  if headerValuesContainsToken (h.values "Connection") "Upgrade" then h.get "Upgrade" else ""

end Header

/-- `ascii.IsPrint`. -/
def isPrint (s : String) : Bool := s.toList.all fun c => ' ' ≤ c && c ≤ '~'

/-- The host that `net.SplitHostPort` finds. -/
def splitHost (hostport : String) : Option String :=
  let cs := hostport.toList
  let port := cs.rtakeWhile (· ≠ ':')
  -- the last colon goes as well
  let before := (cs.rdropWhile (· ≠ ':')).dropLast
  if ':' ∉ cs then none
  else
    match before with
    | '[' :: inside =>
      let host := inside.dropLast
      if inside.getLast? = some ']' ∧ (host ++ port).all (fun c => c ≠ '[' && c ≠ ']') then
        some (String.ofList host)
      else none
    | host =>
      if ':' ∉ host ∧ cs.all (fun c => c ≠ '[' && c ≠ ']') then some (String.ofList host) else none

example : splitHost "10.0.0.7:4711" = some "10.0.0.7" ∧ splitHost "[::1]:80" = some "::1" ∧
    splitHost "::1:80" = none := by decide

/-- The request that the director gets: `Body` is nil if there is none. -/
def Request.cloned (req : Request) : Request :=
  if req.contentLength = 0 then { req with body := {}, nilBody := true } else req

/-- The headers with which a request leaves, after the director has made `out` of `req`. -/
def Request.leavingHeader (req out : Request) : Header :=
  let reqUpType := out.header.upgradeType
  let h := out.header.removeHopByHopHeaders
  let h := h.setIf (headerValuesContainsToken (req.header.values "Te") "trailers") "Te" "trailers"
  -- what a switch of protocols needs is added again
  let h := (h.setIf (reqUpType ≠ "") "Connection" "Upgrade").setIf (reqUpType ≠ "") "Upgrade" reqUpType
  let clientIP := splitHost req.remoteAddr
  let h := h.setIf clientIP.isSome "X-Forwarded-For"
    (", ".intercalate (h.values "X-Forwarded-For" ++ clientIP.toList))
  -- an empty one, so that the transport adds none
  h.setIf (h.values "User-Agent" = []) "User-Agent" ""

def Request.leaving (req out : Request) : Request := { out with header := req.leavingHeader out }

/-- The response as the handlers see it. -/
def Response.endToEnd (resp : Response) : Response :=
  { resp with header := resp.header.removeHopByHopHeaders }

/-- The body of a 101 response is the connection itself, until it is dumped for the log: then it is
a copy, unless it is encoded or breaks off. -/
def Response.isConnection (resp : Response) : Bool :=
  resp.header.get "Content-Encoding" ≠ "" || resp.body.err ≠ none

end TrinoGateway
