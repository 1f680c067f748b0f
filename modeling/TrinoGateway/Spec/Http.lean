import TrinoGateway.Lib.Bytes
import TrinoGateway.Lib.Text
import TrinoGateway.Spec.Spine

/-!
# HTTP messages

The parts of `net/http` messages that the router reads and writes, and the helpers on them
from `internal/utils` and `internal/router/trinoheaders`. Texts are texts: bytes that spell no
UTF-8 read as U+FFFD.
-/

namespace TrinoGateway

open Interact

/-- Header lines in order, under their canonical keys. -/
abbrev Header := List (String × String)

namespace Header

/-- All values of a key. -/
def values (h : Header) (key : String) : List String :=
  (h.filter fun line => line.1 = key).map Prod.snd

/-- `Header.Get`: the first value, or empty. -/
def get (h : Header) (key : String) : String := (h.values key).headD ""

def del (h : Header) (key : String) : Header := h.filter fun line => line.1 ≠ key

def set (h : Header) (key value : String) : Header := h.del key ++ [(key, value)]

theorem values_del_of_ne {h : Header} {key key' : String} (hk : key' ≠ key) :
    (h.del key).values key' = h.values key' := by
  unfold values del
  rw [List.filter_filter]
  congr 1
  refine List.filter_congr fun line _ => ?_
  by_cases hl : line.1 = key'
  · simp [hl, hk]
  · simp [hl]

theorem values_del (h : Header) (key : String) : (h.del key).values key = [] := by
  simp [values, del, List.filter_filter]

theorem values_set {h : Header} {key v : String} : (h.set key v).values key = [v] := by
  have hd := values_del h key
  unfold values at hd
  simp [values, set, List.filter_append, hd]

theorem values_set_of_ne {h : Header} {key key' v : String} (hk : key' ≠ key) :
    (h.set key v).values key' = h.values key' := by
  have hd := values_del_of_ne (h := h) hk
  unfold values at hd
  simp [values, set, List.filter_append, hd, Ne.symm hk]

end Header

/-- `url.URL`, the path decoded. -/
structure Url where
  scheme : String := ""
  host : String := ""
  path : String := ""
  rawQuery : String := ""
deriving DecidableEq, Repr

/-- A body: the bytes that can be read, and the error that ends them, if any. -/
structure Body where
  bytes : List UInt8 := []
  err : Option String := none
deriving DecidableEq, Repr

structure Request where
  method : String
  url : Url := {}
  host : String := ""
  header : Header := []
  body : Body := {}
  remoteAddr : String := ""
  /-- `-1` if the length of the body is not known. -/
  contentLength : ℤ := -1
  /-- The body is a nil reader. -/
  nilBody : Bool := false
deriving DecidableEq, Repr

structure Response where
  statusCode : ℕ
  header : Header := []
  body : Body := {}
deriving DecidableEq, Repr

/-- What `gzip.NewReader` and a full read make of some bytes. -/
inductive Unzipped
  | badHeader (err : String)
  | corrupt (err : String)
  | ok (bytes : List UInt8)
deriving DecidableEq, Repr

/-- The decompressor. -/
abbrev Gunzip := List UInt8 → Unzipped

/-- `utils.ParseHttpPayloadBody`: the text, and the body restored for the next reader. A bad
gzip header leaves a nil reader behind, and reading from it panics. -/
def parseHttpPayloadBody (gunzip : Gunzip) (body : Body) (encoding : String) :
    Option (Result String × Body) :=
  match body.err with
  | some e => some (.error (.text e), { bytes := [], err := some e })
  | none =>
    if encoding = "gzip" then
      match gunzip body.bytes with
      | .badHeader _ => none
      | .corrupt e => some (.error (.text e), body)
      | .ok bytes => some (.ok (Bytes.text bytes), body)
    else some (.ok (Bytes.text body.bytes), body)

/-- Whether the bytes of the text are UTF-8. A body that cannot be read has an empty one. -/
def isUtf8Payload (gunzip : Gunzip) (body : Body) (encoding : String) : Bool :=
  match body.err with
  | some _ => true
  | none =>
    if encoding = "gzip" then
      match gunzip body.bytes with
      | .badHeader _ | .corrupt _ => true
      | .ok bytes => Bytes.isUtf8 bytes
    else Bytes.isUtf8 body.bytes

/-- `Request.BasicAuth`: the user name and the password. -/
def Request.basicAuth (req : Request) : Option (String × String) :=
  let auth := req.header.get "Authorization"
  if Text.eqFold (String.ofList (auth.toList.take 6)) "Basic " then
    match Bytes.decodeBase64 (String.ofList (auth.toList.drop 6)) with
    | none => none
    | some c =>
      -- the name ends at the first colon, and the password may hold others
      let cs := (Bytes.text c).toList
      if ':' ∈ cs then
        some (String.ofList (cs.takeWhile (· ≠ ':')), String.ofList (cs.dropWhile (· ≠ ':')).tail)
      else none
  else none

namespace TrinoHeaders

def user : String := "User"

def clientTags : String := "Client-Tags"

def connectionProperties : String := "Connection-Properties"

def transactionId : String := "Transaction-Id"

def password : String := "Password"

def allowedPrefixes : List String := ["Presto", "Trino"]

/-- The key of a header under one of the allowed words. -/
def headerKey (h key : String) : String := "X-" ++ h ++ "-" ++ key

/-- The first non-empty value under the allowed words, in their order. -/
def get (key : String) (req : Request) : String :=
  (((allowedPrefixes.map fun h => req.header.get (headerKey h key))).find? (· ≠ "")).getD ""

/-- The lookup, case by case. -/
theorem get_eq (key : String) (req : Request) :
    get key req =
      if req.header.get (headerKey "Presto" key) ≠ "" then
        req.header.get (headerKey "Presto" key)
      else req.header.get (headerKey "Trino" key) := by
  simp only [get, allowedPrefixes, List.map_cons, List.map_nil, List.find?_cons, List.find?_nil]
  by_cases hp : req.header.get (headerKey "Presto" key) = ""
  · by_cases ht : req.header.get (headerKey "Trino" key) = ""
    · simp [hp, ht]
    · simp [hp, ht]
  · simp [hp]

end TrinoHeaders

end TrinoGateway
