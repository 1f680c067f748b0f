import TrinoGateway.Lib.Json
import TrinoGateway.Spec.Http
import TrinoGateway.Spec.Monitor

/-!
# The info of a cluster

`TrinoClient.IsClusterUp` asks a cluster for `/v1/info` and reads the answer into a struct through a
pointer to a pointer. The struct's other fields, which nothing reads, are left out.
-/

namespace TrinoGateway

open Interact Prog

/-- A request to a cluster, answered as `client.Do` returns: by an error, of making the request or of
sending it, or by the response that is there once redirects have been followed. -/
inductive ClusterOp
  | send (req : Request)
deriving DecidableEq

abbrev ClusterOp.Ans : ClusterOp → Type
  | send _ => Result Response

/-- `Info`, with what it holds before decoding. -/
structure Info where
  starting : Bool := true
  coordinator : Bool := false
  nodeVersion : String := ""
deriving DecidableEq, Repr

/-- What decoding a value makes of an `Info`: members of other types leave their fields as they are,
and so does a value that is no object. -/
def Info.ofJson (j : Json) : Info :=
  let bool (dflt : Bool) (vs : List Json) : Bool :=
    vs.foldl (fun acc v => match v with | .bool b => b | _ => acc) dflt
  let string (vs : List Json) : String :=
    vs.foldl (fun acc v => match v with | .str s => s | _ => acc) ""
  { starting := bool true (j.fieldsNamed "starting")
    coordinator := bool false (j.fieldsNamed "coordinator")
    -- a repeated object is decoded into the same struct
    nodeVersion := string ((j.fieldsNamed "nodeVersion").flatMap (Json.fieldsNamed "version")) }

/-- The pointer after `json.Unmarshal(body, &info)`, whose error is ignored: nil after `null`. -/
def unmarshalInfo (body : String) : Option Info :=
  match Json.parse body with
  | none => some {}
  | some .null => none
  | some j => some (Info.ofJson j)

namespace TrinoClient

def infoRequest (t : TrinoClient) : Request :=
  { method := "GET"
    url := { scheme := t.scheme, host := t.host, path := "/v1/info" }
    host := t.host
    header := [("X-Trino-User", t.user)] }

def isClusterUp (t : TrinoClient) : Prog ClusterOp ClusterOp.Ans (Result Bool) := do
  match ← perform (ClusterOp.send t.infoRequest) with
  | .error err => return .error err
  | .ok resp =>
    if ¬ (200 ≤ resp.statusCode ∨ resp.statusCode ≤ 300) then
      return .error (.text "trino api returned non HTTP2xx status")
    else
      match resp.body.err with
      | some err => return .error (.text err)
      | none =>
        let info ← deref (unmarshalInfo (Bytes.text resp.body.bytes))
        if info.nodeVersion = "" then return .error (.text "trino api returned invalid response")
        else if ¬ info.coordinator ∨ info.starting then return .ok false
        else return .ok true

end TrinoClient

end TrinoGateway
