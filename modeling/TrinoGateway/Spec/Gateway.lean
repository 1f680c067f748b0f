import TrinoGateway.Spec.GroupApi
import TrinoGateway.Spec.Router

/-!
# The router on the gateway server

`GatewayServer.serve` answers each RPC of the router by the server's function for it. A
handler that panics closes the connection, which the client sees as an error.
-/

namespace TrinoGateway

open Interact Prog

/-- The gateway server: its configuration, and the order in which it ranges over maps. -/
structure GatewayServer where
  cfg : Config
  ord : PolicyApi.MapOrder

/-- A handler behind HTTP. -/
def rpc {α : Type} (p : Srv (Result α)) : Srv (Result α) := p.recover (.error (.text "EOF"))

namespace GatewayServer

variable (g : GatewayServer)

def serve : (o : RouterOp) → Srv o.Ans
  | .evaluateGroupsForClient req => rpc (PolicyApi.evaluateGroupsForClient g.ord req)
  | .evaluateBackendForGroups ids => rpc (GroupApi.evaluateBackendForGroups g.cfg ids)
  | .findBackendForQuery queryId => rpc (QueryApi.findBackendForQuery queryId)
  | .getBackend id => rpc (BackendApi.getBackend id)
  | .evaluateRequestSourceForClient port => rpc (PolicyApi.evaluateRequestSourceForClient port)
  | .evaluateAuthDelegationForClient port => rpc (PolicyApi.evaluateAuthDelegationForClient port)
  | .createOrUpdateQuery req => rpc (QueryApi.createOrUpdateQuery req)
  | .unixNow => unixNow

/-- A function of the router, down to the statements. -/
def onServer {α : Type} (p : Router α) : Srv α := p.interp g.serve

end GatewayServer

end TrinoGateway
