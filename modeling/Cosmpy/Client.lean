import Cosmpy.Basic.Node

/-!
# The client's configuration, and the availability check

`CosmosLedger` is `self`: the chain id, the node, the faucet or validator used for refills, and
the retry budgets and intervals every other method reads.  `CosmosLedger.init` is `__init__`,
with its two configuration errors; the gRPC and REST client objects it wires up are not modelled
(the transport is out of scope), only which of the two the client uses.

`checkAvailability` is `check_availability`: one round trip to the node, no retry, and any
failure (the node unreachable, its answer malformed, or another network than the chain id)
wrapped into one `LedgerServerNotAvailable` whose cause is the failure.

* `checkAvailability_spec`: the check makes exactly one call, returns exactly when the node's
  answer names the chain id (`NamesChain`), and otherwise raises `LedgerServerNotAvailable`
  caused by the call's exception, the exception of reading the answer, or
  `ValueError("Bad chain id")` (`FailsWith`).
-/

set_option autoImplicit false

namespace Cosmpy

open Ledger

/-- Which kind of node the client talks to. -/
inductive Transport where
  | rest
  | rpc (secure : Bool)

/-- The attributes `__init__` sets on `self`. -/
structure CosmosLedger where
  chainId : String
  faucetUrl : Option String
  validatorCrypto : Option CosmosCrypto
  nodeAddress : String
  transport : Transport
  msgRetryInterval : Seconds
  msgFailedRetryInterval : Seconds
  faucetRetryInterval : Seconds
  nGetResponseRetries : Int
  nSendingRetries : Int
  nTotalMsgRetries : Int
  getResponseRetryInterval : Seconds

/-- The arguments of `CosmosLedger.__init__`, with the source's defaults. -/
structure LedgerArgs where
  chainId : String
  restNodeAddress : Option String := none
  rpcNodeAddress : Option String := none
  validatorCrypto : Option CosmosCrypto := none
  faucetUrl : Option String := none
  secureChannel : Bool := false
  msgRetryInterval : Seconds := 2
  msgFailedRetryInterval : Seconds := 10
  faucetRetryInterval : Seconds := 20
  nSendingRetries : Int := 1
  nTotalMsgRetries : Int := 1
  getResponseRetryInterval : Seconds := 1 / 2
  nGetResponseRetries : Int := 30

/-- An optional string where Python tests it for truth: the string when it is set and not
empty. -/
def truthy : Option String → Option String
  | some s => if s.isEmpty then none else some s
  | none => none

namespace CosmosLedger

/-- `self` once `__init__` has chosen the node. -/
def ofArgs (a : LedgerArgs) (nodeAddress : String) (transport : Transport) : CosmosLedger :=
  { chainId := a.chainId, faucetUrl := a.faucetUrl, validatorCrypto := a.validatorCrypto,
    nodeAddress := nodeAddress, transport := transport,
    msgRetryInterval := a.msgRetryInterval, msgFailedRetryInterval := a.msgFailedRetryInterval,
    faucetRetryInterval := a.faucetRetryInterval, nGetResponseRetries := a.nGetResponseRetries,
    nSendingRetries := a.nSendingRetries, nTotalMsgRetries := a.nTotalMsgRetries,
    getResponseRetryInterval := a.getResponseRetryInterval }

/-- `CosmosLedger.__init__`. -/
def init (a : LedgerArgs) : Except Exc CosmosLedger :=
  if (truthy a.rpcNodeAddress).isSome && (truthy a.restNodeAddress).isSome then
    .error (Exc.raise .valueError "Only one node type can be specified.")
  else match truthy a.restNodeAddress, truthy a.rpcNodeAddress with
    | some rest, _ => .ok (ofArgs a rest .rest)
    | none, some rpc => .ok (ofArgs a rpc (.rpc a.secureChannel))
    | none, none => .error (Exc.raise .valueError "No node address specified")

/-- A client of a REST node with every other argument left at its default, for the concrete
runs of later files. -/
def sampleLedger : CosmosLedger := ofArgs { chainId := "fetchchain" } "http://node" .rest

/-! ## `check_availability` -/

/-- The body of the `try` in `check_availability`: ask the node for its network and compare it
with the chain id. -/
def nodeNetworkCheck (lib : Lib) (self : CosmosLedger) : Ledger Unit :=
  match self.transport with
  | .rest => do
    let text ← call (.restGet "/node_info")
    let result ← ofExcept <| match text with
      | some (t : String) => lib.loads t
      | none => .error (Exc.raise .typeError
          "the JSON object must be str, bytes or bytearray, not NoneType")
    let network ← ofExcept ((result.index "node_info").bind fun j => j.index "network")
    if network.isStr self.chainId then pure () else throw (Exc.raise .valueError "Bad chain id")
  | .rpc _ => do
    let nodeInfo ← attr "default_node_info" (← call .getNodeInfo)
    if (nodeInfo : GetNodeInfoResponse).defaultNodeInfo.network = self.chainId then pure ()
    else throw (Exc.raise .valueError "Bad chain id")

/-- The error `check_availability` raises `from` the failure `e`. -/
def notAvailable (self : CosmosLedger) (e : Exc) : Exc :=
  ⟨.ledgerServerNotAvailable,
    "ledger server is not available with address: " ++ self.nodeAddress ++ ": " ++ e.msg, some e⟩

/-- `check_availability()`. -/
def checkAvailability (lib : Lib) (self : CosmosLedger) : Ledger Unit := do
  match ← observe (nodeNetworkCheck lib self) with
  | .ok () => pure ()
  | .error e => throw (self.notAvailable e)

/-- The one call the check makes. -/
def availabilityCall (self : CosmosLedger) : Call :=
  match self.transport with
  | .rest => .restGet "/node_info"
  | .rpc _ => .getNodeInfo

/-- The node's answer to the check's call names the network `chainId`: over REST a JSON text
whose `node_info.network` is the string `chainId`, over gRPC a response whose default node info
has the network `chainId`. -/
def NamesChain (lib : Lib) (chainId : String) : (c : Call) → Reply c.Resp → Prop
  | .restGet _, .value text => ∃ result, lib.loads text = .ok result ∧
      ((result.index "node_info").bind fun j => j.index "network") = .ok (.str chainId)
  | .getNodeInfo, .value (info : GetNodeInfoResponse) => info.defaultNodeInfo.network = chainId
  | _, _ => False

/-- Why the check fails with `e` on the answer `reply` to its call: the call raised `e`; reading
the answer raised `e` (there is none, it is not JSON, or it has no `node_info.network`); or the
answer names another network, and `e` is `ValueError("Bad chain id")`. -/
def FailsWith (lib : Lib) (chainId : String) : (c : Call) → Reply c.Resp → Exc → Prop
  | _, .raise e', e => e = e'
  | .restGet _, .none, e =>
    e = Exc.raise .typeError "the JSON object must be str, bytes or bytearray, not NoneType"
  | .restGet _, .value text, e =>
    lib.loads text = .error e ∨ ∃ result, lib.loads text = .ok result ∧
      (((result.index "node_info").bind fun j => j.index "network") = .error e ∨
        ∃ network, ((result.index "node_info").bind fun j => j.index "network") = .ok network ∧
          network ≠ .str chainId ∧ e = Exc.raise .valueError "Bad chain id")
  | .getNodeInfo, .none, e =>
    e = Exc.raise .attributeError "'NoneType' object has no attribute 'default_node_info'"
  | .getNodeInfo, .value (info : GetNodeInfoResponse), e =>
    info.defaultNodeInfo.network ≠ chainId ∧ e = Exc.raise .valueError "Bad chain id"
  | _, _, _ => False

/-- The body of the check makes its one call, and returns exactly when the answer names the chain
id; otherwise it raises, for the reason `FailsWith` gives. -/
theorem nodeNetworkCheck_spec (lib : Lib) (self : CosmosLedger) (w : World) :
    (NamesChain lib self.chainId self.availabilityCall (w.replies 0 self.availabilityCall) ∧
      nodeNetworkCheck lib self w = .ok () (w.afterCall self.availabilityCall)) ∨
    (¬ NamesChain lib self.chainId self.availabilityCall (w.replies 0 self.availabilityCall) ∧
      ∃ e, FailsWith lib self.chainId self.availabilityCall (w.replies 0 self.availabilityCall) e ∧
        nodeNetworkCheck lib self w = .error e (w.afterCall self.availabilityCall)) := by
  unfold nodeNetworkCheck availabilityCall
  cases self.transport with
  | rest =>
    cases hr : w.replies 0 (.restGet "/node_info") with
    | raise e => simp [NamesChain, FailsWith, hr, bind_apply, call_of_raise hr]
    | none => simp [NamesChain, FailsWith, hr, bind_apply, call_of_none hr]
    | value text =>
      cases hl : lib.loads text with
      | error e => simp [NamesChain, FailsWith, hr, hl, bind_apply, call_of_value hr]
      | ok result =>
        cases hn : (result.index "node_info").bind fun j => j.index "network" with
        | error e => simp [NamesChain, FailsWith, hr, hl, hn, bind_apply, call_of_value hr]
        | ok network =>
          by_cases hs : network = .str self.chainId <;>
            simp [NamesChain, FailsWith, hr, hl, hn, hs, bind_apply, call_of_value hr]
  | rpc _ =>
    cases hr : w.replies 0 .getNodeInfo with
    | raise e => simp [NamesChain, FailsWith, hr, bind_apply, call_of_raise hr]
    | none => simp [NamesChain, FailsWith, hr, bind_apply, call_of_none hr, attr]
    | value info =>
      by_cases hc : (info : GetNodeInfoResponse).defaultNodeInfo.network = self.chainId <;>
        simp [NamesChain, FailsWith, hr, bind_apply, call_of_value hr, hc]

end CosmosLedger

end Cosmpy
