/-!
The node methods that callers may use through the proxy.
-/

set_option autoImplicit false
set_option relaxedAutoImplicit false

namespace RollupLedger.Proxy

inductive Method where
  | blockByNumber
  | transactionReceipt
  | call
  | estimateGas
deriving DecidableEq, Repr

namespace Method

def all : List Method := [blockByNumber, transactionReceipt, call, estimateGas]

def name : Method → String
  | blockByNumber => "eth_getBlockByNumber"
  | transactionReceipt => "eth_getTransactionReceipt"
  | call => "eth_call"
  | estimateGas => "eth_estimateGas"

def ofName? (name : String) : Option Method := all.find? fun method => method.name == name

/-- Whether repeating a call that is pinned to a block gives the same result. An estimate depends on
the pending state, so it never does. -/
def idempotent : Method → Bool
  | estimateGas => false
  | _ => true

end Method

end RollupLedger.Proxy
