import RollupLedger.Client.Balance
import RollupLedger.Client.Block
import RollupLedger.Client.Status
import RollupLedger.Client.Wallet
import RollupLedger.Proxy.Basic
import RollupLedger.Request.System

/-!
Everything that a client can be asked, and what it answers. An inquiry that is malformed has its
result before its context is looked at.
-/

set_option autoImplicit false
set_option relaxedAutoImplicit false

namespace RollupLedger

open Ledger

inductive Inquiry where
  | block (requested : Option PartialBlockIdentifier)
  | status
  | balance (account : AccountIdentifier) (requested : Option PartialBlockIdentifier)
  | call (request : CallRequest)
  | pendingNonce (account : Address)
  | nonceAt (account : Address) (block : Word 64)
  | gasPrice
  | send (raw : Bytes)

inductive Response where
  | block (block : Block)
  | status (status : NodeStatus)
  | balance (balance : AccountBalance)
  | call (response : CallResponse)
  | nonce (nonce : Word 64)
  | gasPrice (price : Word 256)
  | sent (hash : Hash)

namespace Response

def encode : Response → Json
  | block b => b.encode
  | status s => s.encode
  | balance b => b.encode
  | call r => r.encode
  | nonce n => Wire.encodeWord n
  | gasPrice p => Wire.encodeQuantity p
  | sent hash => Wire.encodeFixed hash

end Response

namespace Client

/-- A gate of the client's capacity. -/
def gate (client : Client) : Gate := .new client.capacity

/-- An inquiry before anything has been done about it. -/
def begin (client : Client) : Inquiry → Progress Response
  | .block requested => .planned ((BlockAssembly.plan client requested).map .block)
  | .status => .planned ((Status.plan client).map .status)
  | .balance account requested =>
    match Balance.plan client account requested with
    | .ok plan => .planned (plan.map .balance)
    | .error e => .finished (.error e)
  | .call request =>
    match Proxy.plan request with
    | .ok plan => .planned (plan.map .call)
    | .error e => .finished (.error e)
  | .pendingNonce account => .planned ((Wallet.pendingNonce account).map .nonce)
  | .nonceAt account block => .planned ((Wallet.nonceAt account block).map .nonce)
  | .gasPrice => .planned (Wallet.gasPrice.map .gasPrice)
  | .send raw => .planned ((Wallet.send raw).map .sent)

/-- The block that an inquiry's log entries name. -/
def span : Inquiry → Option String
  | .block requested => some (BlockReference.describe requested)
  | _ => none

/-- An inquiry as a task under a context. -/
def task (client : Client) (context : Context) (inquiry : Inquiry) : Task Response :=
  .request context (span inquiry) (client.begin inquiry)

end Client

end RollupLedger
