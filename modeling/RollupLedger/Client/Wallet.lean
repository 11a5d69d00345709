import RollupLedger.Client.Basic
import RollupLedger.Wire.Scalar

/-!
What a wallet asks when it makes a transaction and sends it off.
-/

set_option autoImplicit false
set_option relaxedAutoImplicit false

namespace RollupLedger.Wallet

open Wire

def nonceMethod : String := "eth_getTransactionCount"

/-- The nonce of an account's next transaction, counting those that wait in the node's pool. -/
def pendingNonce (account : Address) : Plan (Word 64) 1 :=
  .fetch ⟨nonceMethod, .arr [encodeFixed account, .str "pending"]⟩ (decodeQuantity 64) fun nonce =>
    .done (.ok nonce)

/-- The nonce of an account at a block. -/
def nonceAt (account : Address) (block : Word 64) : Plan (Word 64) 1 :=
  .fetch ⟨nonceMethod, .arr [encodeFixed account, .str (Numeral.hex block.toNat)]⟩
    (decodeQuantity 64) fun nonce => .done (.ok nonce)

def gasPrice : Plan (Word 256) 1 :=
  .fetch ⟨"eth_gasPrice", .arr []⟩ (decodeQuantity 256) fun price => .done (.ok price)

/-- Sends a signed and encoded transaction, and brings its hash. -/
def send (raw : Bytes) : Plan Hash 1 :=
  .fetch ⟨"eth_sendRawTransaction", .arr [encodeBytes raw]⟩ decodeHash fun hash => .done (.ok hash)

end RollupLedger.Wallet
