import RollupLedger.Proxy.Method
import RollupLedger.Wire.Quantity

/-!
The parameters of the proxied methods: what callers may give, by name, and what is sent to the node
for it, by position. What is sent depends only on the values that were read.
-/

set_option autoImplicit false
set_option relaxedAutoImplicit false

namespace RollupLedger.Proxy

open Json Json.Fields Wire

structure BlockByNumber where
  index : Word 64
  showTransactionDetails : Bool
deriving DecidableEq

structure TransactionReceipt where
  txHash : Hash
deriving DecidableEq

structure CallParameters where
  index : Option (Word 64)
  hash : Option Hash
  caller : Option Address
  callee : Address
  gas : Option Quantity
  gasPrice : Option Quantity
  value : Option Quantity
  data : Option Bytes
deriving DecidableEq

structure EstimateGas where
  caller : Address
  callee : Address
  data : Option Bytes
deriving DecidableEq

def blockNumberText (index : Word 64) : Json := .str (Numeral.hex index.toNat)

namespace BlockByNumber

def decode : Decoder BlockByNumber :=
  record ["index", "show_transaction_details"]
    (BlockByNumber.mk <$> required "index" (decodeWord 64)
      <*> withDefault "show_transaction_details" false decodeBool) true

def params (p : BlockByNumber) : Json :=
  .arr [blockNumberText p.index, .bool p.showTransactionDetails]

end BlockByNumber

namespace TransactionReceipt

def decode : Decoder TransactionReceipt :=
  record ["tx_hash"] (TransactionReceipt.mk <$> required "tx_hash" decodeHash) true

def params (p : TransactionReceipt) : Json := .arr [encodeFixed p.txHash]

end TransactionReceipt

namespace CallParameters

def decode : Decoder CallParameters :=
  record ["index", "hash", "from", "to", "gas", "gas_price", "value", "data"]
    (CallParameters.mk <$> optional "index" (decodeWord 64)
      <*> optional "hash" decodeHash
      <*> optional "from" decodeAddress
      <*> required "to" decodeAddress
      <*> optional "gas" Quantity.decode
      <*> optional "gas_price" Quantity.decode
      <*> optional "value" Quantity.decode
      <*> optional "data" decodeBytes) true

/-- The block at which to call, unless both an index and a hash are given. -/
def block? (p : CallParameters) : Option Json :=
  match p.index, p.hash with
  | some _, some _ => none
  | some index, none => some (blockNumberText index)
  | none, some hash => some (.ofMembers [("blockHash", encodeFixed hash)])
  | none, none => some (.str "latest")

/-- Whether the call is made at a block that stays the same. -/
def isPinned (p : CallParameters) : Bool := p.index.isSome || p.hash.isSome

def transaction (p : CallParameters) : Json :=
  let encode (q : Quantity) : Json := encodeQuantity q.value
  .ofMembers <|
    Json.optional "from" encodeFixed p.caller ++ [("to", encodeFixed p.callee)] ++
    Json.optional "gas" encode p.gas ++ Json.optional "gasPrice" encode p.gasPrice ++
    Json.optional "value" encode p.value ++ Json.optional "data" encodeBytes p.data

end CallParameters

namespace EstimateGas

def decode : Decoder EstimateGas :=
  record ["from", "to", "data"]
    (EstimateGas.mk <$> required "from" decodeAddress
      <*> required "to" decodeAddress
      <*> optional "data" decodeBytes) true

def params (p : EstimateGas) : Json :=
  .arr [.ofMembers <|
    [("from", encodeFixed p.caller), ("to", encodeFixed p.callee)] ++
    Json.optional "data" encodeBytes p.data]

end EstimateGas

end RollupLedger.Proxy
