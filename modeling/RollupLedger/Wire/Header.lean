import RollupLedger.Wire.SignedTransaction

/-!
Block headers and blocks with full transaction bodies as a node reports them.
-/

set_option autoImplicit false
set_option relaxedAutoImplicit false

namespace RollupLedger.Wire

open Json Json.Fields

structure Header where
  hash : Hash
  parentHash : Hash
  number : Word 64
  timestamp : Word 64
  miner : Address
  stateRoot : Hash
  transactionsRoot : Hash
  receiptsRoot : Hash
  difficulty : Word 256
  gasLimit : Word 64
  gasUsed : Word 64
  baseFeePerGas : Option (Word 256)
  uncles : List Hash
deriving DecidableEq

structure NodeBlock where
  header : Header
  transactions : List SignedTransaction
deriving DecidableEq

namespace Header

def members (h : Header) : Members :=
  [("hash", encodeFixed h.hash), ("parentHash", encodeFixed h.parentHash),
    ("number", encodeQuantity h.number), ("timestamp", encodeQuantity h.timestamp),
    ("miner", encodeFixed h.miner), ("stateRoot", encodeFixed h.stateRoot),
    ("transactionsRoot", encodeFixed h.transactionsRoot),
    ("receiptsRoot", encodeFixed h.receiptsRoot), ("difficulty", encodeQuantity h.difficulty),
    ("gasLimit", encodeQuantity h.gasLimit), ("gasUsed", encodeQuantity h.gasUsed)] ++
  Json.optional "baseFeePerGas" encodeQuantity h.baseFeePerGas ++
  [("uncles", encodeList encodeFixed h.uncles)]

def encode (h : Header) : Json := ofMembers h.members

def fields : Fields Header :=
  Header.mk <$> required "hash" decodeHash
    <*> required "parentHash" decodeHash
    <*> required "number" (decodeQuantity 64)
    <*> required "timestamp" (decodeQuantity 64)
    <*> withDefault "miner" (.zero 20) decodeAddress
    <*> withDefault "stateRoot" (.zero 32) decodeHash
    <*> withDefault "transactionsRoot" (.zero 32) decodeHash
    <*> withDefault "receiptsRoot" (.zero 32) decodeHash
    <*> withDefault "difficulty" 0 (decodeQuantity 256)
    <*> withDefault "gasLimit" 0 (decodeQuantity 64)
    <*> withDefault "gasUsed" 0 (decodeQuantity 64)
    <*> optional "baseFeePerGas" (decodeQuantity 256)
    <*> withDefault "uncles" [] (decodeList decodeHash)

def decode : Decoder Header :=
  record ["hash", "parentHash", "number", "timestamp", "miner", "stateRoot", "transactionsRoot",
    "receiptsRoot", "difficulty", "gasLimit", "gasUsed", "baseFeePerGas", "uncles"] fields

/-- An integer brought to the nearer end of the range of 64 bits with sign. -/
def clampInt64 (n : Int) : Int64 :=
  Int64.ofInt (max Int64.minValue.toInt (min n Int64.maxValue.toInt))

/-- The timestamp's 64 bits read with a sign, in milliseconds as far as they fit. -/
def timestampMillis (h : Header) : Int64 :=
  clampInt64 ((h.timestamp.toNat : Int).bmod UInt64.size * 1000)

end Header

namespace NodeBlock

def encode (b : NodeBlock) : Json :=
  ofMembers (b.header.members ++
    [("transactions", encodeList SignedTransaction.encode b.transactions)])

def decode : Decoder NodeBlock :=
  splitRecord (fun transactions header => ⟨header, transactions⟩)
    (withDefault "transactions" [] (decodeList SignedTransaction.decode)) Header.fields

end NodeBlock

end RollupLedger.Wire
