import RollupLedger.Wire.Scalar

/-!
Transaction bodies as a node reports them. A deposit additionally says what it mints and what it
comes from. A signature that lacks a part, or has a malformed one, is no signature.
-/

set_option autoImplicit false
set_option relaxedAutoImplicit false

namespace RollupLedger.Wire

open Json Json.Fields

/-- The signature of a transaction. The parity bit may be given beside `v`. -/
structure Signature where
  r : Word 256
  s : Word 256
  v : Word 256
  parity : Option Bool
deriving DecidableEq

structure AccessEntry where
  address : Address
  storageKeys : List Hash
deriving DecidableEq

/-- A signed permission for an account to run the code at an address. -/
structure Authorization where
  chainId : Word 256
  address : Address
  nonce : Word 64
  r : Word 256
  s : Word 256
  v : Word 64
deriving DecidableEq

/-- The part of a transaction that every chain knows. -/
structure TransactionBody where
  hash : Hash
  nonce : Word 64
  blockHash : Option Hash
  blockNumber : Option (Word 64)
  transactionIndex : Option (Word 64)
  sender : Address
  recipient : Option Address
  value : Word 256
  gasPrice : Option (Word 128)
  gas : Word 128
  maxFeePerGas : Option (Word 128)
  maxPriorityFeePerGas : Option (Word 128)
  maxFeePerBlobGas : Option (Word 128)
  input : Bytes
  signature : Option Signature
  chainId : Option (Word 64)
  blobVersionedHashes : Option (List Hash)
  accessList : Option (List AccessEntry)
  type : Option (Word 8)
  authorizationList : Option (List Authorization)
deriving DecidableEq

structure SignedTransaction extends TransactionBody where
  mint : Option (Word 256)
  sourceHash : Option Hash
deriving DecidableEq

namespace Signature

def encodeParity : Bool → Json
  | true => .str "0x1"
  | false => .str "0x0"

def decodeParity : Decoder Bool
  | .str "0x1" => pure true
  | .str "0x0" => pure false
  | got => mismatch (.wrongType got "a parity")

def members (s : Signature) : Members :=
  [("r", encodeQuantity s.r), ("s", encodeQuantity s.s), ("v", encodeQuantity s.v)] ++
    Json.optional "yParity" encodeParity s.parity

def fields : Fields Signature :=
  Signature.mk <$> required "r" (decodeQuantity 256) <*> required "s" (decodeQuantity 256)
    <*> required "v" (decodeQuantity 256) <*> optional "yParity" decodeParity

/-- A signature among the members, if all its parts are there and well formed. -/
def among : Fields (Option Signature) := fun source =>
  ⟨.ok (fields source).outcome.toOption, none⟩

end Signature

namespace AccessEntry

def encode (e : AccessEntry) : Json :=
  ofMembers [("address", encodeFixed e.address),
    ("storageKeys", encodeList encodeFixed e.storageKeys)]

def decode : Decoder AccessEntry :=
  record ["address", "storageKeys"] <|
    AccessEntry.mk <$> required "address" decodeAddress
      <*> required "storageKeys" (decodeList decodeHash)

end AccessEntry

namespace Authorization

def encode (a : Authorization) : Json :=
  ofMembers
    [("chainId", encodeQuantity a.chainId), ("address", encodeFixed a.address),
      ("nonce", encodeQuantity a.nonce), ("r", encodeQuantity a.r), ("s", encodeQuantity a.s),
      ("v", encodeQuantity a.v)]

def fields : Fields Authorization :=
  Authorization.mk <$> required "chainId" (decodeQuantity 256) <*> required "address" decodeAddress
    <*> required "nonce" (decodeQuantity 64) <*> required "r" (decodeQuantity 256)
    <*> required "s" (decodeQuantity 256) <*> required "v" (decodeQuantity 64)

def decode : Decoder Authorization
  | .obj members => readObject [] false fields members
  | got => mismatch (.wrongType got "an authorization")

end Authorization

namespace TransactionBody

def members (t : TransactionBody) : Members :=
  [("hash", encodeFixed t.hash), ("nonce", encodeQuantity t.nonce),
    ("blockHash", orNull encodeFixed t.blockHash),
    ("blockNumber", orNull encodeQuantity t.blockNumber),
    ("transactionIndex", orNull encodeQuantity t.transactionIndex), ("from", encodeFixed t.sender),
    ("to", orNull encodeFixed t.recipient), ("value", encodeQuantity t.value)] ++
  Json.optional "gasPrice" encodeQuantity t.gasPrice ++
  [("gas", encodeQuantity t.gas)] ++
  Json.optional "maxFeePerGas" encodeQuantity t.maxFeePerGas ++
  Json.optional "maxPriorityFeePerGas" encodeQuantity t.maxPriorityFeePerGas ++
  Json.optional "maxFeePerBlobGas" encodeQuantity t.maxFeePerBlobGas ++
  [("input", encodeBytes t.input)] ++
  (t.signature.map Signature.members).getD [] ++
  Json.optional "chainId" encodeQuantity t.chainId ++
  Json.optional "blobVersionedHashes" (encodeList encodeFixed) t.blobVersionedHashes ++
  Json.optional "accessList" (encodeList AccessEntry.encode) t.accessList ++
  Json.optional "type" encodeQuantity t.type ++
  Json.optional "authorizationList" (encodeList Authorization.encode) t.authorizationList

def fields : Fields TransactionBody :=
  TransactionBody.mk <$> required "hash" decodeHash
    <*> required "nonce" (decodeQuantity 64)
    <*> optional "blockHash" decodeHash
    <*> optional "blockNumber" (decodeQuantity 64)
    <*> optional "transactionIndex" (decodeQuantity 64)
    <*> required "from" decodeAddress
    <*> optional "to" decodeAddress
    <*> required "value" (decodeQuantity 256)
    <*> optional "gasPrice" (decodeQuantity 128)
    <*> required "gas" (decodeQuantity 128)
    <*> optional "maxFeePerGas" (decodeQuantity 128)
    <*> optional "maxPriorityFeePerGas" (decodeQuantity 128)
    <*> optional "maxFeePerBlobGas" (decodeQuantity 128)
    <*> required "input" decodeBytes
    <*> Signature.among
    <*> optional "chainId" (decodeQuantity 64)
    <*> optional "blobVersionedHashes" (decodeList decodeHash)
    <*> optional "accessList" (decodeList AccessEntry.decode)
    <*> optional "type" (decodeQuantity 8)
    <*> optional "authorizationList" (decodeList Authorization.decode)

end TransactionBody

namespace SignedTransaction

def encode (t : SignedTransaction) : Json :=
  ofMembers (t.members ++ Json.optional "mint" encodeQuantity t.mint ++
    Json.optional "sourceHash" encodeFixed t.sourceHash)

def decode : Decoder SignedTransaction :=
  splitRecord (fun own body => ⟨body, own.1, own.2⟩)
    (Prod.mk <$> optional "mint" (decodeQuantity 256) <*> optional "sourceHash" decodeHash)
    TransactionBody.fields

/-- The type of a deposit, which a rollup makes of a call on the chain below and which pays no
fees. -/
def depositType : Word 8 := 0x7e

/-- A transaction without a type is of type zero. -/
def kind (t : SignedTransaction) : Word 8 := t.type.getD 0

def isDeposit (t : SignedTransaction) : Bool := t.kind == depositType

end SignedTransaction

end RollupLedger.Wire
