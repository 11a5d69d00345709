import RollupLedger.Wire.Scalar

/-!
The part of a transaction receipt that flattening needs. Logs and their filter are kept as they are.
-/

set_option autoImplicit false
set_option relaxedAutoImplicit false

namespace RollupLedger.Wire

open Json Json.Fields

structure Receipt where
  transactionHash : Hash
  status : Option (Word 64)
  gasUsed : Word 64
  cumulativeGasUsed : Word 64
  effectiveGasPrice : Option (Word 256)
  contractAddress : Option Address
  logs : Json
  logsBloom : Option Json
  l1GasPrice : Option (Word 256)
  l1GasUsed : Option (Word 256)
  l1Fee : Option (Word 256)
  l1FeeScalar : Option String
  l1BaseFeeScalar : Option (Word 64)
  l1BlobBaseFee : Option (Word 256)
  l1BlobBaseFeeScalar : Option (Word 64)
deriving DecidableEq

/-- The prices of publishing data that receipts report once it may be published in blobs. -/
structure BlobPricing where
  baseFeeScalar : Word 256
  blobBaseFee : Word 256
  blobBaseFeeScalar : Word 256
deriving DecidableEq

namespace Receipt

/-- A receipt without a status is one of a time when every transaction on record succeeded. -/
def succeeded (r : Receipt) : Bool :=
  match r.status with
  | some status => !status.isZero
  | none => true

/-- The blob prices, if all three are reported. -/
def blobPricing? (r : Receipt) : Option BlobPricing :=
  match r.l1BaseFeeScalar, r.l1BlobBaseFee, r.l1BlobBaseFeeScalar with
  | some baseFeeScalar, some blobBaseFee, some blobBaseFeeScalar =>
    some ⟨baseFeeScalar.widen, blobBaseFee, blobBaseFeeScalar.widen⟩
  | _, _, _ => none

def encode (r : Receipt) : Json :=
  ofMembers <|
    [("transactionHash", encodeFixed r.transactionHash)] ++
    Json.optional "status" encodeQuantity r.status ++
    [("gasUsed", encodeQuantity r.gasUsed),
      ("cumulativeGasUsed", encodeQuantity r.cumulativeGasUsed)] ++
    Json.optional "effectiveGasPrice" encodeQuantity r.effectiveGasPrice ++
    Json.optional "contractAddress" encodeFixed r.contractAddress ++
    [("logs", r.logs)] ++
    Json.optional "logsBloom" id r.logsBloom ++
    Json.optional "l1GasPrice" encodeQuantity r.l1GasPrice ++
    Json.optional "l1GasUsed" encodeQuantity r.l1GasUsed ++
    Json.optional "l1Fee" encodeQuantity r.l1Fee ++
    Json.optional "l1FeeScalar" Json.str r.l1FeeScalar ++
    Json.optional "l1BaseFeeScalar" encodeQuantity r.l1BaseFeeScalar ++
    Json.optional "l1BlobBaseFee" encodeQuantity r.l1BlobBaseFee ++
    Json.optional "l1BlobBaseFeeScalar" encodeQuantity r.l1BlobBaseFeeScalar

def fields : Fields Receipt :=
  Receipt.mk <$> required "transactionHash" decodeHash
    <*> optional "status" (decodeQuantity 64)
    <*> required "gasUsed" (decodeQuantity 64)
    <*> withDefault "cumulativeGasUsed" 0 (decodeQuantity 64)
    <*> optional "effectiveGasPrice" (decodeQuantity 256)
    <*> optional "contractAddress" decodeAddress
    <*> withDefault "logs" .null decodeAny
    <*> optional "logsBloom" decodeAny
    <*> optional "l1GasPrice" (decodeQuantity 256)
    <*> optional "l1GasUsed" (decodeQuantity 256)
    <*> optional "l1Fee" (decodeQuantity 256)
    <*> optional "l1FeeScalar" decodeString
    <*> optional "l1BaseFeeScalar" (decodeQuantity 64)
    <*> optional "l1BlobBaseFee" (decodeQuantity 256)
    <*> optional "l1BlobBaseFeeScalar" (decodeQuantity 64)

def decode : Decoder Receipt :=
  record ["transactionHash", "status", "gasUsed", "cumulativeGasUsed", "effectiveGasPrice",
    "contractAddress", "logs", "logsBloom", "l1GasPrice", "l1GasUsed", "l1Fee", "l1FeeScalar",
    "l1BaseFeeScalar", "l1BlobBaseFee", "l1BlobBaseFeeScalar"] fields

end Receipt

end RollupLedger.Wire
