import RollupLedger.Chain
import RollupLedger.Fee.CompressedSize
import RollupLedger.Fee.Scalar
import RollupLedger.Flatten.Error
import RollupLedger.Sum
import RollupLedger.Wire.Receipt

/-!
The fee for publishing a transaction's data on the chain below. Four formulas succeeded one another;
what the receipt and the chain say selects the one that prices a transaction. A fee that the receipt
reports stands, and the computed one is only compared with it.
-/

set_option autoImplicit false
set_option relaxedAutoImplicit false

namespace RollupLedger.DataFee

open Wire

/-- The gas that bytes cost as call data: 4 for a zero byte and 16 for any other. -/
def callDataGas (raw : Bytes) : Nat := sumOf (fun b => if b = 0 then 4 else 16) raw

/-- What the padding of a signature was charged before Regolith. -/
def signaturePadding : Nat := 68 * 16

/-! ### The four formulas -/

def beforeBlobs (gas : Nat) (overhead price scalar : Word 256) : Word 256 :=
  ((((Word.saturate 256 gas).satAdd overhead).satMul price).satMul scalar).divNat 1000000

def bedrock (raw : Bytes) (overhead price scalar : Word 256) : Word 256 :=
  beforeBlobs (callDataGas raw + signaturePadding) overhead price scalar

def regolith (raw : Bytes) (overhead price scalar : Word 256) : Word 256 :=
  beforeBlobs (callDataGas raw) overhead price scalar

/-- The weighted sum of the price of call data and the price of blobs. -/
def weightedPrice (price : Word 256) (blobs : BlobPricing) : Word 256 :=
  ((price.satMul 16).satMul blobs.baseFeeScalar).satAdd
    (blobs.blobBaseFee.satMul blobs.blobBaseFeeScalar)

def ecotone (raw : Bytes) (price : Word 256) (blobs : BlobPricing) : Word 256 :=
  ((weightedPrice price blobs).satMul (Word.saturate 256 (callDataGas raw))).divNat 16000000

/-- The estimated size in millionths of a byte, at least a hundred bytes. -/
def scaledSize (raw : Bytes) : Nat :=
  max 100000000 (CompressedSize.estimate raw * 836500 - 42585600)

def fjord (raw : Bytes) (price : Word 256) (blobs : BlobPricing) : Word 256 :=
  ((Word.saturate 256 (scaledSize raw)).satMul (weightedPrice price blobs)).divNat 1000000000000

/-! ### The fee of a transaction -/

/-- The scalar that a receipt reports, or the chain's if it reports none. -/
def scalarOf (receipt : Receipt) (chain : Chain) : Except FlattenError (Word 256) :=
  match receipt.l1FeeScalar with
  | none => .ok chain.l1FeeScalar.widen
  | some text =>
    match FeeScalar.parse text with
    | some scalar => .ok scalar
    | none => .error (.invalidFeeScalar text)

/-- Prices encoded bytes by the formula in force. -/
def price (raw : Bytes) (price : Word 256) (receipt : Receipt) (block : BlockContext)
    (chain : Chain) : Except FlattenError (Word 256) :=
  match receipt.blobPricing? with
  | some blobs =>
    .ok ((if chain.isFjordActive block.timestamp then fjord else ecotone) raw price blobs)
  | none => do
    let scalar ← scalarOf receipt chain
    return (if chain.regolith then regolith else bedrock) raw chain.l1FeeOverhead.widen price scalar

/-- The bytes that size the fee. -/
def encoded (t : SignedTransaction) : Except FlattenError Bytes :=
  (Envelope.encode t).mapError (.envelope t.hash)

/-- The fee, or none for a transaction that pays none. -/
def assess (t : SignedTransaction) (receipt : Receipt) (block : BlockContext) (chain : Chain) :
    Except FlattenError (Option (Word 256)) :=
  if t.isDeposit then .ok none
  else
    match receipt.l1GasPrice with
    | none => .ok receipt.l1Fee
    | some gasPrice =>
      match encoded t with
      | .ok raw => do
        let computed ← price raw gasPrice receipt block chain
        return some (receipt.l1Fee.getD computed)
      | .error fault =>
        match receipt.l1Fee with
        | some reported => .ok (some reported)
        | none => .error fault

/-- Something worth noting about a fee that a receipt reports. -/
inductive Remark where
  | differs (transaction : Hash) (reported computed : Word 256)
  | notRecomputed (fault : FlattenError)
deriving DecidableEq

def Remark.message : Remark → String
  | differs transaction reported computed =>
    s!"l1 fee for {transaction.hex} reported as {reported.toDecimal}, computed {computed.toDecimal}"
  | notRecomputed fault => "not recomputing l1 fee: " ++ fault.message

/-- What `assess` has to note. -/
def remarks (t : SignedTransaction) (receipt : Receipt) (block : BlockContext) (chain : Chain) :
    List Remark :=
  if t.isDeposit then []
  else
    match receipt.l1GasPrice, receipt.l1Fee with
    | some gasPrice, some reported =>
      match encoded t with
      | .error fault => [.notRecomputed fault]
      | .ok raw =>
        match price raw gasPrice receipt block chain with
        | .error _ => []
        | .ok computed => if reported = computed then [] else [.differs t.hash reported computed]
    | _, _ => []

end RollupLedger.DataFee
