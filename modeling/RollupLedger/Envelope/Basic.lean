import RollupLedger.Envelope.Rlp
import RollupLedger.Wire.SignedTransaction

/-!
The network form of a signed transaction: a bare list of fields for the oldest kind, and for every
later kind a byte that names it before the list. The fields and their order depend on the kind; a
transaction without a field that its kind needs, without a signature, or of a kind that has no
network form is refused with the first reason met.
-/

set_option autoImplicit false
set_option relaxedAutoImplicit false

namespace RollupLedger.Envelope

open Wire

/-- The kinds of transaction that have a network form. -/
inductive Kind where
  | legacy
  | accessList
  | dynamicFee
  | blob
  | delegation
deriving DecidableEq, Repr

def Kind.ofType? (type : Word 8) : Option Kind :=
  match type.toNat with
  | 0 => some .legacy
  | 1 => some .accessList
  | 2 => some .dynamicFee
  | 3 => some .blob
  | 4 => some .delegation
  | _ => none

/-- A field that some kind of transaction needs. -/
inductive Field where
  | chainId
  | gasPrice
  | accessList
  | maxFeePerGas
  | maxPriorityFeePerGas
  | maxFeePerBlobGas
  | recipient
  | blobVersionedHashes
  | authorizationList
deriving DecidableEq, Repr

/-- Why a transaction has no network form. -/
inductive Fault where
  | unexpectedType (type : Word 8)
  | missingSignature
  | invalidParity (v : Word 256)
  | missing (field : Field)
deriving DecidableEq

/-- A field as messages name it, with the kind of transaction that brought it in. -/
def Field.description : Field → String
  | chainId => "`chainId` field for EIP-155 transaction"
  | gasPrice => "`gasPrice` field for Legacy transaction"
  | accessList => "`accessList` field for EIP-2930 transaction"
  | maxFeePerGas => "`maxFeePerGas` field for EIP-1559 transaction"
  | maxPriorityFeePerGas => "`maxPriorityFeePerGas` field for EIP-1559 transaction"
  | maxFeePerBlobGas => "`maxFeePerBlobGas` field for EIP-1559 transaction"
  | recipient => "`to` field for EIP-4844 transaction"
  | blobVersionedHashes => "`blobVersionedHashes` field for EIP-4844 transaction"
  | authorizationList => "`authorizationList` field for EIP-7702 transaction"

def Fault.message : Fault → String
  | unexpectedType type => s!"Unexpected type flag. Got {type.toDecimal}."
  | missingSignature => "missing signature for transaction"
  | invalidParity v => s!"invalid parity: {v.toDecimal}"
  | missing field => "missing " ++ field.description

/-- How a signature says which of two keys made it: by a bit alone, by 27 or 28, or by a number that
also holds the chain. -/
inductive Parity where
  | bare (bit : Bool)
  | offset (bit : Bool)
  | replayProtected (v : Word 256)
deriving DecidableEq

namespace Parity

def ofV? (v : Word 256) : Option Parity :=
  if v.toNat = 0 then some (bare false)
  else if v.toNat = 1 then some (bare true)
  else if v.toNat = 27 then some (offset false)
  else if v.toNat = 28 then some (offset true)
  else if 35 ≤ v.toNat then some (replayProtected v)
  else none

def bit : Parity → Bool
  | bare b => b
  | offset b => b
  | replayProtected v => v.toNat % 2 == 0

/-- The number that stands for the parity in the oldest kind of transaction. -/
def legacyV : Parity → Nat
  | bare b => b.toNat
  | offset b => 27 + b.toNat
  | replayProtected v => v.toNat

end Parity

/-- The parity that a signature gives, its own bit before `v`. -/
def parityOf (signature : Signature) : Except Fault Parity :=
  match signature.parity with
  | some bit => .ok (.bare bit)
  | none =>
    match Parity.ofV? signature.v with
    | some parity => .ok parity
    | none => .error (.invalidParity signature.v)

/-- The content of a field that must be there. -/
def need {α : Type} (field : Field) : Option α → Except Fault α
  | some a => .ok a
  | none => .error (.missing field)

def recipientItem : Option Address → Rlp
  | some address => .fixed address
  | none => .bytes []

def accessItem (entry : AccessEntry) : Rlp :=
  .list [.fixed entry.address, .list (entry.storageKeys.map .fixed)]

def accessItems (entries : List AccessEntry) : Rlp := .list (entries.map accessItem)

def authorizationItem (a : Authorization) : Rlp :=
  .list [.word a.chainId, .fixed a.address, .word a.nonce, .word a.v, .word a.r, .word a.s]

/-- The parity bit and the two numbers of the signature, last in every later kind. -/
def signatureItems (parity : Parity) (signature : Signature) : List Rlp :=
  [.nat parity.bit.toNat, .word signature.r, .word signature.s]

/-- The fields that the later kinds with a fee cap begin with. -/
def cappedItems (t : TransactionBody) (chainId : Word 64) (tip cap : Word 128)
    (access : List AccessEntry) : List Rlp :=
  [.word chainId, .word t.nonce, .word tip, .word cap, .word t.gas, recipientItem t.recipient,
    .word t.value, .bytes t.input, accessItems access]

/-- The fields of a transaction of the given kind in their order. -/
def items (kind : Kind) (t : TransactionBody) (parity : Parity) (signature : Signature) :
    Except Fault (List Rlp) :=
  match kind with
  | .legacy => do
    let gasPrice ← need .gasPrice t.gasPrice
    return [.word t.nonce, .word gasPrice, .word t.gas, recipientItem t.recipient, .word t.value,
      .bytes t.input, .nat parity.legacyV, .word signature.r, .word signature.s]
  | .accessList => do
    let chainId ← need .chainId t.chainId
    let gasPrice ← need .gasPrice t.gasPrice
    let access ← need .accessList t.accessList
    return [.word chainId, .word t.nonce, .word gasPrice, .word t.gas, recipientItem t.recipient,
      .word t.value, .bytes t.input, accessItems access] ++ signatureItems parity signature
  | .dynamicFee => do
    let chainId ← need .chainId t.chainId
    let cap ← need .maxFeePerGas t.maxFeePerGas
    let tip ← need .maxPriorityFeePerGas t.maxPriorityFeePerGas
    return cappedItems t chainId tip cap (t.accessList.getD []) ++ signatureItems parity signature
  | .blob => do
    let chainId ← need .chainId t.chainId
    let cap ← need .maxFeePerGas t.maxFeePerGas
    let tip ← need .maxPriorityFeePerGas t.maxPriorityFeePerGas
    let _ ← need .recipient t.recipient
    let hashes ← need .blobVersionedHashes t.blobVersionedHashes
    let blobCap ← need .maxFeePerBlobGas t.maxFeePerBlobGas
    return cappedItems t chainId tip cap (t.accessList.getD []) ++
      [.word blobCap, .list (hashes.map .fixed)] ++ signatureItems parity signature
  | .delegation => do
    let chainId ← need .chainId t.chainId
    let cap ← need .maxFeePerGas t.maxFeePerGas
    let tip ← need .maxPriorityFeePerGas t.maxPriorityFeePerGas
    let _ ← need .recipient t.recipient
    let access ← need .accessList t.accessList
    let authorizations ← need .authorizationList t.authorizationList
    return cappedItems t chainId tip cap access ++
      [.list (authorizations.map authorizationItem)] ++ signatureItems parity signature

/-- The byte before the list of fields, which the oldest kind does without. -/
def Kind.mark : Kind → Bytes
  | legacy => []
  | accessList => [1]
  | dynamicFee => [2]
  | blob => [3]
  | delegation => [4]

def encode (t : SignedTransaction) : Except Fault Bytes :=
  match Kind.ofType? t.kind with
  | none => .error (.unexpectedType t.kind)
  | some kind =>
    match t.signature with
    | none => .error .missingSignature
    | some signature => do
      let parity ← parityOf signature
      let fields ← items kind t.toTransactionBody parity signature
      return kind.mark ++ (Rlp.list fields).encode

end RollupLedger.Envelope
