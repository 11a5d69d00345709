import RollupLedger.Ledger.Basic
import RollupLedger.Wire.Scalar

/-!
The JSON form of the ledger. Encoder and decoder of a type stand side by side; members that are
absent are left out when writing, and may be absent or null when reading.
-/

set_option autoImplicit false
set_option relaxedAutoImplicit false

namespace RollupLedger.Ledger

open Json Json.Fields Wire

/-- One of a fixed set of names: a text, or an object of one member whose key is the name and whose
value is null. -/
def decodeName {α : Type} (type : String) (ofName? : String → Option α) : Decoder α
  | .str name =>
    match ofName? name with
    | some a => pure a
    | none => mismatch (.wrongValue (.str name) s!"a name of {type}")
  | .obj [(name, value)] =>
    match ofName? name with
    | none => mismatch (.wrongValue (.str name) s!"a name of {type}")
    | some a =>
      match value with
      | .null => pure a
      | got => .failed ⟨[.key name], .wrongType got "unit"⟩
  | got => mismatch (.wrongType got s!"a name of {type}")

/-- A whole number of 64 bits. -/
def decodeIndex : Decoder (Word 64) := decodeWord 64

namespace Currency

def encode (c : Currency) : Json :=
  ofMembers [("symbol", .str c.symbol), ("decimals", encodeWord c.decimals)]

def decode : Decoder Currency :=
  record ["symbol", "decimals"] <|
    Currency.mk <$> required "symbol" decodeString <*> required "decimals" (decodeWord 32)

end Currency

namespace BlockIdentifier

def encode (b : BlockIdentifier) : Json :=
  ofMembers [("index", encodeWord b.index), ("hash", .str b.hash)]

def decode : Decoder BlockIdentifier :=
  record ["index", "hash"] <|
    BlockIdentifier.mk <$> required "index" decodeIndex <*> required "hash" decodeString

end BlockIdentifier

namespace PartialBlockIdentifier

def encode (b : PartialBlockIdentifier) : Json :=
  ofMembers (Json.optional "index" encodeWord b.index ++ Json.optional "hash" Json.str b.hash)

def decode : Decoder PartialBlockIdentifier :=
  record ["index", "hash"] <|
    PartialBlockIdentifier.mk <$> optional "index" decodeIndex <*> optional "hash" decodeString

end PartialBlockIdentifier

namespace AccountIdentifier

def encode (a : AccountIdentifier) : Json := ofMembers [("address", .str a.address)]

def decode : Decoder AccountIdentifier :=
  record ["address"] <| AccountIdentifier.mk <$> required "address" decodeString

end AccountIdentifier

namespace Amount

def encode (a : Amount) : Json :=
  ofMembers [("value", .str a.value), ("currency", a.currency.encode)]

def decode : Decoder Amount :=
  record ["value", "currency"] <|
    Amount.mk <$> required "value" decodeString <*> required "currency" Currency.decode

end Amount

namespace OperationStatus

def name : OperationStatus → String
  | success => "SUCCESS"
  | failure => "FAILURE"

def ofName? : String → Option OperationStatus
  | "SUCCESS" => some success
  | "FAILURE" => some failure
  | _ => none

end OperationStatus

namespace OperationType

def name : OperationType → String
  | call => "CALL"
  | create => "CREATE"
  | create2 => "CREATE2"
  | destruct => "DESTRUCT"
  | fee => "FEE"
  | l1Fee => "L1_FEE"
  | burn => "BURN"
  | mint => "MINT"

def ofName? : String → Option OperationType
  | "CALL" => some call
  | "CREATE" => some create
  | "CREATE2" => some create2
  | "DESTRUCT" => some destruct
  | "FEE" => some fee
  | "L1_FEE" => some l1Fee
  | "BURN" => some burn
  | "MINT" => some mint
  | _ => none

end OperationType

namespace Operation

/-- The position of an operation in its transaction, as an object of its own. -/
def encodePosition (index : Word 64) : Json := ofMembers [("index", encodeWord index)]

def decodePosition : Decoder (Word 64) :=
  record ["index"] <| required "index" decodeIndex

def encode (o : Operation) : Json :=
  ofMembers <|
    [("operation_identifier", encodePosition o.index)] ++
    Json.optional "related_operations" (encodeList encodePosition) o.related ++
    [("type", .str o.type.name), ("status", .str o.status.name)] ++
    Json.optional "account" AccountIdentifier.encode o.account ++
    Json.optional "amount" Amount.encode o.amount ++
    Json.optional "metadata" Json.obj o.metadata

def decode : Decoder Operation :=
  record ["operation_identifier", "related_operations", "type", "status", "account", "amount",
      "metadata"] <|
    Operation.mk <$> required "operation_identifier" decodePosition
      <*> optional "related_operations" (decodeList decodePosition)
      <*> required "type" (decodeName "OperationType" OperationType.ofName?)
      <*> required "status" (decodeName "OperationStatus" OperationStatus.ofName?)
      <*> optional "account" AccountIdentifier.decode
      <*> optional "amount" Amount.decode
      <*> optional "metadata" decodeMembers

end Operation

namespace Transaction

def encode (t : Transaction) : Json :=
  ofMembers <|
    [("transaction_identifier", ofMembers [("hash", .str t.hash)]),
      ("operations", encodeList Operation.encode t.operations)] ++
    Json.optional "metadata" Json.obj t.metadata

def decodeIdentifier : Decoder String := record ["hash"] <| required "hash" decodeString

def decode : Decoder Transaction :=
  record ["transaction_identifier", "operations", "metadata"] <|
    Transaction.mk <$> required "transaction_identifier" decodeIdentifier
      <*> required "operations" (decodeList Operation.decode)
      <*> optional "metadata" decodeMembers

end Transaction

namespace Block

def encode (b : Block) : Json :=
  ofMembers <|
    [("block_identifier", b.identifier.encode), ("parent_block_identifier", b.parent.encode),
      ("timestamp", .int b.timestamp.toInt),
      ("transactions", encodeList Transaction.encode b.transactions)] ++
    Json.optional "metadata" Json.obj b.metadata

def decode : Decoder Block :=
  record ["block_identifier", "parent_block_identifier", "timestamp", "transactions", "metadata"] <|
    Block.mk <$> required "block_identifier" BlockIdentifier.decode
      <*> required "parent_block_identifier" BlockIdentifier.decode
      <*> required "timestamp" decodeInt64
      <*> required "transactions" (decodeList Transaction.decode)
      <*> optional "metadata" decodeMembers

end Block

namespace SyncStatus

def encode (s : SyncStatus) : Json :=
  ofMembers (Json.optional "current_index" encodeWord s.currentIndex ++
    Json.optional "target_index" encodeWord s.targetIndex ++
    Json.optional "synced" Json.bool s.synced)

def decode : Decoder SyncStatus :=
  record ["current_index", "target_index", "synced"] <|
    SyncStatus.mk <$> optional "current_index" decodeIndex
      <*> optional "target_index" decodeIndex
      <*> optional "synced" decodeBool

end SyncStatus

namespace Peer

def encode (p : Peer) : Json :=
  ofMembers (("peer_id", .str p.id) :: Json.optional "metadata" Json.obj p.metadata)

def decode : Decoder Peer :=
  record ["peer_id", "metadata"] <|
    Peer.mk <$> required "peer_id" decodeString <*> optional "metadata" decodeMembers

end Peer

namespace NodeStatus

def encode (s : NodeStatus) : Json :=
  ofMembers <|
    [("current_block_identifier", s.current.encode),
      ("current_block_timestamp", .int s.timestamp.toInt)] ++
    Json.optional "sync_status" SyncStatus.encode s.sync ++
    Json.optional "peers" (encodeList Peer.encode) s.peers

end NodeStatus

namespace AccountBalance

def encode (b : AccountBalance) : Json :=
  ofMembers <|
    [("block_identifier", b.block.encode), ("balances", encodeList Amount.encode b.balances)] ++
    Json.optional "metadata" Json.obj b.metadata

def decode : Decoder AccountBalance :=
  record ["block_identifier", "balances", "metadata"] <|
    AccountBalance.mk <$> required "block_identifier" BlockIdentifier.decode
      <*> required "balances" (decodeList Amount.decode)
      <*> optional "metadata" decodeMembers

end AccountBalance

namespace CallRequest

def encode (r : CallRequest) : Json :=
  ofMembers [("method", .str r.method), ("parameters", .obj r.parameters)]

def decode : Decoder CallRequest :=
  record ["method", "parameters"] <|
    CallRequest.mk <$> required "method" decodeString <*> withDefault "parameters" [] decodeMembers

end CallRequest

namespace CallResponse

def encode (r : CallResponse) : Json :=
  ofMembers [("result", .obj r.result), ("idempotent", .bool r.idempotent)]

def decode : Decoder CallResponse :=
  record ["result", "idempotent"] <|
    CallResponse.mk <$> required "result" decodeMembers <*> required "idempotent" decodeBool

end CallResponse

end RollupLedger.Ledger
