import RollupLedger.Client.Basic
import RollupLedger.Ledger.Wire
import RollupLedger.Wire.Header
import RollupLedger.Wire.NodeState

/-!
Liveness of the node: its head block and, unless administrative calls are disabled, how far it has
synchronised and who its peers are.
-/

set_option autoImplicit false
set_option relaxedAutoImplicit false

namespace RollupLedger.Status

open Ledger Wire

def syncStatus (syncing : Syncing) (head : Word 64) : SyncStatus :=
  match syncing with
  | .notSyncing _ => ⟨some head, some head, some true⟩
  | .syncing progress => ⟨some progress.currentBlock, some progress.highestBlock, some false⟩

/-- A peer with what is known of it. -/
def peer (info : PeerInfo) : Peer :=
  ⟨info.id, some <|
    [("caps", encodeList Json.str info.caps)] ++ Json.optional "enode" Json.str info.enode ++
    Json.optional "name" Json.str info.name ++
    if info.protocols.isNull then [] else [("protocols", info.protocols)]⟩

/-- The value of the only call in a lane. -/
def soleValue (method : String) (replies : List BatchReply) : Except ClientError Json :=
  match replies with
  | [.ok [.ok value]] => .ok value
  | [.error message] => .error (.transport method (.reported message))
  | _ => .error (.transport method (.batchLength 1 replies.length))

/-- A lane that asks for one value. -/
def lane {β : Type} (method : String) (decode : List BatchReply → Except ClientError β) : Lane where
  jobs := [⟨none, false, [⟨method, .arr []⟩]⟩]
  reject _ _ := none
  close replies :=
    match decode replies with
    | .ok _ => none
    | .error e => some e

def syncingMethod : String := "eth_syncing"

def peersMethod : String := "admin_peers"

def decodeSyncing (replies : List BatchReply) : Except ClientError Syncing := do
  decodeAs (.method syncingMethod) Syncing.decode (← soleValue syncingMethod replies)

def decodePeers (replies : List BatchReply) : Except ClientError (List PeerInfo) := do
  decodeAs (.method peersMethod) (Json.decodeList PeerInfo.decode) (← soleValue peersMethod replies)

/-- The status as far as the head block tells it. -/
def ofHead (head : Header) (sync : Option SyncStatus) (peers : Option (List Peer)) : NodeStatus :=
  ⟨⟨head.number, head.hash.hex⟩, head.timestampMillis, sync, peers⟩

/-- What is left to do when the head block is known. -/
def headPlan (client : Client) (head : Header) : Plan NodeStatus 1 :=
  if client.skipAdminCalls then .done (.ok (ofHead head none none))
  else
    .both (lane syncingMethod decodeSyncing) (lane peersMethod decodePeers) fun left right =>
      .andThen (decodeSyncing left) fun syncing =>
      .andThen (decodePeers right) fun peers =>
      .note (.nodeUp peers.length) <|
      .done (.ok (ofHead head (some (syncStatus syncing head.number)) (some (peers.map peer))))

def plan (client : Client) : Plan NodeStatus 2 :=
  .ask ⟨"eth_getBlockByNumber", .arr [.str "latest", .bool false]⟩ fun value =>
    if value.isNull then .fail .notFound
    else .andThen (decodeAs .headBlock Header.decode value) (headPlan client)

end RollupLedger.Status
