import RollupLedger.Wire.Scalar

/-!
What a node says of its own state: how far it has synchronised, and who its peers are.
-/

set_option autoImplicit false
set_option relaxedAutoImplicit false

namespace RollupLedger.Wire

open Json Json.Fields

structure SyncProgress where
  currentBlock : Word 64
  highestBlock : Word 64
deriving DecidableEq

/-- A node that is not synchronising answers with a boolean. -/
inductive Syncing where
  | notSyncing (answer : Bool)
  | syncing (progress : SyncProgress)
deriving DecidableEq

structure PeerInfo where
  id : String
  name : Option String
  enode : Option String
  caps : List String
  protocols : Json
deriving DecidableEq

namespace SyncProgress

def encode (p : SyncProgress) : Json :=
  ofMembers [("currentBlock", encodeQuantity p.currentBlock),
    ("highestBlock", encodeQuantity p.highestBlock)]

def decode : Decoder SyncProgress :=
  record ["currentBlock", "highestBlock"] <|
    SyncProgress.mk <$> required "currentBlock" (decodeQuantity 64)
      <*> required "highestBlock" (decodeQuantity 64)

end SyncProgress

namespace Syncing

def encode : Syncing → Json
  | notSyncing answer => .bool answer
  | syncing progress => progress.encode

def decode : Decoder Syncing := fun json =>
  match decodeBool.run json, SyncProgress.decode.run json with
  | .ok answer, _ => pure (notSyncing answer)
  | .error _, .ok progress => pure (syncing progress)
  | .error _, .error _ => mismatch (.noVariant "SyncingResult")

end Syncing

namespace PeerInfo

def encode (p : PeerInfo) : Json :=
  ofMembers <|
    [("id", .str p.id)] ++ Json.optional "name" Json.str p.name ++
    Json.optional "enode" Json.str p.enode ++
    [("caps", encodeList Json.str p.caps), ("protocols", p.protocols)]

def decode : Decoder PeerInfo :=
  record ["id", "name", "enode", "caps", "protocols"] <|
    PeerInfo.mk <$> required "id" decodeString
      <*> optional "name" decodeString
      <*> optional "enode" decodeString
      <*> withDefault "caps" [] (decodeList decodeString)
      <*> withDefault "protocols" .null decodeAny

end PeerInfo

end RollupLedger.Wire
