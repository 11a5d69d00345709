import RollupLedger.Wire.Quantity

/-!
What the graph endpoint of a node answers when asked for an account at a block.
-/

set_option autoImplicit false
set_option relaxedAutoImplicit false

namespace RollupLedger.Wire

open Json Json.Fields

structure AccountState where
  balance : Quantity
  transactionCount : Quantity
  code : Bytes
deriving DecidableEq

structure BlockState where
  hash : Hash
  number : Quantity
  account : Option AccountState
deriving DecidableEq

/-- The block is absent if it could not be found, and the messages tell what went wrong. -/
structure BalanceReply where
  block : Option BlockState
  errors : List String
deriving DecidableEq

namespace AccountState

def decode : Decoder AccountState :=
  record ["balance", "transactionCount", "code"] <|
    AccountState.mk <$> required "balance" Quantity.decode
      <*> required "transactionCount" Quantity.decode
      <*> required "code" decodeBytes

end AccountState

namespace BlockState

def decode : Decoder BlockState :=
  record ["hash", "number", "account"] <|
    BlockState.mk <$> required "hash" decodeHash
      <*> required "number" Quantity.decode
      <*> placed "account" AccountState.decode

end BlockState

namespace BalanceReply

/-- The block among the data. -/
def decodeData : Decoder (Option BlockState) :=
  record ["block"] <| placed "block" BlockState.decode

def decodeError : Decoder String := record ["message"] <| required "message" decodeString

def decode : Decoder BalanceReply :=
  record ["data", "errors"] <|
    (fun data errors => BalanceReply.mk data.join errors) <$> optional "data" decodeData
      <*> withDefault "errors" [] (decodeList decodeError)

end BalanceReply

end RollupLedger.Wire
