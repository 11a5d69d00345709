import RollupLedger.Address
import RollupLedger.Client.Basic
import RollupLedger.Client.Reference
import RollupLedger.Json.Reader
import RollupLedger.Ledger.Amount
import RollupLedger.Wire.BalanceReply

/-!
Balance, nonce and code of an account, read together at one block. Account and block are checked
before anything is asked; the document that is sent holds nothing of the caller's text.
-/

set_option autoImplicit false
set_option relaxedAutoImplicit false

namespace RollupLedger.Balance

open Ledger Wire

/-- The words that name a block in a document. -/
def clause : BlockReference → String
  | .byHash hash => "hash: \"" ++ hash.hex ++ "\""
  | .byNumber number => "number: " ++ number.toDecimal
  | .latest => ""

/-- The document that asks for an account at a block. -/
def document (address : Address) (reference : BlockReference) : String :=
  "\x7b block(" ++ clause reference ++ ") \x7b hash number account(address: \"" ++
    address.checksummed ++ "\") \x7b balance transactionCount code \x7d \x7d \x7d"

/-- Whether a text begins with another, or does so after some characters. -/
def occursIn (part : List Char) : List Char → Bool
  | [] => part.isEmpty
  | c :: rest => part.isPrefixOf (c :: rest) || occursIn part rest

def containsText (text part : String) : Bool := occursIn part.toList text.toList

def readAccount (account : AccountIdentifier) : Except ClientError Address :=
  (Address.read account.address).mapError fun fault =>
    .invalidAccount account.address (.malformed fault)

/-- The failure that a node's message tells of: of the account or the block if it mentions one. -/
def reportedError (address block message : String) : ClientError :=
  if containsText message "account" || containsText message "address" then
    .invalidAccount address (.reported message)
  else if containsText message "block" || containsText message "hash" then
    .invalidBlock block (.reported message)
  else .graph (.reported message)

/-- The balance that an account has, with its nonce and code. -/
def response (currency : Currency) (index : Word 64) (hash : Hash) (account : AccountState)
    (nonce : Word 64) : AccountBalance where
  block := ⟨index, hash.hex⟩
  balances := [.credit account.balance.value currency]
  metadata := some [("code", encodeBytes account.code), ("nonce", encodeWord nonce)]

/-- Whether a request names its block. -/
def isPinned (requested : Option PartialBlockIdentifier) : Bool :=
  match requested with
  | some reference => reference.hash.isSome || reference.index.isSome
  | none => false

/-- What a block's state says. -/
def ofState (currency : Currency) (address : String) (requested : Option PartialBlockIdentifier)
    (block : BlockState) : Except ClientError AccountBalance := do
  let describe := BlockReference.describe requested
  let some index := block.number.short? | .error (.invalidBlock describe .numberOutOfRange)
  BlockReference.check requested index
  let some account := block.account | .error (.invalidAccount address .unknown)
  let some nonce := account.transactionCount.short? | .error (.graph .transactionCountOutOfRange)
  return response currency index block.hash account nonce

/-- What a reply says. A block that was named and is not there is the block's fault, whatever the
node says about it; apart from that, the first error decides. -/
def ofReply (currency : Currency) (address : String) (requested : Option PartialBlockIdentifier)
    (reply : BalanceReply) : Except ClientError AccountBalance :=
  let describe := BlockReference.describe requested
  match reply.block, reply.errors with
  | none, [] => .error (.invalidBlock describe .unknown)
  | none, message :: _ =>
    if isPinned requested then .error (.invalidBlock describe (.reported message))
    else .error (reportedError address describe message)
  | some _, message :: _ => .error (reportedError address describe message)
  | some block, [] => ofState currency address requested block

/-- What the body of a reply says. -/
def ofBody (currency : Currency) (address : String) (requested : Option PartialBlockIdentifier)
    (body : Except String String) : Except ClientError AccountBalance :=
  match body with
  | .error message => .error (.transport "graphql" (.reported message))
  | .ok text =>
    match Json.read text with
    | .error _ => .error (.transport "graphql" .malformedBody)
    | .ok value => do
      ofReply currency address requested (← decodeAs .balance BalanceReply.decode value)

/-- The balance of an account at a block, once both have been read. -/
def plan (client : Client) (account : AccountIdentifier)
    (requested : Option PartialBlockIdentifier) :
    Except ClientError (Plan AccountBalance 1) := do
  let address ← readAccount account
  let reference ← BlockReference.read requested
  return .note (.balanceQuery address.checksummed) <|
    .query (document address reference) fun body =>
    .done (ofBody client.chain.currency account.address requested body)

end RollupLedger.Balance
