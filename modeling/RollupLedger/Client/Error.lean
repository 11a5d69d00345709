import RollupLedger.Context
import RollupLedger.Flatten.Error
import RollupLedger.Json.Decode
import RollupLedger.Ledger.Basic

/-!
Why a request to the client fails, and the words for each reason.
-/

set_option autoImplicit false
set_option relaxedAutoImplicit false

namespace RollupLedger

/-- What is wrong with the account of a balance request. -/
inductive AccountFault where
  | malformed (fault : HexFault)
  | unknown
  | reported (message : String)
deriving DecidableEq

/-- What is wrong with the block of a request. -/
inductive BlockFault where
  | malformed (fault : HexFault)
  | otherNumber (actual : Word 64)
  | numberOutOfRange
  | unknown
  | reported (message : String)
deriving DecidableEq

/-- What a block lacks. -/
inductive Gap where
  | uncle (hash : Hash)
  | receipt (transaction : Hash)
  | trace (transaction : Hash)
deriving DecidableEq

/-- Why a request did not bring an answer of the right form. -/
inductive TransportFault where
  | reported (message : String)
  | batchLength (sent received : Nat)
  | malformedBody
  | notObject (got : Json)
deriving DecidableEq

inductive GraphFault where
  | reported (message : String)
  | transactionCountOutOfRange
deriving DecidableEq

/-- What could not be decoded. -/
inductive Subject where
  | block (requested : String)
  | uncle (hash : Hash)
  | receipt (transaction : Hash)
  | trace (transaction : Hash)
  | headBlock
  | balance
  | assembled
  | method (name : String)
deriving DecidableEq

inductive ClientError where
  | notFound
  | parametersInvalid (method reason : String)
  | methodInvalid (method : String)
  | invalidAccount (address : String) (fault : AccountFault)
  | invalidBlock (block : String) (fault : BlockFault)
  | incomplete (block : Hash) (gap : Gap)
  | abandoned (why : Abandonment)
  | transport (method : String) (fault : TransportFault)
  | graph (fault : GraphFault)
  | decode (subject : Subject) (failure : Json.DecodeFailure)
  | flatten (error : FlattenError)

namespace AccountFault

def message : AccountFault → String
  | malformed fault => fault.message
  | unknown => "no such account"
  | reported message => message

end AccountFault

namespace BlockFault

def message : BlockFault → String
  | malformed fault => fault.message
  | otherNumber actual => s!"hash resolves to block {actual.toDecimal}"
  | numberOutOfRange => "block number out of range"
  | unknown => "no such block"
  | reported message => message

end BlockFault

namespace Gap

def message : Gap → String
  | uncle hash => s!"missing uncle {hash.hex}"
  | receipt transaction => s!"missing receipt of {transaction.hex}"
  | trace transaction => s!"missing trace of {transaction.hex}"

end Gap

namespace TransportFault

def message : TransportFault → String
  | reported message => message
  | batchLength sent received => s!"batch of {sent} returned {received} results"
  | malformedBody => "malformed response"
  | notObject got => s!"expected an object, got {got.write}"

end TransportFault

namespace GraphFault

def message : GraphFault → String
  | reported message => message
  | transactionCountOutOfRange => "transaction count out of range"

end GraphFault

namespace Subject

def message : Subject → String
  | block requested => s!"block {requested}"
  | uncle hash => s!"uncle {hash.hex}"
  | receipt transaction => s!"receipt of {transaction.hex}"
  | trace transaction => s!"trace of {transaction.hex}"
  | headBlock => "head block"
  | balance => "balance response"
  | assembled => "block"
  | method name => name

end Subject

namespace ClientError

def canceled : ClientError := abandoned .canceled

def deadlineExceeded : ClientError := abandoned .expired

def message : ClientError → String
  | notFound => "not found"
  | parametersInvalid method reason => s!"invalid parameters for {method}: {reason}"
  | methodInvalid method => "unsupported method " ++ Text.quoted method
  | invalidAccount address fault => s!"invalid account {address}: {fault.message}"
  | invalidBlock block fault => s!"invalid block {block}: {fault.message}"
  | incomplete block gap => s!"block {block.hex} is incomplete: {gap.message}"
  | abandoned .canceled => "request canceled"
  | abandoned .expired => "request deadline exceeded"
  | transport method fault => s!"{method}: {fault.message}"
  | graph fault => s!"graphql: {fault.message}"
  | decode subject _ => s!"couldn't decode {subject.message}"
  | flatten error => error.message

/-- Whether the caller gave the request up, as opposed to a failure of the node or its data. -/
def isCancellation : ClientError → Bool
  | abandoned _ => true
  | _ => false

end ClientError

/-- Decodes a node's answer, naming what it was to be. -/
def decodeAs {α : Type} (subject : Subject) (decode : Json.Decoder α) (value : Json) :
    Except ClientError α :=
  (decode.run value).mapError (ClientError.decode subject)

end RollupLedger
