import RollupLedger.Json.Basic
import RollupLedger.Word

/-!
The ledger that consumers read: blocks of transactions, each an ordered list of operations on
account balances, with the identifiers, balances and states around them.
-/

set_option autoImplicit false
set_option relaxedAutoImplicit false

namespace RollupLedger.Ledger

/-- The native asset of a chain. -/
structure Currency where
  symbol : String
  decimals : Word 32
deriving DecidableEq

def Currency.ether : Currency := ⟨"ETH", 18⟩

instance : Inhabited Currency := ⟨Currency.ether⟩

structure BlockIdentifier where
  index : Word 64
  hash : String
deriving DecidableEq

/-- A block as a request names it. The hash addresses the block if there is one; an index given with
it is checked against the block found. -/
structure PartialBlockIdentifier where
  index : Option (Word 64)
  hash : Option String
deriving DecidableEq

namespace PartialBlockIdentifier

def byIndex (index : Word 64) : PartialBlockIdentifier := ⟨some index, none⟩

def byHash (hash : String) : PartialBlockIdentifier := ⟨none, some hash⟩

end PartialBlockIdentifier

structure AccountIdentifier where
  address : String
deriving DecidableEq

/-- A signed value of some currency as a decimal numeral. -/
structure Amount where
  value : String
  currency : Currency
deriving DecidableEq

inductive OperationStatus where
  | success
  | failure
deriving DecidableEq

/-- `destruct` moves the balance out of a self-destructing contract; `fee` is the execution fee and
`l1Fee` the fee for publishing the transaction; `burn` removes value from circulation and `mint`
brings value into it. -/
inductive OperationType where
  | call
  | create
  | create2
  | destruct
  | fee
  | l1Fee
  | burn
  | mint
deriving DecidableEq

/-- Burning and minting have no counterpart on another account. -/
def OperationType.isAsymmetric : OperationType → Bool
  | burn => true
  | mint => true
  | _ => false

structure Operation where
  index : Word 64
  related : Option (List (Word 64))
  type : OperationType
  status : OperationStatus
  account : Option AccountIdentifier
  amount : Option Amount
  metadata : Option Json.Members
deriving DecidableEq

structure Transaction where
  hash : String
  operations : List Operation
  metadata : Option Json.Members
deriving DecidableEq

/-- The timestamp counts milliseconds since the epoch. -/
structure Block where
  identifier : BlockIdentifier
  parent : BlockIdentifier
  timestamp : Int64
  transactions : List Transaction
  metadata : Option Json.Members
deriving DecidableEq

structure SyncStatus where
  currentIndex : Option (Word 64)
  targetIndex : Option (Word 64)
  synced : Option Bool
deriving DecidableEq

structure Peer where
  id : String
  metadata : Option Json.Members
deriving DecidableEq

/-- Liveness of a node as of its head block. The last two are absent if administrative calls are
disabled. -/
structure NodeStatus where
  current : BlockIdentifier
  timestamp : Int64
  sync : Option SyncStatus
  peers : Option (List Peer)
deriving DecidableEq

structure AccountBalance where
  block : BlockIdentifier
  balances : List Amount
  metadata : Option Json.Members
deriving DecidableEq

structure CallRequest where
  method : String
  parameters : Json.Members
deriving DecidableEq

structure CallResponse where
  result : Json.Members
  idempotent : Bool
deriving DecidableEq

end RollupLedger.Ledger
