import RollupLedger.Address
import RollupLedger.Ledger.Amount
import RollupLedger.Wire.Scalar

/-!
Postings: what is taken from one account together with what is given to others, from which numbered
operations are made. A debit comes first and every credit names it; an amount of zero is left out.
-/

set_option autoImplicit false
set_option relaxedAutoImplicit false

namespace RollupLedger.Flatten

open Ledger

/-- An account and how much is taken from it or given to it. -/
structure Side where
  account : Address
  value : Word 256
deriving DecidableEq

/-- Operations of one type that belong together. One with an `error` failed. -/
structure Posting where
  type : OperationType
  error : Option String
  debit : Option Side
  credits : List Side
deriving DecidableEq

def account (address : Address) : AccountIdentifier := ⟨address.checksummed⟩

/-- The metadata of an operation that failed. -/
def errorMetadata (error : String) : Json.Members := [("error", .str error)]

namespace Posting

variable (currency : Currency)

/-- The operation at `index`; the amount is written by `render` unless it is zero. -/
def operation (p : Posting) (index : Nat) (related : Option (List (Word 64))) (side : Side)
    (render : Word 256 → Currency → Amount) : Operation where
  index := .wrap 64 index
  related := related
  type := p.type
  status := if p.error.isSome then .failure else .success
  account := some (account side.account)
  amount := side.value.nonzero?.map (render · currency)
  metadata := p.error.map errorMetadata

/-- The credits from `index` on. -/
def creditOperations (p : Posting) (related : Option (List (Word 64))) :
    (index : Nat) → List Side → List Operation
  | _, [] => []
  | index, side :: rest =>
    p.operation currency index related side Amount.credit ::
      creditOperations p related (index + 1) rest

/-- The operations of a posting, the first of which is at `index`. -/
def operations (p : Posting) (index : Nat) : List Operation :=
  match p.debit with
  | some side =>
    p.operation currency index none side Amount.debit ::
      p.creditOperations currency (some [.wrap 64 index]) (index + 1) p.credits
  | none => p.creditOperations currency none index p.credits

end Posting

/-- The operations of postings in order, numbered from `index` on. -/
def numbered (currency : Currency) : (index : Nat) → List Posting → List Operation
  | _, [] => []
  | index, posting :: rest =>
    let operations := posting.operations currency index
    operations ++ numbered currency (index + operations.length) rest

end RollupLedger.Flatten
