import RollupLedger.Ledger.Amount

/-!
Whether the operations that succeeded leave the total of every currency as it was. Minting and
burning are left out, and an amount that cannot be read settles the matter against the list.
-/

set_option autoImplicit false
set_option relaxedAutoImplicit false

namespace RollupLedger.Ledger

namespace Operation

/-- Whether an operation has to be balanced by others. -/
def isBalanced (o : Operation) : Bool := o.status == .success && !o.type.isAsymmetric

end Operation

/-- The amounts that have to balance. -/
def balancedAmounts (operations : List Operation) : List Amount :=
  (operations.filter Operation.isBalanced).filterMap Operation.amount

/-- The amounts as signed numbers, if all of them can be read. -/
def readAmounts? (amounts : List Amount) : Option (List (Currency × Signed)) :=
  amounts.mapM fun amount => amount.signed?.map (amount.currency, ·)

/-- The total magnitude of the entries in a currency that have the given sign. -/
def total (currency : Currency) (negative : Bool) (entries : List (Currency × Signed)) : Word 256 :=
  ((entries.filter fun e => e.1 == currency && e.2.negative == negative).map fun e =>
    e.2.magnitude).foldl Word.satAdd 0

/-- Whether credits and debits balance in every currency. -/
def isConserved (operations : List Operation) : Bool :=
  match readAmounts? (balancedAmounts operations) with
  | none => false
  | some entries => entries.all fun e => total e.1 false entries == total e.1 true entries

end RollupLedger.Ledger
