import RollupLedger.Ledger.Basic
import RollupLedger.Bytes.Basic

/-!
What holds for a whole chain, and what holds for one of its blocks, in the accounting of fees.
-/

set_option autoImplicit false
set_option relaxedAutoImplicit false

namespace RollupLedger

/-- The account that a rollup's base fees are paid to. -/
def baseFeeVault : Address :=
  ⟨0x42 :: List.replicate 18 0 ++ [0x19], rfl⟩

/-- The account that a rollup's data fees are paid to. -/
def l1FeeVault : Address :=
  ⟨0x42 :: List.replicate 18 0 ++ [0x1a], rfl⟩

/-- Constants of a chain. The base fee is burned if there is no vault for it. Overhead and scalar,
the latter with six decimals, apply where receipts report no blob prices, and the scalar only where
they report none. Before Regolith the padding of a signature is charged. -/
structure Chain where
  currency : Ledger.Currency
  baseFeeVault : Option Address
  l1FeeVault : Address
  l1FeeOverhead : Word 64
  l1FeeScalar : Word 64
  regolith : Bool
  fjordTime : Option (Word 64)
deriving DecidableEq

namespace Chain

/-- When the main network activated Fjord, in seconds since the epoch. -/
def mainFjordTime : Word 64 := 1720627201

def standard : Chain where
  currency := .ether
  baseFeeVault := some RollupLedger.baseFeeVault
  l1FeeVault := RollupLedger.l1FeeVault
  l1FeeOverhead := 2100
  l1FeeScalar := 1000000
  regolith := true
  fjordTime := some mainFjordTime

def isFjordActive (chain : Chain) (timestamp : Word 64) : Bool :=
  match chain.fjordTime with
  | some time => time ≤ timestamp
  | none => false

end Chain

/-- What fees depend on besides the transaction: who receives the priority fee, the base fee if the
block has one, and the time in seconds. -/
structure BlockContext where
  miner : Address
  baseFee : Option (Word 256)
  timestamp : Word 64
deriving DecidableEq

end RollupLedger
