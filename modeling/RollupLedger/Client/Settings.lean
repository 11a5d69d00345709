import RollupLedger.Client.Basic
import RollupLedger.Gate

/-!
What can be set about a client, and the client that settings make.
-/

set_option autoImplicit false
set_option relaxedAutoImplicit false

namespace RollupLedger

structure Settings where
  traceCapacity : Word 64
  traceTimeout : String
  batchTraces : Bool
  skipAdminCalls : Bool
  currencySymbol : String
  currencyDecimals : Word 32
  baseFeeVault : Address
  burnBaseFee : Bool
  l1FeeVault : Address
  l1FeeOverhead : Word 64
  l1FeeScalar : Word 64
  preRegolith : Bool
  fjordTime : Word 64
deriving DecidableEq

namespace Settings

/-- What holds where nothing is set. -/
def standard : Settings where
  traceCapacity := 100
  traceTimeout := "120s"
  batchTraces := false
  skipAdminCalls := false
  currencySymbol := Ledger.Currency.ether.symbol
  currencyDecimals := Ledger.Currency.ether.decimals
  baseFeeVault := RollupLedger.baseFeeVault
  burnBaseFee := false
  l1FeeVault := RollupLedger.l1FeeVault
  l1FeeOverhead := Chain.standard.l1FeeOverhead
  l1FeeScalar := Chain.standard.l1FeeScalar
  preRegolith := false
  fjordTime := Chain.mainFjordTime

/-- A burned base fee has no vault. -/
def chain (settings : Settings) : Chain where
  currency := ⟨settings.currencySymbol, settings.currencyDecimals⟩
  baseFeeVault := if settings.burnBaseFee then none else some settings.baseFeeVault
  l1FeeVault := settings.l1FeeVault
  l1FeeOverhead := settings.l1FeeOverhead
  l1FeeScalar := settings.l1FeeScalar
  regolith := !settings.preRegolith
  fjordTime := some settings.fjordTime

theorem chain_standard : standard.chain = Chain.standard := rfl

/-- The client with these settings. Its gate has a capacity within bounds. -/
def client (settings : Settings) : Client where
  chain := settings.chain
  capacity := Gate.clampCapacity settings.traceCapacity.toNat
  traceTimeout := settings.traceTimeout
  batchTraces := settings.batchTraces
  skipAdminCalls := settings.skipAdminCalls

end Settings

end RollupLedger
