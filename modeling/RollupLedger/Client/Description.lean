import RollupLedger.Client.Basic

/-!
A client in words, for whoever debugs it: its constants by name, in the order in which they are
declared.
-/

set_option autoImplicit false
set_option relaxedAutoImplicit false

namespace RollupLedger

namespace Description

/-- A record by its name and members; one of which not all members are shown ends with two
points. -/
def record (name : String) (members : List (String × String)) (complete : Bool) : String :=
  let shown := members.map fun (key, value) => key ++ ": " ++ value
  name ++ " \x7b " ++ ", ".intercalate (if complete then shown else shown ++ [".."]) ++ " \x7d"

def flag (value : Bool) : String := if value then "true" else "false"

def maybe {α : Type} (text : α → String) : Option α → String
  | some a => "Some(" ++ text a ++ ")"
  | none => "None"

def currency (c : Ledger.Currency) : String :=
  record "Currency" [("symbol", Text.quoted c.symbol), ("decimals", c.decimals.toDecimal)] true

def chain (c : Chain) : String :=
  record "ChainConfig"
    [("currency", currency c.currency), ("base_fee_vault", maybe FixedBytes.hex c.baseFeeVault),
      ("l1_fee_vault", c.l1FeeVault.hex), ("l1_fee_overhead", c.l1FeeOverhead.toDecimal),
      ("l1_fee_scalar", c.l1FeeScalar.toDecimal), ("regolith", flag c.regolith),
      ("fjord_time", maybe Word.toDecimal c.fjordTime)] true

end Description

/-- The constants of a client but its gate. -/
def Client.description (client : Client) : String :=
  Description.record "Client"
    [("chain", Description.chain client.chain), ("trace_timeout", Text.quoted client.traceTimeout),
      ("batch_traces", Description.flag client.batchTraces),
      ("skip_admin_calls", Description.flag client.skipAdminCalls)] false

end RollupLedger
