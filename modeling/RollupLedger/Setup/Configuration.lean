import RollupLedger.Address
import RollupLedger.Client.Settings
import RollupLedger.Fee.Scalar
import RollupLedger.Request.Retry
import RollupLedger.Setup.Arguments
import RollupLedger.Url.Basic

/-!
Where the node is and what is set about the client, from options and the variables that stand for
them. An option wins over its variable, and the variable over the default.
-/

set_option autoImplicit false
set_option relaxedAutoImplicit false

namespace RollupLedger

open Arguments

/-- Where the node is, and how hard to try to reach it: the pause before a retry in milliseconds,
and how many retries there are. -/
structure Endpoints where
  rpc : Url
  graph : Url
  backoff : Word 64
  maxRetries : Word 32
deriving DecidableEq

structure Configuration where
  endpoints : Endpoints
  settings : Settings
deriving DecidableEq

namespace Endpoints

/-- An address on this machine. -/
def localUrl (service : Nat) (path : String) : Url :=
  ⟨"http", some ⟨"", none, .name "localhost", some service⟩, path, none, none⟩

def standard : Endpoints := ⟨localUrl 8545 "/", localUrl 8547 "/graphql", 0, 0⟩

def retryPolicy (endpoints : Endpoints) : RetryPolicy :=
  ⟨endpoints.backoff.toNat, endpoints.maxRetries⟩

end Endpoints

namespace Configuration

def standard : Configuration := ⟨.standard, .standard⟩

/-! ### Values -/

/-- A numeral of 32 bits, which may also be a zero with a minus sign. -/
def small? (text : String) : Option (Word 32) :=
  match text.toList with
  | '-' :: digits =>
    if digits.isEmpty ∨ digits.any (· ≠ '0') then none else some 0
  | _ => Numeral.plain? 32 text

def address? (text : String) : Option Address := (Address.read text).toOption

/-- A fee scalar with six decimals, as an integer of 64 bits. -/
def scalar? (text : String) : Option (Word 64) :=
  (FeeScalar.parse text).bind fun scalar => scalar.narrow? 64

/-! ### Options -/

/-- The variable that stands for an option: its name in upper case after a common beginning. -/
def variableName (name : String) : String :=
  "OP_ROSETTA_" ++ name.map fun c => if c = '-' then '_' else c.toUpper

/-- An option for a value that is read by `read?`. -/
def valueChoice {α : Type} (name : String) (read? : String → Option α)
    (set : α → Configuration → Configuration) : Choice Configuration where
  name := name
  fromVariable := some (variableName name)
  effect := .value fun text c => (read? text).map fun a => set a c

/-- An option for a value of the settings. -/
def settingChoice {α : Type} (name : String) (read? : String → Option α)
    (set : α → Settings → Settings) : Choice Configuration :=
  valueChoice name read? fun a c => { c with settings := set a c.settings }

/-- An option for a value of the endpoints. -/
def endpointChoice {α : Type} (name : String) (read? : String → Option α)
    (set : α → Endpoints → Endpoints) : Choice Configuration :=
  valueChoice name read? fun a c => { c with endpoints := set a c.endpoints }

def switchChoice (name : String) (set : Bool → Settings → Settings) : Choice Configuration where
  name := name
  fromVariable := some (variableName name)
  effect := .switch fun on c => { c with settings := set on c.settings }

/-- The options in the order in which their variables are asked. -/
def choices : List (Choice Configuration) :=
  [endpointChoice "rpc-url" Url.read fun url e => { e with rpc := url },
    endpointChoice "graphql-url" Url.read fun url e => { e with graph := url },
    endpointChoice "backoff" (Numeral.plain? 64) fun n e => { e with backoff := n },
    endpointChoice "max-retries" small? fun n e => { e with maxRetries := n },
    settingChoice "trace-capacity" (Numeral.plain? 64) fun n s => { s with traceCapacity := n },
    settingChoice "trace-timeout" some fun text s => { s with traceTimeout := text },
    switchChoice "batch-traces" fun on s => { s with batchTraces := on },
    switchChoice "skip-admin-calls" fun on s => { s with skipAdminCalls := on },
    settingChoice "currency-symbol" some fun text s => { s with currencySymbol := text },
    settingChoice "currency-decimals" small? fun n s => { s with currencyDecimals := n },
    settingChoice "base-fee-vault" address? fun a s => { s with baseFeeVault := a },
    switchChoice "burn-base-fee" fun on s => { s with burnBaseFee := on },
    settingChoice "l1-fee-vault" address? fun a s => { s with l1FeeVault := a },
    settingChoice "l1-fee-overhead" (Numeral.plain? 64) fun n s => { s with l1FeeOverhead := n },
    settingChoice "l1-fee-scalar" scalar? fun n s => { s with l1FeeScalar := n },
    switchChoice "pre-regolith" fun on s => { s with preRegolith := on },
    settingChoice "fjord-time" (Numeral.plain? 64) fun n s => { s with fjordTime := n }]

/-- The options, followed by one of these commands. -/
def grammar (commands : List String) : Grammar Configuration := ⟨choices, [], commands⟩

/-- Reads a configuration from arguments and the environment. -/
def read (arguments : List String) (environment : Environment) :
    Except Interruption Configuration :=
  readAll (grammar []) environment standard arguments

end Configuration

end RollupLedger
