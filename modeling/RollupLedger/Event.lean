import RollupLedger.Fee.Data
import RollupLedger.Json.Writer

/-!
What the library notes in its log: how grave it is, a message, and named values. Fees note a message
only.
-/

set_option autoImplicit false
set_option relaxedAutoImplicit false

namespace RollupLedger

inductive Event where
  | call (method : String) (params : Json)
  | batch (method : String) (size : Nat)
  | fetchedBlock (number : Word 64) (transactions : Nat)
  | balanceQuery (address : String)
  | nodeUp (peers : Nat)
  | retrying (attempt : Nat) (error : String)
  | loadedVariables (path : String)
  | unreadableVariables (reason : String)
  | malformedVariables (text : String) (index : Nat)
  | fee (remark : DataFee.Remark)

namespace Event

inductive Severity where
  | debug
  | warn
deriving DecidableEq, Repr

def Severity.name : Severity → String
  | debug => "DEBUG"
  | warn => "WARN"

def severity : Event → Severity
  | retrying .. => .warn
  | unreadableVariables _ => .warn
  | malformedVariables .. => .warn
  | _ => .debug

def message : Event → String
  | call .. => "rpc call"
  | batch .. => "rpc batch"
  | fetchedBlock .. => "fetched block"
  | balanceQuery _ => "balance query"
  | nodeUp _ => "node is up"
  | retrying _ error => s!"retrying rpc request: {error}"
  | loadedVariables path => s!"loaded environment from {path}"
  | unreadableVariables reason => s!"couldn't read `.env`: {reason}"
  | malformedVariables text index =>
    "found a local `.env`, but couldn't parse it: Error parsing line: '" ++ text ++
      s!"', error at line index: {index}"
  | fee remark => remark.message

/-- The named values, numbers as integers and everything else as text. -/
def fields : Event → Json.Members
  | call method params => [("method", .str method), ("params", .str params.write)]
  | batch method size => [("method", .str method), ("len", .nat size)]
  | fetchedBlock number transactions =>
    [("number", .nat number.toNat), ("txs", .nat transactions)]
  | balanceQuery address => [("address", .str address)]
  | nodeUp peers => [("peers", .nat peers)]
  | retrying attempt _ => [("attempt", .nat attempt)]
  | _ => []

/-- Whether an event is noted without values and without the request it belongs to. -/
def isPlain : Event → Bool
  | fee _ => true
  | _ => false

end Event

/-- An event within a request; `block` names the block that is being assembled, if one is. -/
structure LogEntry where
  event : Event
  block : Option String

namespace LogEntry

def toJson (entry : LogEntry) : Json :=
  let head : Json.Members :=
    [("level", .str entry.event.severity.name), ("message", .str entry.event.message)]
  if entry.event.isPlain then .ofMembers head
  else
    let span (block : String) : Json :=
      .ofMembers [("name", .str "block"), ("fields", .ofMembers [("block", .str block)])]
    .ofMembers (head ++ [("fields", .ofMembers entry.event.fields),
      ("spans", .arr (entry.block.toList.map span))])

end LogEntry

end RollupLedger
