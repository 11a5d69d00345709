import RollupLedger.Client.Inquiry
import RollupLedger.Json.Reader
import RollupLedger.Setup.Configuration

/-!
The command line: options, and then one of the commands `status`, `balance`, `block`, `call`,
`nonce`, `gas-price` and `send` with its own options and values. `Command.conclude` says what comes
of the arguments: help, a misuse, a failure before anything is sent, or an inquiry to the node.
-/

set_option autoImplicit false
set_option relaxedAutoImplicit false

namespace RollupLedger

open Arguments Ledger

/-- What the node is to be asked. The parameters of a proxied call are still text. -/
inductive Command where
  | inquiry (inquiry : Inquiry)
  | call (method parameters : String)

namespace Command

/-! ### Commands and their arguments -/

/-- What has been said about a block and an account. -/
structure Draft where
  address : String
  index : Option (Word 64)
  hash : Option String

def Draft.empty : Draft := ⟨"", none, none⟩

/-- The block that is named, if one is. -/
def Draft.block (draft : Draft) : Option PartialBlockIdentifier :=
  if draft.index.isNone ∧ draft.hash.isNone then none else some ⟨draft.index, draft.hash⟩

def blockChoices : List (Choice Draft) :=
  [⟨"index", none,
      .value fun text d => (Numeral.plain? 64 text).map fun n => { d with index := some n }⟩,
    ⟨"hash", none, .value fun text d => some { d with hash := some text }⟩]

/-- A value that must be given. -/
def operand {α : Type} (read? : String → Option α) : Operand (Option α) :=
  ⟨true, fun text _ => (read? text).map some⟩

/-- A command with one value and no options. -/
def soleOperand {α : Type} (read? : String → Option α) : Grammar (Option α) :=
  ⟨[], [operand read?], []⟩

def plainGrammar : Grammar Unit := ⟨[], [], []⟩

def blockGrammar : Grammar Draft := ⟨blockChoices, [], []⟩

def balanceGrammar : Grammar Draft :=
  ⟨blockChoices, [⟨true, fun text d => some { d with address := text }⟩], []⟩

/-- A method, and its parameters unless it has none. -/
def callGrammar : Grammar (String × String) :=
  ⟨[], [⟨true, fun text c => some (text, c.2)⟩, ⟨false, fun text c => some (c.1, text)⟩], []⟩

/-- A value that is read; none is missing once the grammar has been satisfied. -/
def demand {α : Type} : Option α → Except Interruption α
  | some a => .ok a
  | none => misused .missingArgument

def names : List String := ["status", "balance", "block", "call", "nonce", "gas-price", "send"]

/-- Reads the arguments after the name of a command. -/
def readNamed (name : String) (arguments : List String) : Except Interruption Command := do
  match name with
  | "status" =>
    readAll plainGrammar [] () arguments
    return .inquiry .status
  | "gas-price" =>
    readAll plainGrammar [] () arguments
    return .inquiry .gasPrice
  | "block" => return .inquiry (.block (← readAll blockGrammar [] .empty arguments).block)
  | "balance" =>
    let draft ← readAll balanceGrammar [] .empty arguments
    return .inquiry (.balance ⟨draft.address⟩ draft.block)
  | "call" =>
    let (method, parameters) ← readAll callGrammar [] ("", "\x7b\x7d") arguments
    return .call method parameters
  | "nonce" =>
    let address ← readAll (soleOperand Configuration.address?) [] none arguments
    return .inquiry (.pendingNonce (← demand address))
  | "send" =>
    let raw ← readAll (soleOperand fun text => (Hex.read text).toOption) [] none arguments
    return .inquiry (.send (← demand raw))
  | _ => misused .unknownCommand

/-- Help on the command that is named, or on all of them. -/
def helpOn (arguments : List String) : Interruption :=
  match arguments with
  | [] => .help
  | [name] => if ("help" :: names).contains name then .help else .misuse .unknownCommand
  | _ => .misuse .unknownCommand

/-- Reads all arguments. A command's own arguments are looked at before the variables that stand for
options are. -/
def read (arguments : List String) (environment : Environment) :
    Except Interruption (Configuration × Command) := do
  let grammar := Configuration.grammar ("help" :: names)
  match ← Arguments.read grammar .standard arguments with
  | (reading, none) =>
    let _ ← finish grammar environment reading
    misused .missingCommand
  | (reading, some (name, rest)) =>
    if name = "help" then .error (helpOn rest)
    else
      let command ← readNamed name rest
      return (← finish grammar environment reading, command)

/-! ### What comes of it -/

/-- Why a command fails. -/
inductive Failure where
  | client (error : ClientError)
  | parametersUnreadable (reason : String)
  | parametersNotObject (got : Json)

namespace Failure

def message : Failure → String
  | client error => error.message
  | parametersUnreadable _ => "parameters must be a JSON object"
  | parametersNotObject got => s!"parameters must be a JSON object, got {got.write}"

def cause? : Failure → Option String
  | parametersUnreadable reason => some reason
  | _ => none

/-- The failure as it is shown, with its cause below it. -/
def text (failure : Failure) : String :=
  let cause := match failure.cause? with
    | some reason => s!"\n\nCaused by:\n    {reason}"
    | none => ""
  s!"Error: {failure.message}{cause}\n"

end Failure

/-- What the node is asked by a command. -/
def toInquiry : Command → Except Failure Inquiry
  | inquiry i => .ok i
  | call method parameters =>
    match Json.read parameters with
    | .error fault => .error (.parametersUnreadable fault.message)
    | .ok (.obj members) => .ok (.call ⟨method, members⟩)
    | .ok got => .error (.parametersNotObject got)

inductive Conclusion where
  | help
  | misuse (fault : Misuse)
  | failed (failure : Failure)
  | ask (client : Client) (inquiry : Inquiry)

/-- The error that an inquiry ends with before anything is sent. -/
def errorBeforeSending? {α : Type} : Progress α → Option ClientError
  | .finished (.error e) => some e
  | .planned (.done (.error e)) => some e
  | _ => none

def concludeInquiry (client : Client) (inquiry : Inquiry) : Conclusion :=
  match errorBeforeSending? (client.begin inquiry) with
  | some e => .failed (.client e)
  | none => .ask client inquiry

/-- What comes of arguments and the environment. -/
def conclude (arguments : List String) (environment : Environment) : Conclusion :=
  match read arguments environment with
  | .error .help => .help
  | .error (.misuse fault) => .misuse fault
  | .ok (configuration, command) =>
    match command.toInquiry with
    | .error failure => .failed failure
    | .ok asked => concludeInquiry configuration.settings.client asked

namespace Conclusion

/-- The code that the program ends with, where it does not ask the node. -/
def exitCode : Conclusion → Nat
  | help => 0
  | misuse _ => 2
  | _ => 1

end Conclusion

end Command

end RollupLedger
