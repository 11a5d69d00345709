import RollupLedger.Client.Inquiry

/-!
A client over one node through several rounds. In a round it is asked one or several things at once,
under one new context; the clock, the gate and the state of the node go on from round to round.
-/

set_option autoImplicit false
set_option relaxedAutoImplicit false

namespace RollupLedger

/-- How long a round may take, and when it is cancelled, in milliseconds from its beginning. -/
structure Limits where
  timeout : Option Nat
  cancelAfter : Option Nat
deriving DecidableEq, Repr

structure Session (σ : Type) where
  client : Client
  system : System Response σ

/-- What a round brought: a result for each inquiry, what was sent and noted, the time and the free
units of the gate at its end, and the most traces that were in flight at once. -/
structure Report where
  results : List (Option (Except ClientError Response))
  journal : List JournalEntry
  time : Nat
  available : Nat
  peak : Nat

namespace Task

/-- The result of a request that has one. -/
def result? {α : Type} : Task α → Option (Except ClientError α)
  | request _ _ (.finished result) => some result
  | _ => none

end Task

namespace Session

variable {σ : Type}

/-- A client that has not been asked anything yet. -/
def new (client : Client) (node : Responder σ) (state : σ) : Session σ where
  client := client
  system := ⟨.empty, [], ⟨node, state, 0, client.gate, 0, 0, []⟩, []⟩

/-- Changes the state of the node. -/
def update (session : Session σ) (change : σ → σ) : Session σ :=
  let world := session.system.world
  { session with
    system := { session.system with world := { world with state := change world.state } } }

/-- The system at the beginning of a round. A round that is to be cancelled after no time is
cancelled before it begins. -/
def opening (session : Session σ) (limits : Limits) (inquiries : List Inquiry) :
    System Response σ :=
  let system := session.system
  let (token, tokens) := system.tokens.fresh
  let world := { system.world with journal := [], peak := system.world.tracesInFlight }
  let context := match limits.timeout with
    | some timeout => (Context.ofToken token).withTimeout world.now timeout
    | none => .ofToken token
  { tokens := if limits.cancelAfter = some 0 then tokens.cancel token else tokens
    alarms := limits.cancelAfter.toList.map fun time => ⟨world.now + time, token⟩
    world := world
    tasks := inquiries.map (session.client.task context) }

/-- Asks several things at once and waits for all results. -/
def ask (session : Session σ) (limits : Limits) (inquiries : List Inquiry) : Report × Session σ :=
  let system := (session.opening limits inquiries).drive
  let world := system.world
  (⟨system.tasks.map Task.result?, world.journal, world.now, world.gate.available, world.peak⟩,
    { session with system := { system with tasks := [], alarms := [] } })

end Session

end RollupLedger
