import RollupLedger.Gate
import RollupLedger.Request.Plan

/-!
What plans are carried out against: a node that answers after some time, the gate, the clock, and a
journal of everything sent and noted. A reply is settled when its request is sent; until it is due,
the request is in flight.
-/

set_option autoImplicit false
set_option relaxedAutoImplicit false

namespace RollupLedger

/-- A reply and how many milliseconds it takes to arrive. -/
structure Answer (β : Type) where
  reply : β
  latency : Nat

/-- A node, whose answers may depend on what it was asked before. -/
structure Responder (σ : Type) where
  call : Call → σ → Answer CallReply × σ
  batch : List Call → σ → Answer BatchReply × σ
  query : String → σ → Answer (Except String String) × σ

inductive Request where
  | call (call : Call)
  | batch (calls : List Call)
  | query (document : String)
deriving DecidableEq

/-- The calls that a request consists of. -/
def Request.calls : Request → List Call
  | call c => [c]
  | batch cs => cs
  | query _ => []

/-- How many traces a request asks for. -/
def Request.traces (request : Request) : Nat :=
  request.calls.countP fun call => call.method == traceMethod

/-- Something that was sent or noted; `block` names the block that is being assembled, if one is. -/
inductive JournalEntry where
  | sent (request : Request) (time : Nat) (block : Option String)
  | noted (event : Event) (block : Option String)

namespace JournalEntry

/-- What the log says about an entry. A query is noted before it is sent. -/
def log? : JournalEntry → Option LogEntry
  | sent (.call c) _ block => some ⟨.call c.method c.params, block⟩
  | sent (.batch cs) _ block => cs.head?.map fun c => ⟨.batch c.method cs.length, block⟩
  | sent (.query _) _ _ => none
  | noted event block => some ⟨event, block⟩

def sent? : JournalEntry → Option (Request × Nat)
  | sent request time _ => some (request, time)
  | noted .. => none

end JournalEntry

/-- `tracesInFlight` counts the traces asked for and not yet answered or given up, and `peak` is the
most there have been at once. -/
structure World (σ : Type) where
  node : Responder σ
  state : σ
  now : Nat
  gate : Gate
  tracesInFlight : Nat
  peak : Nat
  journal : List JournalEntry

/-- A request on its way: the ticket that admitted it, the traces it asks for, and when its reply is
due. -/
structure Flight where
  ticket : Option Nat
  traces : Nat
  due : Nat
deriving DecidableEq, Repr

namespace World

variable {σ : Type}

def note (w : World σ) (block : Option String) (event : Event) : World σ :=
  { w with journal := w.journal ++ [.noted event block] }

/-- Records a request as sent and counts its traces. -/
def record (w : World σ) (block : Option String) (request : Request) : World σ :=
  let inFlight := w.tracesInFlight + request.traces
  { w with
    journal := w.journal ++ [.sent request w.now block]
    tracesInFlight := inFlight
    peak := max w.peak inFlight }

/-- The end of a flight, with its reply or without: its ticket is given up and its traces are no
longer counted. -/
def land (w : World σ) (flight : Flight) : World σ :=
  { w with
    tracesInFlight := w.tracesInFlight - flight.traces
    gate := match flight.ticket with
      | some ticket => w.gate.release ticket
      | none => w.gate }

def sendCall (w : World σ) (block : Option String) (c : Call) :
    Answer CallReply × World σ :=
  let w := w.record block (.call c)
  let (answer, state) := w.node.call c w.state
  (answer, { w with state := state })

def sendBatch (w : World σ) (block : Option String) (cs : List Call) :
    Answer BatchReply × World σ :=
  let w := w.record block (.batch cs)
  let (answer, state) := w.node.batch cs w.state
  (answer, { w with state := state })

def sendQuery (w : World σ) (block : Option String) (document : String) :
    Answer (Except String String) × World σ :=
  let w := w.record block (.query document)
  let (answer, state) := w.node.query document w.state
  (answer, { w with state := state })

/-- Sends what a job asks for. A single call brings a batch of one. -/
def sendJob (w : World σ) (block : Option String) (job : Job) : Answer BatchReply × World σ :=
  match job.batched, job.calls with
  | false, [c] =>
    let (answer, w) := w.sendCall block c
    (⟨answer.reply.map fun value => [.ok value], answer.latency⟩, w)
  | _, cs => w.sendBatch block cs

end World

end RollupLedger
