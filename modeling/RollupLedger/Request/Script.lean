import RollupLedger.Request.World

/-!
A node that answers from a script. The script has a list of cues for each kind of request; the
first cue that fits a request answers it, and a cue that serves once is then struck out. A call
that no cue fits fails at once.

A batch is answered by the cues of its calls, and takes as long as the slowest of them. A cue for
batches may fail the whole round trip or spoil the list of replies.
-/

set_option autoImplicit false
set_option relaxedAutoImplicit false

namespace RollupLedger

/-- A prepared answer. It serves any number of requests or only one. -/
structure Cue (α : Type) where
  content : α
  latency : Nat
  once : Bool

/-- A reply to the calls of a method, with any parameters or only these. -/
structure CallCue where
  method : String
  params : Option Json
  reply : CallReply

/-- What happens to the list of replies of a batch: it is cut off, and null values are added. -/
structure Spoiling where
  keep : Option Nat
  added : Nat

/-- What happens to batches whose first call has this method. -/
structure BatchCue where
  method : String
  effect : Except String Spoiling

/-- A reply to any query, or only to this one. -/
structure QueryCue where
  document : Option String
  reply : Except String String

structure Script where
  calls : List (Cue CallCue)
  batches : List (Cue BatchCue)
  queries : List (Cue QueryCue)

namespace CallCue

def fits (cue : CallCue) (call : Call) : Bool :=
  cue.method == call.method &&
    match cue.params with
    | some params => params == call.params
    | none => true

end CallCue

namespace BatchCue

def fits (cue : BatchCue) (calls : List Call) : Bool :=
  match calls with
  | [] => false
  | first :: _ => cue.method == first.method

end BatchCue

namespace QueryCue

def fits (cue : QueryCue) (document : String) : Bool :=
  match cue.document with
  | some expected => expected == document
  | none => true

end QueryCue

namespace Spoiling

/-- Leaves the replies as they are. -/
def none : Spoiling := ⟨Option.none, 0⟩

def apply (spoiling : Spoiling) (replies : List CallReply) : List CallReply :=
  (match spoiling.keep with
    | some count => replies.take count
    | Option.none => replies) ++ List.replicate spoiling.added (.ok .null)

end Spoiling

/-- The first cue that fits, and the cues that are left after it has served. -/
def takeCue {α : Type} (fits : α → Bool) : List (Cue α) → Option (Cue α) × List (Cue α)
  | [] => (none, [])
  | cue :: rest =>
    if fits cue.content then (some cue, if cue.once then rest else cue :: rest)
    else
      let (found, rest) := takeCue fits rest
      (found, cue :: rest)

namespace Script

def empty : Script := ⟨[], [], []⟩

/-- The cues of one script and then those of another. -/
def append (first second : Script) : Script :=
  ⟨first.calls ++ second.calls, first.batches ++ second.batches, first.queries ++ second.queries⟩

def answerCall (call : Call) (script : Script) : Answer CallReply × Script :=
  match takeCue (·.fits call) script.calls with
  | (none, _) => (⟨.error s!"method {call.method} not implemented", 0⟩, script)
  | (some cue, calls) => (⟨cue.content.reply, cue.latency⟩, { script with calls := calls })

/-- The replies to calls, and the time that the slowest of them takes. -/
def answerCalls : List Call → Script → Answer (List CallReply) × Script
  | [], script => (⟨[], 0⟩, script)
  | call :: rest, script =>
    let (first, script) := answerCall call script
    let (others, script) := answerCalls rest script
    (⟨first.reply :: others.reply, max first.latency others.latency⟩, script)

/-- The replies to a batch whose list of replies is spoiled after a time of its own. -/
def answerSpoiled (calls : List Call) (spoiling : Spoiling) (latency : Nat) (script : Script) :
    Answer BatchReply × Script :=
  let (answer, script) := answerCalls calls script
  (⟨.ok (spoiling.apply answer.reply), max latency answer.latency⟩, script)

def answerBatch (calls : List Call) (script : Script) : Answer BatchReply × Script :=
  match takeCue (·.fits calls) script.batches with
  | (none, _) => answerSpoiled calls .none 0 script
  | (some cue, batches) =>
    let script := { script with batches := batches }
    match cue.content.effect with
    | .error message => (⟨.error message, cue.latency⟩, script)
    | .ok spoiling => answerSpoiled calls spoiling cue.latency script

def answerQuery (document : String) (script : Script) :
    Answer (Except String String) × Script :=
  match takeCue (·.fits document) script.queries with
  | (none, _) => (⟨.error "no graphql response", 0⟩, script)
  | (some cue, queries) => (⟨cue.content.reply, cue.latency⟩, { script with queries := queries })

/-- The node that a script plays. -/
def node : Responder Script := ⟨answerCall, answerBatch, answerQuery⟩

end Script

end RollupLedger
