import RollupLedger.Request.World

/-!
A plan that is being carried out. It waits for one reply, or for the two lanes of replies it asked
for at once; `Run.poll` takes it as far as it can go without waiting.

In a lane every job starts at once, those that cost units when the gate admits them. Jobs are
visited in order, and the first rejected reply that has all earlier replies before it ends the
plan. Ending a plan lands its flights and gives up its tickets.
-/

set_option autoImplicit false
set_option relaxedAutoImplicit false

namespace RollupLedger

/-- How far a job has come. -/
inductive Slot where
  | idle
  | waiting (ticket : Nat)
  | flying (flight : Flight) (reply : BatchReply)
  | finished (reply : BatchReply)

/-- A lane that is being carried out: its jobs and how far each has come. -/
structure LaneRun where
  lane : Lane
  slots : List (Job × Slot)

inductive Run (α : Type) : Type where
  | done (result : Except ClientError α)
  | sleeping {rounds : Nat} (flight : Flight) (rest : Plan α rounds)
  | lanes {rounds : Nat} (left right : LaneRun)
    (next : List BatchReply → List BatchReply → Plan α rounds)

variable {σ α : Type}

namespace Slot

def reply? : Slot → Option BatchReply
  | finished reply => some reply
  | _ => none

/-- Sends a job that needs no more admission. A reply that takes no time is there at once. -/
def launch (w : World σ) (block : Option String) (job : Job) (ticket : Option Nat) :
    Slot × World σ :=
  let (answer, w) := w.sendJob block job
  let flight : Flight := ⟨ticket, (Request.batch job.calls).traces, w.now + answer.latency⟩
  if answer.latency = 0 then (finished answer.reply, w.land flight)
  else (flying flight answer.reply, w)

/-- Asks the gate for a job's units, and sends it if it is admitted at once. -/
def enter (w : World σ) (block : Option String) (job : Job) (units : Nat) : Slot × World σ :=
  let (ticket, gate) := w.gate.acquire units
  let w := { w with gate := gate }
  if gate.isAdmitted ticket then launch w block job (some ticket) else (waiting ticket, w)

/-- Takes a job as far as it can go without waiting. -/
def poll (w : World σ) (block : Option String) (job : Job) : Slot → Slot × World σ
  | idle =>
    match job.units with
    | some units => enter w block job units
    | none => launch w block job none
  | waiting ticket =>
    if w.gate.isAdmitted ticket then launch w block job (some ticket) else (waiting ticket, w)
  | flying flight reply =>
    if flight.due ≤ w.now then (finished reply, w.land flight) else (flying flight reply, w)
  | finished reply => (finished reply, w)

/-- Gives a job up. -/
def drop (w : World σ) : Slot → World σ
  | idle => w
  | waiting ticket => { w with gate := w.gate.release ticket }
  | flying flight _ => w.land flight
  | finished _ => w

/-- Whether polling a job would take it further. -/
def isAwake (w : World σ) : Slot → Bool
  | idle => true
  | waiting ticket => w.gate.isAdmitted ticket
  | flying flight _ => flight.due ≤ w.now
  | finished _ => false

def due? : Slot → Option Nat
  | flying flight _ => some flight.due
  | _ => none

/-- How many steps a job has before it. -/
def stepsLeft : Slot → Nat
  | idle => 3
  | waiting _ => 2
  | flying _ _ => 1
  | finished _ => 0

end Slot

namespace LaneRun

def start (lane : Lane) : LaneRun := ⟨lane, lane.jobs.map (·, .idle)⟩

/-- Polls jobs in order. `open` says that all earlier jobs have replies; then a rejected reply ends
the visit. -/
def pollSlots (reject : Job → BatchReply → Option ClientError) (block : Option String) :
    (isOpen : Bool) → World σ → List (Job × Slot) →
    List (Job × Slot) × Option ClientError × World σ
  | _, w, [] => ([], none, w)
  | isOpen, w, (job, slot) :: rest =>
    let (slot, w) := slot.poll w block job
    match slot.reply?, isOpen with
    | some reply, true =>
      match reject job reply with
      | some e => ((job, slot) :: rest, some e, w)
      | none =>
        let (rest, e, w) := pollSlots reject block true w rest
        ((job, slot) :: rest, e, w)
    | _, _ =>
      let (rest, e, w) := pollSlots reject block false w rest
      ((job, slot) :: rest, e, w)

/-- All replies in order, if they are there. -/
def replies? (run : LaneRun) : Option (List BatchReply) := run.slots.mapM fun s => s.2.reply?

/-- Takes a lane as far as it can go without waiting; the error is what ends the plan. -/
def poll (w : World σ) (block : Option String) (run : LaneRun) :
    LaneRun × Option ClientError × World σ :=
  let (slots, e, w) := pollSlots run.lane.reject block true w run.slots
  let run : LaneRun := { run with slots := slots }
  match e with
  | some e => (run, some e, w)
  | none => (run, run.replies?.bind run.lane.close, w)

def drop (w : World σ) (run : LaneRun) : World σ := run.slots.foldl (fun w s => s.2.drop w) w

def isAwake (w : World σ) (run : LaneRun) : Bool := run.slots.any fun s => s.2.isAwake w

def dues (run : LaneRun) : List Nat := run.slots.filterMap fun s => s.2.due?

def stepsLeft (run : LaneRun) : Nat := sumOf (fun s => s.2.stepsLeft) run.slots

end LaneRun

namespace Run

/-- Two lanes after a visit: the left one is visited first, and an error of it ends the plan before
the right one is visited. -/
inductive Visit where
  | failed (error : ClientError)
  | complete (left right : List BatchReply)
  | pending (left right : LaneRun)

def visit (w : World σ) (block : Option String) (left right : LaneRun) : Visit × World σ :=
  let (left, e, w) := left.poll w block
  match e with
  | some e => (.failed e, right.drop (left.drop w))
  | none =>
    let (right, e, w) := right.poll w block
    match e with
    | some e => (.failed e, right.drop (left.drop w))
    | none =>
      match left.replies?, right.replies? with
      | some l, some r => (.complete l r, w)
      | _, _ => (.pending left right, w)

/-- Takes a plan as far as it can go without waiting. -/
def start (block : Option String) : {rounds : Nat} → Plan α rounds → World σ → Run α × World σ
  | _, .done result, w => (done result, w)
  | _, .note event next, w => start block next (w.note block event)
  | _, .call c next, w =>
    let (answer, w) := w.sendCall block c
    let flight : Flight := ⟨none, (Request.call c).traces, w.now + answer.latency⟩
    if answer.latency = 0 then start block (next answer.reply) (w.land flight)
    else (sleeping flight (next answer.reply), w)
  | _, .batch cs next, w =>
    let (answer, w) := w.sendBatch block cs
    let flight : Flight := ⟨none, (Request.batch cs).traces, w.now + answer.latency⟩
    if answer.latency = 0 then start block (next answer.reply) (w.land flight)
    else (sleeping flight (next answer.reply), w)
  | _, .query document next, w =>
    let (answer, w) := w.sendQuery block document
    let flight : Flight := ⟨none, 0, w.now + answer.latency⟩
    if answer.latency = 0 then start block (next answer.reply) (w.land flight)
    else (sleeping flight (next answer.reply), w)
  | _, .both left right next, w =>
    match visit w block (.start left) (.start right) with
    | (.failed e, w) => (done (.error e), w)
    | (.complete l r, w) => start block (next l r) w
    | (.pending l r, w) => (lanes l r next, w)

/-- Takes a run as far as it can go without waiting. -/
def poll (block : Option String) (w : World σ) : Run α → Run α × World σ
  | done result => (done result, w)
  | sleeping flight rest =>
    if flight.due ≤ w.now then start block rest (w.land flight) else (sleeping flight rest, w)
  | lanes left right next =>
    match visit w block left right with
    | (.failed e, w) => (done (.error e), w)
    | (.complete l r, w) => start block (next l r) w
    | (.pending l r, w) => (lanes l r next, w)

/-- Gives a run up. -/
def drop (w : World σ) : Run α → World σ
  | done _ => w
  | sleeping flight _ => w.land flight
  | lanes left right _ => right.drop (left.drop w)

def isAwake (w : World σ) : Run α → Bool
  | done _ => false
  | sleeping flight _ => flight.due ≤ w.now
  | lanes left right _ => left.isAwake w || right.isAwake w

/-- The times at which replies are due. -/
def dues : Run α → List Nat
  | done _ => []
  | sleeping flight _ => [flight.due]
  | lanes left right _ => left.dues ++ right.dues

/-- How many rounds a run may still wait for. -/
def roundsLeft : Run α → Nat
  | done _ => 0
  | @sleeping _ rounds _ _ => rounds + 1
  | @lanes _ rounds _ _ _ => rounds + 1

/-- How many steps the jobs of a run have before them. -/
def stepsLeft : Run α → Nat
  | done _ => 0
  | sleeping _ _ => 0
  | lanes left right _ => left.stepsLeft + right.stepsLeft

end Run

end RollupLedger
