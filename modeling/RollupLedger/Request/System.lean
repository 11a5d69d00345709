import RollupLedger.Request.Run

/-!
Everything that runs at one time: requests, each under its context, and guards that hold units of
the gate for their own sake. Whoever drives the system polls its tasks, moves the clock and cancels
tokens; each of these is an `Action`.

A context is looked at before its task: a task whose context is cancelled or past its deadline is
given up, whatever it had achieved. `System.drive` polls all tasks in order as long as one is
awake, and then moves the clock to the next time at which something happens, until every request
has its result.
-/

set_option autoImplicit false
set_option relaxedAutoImplicit false

namespace RollupLedger

/-- How far a request has come. -/
inductive Progress (α : Type) : Type where
  | planned {rounds : Nat} (plan : Plan α rounds)
  | running (run : Run α)
  | finished (result : Except ClientError α)

/-- How far a guard has come. -/
inductive Hold where
  | wanted
  | waiting (ticket : Nat)
  | holding (ticket units : Nat)
  | given
  | abandoned (why : Abandonment)
deriving DecidableEq, Repr

inductive Task (α : Type) : Type where
  | request (context : Context) (block : Option String) (progress : Progress α)
  | guard (context : Context) (units : Nat) (hold : Hold)

/-- A token that is cancelled at a time. -/
structure Alarm where
  time : Nat
  token : Token
deriving DecidableEq, Repr

structure System (α σ : Type) where
  tokens : Tokens
  alarms : List Alarm
  world : World σ
  tasks : List (Task α)

variable {α σ : Type}

namespace Progress

/-- A run as progress: one that is done has its result. -/
def ofRun : Run α → Progress α
  | .done result => finished result
  | run => running run

/-- Takes a request whose context is live as far as it can go. -/
def poll (block : Option String) (w : World σ) : Progress α → Progress α × World σ
  | planned plan =>
    let (run, w) := Run.start block plan w
    (ofRun run, w)
  | running run =>
    let (run, w) := run.poll block w
    (ofRun run, w)
  | finished result => (finished result, w)

/-- Gives a request up. -/
def drop (w : World σ) : Progress α → World σ
  | running run => run.drop w
  | _ => w

def isFinished : Progress α → Bool
  | finished _ => true
  | _ => false

def isAwake (w : World σ) : Progress α → Bool
  | planned _ => true
  | running run => run.isAwake w
  | finished _ => false

def dues : Progress α → List Nat
  | running run => run.dues
  | _ => []

def roundsLeft : Progress α → Nat
  | @planned _ rounds _ => rounds + 2
  | running run => run.roundsLeft
  | finished _ => 0

def stepsLeft : Progress α → Nat
  | running run => run.stepsLeft
  | _ => 0

end Progress

namespace Hold

def poll (w : World σ) (units : Nat) : Hold → Hold × World σ
  | wanted =>
    let (ticket, gate) := w.gate.acquire units
    let w := { w with gate := gate }
    if gate.isAdmitted ticket then (holding ticket (gate.clampUnits units), w)
    else (waiting ticket, w)
  | waiting ticket =>
    if w.gate.isAdmitted ticket then (holding ticket (w.gate.clampUnits units), w)
    else (waiting ticket, w)
  | hold => (hold, w)

/-- Whether a guard still waits for its units. -/
def isPending : Hold → Bool
  | wanted => true
  | waiting _ => true
  | _ => false

def isAwake (w : World σ) : Hold → Bool
  | wanted => true
  | waiting ticket => w.gate.isAdmitted ticket
  | _ => false

def stepsLeft : Hold → Nat
  | wanted => 2
  | waiting _ => 1
  | _ => 0

end Hold

namespace Task

def context : Task α → Context
  | request context _ _ => context
  | guard context _ _ => context

/-- Whether a task has not come to an end; a guard ends when it holds its units. -/
def isPending : Task α → Bool
  | request _ _ progress => !progress.isFinished
  | guard _ _ hold => hold.isPending

/-- Gives a pending task up because of its context. -/
def abandon (w : World σ) (why : Abandonment) : Task α → Task α × World σ
  | request context block progress =>
    (request context block (.finished (.error (.abandoned why))), progress.drop w)
  | guard context units (.waiting ticket) =>
    (guard context units (.abandoned why), { w with gate := w.gate.release ticket })
  | guard context units _ => (guard context units (.abandoned why), w)

/-- Looks at a pending task's context, and then takes it as far as it can go. -/
def poll (tokens : Tokens) (w : World σ) (task : Task α) : Task α × World σ :=
  if !task.isPending then (task, w)
  else
    match task.context.verdict tokens w.now, task with
    | some why, task => task.abandon w why
    | none, request context block progress =>
      let (progress, w) := progress.poll block w
      (request context block progress, w)
    | none, guard context units hold =>
      let (hold, w) := hold.poll w units
      (guard context units hold, w)

/-- Returns the units that a guard holds. -/
def release (w : World σ) : Task α → Task α × World σ
  | guard context units (.holding ticket _) =>
    (guard context units .given, { w with gate := w.gate.release ticket })
  | task => (task, w)

/-- Whether polling a task would take it further. -/
def isAwake (tokens : Tokens) (w : World σ) (task : Task α) : Bool :=
  task.isPending &&
    ((task.context.verdict tokens w.now).isSome ||
      match task with
      | request _ _ progress => progress.isAwake w
      | guard _ _ hold => hold.isAwake w)

/-- The times at which something happens to a pending task by itself. -/
def times (task : Task α) : List Nat :=
  if !task.isPending then []
  else
    task.context.deadline.toList ++
      match task with
      | request _ _ progress => progress.dues
      | guard .. => []

def roundsLeft : Task α → Nat
  | request _ _ progress => progress.roundsLeft
  | guard .. => 0

def stepsLeft : Task α → Nat
  | request _ _ progress => progress.stepsLeft
  | guard _ _ hold => hold.stepsLeft

end Task

/-- What may happen to a system from outside. -/
inductive Action (α : Type) : Type where
  | spawn (task : Task α)
  | poll (index : Nat)
  | release (index : Nat)
  | cancel (token : Token)
  | elapse (time : Nat)

namespace System

/-- Polls the task at a place. -/
def pollAt (s : System α σ) (index : Nat) : System α σ :=
  match s.tasks[index]? with
  | none => s
  | some task =>
    let (task, world) := task.poll s.tokens s.world
    { s with tasks := s.tasks.set index task, world := world }

def releaseAt (s : System α σ) (index : Nat) : System α σ :=
  match s.tasks[index]? with
  | none => s
  | some task =>
    let (task, world) := task.release s.world
    { s with tasks := s.tasks.set index task, world := world }

def cancel (s : System α σ) (token : Token) : System α σ :=
  { s with tokens := s.tokens.cancel token }

/-- Moves the clock forward in one step; alarms that are due by then go off. -/
def elapse (s : System α σ) (time : Nat) : System α σ :=
  let due := s.alarms.filter fun alarm => alarm.time ≤ time
  { s with
    world := { s.world with now := max s.world.now time }
    tokens := due.foldl (fun tokens alarm => tokens.cancel alarm.token) s.tokens
    alarms := s.alarms.filter fun alarm => time < alarm.time }

def spawn (s : System α σ) (task : Task α) : System α σ := { s with tasks := s.tasks ++ [task] }

def act (s : System α σ) : Action α → System α σ
  | .spawn task => s.spawn task
  | .poll index => s.pollAt index
  | .release index => s.releaseAt index
  | .cancel token => s.cancel token
  | .elapse time => s.elapse time

/-- Polls every task once, in order. -/
def pass (s : System α σ) : System α σ := (List.range s.tasks.length).foldl pollAt s

def isAwake (s : System α σ) : Bool := s.tasks.any fun task => task.isAwake s.tokens s.world

/-- Whether every task has come to an end. -/
def isIdle (s : System α σ) : Bool := s.tasks.all fun task => !task.isPending

/-- The next time after now at which something happens by itself. -/
def nextTime? (s : System α σ) : Option Nat :=
  let times := s.tasks.flatMap Task.times ++ s.alarms.map Alarm.time
  (times.filter fun time => s.world.now < time).min?

/-- How much lies before the tasks at most: rounds, and the steps of the present round. -/
def rank (s : System α σ) : Nat × Nat :=
  (sumOf Task.roundsLeft s.tasks, sumOf Task.stepsLeft s.tasks + s.alarms.length)

def rankBelow (a b : Nat × Nat) : Bool := a.1 < b.1 || (a.1 == b.1 && a.2 < b.2)

theorem lex_of_rankBelow {a b : Nat × Nat} (h : rankBelow a b = true) :
    Prod.Lex (· < ·) (· < ·) a b := by
  obtain ⟨a₁, a₂⟩ := a
  obtain ⟨b₁, b₂⟩ := b
  simp only [rankBelow, Bool.or_eq_true, decide_eq_true_eq, Bool.and_eq_true, beq_iff_eq] at h
  rcases h with h | ⟨rfl, h⟩
  · exact Prod.Lex.left _ _ h
  · exact Prod.Lex.right _ h

/-- Polls all tasks as long as one of them is awake. -/
def settle (s : System α σ) : System α σ :=
  if !s.isAwake then s
  else
    let next := s.pass
    if _ : rankBelow next.rank s.rank then settle next else next
termination_by s.rank
decreasing_by exact lex_of_rankBelow ‹_›

/-- Polls all tasks, at the next time at which something happens if none is awake now. -/
def turn (s : System α σ) : System α σ :=
  if s.isAwake then s.pass
  else
    match s.nextTime? with
    | some time => (s.elapse time).pass
    | none => s

/-- Takes turns until every task has come to an end or nothing more can happen. -/
def drive (s : System α σ) : System α σ :=
  if s.isIdle then s
  else
    let next := s.turn
    if _ : rankBelow next.rank s.rank then drive next else next
termination_by s.rank
decreasing_by exact lex_of_rankBelow ‹_›

end System

end RollupLedger
