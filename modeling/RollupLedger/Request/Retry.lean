import RollupLedger.Event

/-!
Sending a request again when it fails on its way. A failure to reach the node is retried so many
times, after a pause each; whatever the node itself answers, even an error, and a request that
cannot be sent at all are final. Every request begins with all its retries.

An `Errand` is one request together with what has become of it. `RetryPolicy.send` takes an errand
to its end against a service that answers at once. On a `Switchboard` many errands are on their way
at a time, for a service and its clones, and answers come in whatever order they like.
-/

set_option autoImplicit false
set_option relaxedAutoImplicit false

namespace RollupLedger

/-- The pause before a retry in milliseconds, and how many retries a request has. -/
structure RetryPolicy where
  backoff : Nat
  retries : Word 32
deriving DecidableEq

/-- Why sending fails: on the way to the node, or because of the request itself. -/
inductive SendFailure where
  | transport (text : String)
  | usage (text : String)
deriving DecidableEq, Repr

namespace SendFailure

/-- The connection to the node is no longer there. -/
def gone : SendFailure := transport "backend connection task has stopped"

def message : SendFailure → String
  | transport text => text
  | usage text => s!"local usage error: {text}"

def isRetried : SendFailure → Bool
  | transport _ => true
  | usage _ => false

end SendFailure

/-- Sends requests of type `ρ` and brings responses of type `β`, with a state of its own. -/
abbrev Service (ρ β σ : Type) := ρ → σ → Except SendFailure β × σ

/-- A policy at work for one request, and how many retries that request has behind it. -/
structure Trial where
  policy : RetryPolicy
  attempt : Word 32
deriving DecidableEq

namespace Trial

variable {β : Type}

def fresh (policy : RetryPolicy) : Trial := ⟨policy, 0⟩

/-- Whether a request with this outcome is sent again. -/
def retries (trial : Trial) : Except SendFailure β → Bool
  | .ok _ => false
  | .error failure => failure.isRetried && decide (trial.attempt < trial.policy.retries)

/-- The trial with one more retry behind it; the count starts over after the largest word. -/
def next (trial : Trial) : Trial :=
  { trial with attempt := .wrap 32 (trial.attempt.toNat + 1) }

/-- What is noted before a request with this outcome is sent again. -/
def remarks (trial : Trial) : Except SendFailure β → List Event
  | .ok _ => []
  | .error failure => [.retrying trial.next.attempt.toNat failure.message]

/-- How many more retries there may be. -/
def left (trial : Trial) : Nat := trial.policy.retries.toNat - trial.attempt.toNat

theorem attempt_lt_of_retries {trial : Trial} {outcome : Except SendFailure β}
    (h : trial.retries outcome = true) : trial.attempt.toNat < trial.policy.retries.toNat := by
  cases outcome with
  | ok _ => cases h
  | error failure =>
    rw [retries, Bool.and_eq_true, decide_eq_true_iff] at h
    exact h.2

theorem toNat_attempt_next {trial : Trial}
    (h : trial.attempt.toNat < trial.policy.retries.toNat) :
    trial.next.attempt.toNat = trial.attempt.toNat + 1 :=
  Nat.mod_eq_of_lt (Nat.lt_of_le_of_lt h trial.policy.retries.isLt)

theorem left_next_lt {trial : Trial} (h : trial.attempt.toNat < trial.policy.retries.toNat) :
    trial.next.left < trial.left := by
  have hnext := toNat_attempt_next h
  show trial.policy.retries.toNat - trial.next.attempt.toNat < trial.left
  rw [hnext, left]
  omega

end Trial

/-- What a request waits for: an answer of the service, or the end of a pause. An outcome ends it,
at a time. -/
inductive Stage (β : Type) where
  | asking
  | pausing (due : Nat)
  | ended (outcome : Except SendFailure β) (time : Nat)

/-- A request that may be sent again: what the service was asked and what it answered, both with
their times, and what was noted. -/
structure Errand (ρ β : Type) where
  request : ρ
  trial : Trial
  asked : List (ρ × Nat)
  answers : List (Except SendFailure β × Nat)
  events : List Event
  stage : Stage β

namespace Errand

variable {ρ β σ : Type}

/-- Asks the service. -/
def ask (errand : Errand ρ β) (time : Nat) : Errand ρ β :=
  { errand with asked := errand.asked ++ [(errand.request, time)], stage := .asking }

def begin (trial : Trial) (request : ρ) (time : Nat) : Errand ρ β :=
  ask ⟨request, trial, [], [], [], .asking⟩ time

/-- Takes an answer of the service: it is either final, or a pause comes before the next try. -/
def hear (errand : Errand ρ β) (outcome : Except SendFailure β) (time : Nat) : Errand ρ β :=
  let answers := errand.answers ++ [(outcome, time)]
  if errand.trial.retries outcome then
    { errand with
      answers := answers
      events := errand.events ++ errand.trial.remarks outcome
      stage := .pausing (time + errand.trial.policy.backoff) }
  else { errand with answers := answers, stage := .ended outcome time }

/-- Tries again after a pause. -/
def resume (errand : Errand ρ β) (time : Nat) : Errand ρ β :=
  { errand with trial := errand.trial.next }.ask time

/-- Takes an answer, if one is awaited. -/
def receive (errand : Errand ρ β) (outcome : Except SendFailure β) (now : Nat) : Errand ρ β :=
  match errand.stage with
  | .asking => errand.hear outcome now
  | _ => errand

/-- Goes on, if a pause is over. -/
def wake (errand : Errand ρ β) (now : Nat) : Errand ρ β :=
  match errand.stage with
  | .pausing due => if due ≤ now then errand.resume now else errand
  | _ => errand

/-- When the pause of an errand is over, if it pauses. -/
def due? (errand : Errand ρ β) : Option Nat :=
  match errand.stage with
  | .pausing due => some due
  | _ => none

theorem attempt_lt_of_pausing {errand : Errand ρ β} {outcome : Except SendFailure β}
    {time due : Nat} (h : (errand.hear outcome time).stage = .pausing due) :
    errand.trial.attempt.toNat < errand.trial.policy.retries.toNat := by
  unfold hear at h
  simp only at h
  split at h
  · exact Trial.attempt_lt_of_retries ‹_›
  · cases h

theorem trial_hear (errand : Errand ρ β) (outcome : Except SendFailure β) (time : Nat) :
    (errand.hear outcome time).trial = errand.trial := by
  unfold hear
  simp only
  split <;> rfl

end Errand

/-- How a request went: its last outcome, what has become of it, and the time and the service's
state at the end. -/
structure Course (ρ β σ : Type) where
  outcome : Except SendFailure β
  errand : Errand ρ β
  time : Nat
  state : σ

namespace Course

variable {ρ β σ : Type}

/-- The requests that were made, with their times. -/
def calls (course : Course ρ β σ) : List (ρ × Nat) := course.errand.asked

def events (course : Course ρ β σ) : List Event := course.errand.events

end Course

namespace Errand

variable {ρ β σ : Type}

/-- Takes an errand that asks the service to its end, against a service that answers at once. -/
def drive (service : Service ρ β σ) (errand : Errand ρ β) (time : Nat) (state : σ) :
    Course ρ β σ :=
  let (outcome, state) := service errand.request state
  let heard := errand.hear outcome time
  match _ : heard.stage with
  | .pausing due => drive service (heard.resume due) due state
  | _ => ⟨outcome, heard, time, state⟩
termination_by errand.trial.left
decreasing_by
  have hlt := attempt_lt_of_pausing ‹_›
  show (errand.hear outcome time).trial.next.left < errand.trial.left
  rw [trial_hear]
  exact Trial.left_next_lt hlt

end Errand

namespace RetryPolicy

variable {ρ β σ : Type}

/-- Sends a request with all its retries. -/
def send (policy : RetryPolicy) (service : Service ρ β σ) (request : ρ) (time : Nat) (state : σ) :
    Course ρ β σ :=
  (Errand.begin (.fresh policy) request time).drive service time state

/-- Sends requests one after another. -/
def sendAll (policy : RetryPolicy) (service : Service ρ β σ) :
    List ρ → (time : Nat) → σ → List (Course ρ β σ)
  | [], _, _ => []
  | request :: rest, time, state =>
    let course := policy.send service request time state
    course :: sendAll policy service rest course.time course.state

end RetryPolicy

/-- A service whose outcomes are listed beforehand; when the list is at its end, every request
brings the response given for that case. -/
def listed {ρ β : Type} (final : β) : Service ρ β (List (Except SendFailure β)) := fun _ outcomes =>
  match outcomes with
  | [] => (.ok final, [])
  | outcome :: rest => (outcome, rest)

/-! ### Many errands at a time -/

/-- A service with its clones, each with a policy of its own, and the errands they were sent on. -/
structure Switchboard (ρ β : Type) where
  services : List Trial
  errands : List (Errand ρ β)
  now : Nat

/-- What may happen on a switchboard. Services and errands are named by their places. -/
inductive Move (ρ β : Type) where
  | clone (service : Nat)
  | call (service : Nat) (request : ρ)
  | answer (errand : Nat) (outcome : Except SendFailure β)
  | resume (errand : Nat)
  | elapse (time : Nat)

namespace Switchboard

variable {ρ β : Type}

/-- A service of which there are no clones, and which was never called. -/
def opened (policy : RetryPolicy) (now : Nat) : Switchboard ρ β := ⟨[.fresh policy], [], now⟩

def clone (board : Switchboard ρ β) (service : Nat) : Switchboard ρ β :=
  { board with services := board.services ++ board.services[service]?.toList }

/-- Sends a request under a copy of the service's policy, and asks at once. -/
def call (board : Switchboard ρ β) (service : Nat) (request : ρ) : Switchboard ρ β :=
  let begun := board.services[service]?.map fun trial => Errand.begin trial request board.now
  { board with errands := board.errands ++ begun.toList }

/-- Lets an errand take a step. -/
def stepAt (board : Switchboard ρ β) (place : Nat) (step : Errand ρ β → Errand ρ β) :
    Switchboard ρ β :=
  { board with errands := board.errands.modify place step }

def answer (board : Switchboard ρ β) (place : Nat) (outcome : Except SendFailure β) :
    Switchboard ρ β :=
  board.stepAt place fun errand => errand.receive outcome board.now

def resume (board : Switchboard ρ β) (place : Nat) : Switchboard ρ β :=
  board.stepAt place fun errand => errand.wake board.now

/-- Moves the clock forward, unless a pause would be over before. -/
def elapse (board : Switchboard ρ β) (time : Nat) : Switchboard ρ β :=
  if board.errands.all fun errand => errand.due?.all fun due => decide (time ≤ due) then
    { board with now := max board.now time }
  else board

def act (board : Switchboard ρ β) : Move ρ β → Switchboard ρ β
  | .clone service => board.clone service
  | .call service request => board.call service request
  | .answer errand outcome => board.answer errand outcome
  | .resume errand => board.resume errand
  | .elapse time => board.elapse time

def run (board : Switchboard ρ β) (moves : List (Move ρ β)) : Switchboard ρ β :=
  moves.foldl act board

end Switchboard

end RollupLedger
