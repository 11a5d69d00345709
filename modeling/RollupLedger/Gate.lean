import RollupLedger.Sum

/-!
The gate that admits expensive requests: so many units of capacity, shared by everything that runs.

Whoever asks for units is given a ticket. A ticket that finds enough units free is admitted at
once; otherwise it takes what there is and waits in a queue. Units that are returned go to the head
of the queue until it is satisfied, then to the next, and only then become free. Giving up a
ticket, admitted or waiting, returns all units it has.
-/

set_option autoImplicit false
set_option relaxedAutoImplicit false

namespace RollupLedger

/-- A ticket in the queue, with the units it has been given and those it still needs. -/
structure Waiter where
  ticket : Nat
  has : Nat
  needs : Nat
deriving DecidableEq, Repr

/-- An admitted ticket and its units. -/
structure Admitted where
  ticket : Nat
  units : Nat
deriving DecidableEq, Repr

structure Gate where
  capacity : Nat
  available : Nat
  queue : List Waiter
  admitted : List Admitted
  nextTicket : Nat
deriving DecidableEq, Repr

namespace Gate

/-- The least number at least 1 and at most `2 ^ 32 - 1` that is nearest to the one given. -/
def clampCapacity (capacity : Nat) : Nat := max 1 (min capacity (UInt32.size - 1))

def defaultCapacity : Nat := 100

def new (capacity : Nat) : Gate :=
  ⟨clampCapacity capacity, clampCapacity capacity, [], [], 0⟩

/-- Units that are asked for are at least one and at most the capacity. -/
def clampUnits (gate : Gate) (units : Nat) : Nat := max 1 (min units gate.capacity)

/-- Asks for units under a new ticket. -/
def acquire (gate : Gate) (units : Nat) : Nat × Gate :=
  let ticket := gate.nextTicket
  let wanted := gate.clampUnits units
  let gate := { gate with nextTicket := ticket + 1 }
  if wanted ≤ gate.available then
    (ticket, { gate with
      available := gate.available - wanted
      admitted := ⟨ticket, wanted⟩ :: gate.admitted })
  else
    (ticket, { gate with
      available := 0
      queue := gate.queue ++ [⟨ticket, gate.available, wanted - gate.available⟩] })

def isAdmitted (gate : Gate) (ticket : Nat) : Bool := gate.admitted.any (·.ticket == ticket)

/-- Deals units out to a queue: who is admitted by them, who still waits, and what is left over. -/
def deal : (units : Nat) → List Waiter → List Admitted × List Waiter × Nat
  | units, [] => ([], [], units)
  | units, waiter :: rest =>
    if waiter.needs ≤ units then
      let (admitted, waiting, left) := deal (units - waiter.needs) rest
      (⟨waiter.ticket, waiter.has + waiter.needs⟩ :: admitted, waiting, left)
    else
      ([], { waiter with has := waiter.has + units, needs := waiter.needs - units } :: rest, 0)

/-- Returns units to the queue and then to those that are free. -/
def give (gate : Gate) (units : Nat) : Gate :=
  let (admitted, waiting, left) := deal units gate.queue
  { gate with
    admitted := admitted ++ gate.admitted
    queue := waiting
    available := gate.available + left }

/-- The units that a ticket has, admitted or waiting. -/
def unitsOf (gate : Gate) (ticket : Nat) : Nat :=
  sumOf Admitted.units (gate.admitted.filter (·.ticket == ticket)) +
    sumOf Waiter.has (gate.queue.filter (·.ticket == ticket))

/-- Gives up a ticket and returns its units. -/
def release (gate : Gate) (ticket : Nat) : Gate :=
  let units := gate.unitsOf ticket
  ({ gate with
    admitted := gate.admitted.filter (·.ticket != ticket)
    queue := gate.queue.filter (·.ticket != ticket) } : Gate).give units

/-- The units of all admitted tickets. -/
def held (gate : Gate) : Nat := sumOf Admitted.units gate.admitted

end Gate

end RollupLedger
