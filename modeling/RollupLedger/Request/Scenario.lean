import RollupLedger.Request.System

/-!
Contexts and the gate step by step. A scenario derives contexts from one another, cancels them,
lets time pass, and starts and releases tasks, all of them under names; after each step the tasks
run until they wait.

A name stands for the task started last under it. What is held under a name is returned when
something else takes its place.
-/

set_option autoImplicit false
set_option relaxedAutoImplicit false

namespace RollupLedger

/-- Where a context comes from. -/
inductive Derivation where
  | new
  | child (parent : String)
  | clone (source : String)
  | token (name : String)
deriving DecidableEq, Repr

namespace Scenario

inductive Step where
  | derive (name : String) (derivation : Derivation) (timeouts : List Nat)
  | cancelToken (name : String)
  | cancel (context : String)
  | advance (time : Nat)
  | acquire (name : String) (units : Nat) (context : String)
  | release (name : String)
  | work (name : String) (time : Nat) (context : String) (fails : Bool)
deriving DecidableEq, Repr

/-- What is shown of the task under a name. -/
inductive Cell where
  | pending
  | held (index units : Nat)
  | done (result : Except ClientError Unit)
  | released

/-- Values under names, the last one given to a name being the one it has. -/
abbrev Named (α : Type) := List (String × α)

/-- Gives a name a value. -/
def assign {α : Type} (name : String) (value : α) : Named α → Named α
  | [] => [(name, value)]
  | (k, v) :: rest => if k = name then (name, value) :: rest else (k, v) :: assign name value rest

/-- Work that takes some time and then succeeds or fails. -/
def workPlan (time : Nat) (fails : Bool) : Plan Unit 1 :=
  .call ⟨"work", .nat time⟩ fun _ => .done (if fails then .error .notFound else .ok ())

/-- Answers a call after as many milliseconds as its parameters say. -/
def timer : Responder Unit where
  call c state :=
    (⟨.ok .null, match c.params with
      | .int time => time.toNat
      | _ => 0⟩, state)
  batch calls state := (⟨.ok (calls.map fun _ => .ok .null), 0⟩, state)
  query _ state := (⟨.ok "", 0⟩, state)

/-- What a task that has come to an end shows under its name. -/
def outcome? (index : Nat) : Task Unit → Option Cell
  | .request _ _ (.finished result) => some (.done result)
  | .guard _ _ (.holding _ units) => some (.held index units)
  | .guard _ _ (.abandoned why) => some (.done (.error (.abandoned why)))
  | _ => none

end Scenario

/-- The tasks whose ends have not been shown yet are in `running`, with their names. -/
structure Scenario where
  system : System Unit Unit
  contexts : Scenario.Named Context
  tokens : Scenario.Named Token
  cells : Scenario.Named Scenario.Cell
  running : List (Nat × String)

namespace Scenario

/-- The beginning: one context, named `root`, and a gate of the given capacity. -/
def begin (capacity : Nat) : Scenario :=
  let (token, tokens) := Tokens.empty.fresh
  { system := ⟨tokens, [], ⟨timer, (), 0, .new capacity, 0, 0, []⟩, []⟩
    contexts := [("root", .ofToken token)]
    tokens := []
    cells := []
    running := [] }

def now (s : Scenario) : Nat := s.system.world.now

/-- Puts something in the place of what a name shows, and returns what was held there. -/
def replace (s : Scenario) (name : String) (cell : Cell) : Scenario :=
  { s with
    system := match s.cells.lookup name with
      | some (.held index _) => s.system.releaseAt index
      | _ => s.system
    cells := assign name cell s.cells }

/-- Shows the ends of tasks in the order in which they were started. -/
def report (s : Scenario) : Scenario :=
  s.running.foldl (fun s (index, name) =>
      match s.system.tasks[index]?.bind (outcome? index) with
      | none => { s with running := s.running ++ [(index, name)] }
      | some cell => s.replace name cell)
    { s with running := [] }

/-- Lets the tasks run until they wait, and shows those that have ended. What is returned thereby
may let others end, at most all that are running. -/
def settle (s : Scenario) : Scenario :=
  (List.range (s.running.length + 1)).foldl
    (fun s _ => ({ s with system := s.system.settle } : Scenario).report) s

/-- Starts a task under a name. -/
def start (s : Scenario) (name context : String) (task : Context → Task Unit) : Scenario :=
  match s.contexts.lookup context with
  | none => s
  | some context =>
    let s := s.replace name .pending
    { s with
      system := s.system.spawn (task context)
      running := s.running ++ [(s.system.tasks.length, name)] }

/-- The token under a name, which is made when it is first asked for. -/
def tokenOf (s : Scenario) (name : String) : Token × Scenario :=
  match s.tokens.lookup name with
  | some token => (token, s)
  | none =>
    let (token, tokens) := s.system.tokens.fresh
    (token, { s with
      system := { s.system with tokens := tokens }
      tokens := assign name token s.tokens })

/-- The context that a derivation gives, if the context it begins with is there. -/
def derived? (s : Scenario) : Derivation → Option (Context × Scenario)
  | .new =>
    let (token, tokens) := s.system.tokens.fresh
    some (.ofToken token, { s with system := { s.system with tokens := tokens } })
  | .child parent => (s.contexts.lookup parent).map fun context =>
    let (context, tokens) := context.child s.system.tokens
    (context, { s with system := { s.system with tokens := tokens } })
  | .clone source => (s.contexts.lookup source).map fun context => (context, s)
  | .token name =>
    let (token, s) := s.tokenOf name
    some (.ofToken token, s)

def cancel (s : Scenario) (token : Token) : Scenario := { s with system := s.system.cancel token }

/-- Takes a step, before any task runs. -/
def apply (s : Scenario) : Step → Scenario
  | .derive name derivation timeouts =>
    match s.derived? derivation with
    | none => s
    | some (context, s) =>
      let context := timeouts.foldl (fun c timeout => c.withTimeout s.now timeout) context
      { s with contexts := assign name context s.contexts }
  | .cancelToken name =>
    let (token, s) := s.tokenOf name
    s.cancel token
  | .cancel context =>
    match s.contexts.lookup context with
    | none => s
    | some context => s.cancel context.token
  | .advance time => { s with system := s.system.elapse (s.now + time) }
  | .acquire name units context => s.start name context fun c => .guard c units .wanted
  | .release name => s.replace name .released
  | .work name time context fails =>
    s.start name context fun c => .request c none (.planned (workPlan time fails))

def step (s : Scenario) (next : Step) : Scenario := (s.apply next).settle

end Scenario

end RollupLedger
