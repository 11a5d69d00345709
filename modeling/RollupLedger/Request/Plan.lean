import RollupLedger.Client.Error
import RollupLedger.Event

/-!
Plans: what a request asks of the node and what it makes of the answers, without saying when
anything happens. A plan asks one thing, continues with the answer, and in the end has a result. At
one place it may ask for two lanes of things at once.

The number in the type bounds how many rounds of asking are left.
-/

set_option autoImplicit false
set_option relaxedAutoImplicit false

namespace RollupLedger

/-- A method of the node with its parameters. -/
structure Call where
  method : String
  params : Json
deriving DecidableEq

/-- What a single call brings: a value, or why there is none. -/
abbrev CallReply := Except String Json

/-- What a batch brings: why the round trip failed, or a reply for each call in it. -/
abbrev BatchReply := Except String (List CallReply)

/-- The method whose calls are counted and admitted through the gate. -/
def traceMethod : String := "debug_traceTransaction"

/-- One thing asked of the node in a lane, after admission if it costs units. -/
structure Job where
  units : Option Nat
  batched : Bool
  calls : List Call
deriving DecidableEq

/-- Jobs that run at once and whose replies are taken in order. A reply for which `reject` gives an
error ends the lane as soon as all earlier jobs have their replies; when all replies are there,
`close` may still give an error. -/
structure Lane where
  jobs : List Job
  reject : Job → BatchReply → Option ClientError
  close : List BatchReply → Option ClientError

inductive Plan (α : Type) : (rounds : Nat) → Type where
  | done {rounds : Nat} (result : Except ClientError α) : Plan α rounds
  | note {rounds : Nat} (event : Event) (next : Plan α rounds) : Plan α rounds
  | call {rounds : Nat} (call : Call) (next : CallReply → Plan α rounds) : Plan α (rounds + 1)
  | batch {rounds : Nat} (calls : List Call) (next : BatchReply → Plan α rounds) :
    Plan α (rounds + 1)
  | query {rounds : Nat} (document : String) (next : Except String String → Plan α rounds) :
    Plan α (rounds + 1)
  | both {rounds : Nat} (left right : Lane)
    (next : List BatchReply → List BatchReply → Plan α rounds) : Plan α (rounds + 1)

namespace Plan

variable {α β : Type} {rounds : Nat}

/-- Continues with a result, or ends with its error. -/
def andThen {γ : Type} (result : Except ClientError γ) (next : γ → Plan α rounds) :
    Plan α rounds :=
  match result with
  | .ok c => next c
  | .error e => done (.error e)

/-- Notes events in order. -/
def notes (events : List Event) (next : Plan α rounds) : Plan α rounds :=
  events.foldr note next

def map (f : α → β) : {rounds : Nat} → Plan α rounds → Plan β rounds
  | _, done result => done (result.map f)
  | _, note event next => note event (map f next)
  | _, call c next => call c fun reply => map f (next reply)
  | _, batch cs next => batch cs fun reply => map f (next reply)
  | _, query document next => query document fun reply => map f (next reply)
  | _, both left right next => both left right fun l r => map f (next l r)

end Plan

end RollupLedger
