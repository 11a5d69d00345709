/-!
The scope of a request: a token by which it can be cancelled, and a deadline. A context may have
children, which are cancelled with it and can be cancelled on their own.

A token is the path from itself up to where its line of derivation began, so a token descends from
another exactly if that one's path ends its own. `Tokens` remembers which tokens were cancelled.
-/

set_option autoImplicit false
set_option relaxedAutoImplicit false

namespace RollupLedger

/-- The names of a token and of those it descends from, its own first. -/
structure Token where
  path : List Nat
deriving DecidableEq, Repr

/-- Whether a token is another one or descends from it. -/
def Token.isWithin (token ancestor : Token) : Bool := ancestor.path.isSuffixOf token.path

/-- The names given so far are those below `next`. -/
structure Tokens where
  next : Nat
  cancelled : List Token
deriving DecidableEq, Repr

namespace Tokens

def empty : Tokens := ⟨0, []⟩

/-- A token that descends from no other. -/
def fresh (tokens : Tokens) : Token × Tokens :=
  (⟨[tokens.next]⟩, { tokens with next := tokens.next + 1 })

/-- A new token that descends from the given one. -/
def child (tokens : Tokens) (parent : Token) : Token × Tokens :=
  (⟨tokens.next :: parent.path⟩, { tokens with next := tokens.next + 1 })

def cancel (tokens : Tokens) (token : Token) : Tokens :=
  { tokens with cancelled := token :: tokens.cancelled }

def isCancelled (tokens : Tokens) (token : Token) : Bool :=
  tokens.cancelled.any fun ancestor => token.isWithin ancestor

end Tokens

/-- Token and deadline of a request. Copies share the token. -/
structure Context where
  token : Token
  deadline : Option Nat
deriving DecidableEq, Repr

/-- Why a request is abandoned. -/
inductive Abandonment where
  | canceled
  | expired
deriving DecidableEq, Repr

namespace Context

def ofToken (token : Token) : Context := ⟨token, none⟩

/-- An earlier deadline is kept. -/
def withDeadline (context : Context) (deadline : Nat) : Context :=
  { context with deadline := some (match context.deadline with
      | some existing => min existing deadline
      | none => deadline) }

def withTimeout (context : Context) (now timeout : Nat) : Context :=
  context.withDeadline (now + timeout)

/-- A context that is cancelled along with this one and can be cancelled on its own. It keeps the
deadline. -/
def child (context : Context) (tokens : Tokens) : Context × Tokens :=
  let (token, tokens) := tokens.child context.token
  (⟨token, context.deadline⟩, tokens)

def isExpired (context : Context) (now : Nat) : Bool :=
  match context.deadline with
  | some deadline => deadline ≤ now
  | none => false

/-- Whether a request must be abandoned now; cancellation comes before the deadline. -/
def verdict (context : Context) (tokens : Tokens) (now : Nat) : Option Abandonment :=
  if tokens.isCancelled context.token then some .canceled
  else if context.isExpired now then some .expired
  else none

end Context

end RollupLedger
