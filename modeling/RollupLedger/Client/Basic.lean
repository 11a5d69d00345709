import RollupLedger.Chain
import RollupLedger.Request.Plan

/-!
What a client knows, and how it asks the node for one value or for several at once.
-/

set_option autoImplicit false
set_option relaxedAutoImplicit false

namespace RollupLedger

/-- Constants of a client. The capacity is that of the gate through which traces are asked for. -/
structure Client where
  chain : Chain
  capacity : Nat
  traceTimeout : String
  batchTraces : Bool
  skipAdminCalls : Bool
deriving DecidableEq

namespace Plan

variable {α : Type} {rounds : Nat}

def fail (e : ClientError) : Plan α rounds := done (.error e)

/-- Asks for the value of a call. -/
def ask (c : Call) (next : Json → Plan α rounds) : Plan α (rounds + 1) :=
  call c fun
    | .ok value => next value
    | .error message => fail (.transport c.method (.reported message))

/-- Asks for a value and decodes it. -/
def fetch {β : Type} (c : Call) (decode : Json.Decoder β) (next : β → Plan α rounds) :
    Plan α (rounds + 1) :=
  ask c fun value => andThen (decodeAs (.method c.method) decode value) next

end Plan

/-- The replies of a batch of `sent` calls, one for each. -/
def batchReplies (method : String) (sent : Nat) (reply : BatchReply) :
    Except ClientError (List CallReply) :=
  match reply with
  | .error message => .error (.transport method (.reported message))
  | .ok replies =>
    if replies.length = sent then .ok replies
    else .error (.transport method (.batchLength sent replies.length))

/-- The value that one call of a batch brought. -/
def replyValue (method : String) (reply : CallReply) : Except ClientError Json :=
  reply.mapError fun message => .transport method (.reported message)

end RollupLedger
