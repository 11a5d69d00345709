import RollupLedger.Client.Basic
import RollupLedger.Proxy.Parameters

/-!
A proxy for a fixed set of methods that only read. Every method has a schema for its parameters; a
method that is not allowed, a key that is unknown or missing and a value of the wrong shape are
refused before anything is sent.
-/

set_option autoImplicit false
set_option relaxedAutoImplicit false

namespace RollupLedger.Proxy

open Ledger

/-- A request that has been checked, ready to be sent. -/
structure Validated where
  method : Method
  params : Json
  idempotent : Bool
deriving DecidableEq

/-- Reads the parameters of a method. -/
def readParameters {α : Type} (method : Method) (decode : Json.Decoder α)
    (parameters : Json.Members) : Except ClientError α :=
  (decode.run (.obj parameters)).mapError fun failure =>
    .parametersInvalid method.name failure.message

/-- Parameters and idempotence of a call of an allowed method. -/
def validateFor (method : Method) (parameters : Json.Members) :
    Except ClientError (Json × Bool) :=
  match method with
  | .blockByNumber => do
    let p ← readParameters method BlockByNumber.decode parameters
    return (p.params, true)
  | .transactionReceipt => do
    let p ← readParameters method TransactionReceipt.decode parameters
    return (p.params, true)
  | .call => do
    let p ← readParameters method CallParameters.decode parameters
    match p.block? with
    | some block => return (.arr [p.transaction, block], p.isPinned)
    | none =>
      .error (.parametersInvalid method.name "at most one of `index` and `hash` may be given")
  | .estimateGas => do
    let p ← readParameters method EstimateGas.decode parameters
    return (p.params, false)

def validate (request : CallRequest) : Except ClientError Validated :=
  match Method.ofName? request.method with
  | none => .error (.methodInvalid request.method)
  | some method => do
    let (params, idempotent) ← validateFor method request.parameters
    return ⟨method, params, idempotent && method.idempotent⟩

/-- The result that a node's value makes. Look-ups give the node's object as it is, and calls a
value of any form. -/
def resultOf (method : Method) (value : Json) : Except ClientError Json.Members :=
  match method, value with
  | _, .null => .error .notFound
  | .blockByNumber, .obj members => .ok members
  | .transactionReceipt, .obj members => .ok members
  | .call, value => .ok [("data", value)]
  | .estimateGas, value => .ok [("data", value)]
  | method, value => .error (.transport method.name (.notObject value))

/-- The call that a request stands for, once it has been checked. -/
def plan (request : CallRequest) : Except ClientError (Plan CallResponse 1) := do
  let validated ← validate request
  return .ask ⟨validated.method.name, validated.params⟩ fun value =>
    .done ((resultOf validated.method value).map fun result => ⟨result, validated.idempotent⟩)

end RollupLedger.Proxy
