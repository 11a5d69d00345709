import RollupLedger.Wire.Scalar

/-!
Call trees as a node's tracer reports them: a frame for each call, holding the frames of the calls
it makes. A tree is read in one pass over the JSON value, so the reader recurses exactly where the
value does.
-/

set_option autoImplicit false
set_option relaxedAutoImplicit false

namespace RollupLedger.Wire

open Json Json.Fields

/-- An event that a call left. -/
structure CallLog where
  address : Option Address
  topics : Option (List Hash)
  data : Option Bytes
  position : Option (Word 64)
deriving DecidableEq

/-- A frame apart from the calls it makes. -/
structure FrameBody where
  caller : Address
  gas : Word 256
  gasUsed : Word 256
  callee : Option Address
  input : Bytes
  output : Option Bytes
  error : Option String
  revertReason : Option String
  logs : List CallLog
  value : Option (Word 256)
  type : String
deriving DecidableEq

/-- A frame with the calls it makes, in order. -/
inductive CallFrame where
  | mk (body : FrameBody) (calls : List CallFrame)

namespace CallLog

def decode : Decoder CallLog :=
  record ["address", "topics", "data", "position"] <|
    CallLog.mk <$> optional "address" decodeAddress
      <*> optional "topics" (decodeList decodeHash)
      <*> optional "data" decodeBytes
      <*> optional "position" (decodeQuantity 64)

end CallLog

namespace CallFrame

def body : CallFrame → FrameBody
  | mk body _ => body

def calls : CallFrame → List CallFrame
  | mk _ calls => calls

mutual

/-- How many frames there are. -/
def size : CallFrame → Nat
  | mk _ calls => sizes calls + 1

def sizes : List CallFrame → Nat
  | [] => 0
  | call :: rest => size call + sizes rest

end

def names : List String :=
  ["from", "gas", "gasUsed", "to", "input", "output", "error", "revertReason", "calls", "logs",
    "value", "type"]

/-- The members of a frame, of which `calls` has been read already. -/
def fields (calls : Decoding (List CallFrame)) : Fields CallFrame :=
  (fun caller gas gasUsed callee input output error revertReason calls logs value type =>
      mk ⟨caller, gas, gasUsed, callee, input, output, error, revertReason, logs, value, type⟩
        calls)
    <$> required "from" decodeAddress
    <*> withDefault "gas" 0 (decodeQuantity 256)
    <*> withDefault "gasUsed" 0 (decodeQuantity 256)
    <*> optional "to" decodeAddress
    <*> required "input" decodeBytes
    <*> optional "output" decodeBytes
    <*> optional "error" decodeString
    <*> optional "revertReason" decodeString
    <*> withDefault "calls" [] (fun _ => calls)
    <*> withDefault "logs" [] (decodeList CallLog.decode)
    <*> optional "value" (decodeQuantity 256)
    <*> required "type" decodeString

mutual

def decode : Json → Decoding CallFrame
  | .obj members => readObject names false (fields (decodeCallsMember members)) members
  | .arr items => readArray names (fields (decodeCallsItem 8 items)) items
  | got => mismatch (.wrongType got "a call frame")

/-- The calls among the members of a frame. -/
def decodeCallsMember : List (String × Json) → Decoding (List CallFrame)
  | [] => pure []
  | (key, value) :: rest => if key = "calls" then decodeCalls value else decodeCallsMember rest

/-- The calls of a frame given as an array, which stand after `skip` other items. -/
def decodeCallsItem : (skip : Nat) → List Json → Decoding (List CallFrame)
  | _, [] => pure []
  | 0, value :: _ => decodeCalls value
  | skip + 1, _ :: rest => decodeCallsItem skip rest

def decodeCalls : Json → Decoding (List CallFrame)
  | .arr items => decodeAll 0 items
  | got => mismatch (.wrongType got "a sequence")

def decodeAll : (index : Nat) → List Json → Decoding (List CallFrame)
  | _, [] => pure []
  | index, item :: rest => do
    let frame ← (decode item).under (.item index)
    return frame :: (← decodeAll (index + 1) rest)

end

end CallFrame

end RollupLedger.Wire
