import RollupLedger.Flatten.Error
import RollupLedger.Sum
import RollupLedger.Trace.CallKind
import RollupLedger.Wire.CallFrame

/-!
Call trees laid out as a list of nodes, in which nodes refer to one another by their places. Frames
wait on a stack for their turn. The frame on top is given the next place, which its caller then
counts among its children, and the calls it makes are put on the stack. Hence a frame comes before
everything beneath it, and the calls of a frame come in their order.
-/

set_option autoImplicit false
set_option relaxedAutoImplicit false

namespace RollupLedger.Trace

open Wire

/-- What a frame says that matters to balances. A frame without a value carries zero. -/
structure Frame where
  kind : CallKind
  caller : Address
  callee : Option Address
  value : Word 256
  gasUsed : Word 64
  error : Option String
deriving DecidableEq

def Frame.ofBody (kind : CallKind) (body : FrameBody) : Frame :=
  ⟨kind, body.caller, body.callee, body.value.getD 0, body.gasUsed.clamp 64, body.error⟩

/-- A frame at its place, with the place of the frame that made the call and those of the calls it
makes. -/
structure Node where
  frame : Frame
  parent : Option Nat
  children : List Nat
deriving DecidableEq

/-- A call tree laid out as nodes. -/
structure Arena where
  nodes : List Node
deriving DecidableEq

namespace Arena

/-- A frame whose turn has not come, with the place of the frame that made the call. -/
structure Pending where
  frame : CallFrame
  parent : Option Nat

/-- Puts calls of the frame at `place` on a stack, the first of them on top. -/
def await (place : Nat) (calls : List CallFrame) (stack : List Pending) : List Pending :=
  calls.foldr (fun call stack => ⟨call, some place⟩ :: stack) stack

/-- Counts `place` among the children of the node at `parent`. -/
def adopt (nodes : Array Node) (parent : Option Nat) (place : Nat) : Array Node :=
  match parent with
  | some parent =>
    nodes.modify parent fun node => { node with children := node.children ++ [place] }
  | none => nodes

/-- How many frames there are on a stack and beneath them. -/
def load (stack : List Pending) : Nat := sumOf (fun pending => pending.frame.size) stack

theorem load_await (place : Nat) (calls : List CallFrame) (stack : List Pending) :
    load (await place calls stack) = CallFrame.sizes calls + load stack := by
  induction calls with
  | nil => simp [await, CallFrame.sizes]
  | cons call rest ih =>
    simp only [await, List.foldr_cons, load, sumOf_cons, CallFrame.sizes] at ih ⊢
    omega

/-- Lays out the frames of a stack after the nodes that there are. -/
def layOut (stack : List Pending) (nodes : Array Node) : Except FlattenError (Array Node) :=
  match stack with
  | [] => .ok nodes
  | ⟨.mk body calls, parent⟩ :: stack =>
    match CallKind.ofName? body.type with
    | none => .error (.unknownFrameKind body.type)
    | some kind =>
      let place := nodes.size
      layOut (await place calls stack)
        (adopt (nodes.push ⟨.ofBody kind body, parent, []⟩) parent place)
termination_by load stack
decreasing_by
  rw [load_await]
  simp only [load, sumOf_cons, CallFrame.size]
  omega

/-- The arena of a tracer's frames, unless some frame is of no known kind. -/
def ofFrame (frame : CallFrame) : Except FlattenError Arena :=
  (layOut [⟨frame, none⟩] #[]).map fun nodes => ⟨nodes.toList⟩

end Arena

end RollupLedger.Trace
