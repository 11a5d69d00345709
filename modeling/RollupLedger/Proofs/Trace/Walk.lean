import RollupLedger.Proofs.Trace.Layout

/-!
# The plain walk of a call tree

`walk` visits a frame and then the calls it makes from left to right, and takes down the error that
each frame takes effect with: its own, or else that of the frame above it. The walk knows neither
places nor parents. `map_frame?_walk` says that the nodes of the laid out tree hold the frames of
the walk in its order.
-/

set_option autoImplicit false
set_option relaxedAutoImplicit false

namespace RollupLedger.Trace

open Wire

/-- A frame as the walk meets it, with the error that takes effect there. -/
structure Visit where
  body : FrameBody
  error : Option String
deriving DecidableEq

mutual

/-- The visits to a frame and to everything beneath it, with the error from `above`. -/
def walk (above : Option String) : CallFrame → List Visit
  | .mk body calls => ⟨body, body.error.or above⟩ :: walkAll (body.error.or above) calls

def walkAll (above : Option String) : List CallFrame → List Visit
  | [] => []
  | call :: rest => walk above call ++ walkAll above rest

end

/-- The kind of the frame that is visited, if the tracer calls it by a known name. Destructions have
an old name besides the new one. -/
def Visit.kind? (visit : Visit) : Option CallKind :=
  [("CALL", CallKind.call), ("CALLCODE", CallKind.callCode),
    ("DELEGATECALL", CallKind.delegateCall), ("STATICCALL", CallKind.staticCall),
    ("CREATE", CallKind.create), ("CREATE2", CallKind.create2),
    ("SELFDESTRUCT", CallKind.selfDestruct), ("SUICIDE", CallKind.selfDestruct)].lookup
      visit.body.type

theorem Visit.kind?_eq (visit : Visit) : visit.kind? = CallKind.ofName? visit.body.type := by
  unfold kind? CallKind.ofName?
  split
  case h_9 => simp_all [List.lookup_eq_none_iff]
  all_goals
    rename_i hname
    rw [hname]
    rfl

/-- The value of the frame that is visited; a frame without one carries zero. -/
def Visit.value (visit : Visit) : Word 256 := visit.body.value.getD 0

/-- Whether a visited frame moves value: its kind does, and no error takes effect there. -/
def Visit.transfers (visit : Visit) : Bool :=
  visit.error.isNone &&
    match visit.kind? with
    | some .call => true
    | some .create => true
    | some .create2 => true
    | some .selfDestruct => true
    | _ => false

/-- The frame that is visited, if its kind is known. -/
def Visit.frame? (visit : Visit) : Option Frame := visit.kind?.map (Frame.ofBody · visit.body)

mutual

theorem map_frame?_walk (frame : CallFrame) (above : Option String) {tree : CallTree}
    (htree : CallTree.ofFrame frame = .ok tree) (start : Nat) (parent : Option Nat) :
    (walk above frame).map Visit.frame? = (tree.nodesFrom start parent).map (some ·.frame) := by
  cases frame with
  | mk body calls =>
    obtain ⟨kind, trees, hkind, htrees, rfl⟩ := CallTree.ofFrame_eq_ok htree
    rw [walk, CallTree.nodesFrom, List.map_cons, List.map_cons,
      map_frame?_walkAll calls (body.error.or above) htrees (start + 1) start]
    simp [Visit.frame?, Visit.kind?_eq, hkind]

theorem map_frame?_walkAll (calls : List CallFrame) (above : Option String)
    {trees : List CallTree} (htrees : CallTree.ofFrames calls = .ok trees) (start parent : Nat) :
    (walkAll above calls).map Visit.frame? =
      (CallTree.nodesFromAll start parent trees).map (some ·.frame) := by
  cases calls with
  | nil =>
    cases htrees
    rfl
  | cons call rest =>
    obtain ⟨tree, others, htree, hothers, rfl⟩ := CallTree.ofFrames_eq_ok htrees
    rw [walkAll, CallTree.nodesFromAll, List.map_append, List.map_append,
      map_frame?_walk call above htree start (some parent),
      map_frame?_walkAll rest above hothers (start + tree.size) parent]

end

theorem length_walk {frame : CallFrame} {tree : CallTree}
    (htree : CallTree.ofFrame frame = .ok tree) (above : Option String) :
    (walk above frame).length = tree.size := by
  have hframes := congrArg List.length (map_frame?_walk frame above htree 0 none)
  rw [List.length_map, List.length_map, CallTree.length_nodesFrom] at hframes
  exact hframes

end RollupLedger.Trace
