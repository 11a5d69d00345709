import RollupLedger.Trace.Arena
import Mathlib.Data.List.Basic

/-!
# The recursion behind the layout of a call tree

`Arena.layOut` works off a stack. This module gives the recursion that it carries out: `CallTree` is
a tree whose kinds are all known, `CallTree.ofFrame` reads one, and `CallTree.nodesFrom` lists its
nodes in pre-order, each with its parent's place and the places of its calls.

`layOut_cons` is the invariant of the loop. With a tree on top of the stack, the loop comes to the
rest of the stack with the nodes of the whole tree added and its root counted among the children
of its parent, and a tree with a frame of no known kind ends the loop with the error that the
recursion finds. `ofFrame_eq` is the case of an empty rest, and `exists_tree_of_known` says that
the recursion succeeds on every tree of known kinds.
-/

set_option autoImplicit false
set_option relaxedAutoImplicit false

namespace RollupLedger.Trace

open Wire

/-! ### Trees of known kinds -/

/-- A frame of known kind with the calls it makes. -/
inductive CallTree where
  | mk (frame : Frame) (calls : List CallTree)

namespace CallTree

mutual

/-- The tree of a tracer's frames, unless some frame is of no known kind; the first such frame in
pre-order is told. -/
def ofFrame : CallFrame → Except FlattenError CallTree
  | .mk body calls =>
    match CallKind.ofName? body.type with
    | none => .error (.unknownFrameKind body.type)
    | some kind =>
      match ofFrames calls with
      | .error e => .error e
      | .ok trees => .ok (mk (.ofBody kind body) trees)

def ofFrames : List CallFrame → Except FlattenError (List CallTree)
  | [] => .ok []
  | call :: rest =>
    match ofFrame call with
    | .error e => .error e
    | .ok tree =>
      match ofFrames rest with
      | .error e => .error e
      | .ok trees => .ok (tree :: trees)

end

mutual

/-- How many frames there are. -/
def size : CallTree → Nat
  | mk _ calls => sizes calls + 1

def sizes : List CallTree → Nat
  | [] => 0
  | tree :: rest => size tree + sizes rest

end

/-- The places of sibling trees, the first of which starts at `start`. -/
def places (start : Nat) : List CallTree → List Nat
  | [] => []
  | tree :: rest => start :: places (start + tree.size) rest

mutual

/-- The nodes of a tree whose root stands at `start`. -/
def nodesFrom (start : Nat) (parent : Option Nat) : CallTree → List Node
  | mk frame calls =>
    ⟨frame, parent, places (start + 1) calls⟩ :: nodesFromAll (start + 1) start calls

/-- The nodes of sibling trees, the first of which starts at `start`. -/
def nodesFromAll (start parent : Nat) : List CallTree → List Node
  | [] => []
  | tree :: rest =>
    nodesFrom start (some parent) tree ++ nodesFromAll (start + tree.size) parent rest

end

mutual

theorem length_nodesFrom (start : Nat) (parent : Option Nat) (tree : CallTree) :
    (nodesFrom start parent tree).length = tree.size := by
  cases tree with
  | mk frame calls =>
    rw [nodesFrom, size, List.length_cons, length_nodesFromAll (start + 1) start calls]

theorem length_nodesFromAll (start parent : Nat) (trees : List CallTree) :
    (nodesFromAll start parent trees).length = sizes trees := by
  cases trees with
  | nil => rfl
  | cons tree rest =>
    rw [nodesFromAll, sizes, List.length_append, length_nodesFrom start (some parent) tree,
      length_nodesFromAll (start + tree.size) parent rest]

end

theorem ofFrame_eq_ok {body : FrameBody} {calls : List CallFrame} {tree : CallTree}
    (hread : ofFrame (.mk body calls) = .ok tree) :
    ∃ kind trees, CallKind.ofName? body.type = some kind ∧ ofFrames calls = .ok trees ∧
      tree = mk (.ofBody kind body) trees := by
  rw [ofFrame] at hread
  cases hkind : CallKind.ofName? body.type with
  | none => simp [hkind] at hread
  | some kind =>
    cases hcalls : ofFrames calls with
    | error e => simp [hkind, hcalls] at hread
    | ok trees =>
      simp only [hkind, hcalls, Except.ok.injEq] at hread
      exact ⟨kind, trees, rfl, rfl, hread.symm⟩

theorem ofFrames_eq_ok {call : CallFrame} {rest : List CallFrame} {trees : List CallTree}
    (hread : ofFrames (call :: rest) = .ok trees) :
    ∃ tree others, ofFrame call = .ok tree ∧ ofFrames rest = .ok others ∧
      trees = tree :: others := by
  rw [ofFrames] at hread
  cases hcall : ofFrame call with
  | error e => simp [hcall] at hread
  | ok tree =>
    cases hrest : ofFrames rest with
    | error e => simp [hcall, hrest] at hread
    | ok others =>
      simp only [hcall, hrest, Except.ok.injEq] at hread
      exact ⟨tree, others, rfl, rfl, hread.symm⟩

end CallTree

/-! ### Frames of known kinds -/

/-- What tracers call the known kinds of call. -/
def CallKind.names : List String :=
  ["CALL", "CALLCODE", "DELEGATECALL", "STATICCALL", "CREATE", "CREATE2", "SELFDESTRUCT", "SUICIDE"]

theorem CallKind.isSome_ofName?_iff {name : String} : (ofName? name).isSome ↔ name ∈ names := by
  unfold ofName? names
  split <;> simp_all

mutual

/-- Whether the kinds of a frame and of everything beneath it are known. -/
def Known : CallFrame → Prop
  | .mk body calls => body.type ∈ CallKind.names ∧ AllKnown calls

def AllKnown : List CallFrame → Prop
  | [] => True
  | call :: rest => Known call ∧ AllKnown rest

end

mutual

theorem exists_tree_of_known (frame : CallFrame) (hknown : Known frame) :
    ∃ tree, CallTree.ofFrame frame = .ok tree := by
  cases frame with
  | mk body calls =>
    rw [Known] at hknown
    obtain ⟨kind, hkind⟩ :=
      Option.isSome_iff_exists.mp (CallKind.isSome_ofName?_iff.mpr hknown.1)
    obtain ⟨trees, htrees⟩ := exists_trees_of_allKnown calls hknown.2
    exact ⟨.mk (.ofBody kind body) trees, by simp only [CallTree.ofFrame, hkind, htrees]⟩

theorem exists_trees_of_allKnown (calls : List CallFrame) (hknown : AllKnown calls) :
    ∃ trees, CallTree.ofFrames calls = .ok trees := by
  cases calls with
  | nil => exact ⟨[], rfl⟩
  | cons call rest =>
    rw [AllKnown] at hknown
    obtain ⟨tree, htree⟩ := exists_tree_of_known call hknown.1
    obtain ⟨trees, htrees⟩ := exists_trees_of_allKnown rest hknown.2
    exact ⟨tree :: trees, by simp only [CallTree.ofFrames, htree, htrees]⟩

end

/-! ### The loop -/

namespace Arena

/-- Counts further places among the children of the node at a place. -/
def grow (nodes : Array Node) (place : Nat) (places : List Nat) : Array Node :=
  nodes.modify place fun node => { node with children := node.children ++ places }

@[simp] theorem size_grow (nodes : Array Node) (place : Nat) (places : List Nat) :
    (grow nodes place places).size = nodes.size := Array.size_modify ..

@[simp] theorem size_adopt (nodes : Array Node) (parent : Option Nat) (place : Nat) :
    (adopt nodes parent place).size = nodes.size := by
  cases parent with
  | none => rfl
  | some parent => exact Array.size_modify ..

theorem adopt_some (nodes : Array Node) (parent place : Nat) :
    adopt nodes (some parent) place = grow nodes parent [place] := rfl

theorem grow_nil (nodes : Array Node) (place : Nat) : grow nodes place [] = nodes := by
  apply Array.ext
  · simp
  · intro i _ _
    simp [grow, Array.getElem_modify]

theorem grow_append (nodes more : Array Node) (place : Nat) (places : List Nat)
    (hplace : place < nodes.size) :
    grow (nodes ++ more) place places = grow nodes place places ++ more := by
  apply Array.ext
  · simp [grow]
  · intro i _ _
    simp only [grow, Array.getElem_modify, Array.getElem_append, Array.size_modify]
    by_cases hi : i < nodes.size
    · simp [hi]
    · have hne : place ≠ i := by omega
      simp [hi, hne]

theorem grow_grow (nodes : Array Node) (place : Nat) (first rest : List Nat) :
    grow (grow nodes place first) place rest = grow nodes place (first ++ rest) := by
  apply Array.ext
  · simp
  · intro i _ _
    simp only [grow, Array.getElem_modify]
    split <;> simp

/-- A new node that is counted among the children of an older one, and is then given children of
its own. -/
theorem grow_adopt_push (nodes : Array Node) (frame : Frame) (parent : Option Nat)
    (places : List Nat) (hparent : ∀ p, parent = some p → p < nodes.size) :
    grow (adopt (nodes.push ⟨frame, parent, []⟩) parent nodes.size) nodes.size places =
      adopt nodes parent nodes.size ++ #[⟨frame, parent, places⟩] := by
  have hlast (before : Array Node) (hsize : before.size = nodes.size) :
      grow (before ++ #[⟨frame, parent, []⟩]) nodes.size places =
        before ++ #[⟨frame, parent, places⟩] := by
    apply Array.ext
    · simp
    · intro i hi _
      simp only [grow, Array.getElem_modify, Array.getElem_append, hsize]
      by_cases hnew : i < nodes.size
      · have hne : nodes.size ≠ i := by omega
        simp [hnew, hne]
      · have heq : nodes.size = i := by simp [hsize] at hi; omega
        simp [heq]
  cases parent with
  | none => exact hlast nodes rfl
  | some p =>
    rw [adopt_some, adopt_some, Array.push_eq_append,
      grow_append nodes _ p [nodes.size] (hparent p rfl)]
    exact hlast _ (size_grow ..)

theorem layOut_nil (nodes : Array Node) : layOut [] nodes = .ok nodes := by
  rw [layOut]

theorem await_nil (place : Nat) (stack : List Pending) : await place [] stack = stack := rfl

theorem await_cons (place : Nat) (call : CallFrame) (rest : List CallFrame)
    (stack : List Pending) :
    await place (call :: rest) stack = ⟨call, some place⟩ :: await place rest stack := rfl

mutual

/-- The loop with a tree on top of its stack. -/
theorem layOut_cons (frame : CallFrame) (parent : Option Nat) (stack : List Pending)
    (nodes : Array Node) (hparent : ∀ p, parent = some p → p < nodes.size) :
    layOut (⟨frame, parent⟩ :: stack) nodes =
      (CallTree.ofFrame frame).bind fun tree =>
        layOut stack
          (adopt nodes parent nodes.size ++ (tree.nodesFrom nodes.size parent).toArray) := by
  cases frame with
  | mk body calls =>
    rw [layOut, CallTree.ofFrame]
    cases hkind : CallKind.ofName? body.type with
    | none => rfl
    | some kind =>
      have hnew : nodes.size < (adopt (nodes.push ⟨.ofBody kind body, parent, []⟩) parent
          nodes.size).size := by simp
      simp only []
      rw [layOut_await calls nodes.size stack _ hnew]
      cases CallTree.ofFrames calls with
      | error e => rfl
      | ok trees =>
        have hsize : (adopt (nodes.push ⟨.ofBody kind body, parent, []⟩) parent nodes.size).size =
            nodes.size + 1 := by simp
        simp only [Except.bind, hsize, CallTree.nodesFrom,
          grow_adopt_push nodes _ parent _ hparent]
        simp

/-- The loop with the calls of a frame on top of its stack. -/
theorem layOut_await (calls : List CallFrame) (place : Nat) (stack : List Pending)
    (nodes : Array Node) (hplace : place < nodes.size) :
    layOut (await place calls stack) nodes =
      (CallTree.ofFrames calls).bind fun trees =>
        layOut stack (grow nodes place (CallTree.places nodes.size trees) ++
          (CallTree.nodesFromAll nodes.size place trees).toArray) := by
  cases calls with
  | nil => simp [await_nil, CallTree.ofFrames, Except.bind, CallTree.places, grow_nil,
      CallTree.nodesFromAll]
  | cons call rest =>
    have hparent : ∀ p, some place = some p → p < nodes.size := by
      rintro p ⟨⟩
      exact hplace
    rw [await_cons, layOut_cons call (some place) (await place rest stack) nodes hparent,
      CallTree.ofFrames]
    cases CallTree.ofFrame call with
    | error e => rfl
    | ok tree =>
      simp only [Except.bind]
      have hlater : place < (adopt nodes (some place) nodes.size ++
          (tree.nodesFrom nodes.size (some place)).toArray).size := by
        simp only [Array.size_append, size_adopt]
        omega
      rw [layOut_await rest place stack _ hlater]
      cases CallTree.ofFrames rest with
      | error e => rfl
      | ok trees =>
        have hsize : (adopt nodes (some place) nodes.size ++
            (tree.nodesFrom nodes.size (some place)).toArray).size = nodes.size + tree.size := by
          simp [CallTree.length_nodesFrom]
        simp only [Except.bind, hsize, CallTree.places, CallTree.nodesFromAll]
        rw [grow_append _ _ _ _ (by simpa using hplace), adopt_some, grow_grow]
        simp [Array.append_assoc]

end

/-- The nodes of a tree, whose root is the first. -/
def ofTree (tree : CallTree) : Arena := ⟨tree.nodesFrom 0 none⟩

/-- The loop does what the recursion does, in success and in failure. -/
theorem ofFrame_eq (frame : CallFrame) :
    ofFrame frame = (CallTree.ofFrame frame).map ofTree := by
  rw [ofFrame, layOut_cons frame none [] #[] (by simp)]
  cases CallTree.ofFrame frame with
  | error e => rfl
  | ok tree => simp [Except.bind, Except.map, layOut_nil, adopt, ofTree]

theorem exists_tree_of_ofFrame {frame : CallFrame} {arena : Arena}
    (harena : ofFrame frame = .ok arena) :
    ∃ tree, CallTree.ofFrame frame = .ok tree ∧ arena = ofTree tree := by
  rw [ofFrame_eq] at harena
  cases htree : CallTree.ofFrame frame with
  | error e => simp [htree, Except.map] at harena
  | ok tree =>
    simp only [htree, Except.map, Except.ok.injEq] at harena
    exact ⟨tree, rfl, harena.symm⟩

end Arena

end RollupLedger.Trace
