import RollupLedger.Flatten.Basic
import RollupLedger.Proofs.Trace.Walk

/-!
# The table of errors against the walk

`effectiveErrors` goes through nodes by their places and looks the error of a parent up in a table
of the errors so far. Over the nodes of a tree the table comes to hold the errors that the walk
hands down (`effectiveErrors_nodesFrom`), and no parent is ever looked up beyond the end of the
table (`lookupsInRange_nodesFrom`). Both go by the recursion of the layout, for any nodes before and
after those of the tree.
-/

set_option autoImplicit false
set_option relaxedAutoImplicit false

namespace RollupLedger.Flatten

open Trace Wire

variable {succeeded : Bool}

/-! ### What a node takes over -/

/-- What a node without an error of its own takes over: the first node what the receipt says, any
other the error of its parent. -/
def inherited (succeeded : Bool) (before : Array (Option String)) (parent : Option Nat) :
    Option String :=
  (if before.size = 0 ∧ ¬ succeeded then some reverted else none).or
    (parent.bind fun place ↦ (before[place]?).join)

theorem effectiveError_eq (before : Array (Option String)) (node : Node) :
    effectiveError succeeded before node =
      node.frame.error.or (inherited succeeded before node.parent) := by
  unfold effectiveError ownError inherited
  cases node.frame.error with
  | some error => rfl
  | none =>
    by_cases hroot : before.size = 0 ∧ ¬ succeeded
    · rw [if_pos hroot]
      rfl
    · rw [if_neg hroot]
      cases node.parent <;> rfl

theorem inherited_of_getElem? {before : Array (Option String)} {place : Nat}
    {error : Option String} (hplace : before[place]? = some error) :
    inherited succeeded before (some place) = error := by
  have hsize : before.size ≠ 0 := by
    intro hempty
    rw [Array.getElem?_eq_none (by omega)] at hplace
    cases hplace
  simp [inherited, hsize, hplace]

/-! ### The table holds the errors of the walk -/

mutual

theorem effectiveErrors_nodesFrom (frame : CallFrame) (parent : Option Nat) {tree : CallTree}
    (htree : CallTree.ofFrame frame = .ok tree) (before : Array (Option String))
    (rest : List Node) :
    effectiveErrors succeeded before (tree.nodesFrom before.size parent ++ rest) =
      (walk (inherited succeeded before parent) frame).map Visit.error ++
        effectiveErrors succeeded
          (before ++ ((walk (inherited succeeded before parent) frame).map Visit.error).toArray)
          rest := by
  cases frame with
  | mk body calls =>
    obtain ⟨kind, trees, _, htrees, rfl⟩ := CallTree.ofFrame_eq_ok htree
    rw [CallTree.nodesFrom, List.cons_append, effectiveErrors, effectiveError_eq, walk]
    have hown : (before.push (body.error.or (inherited succeeded before parent)))[before.size]? =
        some (body.error.or (inherited succeeded before parent)) := Array.getElem?_push_size
    have hbelow := effectiveErrors_nodesFromAll calls htrees _ _ hown rest
    rw [Array.size_push] at hbelow
    simp only [Frame.ofBody, List.map_cons, List.cons_append, List.cons.injEq, true_and]
    rw [hbelow, Array.push_eq_append]
    simp

theorem effectiveErrors_nodesFromAll (calls : List CallFrame) {trees : List CallTree}
    (htrees : CallTree.ofFrames calls = .ok trees) (before : Array (Option String))
    {place : Nat} (error : Option String) (hplace : before[place]? = some error)
    (rest : List Node) :
    effectiveErrors succeeded before (CallTree.nodesFromAll before.size place trees ++ rest) =
      (walkAll error calls).map Visit.error ++
        effectiveErrors succeeded (before ++ ((walkAll error calls).map Visit.error).toArray)
          rest := by
  cases calls with
  | nil =>
    cases htrees
    simp [CallTree.nodesFromAll, walkAll]
  | cons call others =>
    obtain ⟨tree, others', htree, hothers, rfl⟩ := CallTree.ofFrames_eq_ok htrees
    have hhead := effectiveErrors_nodesFrom call (some place) htree before
      (CallTree.nodesFromAll (before.size + tree.size) place others' ++ rest)
    rw [inherited_of_getElem? hplace] at hhead
    have hsize : (before ++ ((walk error call).map Visit.error).toArray).size =
        before.size + tree.size := by
      simp [length_walk htree error]
    have hkept : (before ++ ((walk error call).map Visit.error).toArray)[place]? = some error := by
      have hlt : place < before.size := by
        obtain ⟨h, _⟩ := Array.getElem?_eq_some_iff.mp hplace
        exact h
      rw [Array.getElem?_append_left hlt, hplace]
    have htail := effectiveErrors_nodesFromAll others hothers _ error hkept rest
    rw [hsize] at htail
    rw [CallTree.nodesFromAll, List.append_assoc, hhead, htail, walkAll]
    simp [Array.append_assoc]

end

/-! ### No look-up beyond the table -/

/-- In every step of the run of `effectiveErrors`, the place of a parent is below the size of the
table. -/
def LookupsInRange (succeeded : Bool) : (before : Array (Option String)) → List Node → Prop
  | _, [] => True
  | before, node :: rest =>
    (∀ parent, node.parent = some parent → parent < before.size) ∧
      LookupsInRange succeeded (before.push (effectiveError succeeded before node)) rest

mutual

theorem lookupsInRange_nodesFrom (tree : CallTree) (parent : Option Nat)
    (before : Array (Option String)) (hparent : ∀ place, parent = some place → place < before.size)
    (rest : List Node) (hrest : ∀ table : Array (Option String),
      table.size = before.size + tree.size → LookupsInRange succeeded table rest) :
    LookupsInRange succeeded before (tree.nodesFrom before.size parent ++ rest) := by
  cases tree with
  | mk frame calls =>
    rw [CallTree.nodesFrom, List.cons_append, LookupsInRange]
    refine ⟨hparent, ?_⟩
    have hbelow := lookupsInRange_nodesFromAll calls before.size
      (before.push (effectiveError succeeded before
        ⟨frame, parent, CallTree.places (before.size + 1) calls⟩)) (by simp) rest
    rw [Array.size_push] at hbelow
    refine hbelow fun table hsize ↦ hrest table ?_
    rw [CallTree.size]
    omega

theorem lookupsInRange_nodesFromAll (trees : List CallTree) (place : Nat)
    (before : Array (Option String)) (hplace : place < before.size) (rest : List Node)
    (hrest : ∀ table : Array (Option String),
      table.size = before.size + CallTree.sizes trees → LookupsInRange succeeded table rest) :
    LookupsInRange succeeded before
      (CallTree.nodesFromAll before.size place trees ++ rest) := by
  cases trees with
  | nil => exact hrest before rfl
  | cons tree others =>
    rw [CallTree.nodesFromAll, List.append_assoc]
    refine lookupsInRange_nodesFrom tree (some place) before (by rintro _ ⟨⟩; exact hplace) _ ?_
    intro table hsize
    rw [← hsize]
    refine lookupsInRange_nodesFromAll others place table (by omega) rest ?_
    intro later hlater
    refine hrest later ?_
    rw [CallTree.sizes]
    omega

end

end RollupLedger.Flatten
