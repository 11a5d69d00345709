import RollupLedger.Proofs.Trace.Preorder
import RollupLedger.Proofs.Word
import Mathlib.Data.List.Forall2
import Mathlib.Logic.Relation

/-!
# Arenas represent call trees

The places in an arena tell the whole tree (`Arena.represents_ofFrame`). Its nodes are the frames in
pre-order, each with what the tracer reported of it. A node is counted among the children of exactly
the node that it has as its parent, and everything beneath a node stands in one piece from it on.
The tree that is rebuilt from the children has the shape of the tracer's.

`Stands` says that the nodes of a tree stand together from a place on, and goes down the tree with
its constructors. What the places tell is proved of every tree that stands somewhere, and the arena
of a tree is the case in which it stands alone.
-/

set_option autoImplicit false
set_option relaxedAutoImplicit false

namespace RollupLedger.Trace

open Wire

/-! ### What a node says of its frame -/

/-- A frame has what the tracer reported. A value that was left out is zero, and gas beyond 64 bits
is the most that they hold. -/
structure Frame.Reports (frame : Frame) (body : FrameBody) : Prop where
  kind : CallKind.ofName? body.type = some frame.kind
  caller : frame.caller = body.caller
  callee : frame.callee = body.callee
  value : frame.value.toNat = (body.value.map Word.toNat).getD 0
  gasUsed : frame.gasUsed.toNat = min body.gasUsed.toNat (2 ^ 64 - 1)
  error : frame.error = body.error

theorem Frame.reports_ofBody {kind : CallKind} {body : FrameBody}
    (hkind : CallKind.ofName? body.type = some kind) : (ofBody kind body).Reports body where
  kind := hkind
  caller := rfl
  callee := rfl
  value := by
    rw [ofBody]
    cases body.value <;> rfl
  gasUsed := rfl
  error := rfl

/-- A tree has the shape of a tracer's, and its frames have what the tracer reported. -/
inductive CallTree.Mirrors : CallTree → CallFrame → Prop
  | mk {frame : Frame} {body : FrameBody} {trees : List CallTree} {calls : List CallFrame}
      (hframe : frame.Reports body) (hcalls : List.Forall₂ Mirrors trees calls) :
      Mirrors (.mk frame trees) (.mk body calls)

mutual

theorem mirrors_of_ofFrame (frame : CallFrame) {tree : CallTree}
    (htree : CallTree.ofFrame frame = .ok tree) : tree.Mirrors frame := by
  cases frame with
  | mk body calls =>
    obtain ⟨kind, trees, hkind, htrees, rfl⟩ := CallTree.ofFrame_eq_ok htree
    exact .mk (Frame.reports_ofBody hkind) (forall₂_mirrors_of_ofFrames calls htrees)

theorem forall₂_mirrors_of_ofFrames (calls : List CallFrame) {trees : List CallTree}
    (htrees : CallTree.ofFrames calls = .ok trees) : trees.Forall₂ CallTree.Mirrors calls := by
  cases calls with
  | nil =>
    cases htrees
    exact .nil
  | cons call rest =>
    obtain ⟨tree, others, htree, hothers, rfl⟩ := CallTree.ofFrames_eq_ok htrees
    exact .cons (mirrors_of_ofFrame call htree) (forall₂_mirrors_of_ofFrames rest hothers)

end

mutual

/-- The nodes of a tree have the frames of the tracer's tree in pre-order. -/
theorem reports_nodesFrom (frame : CallFrame) {tree : CallTree}
    (htree : CallTree.ofFrame frame = .ok tree) (start : Nat) (parent : Option Nat) :
    (preorder frame).Forall₂ (fun part node ↦ node.frame.Reports part.body)
      (tree.nodesFrom start parent) := by
  cases frame with
  | mk body calls =>
    obtain ⟨kind, trees, hkind, htrees, rfl⟩ := CallTree.ofFrame_eq_ok htree
    exact .cons (Frame.reports_ofBody hkind) (reports_nodesFromAll calls htrees (start + 1) start)

theorem reports_nodesFromAll (calls : List CallFrame) {trees : List CallTree}
    (htrees : CallTree.ofFrames calls = .ok trees) (start parent : Nat) :
    (preorderAll calls).Forall₂ (fun part node ↦ node.frame.Reports part.body)
      (CallTree.nodesFromAll start parent trees) := by
  cases calls with
  | nil =>
    cases htrees
    exact .nil
  | cons call rest =>
    obtain ⟨tree, others, htree, hothers, rfl⟩ := CallTree.ofFrames_eq_ok htrees
    exact List.rel_append (reports_nodesFrom call htree start (some parent))
      (reports_nodesFromAll rest hothers (start + tree.size) parent)

end

/-! ### Trees that stand in a list of nodes -/

variable {nodes : List Node} {place : Nat}

mutual

/-- The nodes of a tree stand together from `start` on. -/
def Stands (nodes : List Node) (start : Nat) (parent : Option Nat) : CallTree → Prop
  | .mk frame calls =>
    nodes[start]? = some ⟨frame, parent, CallTree.places (start + 1) calls⟩ ∧
      StandAll nodes (start + 1) start calls

/-- The nodes of sibling trees stand together from `start` on. -/
def StandAll (nodes : List Node) (start parent : Nat) : List CallTree → Prop
  | [] => True
  | tree :: rest =>
    Stands nodes start (some parent) tree ∧ StandAll nodes (start + tree.size) parent rest

end

mutual

theorem stands_nodesFrom (tree : CallTree) (parent : Option Nat) (before after : List Node) :
    Stands (before ++ tree.nodesFrom before.length parent ++ after) before.length parent tree := by
  cases tree with
  | mk frame calls =>
    constructor
    · simp [CallTree.nodesFrom]
    · have hcalls := standAll_nodesFromAll calls before.length
        (before ++ [⟨frame, parent, CallTree.places (before.length + 1) calls⟩]) after
      simpa [CallTree.nodesFrom] using hcalls

theorem standAll_nodesFromAll (trees : List CallTree) (parent : Nat) (before after : List Node) :
    StandAll (before ++ CallTree.nodesFromAll before.length parent trees ++ after) before.length
      parent trees := by
  cases trees with
  | nil => trivial
  | cons tree rest =>
    constructor
    · have htree := stands_nodesFrom tree (some parent) before
        (CallTree.nodesFromAll (before.length + tree.size) parent rest ++ after)
      simpa [CallTree.nodesFromAll] using htree
    · have hrest := standAll_nodesFromAll rest parent
        (before ++ tree.nodesFrom before.length (some parent)) after
      simpa [CallTree.nodesFromAll, CallTree.length_nodesFrom] using hrest

end

theorem CallTree.size_pos (tree : CallTree) : 0 < tree.size := by
  cases tree with
  | mk frame calls =>
    rw [size]
    exact Nat.succ_pos _

mutual

/-- Each place of a tree that stands is the place of a part of it. -/
theorem exists_stands (tree : CallTree) {start : Nat} {parent : Option Nat}
    (hstands : Stands nodes start parent tree) (hstart : start ≤ place)
    (hend : place < start + tree.size) :
    ∃ above part, Stands nodes place above part ∧ place + part.size ≤ start + tree.size := by
  rcases Nat.eq_or_lt_of_le hstart with rfl | hbeneath
  · exact ⟨parent, tree, hstands, Nat.le_refl _⟩
  · cases tree with
    | mk frame calls =>
      rw [CallTree.size] at hend ⊢
      obtain ⟨above, part, hpart, hsize⟩ :=
        exists_stands_of_standAll calls hstands.2 hbeneath (by omega)
      exact ⟨above, part, hpart, by omega⟩

theorem exists_stands_of_standAll (trees : List CallTree) {start parent : Nat}
    (hstand : StandAll nodes start parent trees) (hstart : start ≤ place)
    (hend : place < start + CallTree.sizes trees) :
    ∃ above part, Stands nodes place above part ∧
      place + part.size ≤ start + CallTree.sizes trees := by
  cases trees with
  | nil =>
    rw [CallTree.sizes] at hend
    omega
  | cons tree rest =>
    rw [CallTree.sizes] at hend ⊢
    rcases Nat.lt_or_ge place (start + tree.size) with hlt | hge
    · obtain ⟨above, part, hpart, hsize⟩ := exists_stands tree hstand.1 hstart hlt
      exact ⟨above, part, hpart, by omega⟩
    · obtain ⟨above, part, hpart, hsize⟩ :=
        exists_stands_of_standAll rest hstand.2 hge (by omega)
      exact ⟨above, part, hpart, by omega⟩

end

/-! ### Children and parents -/

/-- The parent of the node at a place, if there is a node and it has one. -/
def parentAt (nodes : List Node) (place : Nat) : Option Nat := nodes[place]?.bind Node.parent

theorem parentAt_of_stands {tree : CallTree} {start : Nat} {parent : Option Nat}
    (hstands : Stands nodes start parent tree) : parentAt nodes start = parent := by
  cases tree with
  | mk frame calls =>
    rw [parentAt, hstands.1]
    rfl

theorem lt_length_of_parentAt {above : Nat} (hparent : parentAt nodes place = some above) :
    place < nodes.length := by
  obtain ⟨node, hnode, -⟩ := Option.bind_eq_some_iff.mp hparent
  exact (List.getElem?_eq_some_iff.mp hnode).1

theorem le_of_mem_places {trees : List CallTree} {start : Nat}
    (hplace : place ∈ CallTree.places start trees) :
    start ≤ place := by
  induction trees generalizing start with
  | nil => cases hplace
  | cons tree rest ih =>
    rcases List.mem_cons.mp hplace with rfl | hrest
    · exact Nat.le_refl _
    · exact Nat.le_trans (Nat.le_add_right ..) (ih hrest)

theorem lt_of_mem_places {trees : List CallTree} {start : Nat}
    (hplace : place ∈ CallTree.places start trees) :
    place < start + CallTree.sizes trees := by
  induction trees generalizing start with
  | nil => cases hplace
  | cons tree rest ih =>
    rw [CallTree.sizes]
    rcases List.mem_cons.mp hplace with rfl | hrest
    · have hpos := tree.size_pos
      omega
    · have hlt := ih hrest
      omega

theorem pairwise_places (start : Nat) (trees : List CallTree) :
    (CallTree.places start trees).Pairwise (· < ·) := by
  induction trees generalizing start with
  | nil => exact .nil
  | cons tree rest ih =>
    refine .cons (fun place hplace ↦ ?_) (ih _)
    have hle := le_of_mem_places hplace
    have hpos := tree.size_pos
    omega

theorem parentAt_of_mem_places {trees : List CallTree} {start parent : Nat}
    (hstand : StandAll nodes start parent trees) (hplace : place ∈ CallTree.places start trees) :
    parentAt nodes place = some parent := by
  induction trees generalizing start with
  | nil => cases hplace
  | cons tree rest ih =>
    rcases List.mem_cons.mp hplace with rfl | hrest
    · exact parentAt_of_stands hstand.1
    · exact ih hstand.2 hrest

/-- The node at `above` has the one at `place` among its children, and this one has it as its
parent. -/
structure Linked (nodes : List Node) (above place : Nat) : Prop where
  lt : above < place
  parent : parentAt nodes place = some above
  child : ∃ node, nodes[above]? = some node ∧ place ∈ node.children

theorem linked_of_mem_places {frame : Frame} {calls : List CallTree} {start : Nat}
    {parent : Option Nat}
    (hstands : Stands nodes start parent (.mk frame calls))
    (hplace : place ∈ CallTree.places (start + 1) calls) : Linked nodes start place where
  lt := le_of_mem_places hplace
  parent := parentAt_of_mem_places hstands.2 hplace
  child := ⟨_, hstands.1, hplace⟩

mutual

/-- Every node of a tree that stands but the root is linked to another node of it. -/
theorem exists_linked (tree : CallTree) {start : Nat} {parent : Option Nat}
    (hstands : Stands nodes start parent tree) (hstart : start < place)
    (hend : place < start + tree.size) : ∃ above, start ≤ above ∧ Linked nodes above place := by
  cases tree with
  | mk frame calls =>
    rw [CallTree.size] at hend
    rcases exists_linked_of_standAll calls hstands.2 hstart (by omega) with
      hplace | ⟨above, habove, hlinked⟩
    · exact ⟨start, Nat.le_refl _, linked_of_mem_places hstands hplace⟩
    · exact ⟨above, by omega, hlinked⟩

theorem exists_linked_of_standAll (trees : List CallTree) {start parent : Nat}
    (hstand : StandAll nodes start parent trees) (hstart : start ≤ place)
    (hend : place < start + CallTree.sizes trees) :
    place ∈ CallTree.places start trees ∨ ∃ above, start ≤ above ∧ Linked nodes above place := by
  cases trees with
  | nil =>
    rw [CallTree.sizes] at hend
    omega
  | cons tree rest =>
    rw [CallTree.sizes] at hend
    rw [CallTree.places, List.mem_cons]
    rcases Nat.eq_or_lt_of_le hstart with hroot | hbeneath
    · exact Or.inl (Or.inl hroot.symm)
    · rcases Nat.lt_or_ge place (start + tree.size) with hlt | hge
      · exact Or.inr (exists_linked tree hstand.1 hbeneath hlt)
      · rcases exists_linked_of_standAll rest hstand.2 hge (by omega) with
          hplace | ⟨above, habove, hlinked⟩
        · exact Or.inl (Or.inr hplace)
        · exact Or.inr ⟨above, by omega, hlinked⟩

end

/-! ### The tree beneath a place -/

/-- The tree that the children of the nodes tell from a place on, if none is missing and none lies
deeper than `depth`. -/
def rebuild (nodes : List Node) : (depth place : Nat) → Option CallTree
  | 0, _ => none
  | depth + 1, place => do
    let node ← nodes[place]?
    let calls ← node.children.mapM (rebuild nodes depth)
    return .mk node.frame calls

mutual

theorem rebuild_of_stands (tree : CallTree) {start depth : Nat} {parent : Option Nat}
    (hstands : Stands nodes start parent tree) (hdepth : tree.size ≤ depth) :
    rebuild nodes depth start = some tree := by
  cases tree with
  | mk frame calls =>
    cases depth with
    | zero => cases hdepth
    | succ depth =>
      rw [CallTree.size] at hdepth
      have hcalls : (CallTree.places (start + 1) calls).mapM (rebuild nodes depth) = some calls :=
        mapM_rebuild_of_standAll calls hstands.2 (Nat.le_of_succ_le_succ hdepth)
      simp [rebuild, hstands.1, hcalls]

theorem mapM_rebuild_of_standAll (trees : List CallTree) {start parent depth : Nat}
    (hstand : StandAll nodes start parent trees) (hdepth : CallTree.sizes trees ≤ depth) :
    (CallTree.places start trees).mapM (rebuild nodes depth) = some trees := by
  cases trees with
  | nil => rfl
  | cons tree rest =>
    rw [CallTree.sizes] at hdepth
    have hfirst : rebuild nodes depth start = some tree :=
      rebuild_of_stands tree hstand.1 (by omega)
    have hrest : (CallTree.places (start + tree.size) rest).mapM (rebuild nodes depth) =
        some rest := mapM_rebuild_of_standAll rest hstand.2 (by omega)
    simp [CallTree.places, hfirst, hrest]

end

/-! ### A tree that stands alone -/

section Alone

variable {whole : CallTree} (hwhole : Stands nodes 0 none whole)
  (hlength : nodes.length = whole.size)

include hwhole hlength

theorem exists_part {node : Node} (hnode : nodes[place]? = some node) :
    ∃ frame above calls, node = ⟨frame, above, CallTree.places (place + 1) calls⟩ ∧
      Stands nodes place above (.mk frame calls) := by
  have hplace := (List.getElem?_eq_some_iff.mp hnode).1
  obtain ⟨above, part, hpart, -⟩ := exists_stands whole hwhole (Nat.zero_le place) (by omega)
  cases part with
  | mk frame calls =>
    rw [hpart.1, Option.some_inj] at hnode
    exact ⟨frame, above, calls, hnode.symm, hpart⟩

theorem linked_of_parentAt {above : Nat} (hparent : parentAt nodes place = some above) :
    Linked nodes above place := by
  have hplace := lt_length_of_parentAt hparent
  have hroot : place ≠ 0 := by
    rintro rfl
    rw [parentAt_of_stands hwhole] at hparent
    cases hparent
  obtain ⟨other, -, hlinked⟩ := exists_linked whole hwhole (Nat.pos_of_ne_zero hroot) (by omega)
  rw [hlinked.parent, Option.some_inj] at hparent
  exact hparent ▸ hlinked

theorem parent_eq_none_iff {node : Node} (hnode : nodes[place]? = some node) :
    node.parent = none ↔ place = 0 := by
  have hparent : parentAt nodes place = node.parent := by
    rw [parentAt, hnode]
    rfl
  constructor
  · intro hnone
    by_contra hroot
    have hplace := (List.getElem?_eq_some_iff.mp hnode).1
    obtain ⟨above, -, hlinked⟩ := exists_linked whole hwhole (Nat.pos_of_ne_zero hroot) (by omega)
    rw [← hparent, hlinked.parent] at hnone
    cases hnone
  · rintro rfl
    rw [← hparent, parentAt_of_stands hwhole]

theorem mem_children_iff {node : Node} (hnode : nodes[place]? = some node) {other : Nat} :
    other ∈ node.children ↔ parentAt nodes other = some place := by
  constructor
  · intro hchild
    obtain ⟨frame, above, calls, rfl, hpart⟩ := exists_part hwhole hlength hnode
    exact parentAt_of_mem_places hpart.2 hchild
  · intro hparent
    obtain ⟨same, hsame, hchild⟩ := (linked_of_parentAt hwhole hlength hparent).child
    rw [hnode, Option.some_inj] at hsame
    exact hsame ▸ hchild

/-- What is beneath a place are the places of the tree that stands there. -/
theorem reflTransGen_iff {start : Nat} {above : Option Nat} {part : CallTree}
    (hpart : Stands nodes start above part) :
    Relation.ReflTransGen (fun caller callee ↦ parentAt nodes callee = some caller) start place ↔
      start ≤ place ∧ place < start + part.size := by
  constructor
  · intro hbeneath
    induction hbeneath with
    | refl =>
      have hpos := part.size_pos
      omega
    | @tail caller callee _ hcall ih =>
      obtain ⟨_, ⟨frame, calls⟩, hsub, hsize⟩ := exists_stands part hpart ih.1 ih.2
      obtain ⟨node, hnode, hchild⟩ := (linked_of_parentAt hwhole hlength hcall).child
      rw [hsub.1, Option.some_inj] at hnode
      subst hnode
      have hle := le_of_mem_places hchild
      have hlt := lt_of_mem_places hchild
      rw [CallTree.size] at hsize
      omega
  · rintro ⟨hstart, hend⟩
    induction place using Nat.strongRecOn with
    | ind place ih =>
      rcases Nat.eq_or_lt_of_le hstart with rfl | hbeneath
      · exact .refl
      · obtain ⟨caller, hcaller, hlinked⟩ := exists_linked part hpart hbeneath hend
        have hlt := hlinked.lt
        exact (ih caller hlt hcaller (by omega)).tail hlinked.parent

end Alone

/-! ### The arena of a tree -/

namespace Arena

/-- The node at `callee` has the one at `caller` as its parent. -/
def Calls (arena : Arena) (caller callee : Nat) : Prop :=
  parentAt arena.nodes callee = some caller

/-- The tree that stands at a place, rebuilt from the children of the nodes alone. -/
def treeAt? (arena : Arena) (place : Nat) : Option CallTree :=
  rebuild arena.nodes arena.nodes.length place

/-- The places in an arena tell the whole of a tracer's tree. -/
structure Represents (arena : Arena) (frame : CallFrame) : Prop where
  length_eq : arena.nodes.length = frame.size
  /-- The nodes are the frames in pre-order, and so the first is the root. -/
  frames : (preorder frame).Forall₂ (fun part node ↦ node.frame.Reports part.body) arena.nodes
  parent_eq_none_iff : ∀ place node, arena.nodes[place]? = some node →
    (node.parent = none ↔ place = 0)
  parent_lt : ∀ place above, arena.Calls above place → above < place
  increasing : ∀ node ∈ arena.nodes, node.children.Pairwise (· < ·)
  mem_children_iff : ∀ place node other, arena.nodes[place]? = some node →
    (other ∈ node.children ↔ arena.Calls place other)
  /-- What is beneath a place fills the places from there on, as many as its tree has frames. -/
  contiguous : ∀ place < arena.nodes.length, ∃ tree, arena.treeAt? place = some tree ∧
    ∀ other, Relation.ReflTransGen arena.Calls place other ↔
      place ≤ other ∧ other < place + tree.size
  rebuilt : ∃ tree, arena.treeAt? 0 = some tree ∧ tree.Mirrors frame

/-- Whatever tree is laid out, the arena represents it. -/
theorem represents_ofFrame {frame : CallFrame} {arena : Arena}
    (harena : ofFrame frame = .ok arena) : arena.Represents frame := by
  obtain ⟨tree, htree, rfl⟩ := exists_tree_of_ofFrame harena
  have hframes := reports_nodesFrom frame htree 0 none
  have hlength : (ofTree tree).nodes.length = tree.size := CallTree.length_nodesFrom 0 none tree
  have hwhole : Stands (ofTree tree).nodes 0 none tree := by
    have hstands := stands_nodesFrom tree none [] []
    rwa [List.nil_append, List.append_nil] at hstands
  refine ⟨?_, hframes, fun _ _ ↦ parent_eq_none_iff hwhole hlength,
    fun _ _ hcalls ↦ (linked_of_parentAt hwhole hlength hcalls).lt, ?_,
    fun _ _ _ hnode ↦ mem_children_iff hwhole hlength hnode, ?_, ?_⟩
  · rw [← length_preorder frame]
    exact hframes.length_eq.symm
  · intro node hmem
    obtain ⟨place, hnode⟩ := List.mem_iff_getElem?.mp hmem
    obtain ⟨frame, above, calls, rfl, -⟩ := exists_part hwhole hlength hnode
    exact pairwise_places (place + 1) calls
  · intro place hplace
    obtain ⟨above, part, hpart, hsize⟩ :=
      exists_stands tree hwhole (Nat.zero_le place) (by omega)
    refine ⟨part, rebuild_of_stands part hpart (by omega), fun other ↦ ?_⟩
    exact reflTransGen_iff hwhole hlength hpart
  · exact ⟨tree, rebuild_of_stands tree hwhole (Nat.le_of_eq hlength.symm),
      mirrors_of_ofFrame frame htree⟩

/-! ### A tree of four frames -/

namespace Sample

/-- A frame without a value that used more gas than 64 bits hold. -/
def body (type : String) (error : Option String) : FrameBody where
  caller := .zero 20
  gas := 0
  gasUsed := ⟨2 ^ 70, by decide⟩
  callee := none
  input := []
  output := none
  error := error
  revertReason := none
  logs := []
  value := none
  type := type

def nested : CallFrame :=
  .mk (body "CALL" none)
    [.mk (body "CREATE2" (some "out of gas")) [.mk (body "STATICCALL" none) []],
      .mk (body "SUICIDE" none) []]

def tree : CallTree :=
  .mk (.ofBody .call (body "CALL" none))
    [.mk (.ofBody .create2 (body "CREATE2" (some "out of gas")))
        [.mk (.ofBody .staticCall (body "STATICCALL" none)) []],
      .mk (.ofBody .selfDestruct (body "SUICIDE" none)) []]

theorem ofFrame_nested : ofFrame nested = .ok (.ofTree tree) := by
  rw [ofFrame_eq]
  rfl

end Sample

theorem represents_ofFrame_nested :
    ofFrame Sample.nested = .ok (.ofTree Sample.tree) ∧
      (ofTree Sample.tree).Represents Sample.nested ∧
      (ofTree Sample.tree).nodes.map Node.children = [[1, 3], [2], [], []] :=
  ⟨Sample.ofFrame_nested, represents_ofFrame Sample.ofFrame_nested, rfl⟩

end Arena

end RollupLedger.Trace
