import RollupLedger.Proofs.Trace.Layout

/-!
# The frames of a call tree in pre-order

`preorder` lists a frame and everything beneath it, each frame before the calls it makes. These are
the parts of the tree, at whatever depth (`mem_preorder_iff`). A tree is refused exactly if some
part of it is of no known kind, and for the first of these in pre-order (`Arena.ofFrame_fails`): the
loop fails as the recursion does, and the recursion looks at the frames in that order.
-/

set_option autoImplicit false
set_option relaxedAutoImplicit false

namespace RollupLedger.Trace

open Wire

/-! ### Parts -/

mutual

/-- A frame and everything beneath it, the calls of a frame after it and in their order. -/
def preorder : CallFrame → List CallFrame
  | .mk body calls => .mk body calls :: preorderAll calls

def preorderAll : List CallFrame → List CallFrame
  | [] => []
  | call :: rest => preorder call ++ preorderAll rest

end

mutual

theorem length_preorder (frame : CallFrame) : (preorder frame).length = frame.size := by
  cases frame with
  | mk body calls => rw [preorder, CallFrame.size, List.length_cons, length_preorderAll calls]

theorem length_preorderAll (calls : List CallFrame) :
    (preorderAll calls).length = CallFrame.sizes calls := by
  cases calls with
  | nil => rfl
  | cons call rest =>
    rw [preorderAll, CallFrame.sizes, List.length_append, length_preorder call,
      length_preorderAll rest]

end

/-- A frame is a part of a tree, at whatever depth. -/
inductive Part (part : CallFrame) : CallFrame → Prop
  | whole : Part part part
  | beneath {body : FrameBody} {calls : List CallFrame} {call : CallFrame} (hcall : call ∈ calls)
      (hpart : Part part call) : Part part (.mk body calls)

theorem part_mk_iff {part : CallFrame} {body : FrameBody} {calls : List CallFrame} :
    Part part (.mk body calls) ↔ part = .mk body calls ∨ ∃ call ∈ calls, Part part call := by
  constructor
  · rintro (_ | ⟨hcall, hpart⟩)
    · exact Or.inl rfl
    · exact Or.inr ⟨_, hcall, hpart⟩
  · rintro (rfl | ⟨call, hcall, hpart⟩)
    · exact .whole
    · exact .beneath hcall hpart

mutual

theorem mem_preorder_iff {part : CallFrame} (frame : CallFrame) :
    part ∈ preorder frame ↔ Part part frame := by
  cases frame with
  | mk body calls => rw [preorder, List.mem_cons, part_mk_iff, mem_preorderAll_iff calls]

theorem mem_preorderAll_iff {part : CallFrame} (calls : List CallFrame) :
    part ∈ preorderAll calls ↔ ∃ call ∈ calls, Part part call := by
  cases calls with
  | nil => simp [preorderAll]
  | cons call rest =>
    rw [preorderAll, List.mem_append, mem_preorder_iff call, mem_preorderAll_iff rest,
      List.exists_mem_cons_iff]

end

/-! ### Kinds that are known -/

/-- The first of several frames that is of no known kind. -/
def firstStrange? (frames : List CallFrame) : Option CallFrame :=
  frames.find? fun part ↦ part.body.type ∉ CallKind.names

theorem firstStrange?_cons (body : FrameBody) (calls rest : List CallFrame) :
    firstStrange? (.mk body calls :: rest) =
      if body.type ∈ CallKind.names then firstStrange? rest else some (.mk body calls) := by
  simp only [firstStrange?, List.find?_cons, CallFrame.body]
  by_cases hname : body.type ∈ CallKind.names
  · simp only [hname, not_true_eq_false, decide_false, if_true]
  · simp only [hname, not_false_eq_true, decide_true, if_false]

theorem firstStrange?_append (first rest : List CallFrame) :
    firstStrange? (first ++ rest) = (firstStrange? first).or (firstStrange? rest) :=
  List.find?_append

theorem firstStrange?_eq_some_iff {frames : List CallFrame} {first : CallFrame} :
    firstStrange? frames = some first ↔ ∃ before after, frames = before ++ first :: after ∧
      (∀ part ∈ before, part.body.type ∈ CallKind.names) ∧ first.body.type ∉ CallKind.names := by
  rw [firstStrange?, List.find?_eq_some_iff_append]
  constructor
  · rintro ⟨hstrange, before, after, hsplit, hbefore⟩
    exact ⟨before, after, hsplit, fun part hpart ↦ by simpa using hbefore part hpart,
      by simpa using hstrange⟩
  · rintro ⟨before, after, hsplit, hbefore, hstrange⟩
    exact ⟨by simpa using hstrange, before, after, hsplit, fun part hpart ↦ by
      simpa using hbefore part hpart⟩

theorem exists_firstStrange?_iff {frames : List CallFrame} :
    (∃ first, firstStrange? frames = some first) ↔
      ∃ part ∈ frames, part.body.type ∉ CallKind.names := by
  rw [← Option.isSome_iff_exists, firstStrange?, List.find?_isSome]
  simp only [decide_eq_true_eq]

mutual

theorem known_of_firstStrange? (frame : CallFrame)
    (hnone : firstStrange? (preorder frame) = none) : Known frame := by
  cases frame with
  | mk body calls =>
    rw [preorder, firstStrange?_cons] at hnone
    split at hnone
    · rename_i hname
      exact ⟨hname, allKnown_of_firstStrange? calls hnone⟩
    · cases hnone

theorem allKnown_of_firstStrange? (calls : List CallFrame)
    (hnone : firstStrange? (preorderAll calls) = none) : AllKnown calls := by
  cases calls with
  | nil => trivial
  | cons call rest =>
    rw [preorderAll, firstStrange?_append, Option.or_eq_none_iff] at hnone
    exact ⟨known_of_firstStrange? call hnone.1, allKnown_of_firstStrange? rest hnone.2⟩

end

/-! ### Refusals -/

mutual

theorem ofFrame_of_firstStrange? (frame : CallFrame) {first : CallFrame}
    (hfirst : firstStrange? (preorder frame) = some first) :
    CallTree.ofFrame frame = .error (.unknownFrameKind first.body.type) := by
  cases frame with
  | mk body calls =>
    rw [preorder, firstStrange?_cons] at hfirst
    rw [CallTree.ofFrame]
    split at hfirst
    · rename_i hname
      obtain ⟨kind, hkind⟩ :=
        Option.isSome_iff_exists.mp (CallKind.isSome_ofName?_iff.mpr hname)
      simp only [hkind, ofFrames_of_firstStrange? calls hfirst]
    · rename_i hname
      have hkind : CallKind.ofName? body.type = none := by
        rw [← Option.not_isSome_iff_eq_none, CallKind.isSome_ofName?_iff]
        exact hname
      cases hfirst
      simp only [hkind, CallFrame.body]

theorem ofFrames_of_firstStrange? (calls : List CallFrame) {first : CallFrame}
    (hfirst : firstStrange? (preorderAll calls) = some first) :
    CallTree.ofFrames calls = .error (.unknownFrameKind first.body.type) := by
  cases calls with
  | nil => cases hfirst
  | cons call rest =>
    rw [preorderAll, firstStrange?_append, Option.or_eq_some_iff] at hfirst
    rw [CallTree.ofFrames]
    rcases hfirst with hcall | ⟨hcall, hrest⟩
    · simp only [ofFrame_of_firstStrange? call hcall]
    · obtain ⟨tree, htree⟩ := exists_tree_of_known call (known_of_firstStrange? call hcall)
      simp only [htree, ofFrames_of_firstStrange? rest hrest]

end

namespace Arena

theorem ofFrame_eq_error_iff {frame : CallFrame} {e : FlattenError} :
    ofFrame frame = .error e ↔
      ∃ first, firstStrange? (preorder frame) = some first ∧
        e = .unknownFrameKind first.body.type := by
  rw [ofFrame_eq]
  cases hfirst : firstStrange? (preorder frame) with
  | none =>
    obtain ⟨tree, htree⟩ := exists_tree_of_known frame (known_of_firstStrange? frame hfirst)
    rw [htree]
    exact ⟨nofun, nofun⟩
  | some first =>
    rw [ofFrame_of_firstStrange? frame hfirst]
    simp only [Except.map, Except.error.injEq, Option.some.injEq, exists_eq_left', eq_comm]

/-- A call tree is refused if and only if some frame, at whatever depth, is of no known kind. The
error then tells what the first such frame in pre-order calls itself. -/
theorem ofFrame_fails (frame : CallFrame) :
    ((∃ e, ofFrame frame = .error e) ↔
        ∃ part, Part part frame ∧ part.body.type ∉ CallKind.names) ∧
      ∀ e, ofFrame frame = .error e ↔ ∃ before first after,
        preorder frame = before ++ first :: after ∧
        (∀ part ∈ before, part.body.type ∈ CallKind.names) ∧
        first.body.type ∉ CallKind.names ∧ e = .unknownFrameKind first.body.type := by
  constructor
  · simp only [ofFrame_eq_error_iff, ← mem_preorder_iff, ← exists_firstStrange?_iff]
    constructor
    · rintro ⟨e, first, hfirst, -⟩
      exact ⟨first, hfirst⟩
    · rintro ⟨first, hfirst⟩
      exact ⟨_, first, hfirst, rfl⟩
  · intro e
    simp only [ofFrame_eq_error_iff, firstStrange?_eq_some_iff]
    constructor
    · rintro ⟨first, ⟨before, after, hsplit, hbefore, hstrange⟩, rfl⟩
      exact ⟨before, first, after, hsplit, hbefore, hstrange, rfl⟩
    · rintro ⟨before, first, after, hsplit, hbefore, hstrange, rfl⟩
      exact ⟨first, ⟨before, after, hsplit, hbefore, hstrange⟩, rfl⟩

end Arena

end RollupLedger.Trace
