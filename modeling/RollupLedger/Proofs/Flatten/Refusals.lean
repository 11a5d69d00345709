import RollupLedger.Flatten.Basic
import RollupLedger.Proofs.Optional

/-!
# A transaction is not refused for its own receipt

Neither laying out a trace nor flattening a transaction with a receipt of its own hash fails because
a receipt belongs to another transaction (`avoids_ofFrame`, `avoids_flatten`).
-/

set_option autoImplicit false
set_option relaxedAutoImplicit false

namespace RollupLedger

/-- The error that blames a receipt for being that of another transaction. -/
def FlattenError.IsMismatch : FlattenError → Prop
  | receiptMismatch _ _ => True
  | _ => False

namespace Trace.Arena

theorem avoids_layOut (stack : List Pending) (nodes : Array Node) :
    Avoids FlattenError.IsMismatch (layOut stack nodes) := by
  induction stack, nodes using layOut.induct with
  | case1 nodes =>
    rw [layOut]
    exact avoids_ok nodes
  | case2 nodes body calls parent stack hkind =>
    rw [layOut, hkind]
    exact avoids_error id
  | case3 nodes body calls parent stack kind hkind place ih =>
    rw [layOut, hkind]
    exact ih

theorem avoids_ofFrame (frame : Wire.CallFrame) :
    Avoids FlattenError.IsMismatch (ofFrame frame) :=
  avoids_bind (avoids_layOut [⟨frame, none⟩] #[]) fun _ _ ↦ avoids_ok _

end Trace.Arena

open Wire

variable {t : SignedTransaction} {receipt : Receipt} {block : BlockContext} {chain : Chain}

namespace DataFee

theorem avoids_encoded (t : SignedTransaction) : Avoids FlattenError.IsMismatch (encoded t) :=
  avoids_mapError fun _ _ ↦ id

theorem avoids_scalarOf : Avoids FlattenError.IsMismatch (scalarOf receipt chain) := by
  unfold scalarOf
  split
  · exact avoids_ok _
  · split
    · exact avoids_ok _
    · exact avoids_error id

theorem avoids_price (raw : Bytes) (gasPrice : Word 256) :
    Avoids FlattenError.IsMismatch (price raw gasPrice receipt block chain) := by
  unfold price
  split
  · exact avoids_ok _
  · exact avoids_bind avoids_scalarOf fun _ _ ↦ avoids_ok _

theorem avoids_assess : Avoids FlattenError.IsMismatch (assess t receipt block chain) := by
  unfold assess
  split
  · exact avoids_ok _
  · split
    · exact avoids_ok _
    · split
      · exact avoids_bind (avoids_price _ _) fun _ _ ↦ avoids_ok _
      · rename_i fault hfault
        split
        · exact avoids_ok _
        · exact avoids_error (avoids_encoded t fault hfault)

end DataFee

namespace Flatten

theorem avoids_flatten (hown : receipt.transactionHash = t.hash) (arena : Trace.Arena) :
    Avoids FlattenError.IsMismatch (flatten t receipt arena block chain) := by
  refine avoids_bind ?_ fun _ _ ↦ avoids_ok _
  unfold postings
  rw [if_neg (not_not.mpr hown)]
  refine avoids_bind ?_ fun _ _ ↦ avoids_ok _
  unfold feePostings
  split
  · exact avoids_ok []
  · exact avoids_bind DataFee.avoids_assess fun _ _ ↦ avoids_ok _

end Flatten

end RollupLedger
