import RollupLedger.Client.Block
import RollupLedger.Proofs.Json.Records

/-!
# The ledger's JSON is read back

Every part of a block is read again as it was written, whatever is absent from it and whatever its
metadata hold (`Block.inverts`). A block that has been assembled therefore reaches whoever asked for
it unchanged (`reread_eq_ok`).
-/

set_option autoImplicit false
set_option relaxedAutoImplicit false

namespace RollupLedger.Ledger

open Json Json.Fields Wire

theorem Currency.inverts : Currency.decode.Inverts Currency.encode := by
  rintro ⟨symbol, decimals⟩
  refine record_obj ?_
  refine finds_map _ (finds_required inverts_string ?_)
    |>.seq (finds_required (inverts_word 32) ?_)
  all_goals
    rw [lookup_foldl_insertMember]
    simp [lookup_cons_eq_ite]

theorem BlockIdentifier.inverts : BlockIdentifier.decode.Inverts BlockIdentifier.encode := by
  rintro ⟨index, hash⟩
  refine record_obj ?_
  refine finds_map _ (finds_required (inverts_word 64) ?_)
    |>.seq (finds_required inverts_string ?_)
  all_goals
    rw [lookup_foldl_insertMember]
    simp [lookup_cons_eq_ite]

theorem AccountIdentifier.inverts : AccountIdentifier.decode.Inverts AccountIdentifier.encode := by
  rintro ⟨address⟩
  exact record_obj (finds_map _ (finds_required inverts_string rfl))

theorem Amount.inverts : Amount.decode.Inverts Amount.encode := by
  rintro ⟨value, currency⟩
  refine record_obj ?_
  refine finds_map _ (finds_required inverts_string ?_)
    |>.seq (finds_required Currency.inverts ?_)
  all_goals
    rw [lookup_foldl_insertMember]
    simp [lookup_cons_eq_ite]

theorem inverts_operationType :
    (decodeName "OperationType" OperationType.ofName?).Inverts fun type ↦ .str type.name := by
  rintro (_ | _ | _ | _ | _ | _ | _ | _) <;> rfl

theorem inverts_operationStatus :
    (decodeName "OperationStatus" OperationStatus.ofName?).Inverts
      fun status ↦ .str status.name := by
  rintro (_ | _) <;> rfl

theorem Operation.inverts_position :
    Operation.decodePosition.Inverts Operation.encodePosition :=
  fun _ ↦ record_obj (finds_required (inverts_word 64) rfl)

theorem Operation.inverts : Operation.decode.Inverts Operation.encode := by
  rintro ⟨index, related, type, status, account, amount, metadata⟩
  refine record_obj ?_
  refine finds_map _ (finds_required Operation.inverts_position ?_)
    |>.seq (finds_optional (inverts_list Operation.inverts_position) nofun ?_)
    |>.seq (finds_required inverts_operationType ?_)
    |>.seq (finds_required inverts_operationStatus ?_)
    |>.seq (finds_optional AccountIdentifier.inverts nofun ?_)
    |>.seq (finds_optional Amount.inverts nofun ?_)
    |>.seq (finds_optional inverts_members nofun ?_)
  all_goals
    rw [lookup_foldl_insertMember]
    simp [lookup_cons_eq_ite, List.lookup_append, lookup_optional, reverse_optional]

theorem Transaction.inverts_identifier :
    Transaction.decodeIdentifier.Inverts fun hash ↦ ofMembers [("hash", .str hash)] :=
  fun _ ↦ record_obj (finds_required inverts_string rfl)

theorem Transaction.inverts : Transaction.decode.Inverts Transaction.encode := by
  rintro ⟨hash, operations, metadata⟩
  refine record_obj ?_
  refine finds_map _ (finds_required Transaction.inverts_identifier ?_)
    |>.seq (finds_required (inverts_list Operation.inverts) ?_)
    |>.seq (finds_optional inverts_members nofun ?_)
  all_goals
    rw [lookup_foldl_insertMember]
    simp [lookup_cons_eq_ite, List.lookup_append, lookup_optional, reverse_optional]

/-- A block is read again as it was written. -/
theorem Block.inverts : Block.decode.Inverts Block.encode := by
  rintro ⟨identifier, parent, timestamp, transactions, metadata⟩
  refine record_obj ?_
  refine finds_map _ (finds_required BlockIdentifier.inverts ?_)
    |>.seq (finds_required BlockIdentifier.inverts ?_)
    |>.seq (finds_required inverts_int64 ?_)
    |>.seq (finds_required (inverts_list Transaction.inverts) ?_)
    |>.seq (finds_optional inverts_members nofun ?_)
  all_goals
    rw [lookup_foldl_insertMember]
    simp [lookup_cons_eq_ite, List.lookup_append, lookup_optional, reverse_optional]

end RollupLedger.Ledger

namespace RollupLedger.BlockAssembly

/-- Whoever reads a block after it was assembled finds the block that was assembled. -/
theorem reread_eq_ok (block : Ledger.Block) : reread block = .ok block := by
  rw [reread, decodeAs, Json.Decoder.run, Ledger.Block.inverts]
  rfl

end RollupLedger.BlockAssembly
