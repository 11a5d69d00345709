import RollupLedger.Proofs.Json.Closed
import RollupLedger.Proofs.Json.Records
import RollupLedger.Wire.Header
import RollupLedger.Wire.NodeState
import RollupLedger.Wire.Receipt

/-!
# What a node says has one written form

Nodes spell one thing in many ways: numbers in several bases, bytes with and without a mark, absent
members as null, members that nobody asked for, signatures that are none. Whatever is read is
written in one form, which is read as the same thing again and which another pass leaves as it is
(`wire_settles`).

All types but one are read back from whatever is written of them (`Decoder.Inverts`). The exception
are receipts: a filter that is null is written in the way of one that is absent. No receipt that was
read has such a filter (`Receipt.logsBloom_ne_null`).
-/

set_option autoImplicit false
set_option relaxedAutoImplicit false

namespace RollupLedger.Wire

open Json Json.Fields

/-! ### Scalars -/

theorem inverts_quantity (bits : Nat) : (decodeQuantity bits).Inverts encodeQuantity := by
  intro word
  have hread : quantity? bits (encodeQuantity word) = some word :=
    Numeral.quantity?_eq_some_iff.mpr (Numeral.spells_hex word.toNat)
  simp only [decodeQuantity, hread]

theorem inverts_fixed (size : Nat) : (decodeFixed size).Inverts encodeFixed := by
  intro fixed
  have hread : Hex.readFixed size fixed.hex = .ok fixed :=
    Hex.readFixed_eq_ok_iff.mpr (Hex.spells_write fixed.bytes)
  simp only [encodeFixed, decodeFixed, hread]

theorem inverts_bytes : decodeBytes.Inverts encodeBytes := by
  intro bytes
  have hread : Hex.read (Hex.write bytes) = .ok bytes :=
    Hex.read_eq_ok_iff.mpr (Hex.spells_write bytes)
  simp only [encodeBytes, decodeBytes, hread]

/-- An integer is read as an integer again, and a text as a word of 256 bits. -/
theorem Quantity.inverts : Quantity.decode.Inverts Quantity.encode := by
  rintro (n | n)
  · simp only [Quantity.encode, Quantity.decode, (inverts_word 64).run_encode n]
  · simp only [Quantity.encode, Quantity.decode, (inverts_quantity 256).run_encode n]
    rfl

/-! ### The state of a node -/

theorem SyncProgress.inverts : SyncProgress.decode.Inverts SyncProgress.encode := by
  rintro ⟨currentBlock, highestBlock⟩
  refine record_obj ?_
  refine finds_map _ (finds_required (inverts_quantity 64) ?_)
    |>.seq (finds_required (inverts_quantity 64) ?_)
  all_goals
    rw [lookup_foldl_insertMember]
    simp [lookup_cons_eq_ite]

theorem Syncing.inverts : Syncing.decode.Inverts Syncing.encode := by
  rintro (answer | progress)
  · rfl
  · simp only [Syncing.encode, Syncing.decode, SyncProgress.inverts.run_encode progress]
    rfl

theorem inverts_any : decodeAny.Inverts id := fun _ ↦ rfl

theorem PeerInfo.inverts : PeerInfo.decode.Inverts PeerInfo.encode := by
  rintro ⟨id, name, enode, caps, protocols⟩
  refine record_obj ?_
  refine finds_map _ (finds_required inverts_string ?_)
    |>.seq (finds_optional inverts_string nofun ?_)
    |>.seq (finds_optional inverts_string nofun ?_)
    |>.seq (finds_withDefault (inverts_list inverts_string) [] ?_)
    |>.seq (finds_withDefault inverts_any .null ?_)
  all_goals
    rw [lookup_foldl_insertMember]
    simp [lookup_cons_eq_ite, List.lookup_append, lookup_optional, reverse_optional]

/-! ### Transactions -/

theorem AccessEntry.inverts : AccessEntry.decode.Inverts AccessEntry.encode := by
  rintro ⟨address, storageKeys⟩
  refine record_obj ?_
  refine finds_map _ (finds_required (inverts_fixed 20) ?_)
    |>.seq (finds_required (inverts_list (inverts_fixed 32)) ?_)
  all_goals
    rw [lookup_foldl_insertMember]
    simp [lookup_cons_eq_ite]

theorem Authorization.inverts : Authorization.decode.Inverts Authorization.encode := by
  rintro ⟨chainId, address, nonce, r, s, v⟩
  refine readObject_of_finds ?_
  refine finds_map _ (finds_required (inverts_quantity 256) ?_)
    |>.seq (finds_required (inverts_fixed 20) ?_)
    |>.seq (finds_required (inverts_quantity 64) ?_)
    |>.seq (finds_required (inverts_quantity 256) ?_)
    |>.seq (finds_required (inverts_quantity 256) ?_)
    |>.seq (finds_required (inverts_quantity 64) ?_)
  all_goals
    rw [lookup_foldl_insertMember]
    simp [lookup_cons_eq_ite]

namespace Signature

/-- The names of a signature's parts. -/
def names : List String := ["r", "s", "v", "yParity"]

theorem inverts_parity : decodeParity.Inverts encodeParity := by
  rintro (_ | _) <;> rfl

theorem encodeParity_ne_null : NeverNull encodeParity := by
  rintro (_ | _) <;> nofun

variable {members : Members}

theorem finds_fields {signature : Signature}
    (hsame : ∀ key ∈ names, members.lookup key = signature.members.reverse.lookup key) :
    fields.Finds members signature := by
  refine finds_map _ (finds_required (inverts_quantity 256) ?_)
    |>.seq (finds_required (inverts_quantity 256) ?_)
    |>.seq (finds_required (inverts_quantity 256) ?_)
    |>.seq (finds_optional inverts_parity encodeParity_ne_null ?_)
  all_goals
    rw [hsame _ (by decide)]
    simp [Signature.members, lookup_cons_eq_ite, List.lookup_append, lookup_optional,
      reverse_optional]

/-- Members without an `r` make no signature. -/
theorem not_gives_fields (hmissing : members.lookup "r" = none) (signature : Signature) :
    ¬ fields.Gives members signature := by
  simp only [fields, required, gives_seq, gives_map, gives_field, hmissing]
  simp

theorem finds_among {signature : Option Signature}
    (hsame : ∀ key ∈ names,
      members.lookup key = signature.bind fun s ↦ s.members.reverse.lookup key) :
    among.Finds members signature := by
  cases signature with
  | none =>
    have hnone : (fields ⟨members, false⟩).outcome.toOption = none := by
      cases hread : (fields ⟨members, false⟩).outcome with
      | error flaw => rfl
      | ok signature => exact absurd hread (not_gives_fields (hsame "r" (by decide)) signature)
    rw [Finds, among, hnone]
  | some signature =>
    have hfields : fields ⟨members, false⟩ = ⟨.ok signature, none⟩ := finds_fields hsame
    rw [Finds, among, hfields]
    rfl

/-- The parts of a signature stand among the members of a transaction that has one. -/
theorem lookup_getD_members (signature : Option Signature) (key : String) :
    ((signature.map Signature.members).getD []).reverse.lookup key =
      signature.bind fun s ↦ s.members.reverse.lookup key := by
  cases signature <;> rfl

/-- A signature has no other parts. -/
theorem lookup_members_eq_none {signature : Signature} {key : String} (hkey : key ∉ names) :
    signature.members.reverse.lookup key = none := by
  simp only [names, List.mem_cons, List.not_mem_nil, or_false, not_or] at hkey
  simp [Signature.members, lookup_cons_eq_ite, List.lookup_append, lookup_optional,
    reverse_optional, hkey]

end Signature

namespace TransactionBody

variable {t : TransactionBody} {key : String}

/-- Every member but those of the signature has its own place. -/
theorem lookup_members_signature (hkey : key ∈ Signature.names) :
    t.members.reverse.lookup key = t.signature.bind fun s ↦ s.members.reverse.lookup key := by
  simp only [Signature.names, List.mem_cons, List.not_mem_nil, or_false] at hkey
  obtain rfl | rfl | rfl | rfl := hkey
  all_goals
    simp [members, lookup_cons_eq_ite, List.lookup_append, lookup_optional, reverse_optional,
      Signature.lookup_getD_members]

theorem finds {members : Members}
    (hsame : ∀ key, key ≠ "mint" → key ≠ "sourceHash" →
      members.lookup key = t.members.reverse.lookup key) :
    TransactionBody.fields.Finds members t := by
  have hsignature : Signature.among.Finds members t.signature := by
    refine Signature.finds_among fun key hkey ↦ ?_
    have hother : key ≠ "mint" ∧ key ≠ "sourceHash" :=
      ⟨ne_of_mem_of_not_mem hkey (by decide), ne_of_mem_of_not_mem hkey (by decide)⟩
    rw [hsame key hother.1 hother.2, lookup_members_signature hkey]
  refine finds_map _ (finds_required (inverts_fixed 32) ?_)
    |>.seq (finds_required (inverts_quantity 64) ?_)
    |>.seq (finds_orNull (inverts_fixed 32) nofun ?_)
    |>.seq (finds_orNull (inverts_quantity 64) nofun ?_)
    |>.seq (finds_orNull (inverts_quantity 64) nofun ?_)
    |>.seq (finds_required (inverts_fixed 20) ?_)
    |>.seq (finds_orNull (inverts_fixed 20) nofun ?_)
    |>.seq (finds_required (inverts_quantity 256) ?_)
    |>.seq (finds_optional (inverts_quantity 128) nofun ?_)
    |>.seq (finds_required (inverts_quantity 128) ?_)
    |>.seq (finds_optional (inverts_quantity 128) nofun ?_)
    |>.seq (finds_optional (inverts_quantity 128) nofun ?_)
    |>.seq (finds_optional (inverts_quantity 128) nofun ?_)
    |>.seq (finds_required inverts_bytes ?_)
    |>.seq hsignature
    |>.seq (finds_optional (inverts_quantity 64) nofun ?_)
    |>.seq (finds_optional (inverts_list (inverts_fixed 32)) nofun ?_)
    |>.seq (finds_optional (inverts_list AccessEntry.inverts) nofun ?_)
    |>.seq (finds_optional (inverts_quantity 8) nofun ?_)
    |>.seq (finds_optional (inverts_list Authorization.inverts) nofun ?_)
  all_goals
    rw [hsame _ (by decide) (by decide)]
    simp [TransactionBody.members, lookup_cons_eq_ite, List.lookup_append, lookup_optional,
      reverse_optional, Signature.lookup_getD_members, Signature.lookup_members_eq_none,
      Signature.names]

end TransactionBody

theorem SignedTransaction.inverts : SignedTransaction.decode.Inverts SignedTransaction.encode := by
  intro t
  refine splitRecord_obj (a := (t.mint, t.sourceHash))
    (finds_map _ (finds_optional (inverts_quantity 256) nofun ?_)
      |>.seq (finds_optional (inverts_fixed 32) nofun ?_))
    (TransactionBody.finds fun key hmint hsource ↦ ?_)
  all_goals
    rw [lookup_foldl_insertMember]
    simp [TransactionBody.members, lookup_cons_eq_ite, List.lookup_append, lookup_optional,
      reverse_optional, Signature.lookup_getD_members, Signature.lookup_members_eq_none,
      Signature.names, *]

/-! ### Blocks -/

theorem Header.finds {header : Header} {members : Members}
    (hsame : ∀ key, key ≠ "transactions" →
      members.lookup key = header.members.reverse.lookup key) :
    Header.fields.Finds members header := by
  refine finds_map _ (finds_required (inverts_fixed 32) ?_)
    |>.seq (finds_required (inverts_fixed 32) ?_)
    |>.seq (finds_required (inverts_quantity 64) ?_)
    |>.seq (finds_required (inverts_quantity 64) ?_)
    |>.seq (finds_withDefault (inverts_fixed 20) _ ?_)
    |>.seq (finds_withDefault (inverts_fixed 32) _ ?_)
    |>.seq (finds_withDefault (inverts_fixed 32) _ ?_)
    |>.seq (finds_withDefault (inverts_fixed 32) _ ?_)
    |>.seq (finds_withDefault (inverts_quantity 256) _ ?_)
    |>.seq (finds_withDefault (inverts_quantity 64) _ ?_)
    |>.seq (finds_withDefault (inverts_quantity 64) _ ?_)
    |>.seq (finds_optional (inverts_quantity 256) nofun ?_)
    |>.seq (finds_withDefault (inverts_list (inverts_fixed 32)) _ ?_)
  all_goals
    rw [hsame _ (by decide)]
    simp [Header.members, lookup_cons_eq_ite, List.lookup_append, lookup_optional,
      reverse_optional]

theorem Header.inverts : Header.decode.Inverts Header.encode := by
  intro header
  refine record_obj (Header.finds fun key _ ↦ ?_)
  rw [lookup_foldl_insertMember]
  exact Option.or_none

theorem NodeBlock.inverts : NodeBlock.decode.Inverts NodeBlock.encode := by
  rintro ⟨header, transactions⟩
  refine splitRecord_obj (finds_withDefault (inverts_list SignedTransaction.inverts) [] ?_)
    (Header.finds fun key hkey ↦ ?_)
  all_goals
    rw [lookup_foldl_insertMember]
    simp [lookup_cons_eq_ite, *]

/-! ### Receipts -/

namespace Receipt

/-- A filter that was null has been read as none. -/
theorem logsBloom_ne_null {json : Json} {receipt : Receipt}
    (hread : Receipt.decode.run json = .ok receipt) : receipt.logsBloom ≠ some .null := by
  have hbloom : (optional "logsBloom" decodeAny).Always fun found ↦ ∀ a ∈ found, a ≠ .null :=
    always_optional fun json bloom hpresent hany ↦ by
      cases hany
      exact hpresent
  have hfields : Receipt.fields.Always fun receipt ↦ ∀ a ∈ receipt.logsBloom, a ≠ .null := by
    refine always_map ?_ |>.seq_left |>.seq_left |>.seq_left |>.seq_left |>.seq_left |>.seq_left
      |>.seq hbloom
      |>.seq_left |>.seq_left |>.seq_left |>.seq_left |>.seq_left |>.seq_left |>.seq_left
    intro _ _ _ _ _ _ _ found hfound
    exact fun _ _ _ _ _ _ _ ↦ hfound
  exact fun hnull ↦ hfields.of_run_record hread .null hnull rfl

theorem decode_encode {receipt : Receipt} (hbloom : receipt.logsBloom ≠ some .null) :
    Receipt.decode receipt.encode = pure receipt := by
  have hpresent : ∀ bloom, receipt.logsBloom = some bloom → id bloom ≠ .null := by
    rintro bloom hsome rfl
    exact hbloom hsome
  refine record_obj ?_
  refine finds_map _ (finds_required (inverts_fixed 32) ?_)
    |>.seq (finds_optional (inverts_quantity 64) nofun ?_)
    |>.seq (finds_required (inverts_quantity 64) ?_)
    |>.seq (finds_withDefault (inverts_quantity 64) _ ?_)
    |>.seq (finds_optional (inverts_quantity 256) nofun ?_)
    |>.seq (finds_optional (inverts_fixed 20) nofun ?_)
    |>.seq (finds_withDefault inverts_any _ ?_)
    |>.seq (finds_optional_of_ne_null inverts_any hpresent ?_)
    |>.seq (finds_optional (inverts_quantity 256) nofun ?_)
    |>.seq (finds_optional (inverts_quantity 256) nofun ?_)
    |>.seq (finds_optional (inverts_quantity 256) nofun ?_)
    |>.seq (finds_optional inverts_string nofun ?_)
    |>.seq (finds_optional (inverts_quantity 64) nofun ?_)
    |>.seq (finds_optional (inverts_quantity 256) nofun ?_)
    |>.seq (finds_optional (inverts_quantity 64) nofun ?_)
  all_goals
    rw [lookup_foldl_insertMember]
    simp [lookup_cons_eq_ite, List.lookup_append, lookup_optional, reverse_optional]

theorem settles : Receipt.decode.Settles Receipt.encode :=
  .of_again fun _ receipt hread ↦ by
    rw [Decoder.run, decode_encode (logsBloom_ne_null hread), Decoding.result_pure]

end Receipt

/-! ### Every type -/

/-- Whatever a node says, in whatever spelling, is read as the same thing again once it has been
written. -/
theorem wire_settles :
    SignedTransaction.decode.Settles SignedTransaction.encode ∧
      Receipt.decode.Settles Receipt.encode ∧
      Header.decode.Settles Header.encode ∧
      NodeBlock.decode.Settles NodeBlock.encode ∧
      Syncing.decode.Settles Syncing.encode ∧
      PeerInfo.decode.Settles PeerInfo.encode ∧
      Quantity.decode.Settles Quantity.encode :=
  ⟨SignedTransaction.inverts.settles, Receipt.settles, Header.inverts.settles,
    NodeBlock.inverts.settles, Syncing.inverts.settles, PeerInfo.inverts.settles,
    Quantity.inverts.settles⟩

namespace Sample

/-- A transaction in a spelling that no writer here uses: with an octal chain, an integer for the
gas, bytes as an array, a strange member and a part of a signature that is none. -/
def oddTransaction : Json := .obj
  [("blockHash", .null), ("chainId", .str "0o12"), ("extra", .bool true),
    ("from", .str "00000000000000000000000000000000000000AA"), ("gas", .int 21000),
    ("hash", .str "0000000000000000000000000000000000000000000000000000000000000001"),
    ("input", .arr [.int 1, .int 255]), ("nonce", .str "7"), ("r", .str "malformed"),
    ("value", .str "0X0A")]

/-- The same in the one form in which it is written. -/
def plainTransaction : Json := .obj
  [("blockHash", .null), ("blockNumber", .null), ("chainId", .str "0xa"),
    ("from", .str "0x00000000000000000000000000000000000000aa"), ("gas", .str "0x5208"),
    ("hash", .str "0x0000000000000000000000000000000000000000000000000000000000000001"),
    ("input", .str "0x01ff"), ("nonce", .str "0x7"), ("to", .null), ("transactionIndex", .null),
    ("value", .str "0xa")]

end Sample

theorem wire_settles_odd_transaction :
    let rewrite := SignedTransaction.decode.rewrite SignedTransaction.encode
    rewrite Sample.oddTransaction = .ok Sample.plainTransaction ∧
      rewrite Sample.plainTransaction = .ok Sample.plainTransaction := by
  have hpass : SignedTransaction.decode.rewrite SignedTransaction.encode Sample.oddTransaction =
      .ok Sample.plainTransaction := by
    with_unfolding_all rfl
  exact ⟨hpass, wire_settles.1.unchanged _ _ hpass⟩

end RollupLedger.Wire
