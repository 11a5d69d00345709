import RollupLedger.Envelope.Basic
import RollupLedger.Proofs.Envelope.Rlp
import RollupLedger.Proofs.Optional

/-!
# What the network form tells of a transaction

No network form is the beginning of another, and two transactions with one form are of one kind and
agree in every field that their kind writes (`agree_of_isPrefix_encode`). The fields are compared as
the kind writes them: an access list that may be absent counts as empty then, a parity counts as the
number that stands for it, and the oldest kind has no chain apart from that number.
-/

set_option autoImplicit false
set_option relaxedAutoImplicit false

namespace RollupLedger.Envelope

open Wire

/-! ### What is written -/

/-- The fields that every kind writes agree. -/
structure SameCall (t u : TransactionBody) : Prop where
  nonce : t.nonce = u.nonce
  gas : t.gas = u.gas
  recipient : t.recipient = u.recipient
  value : t.value = u.value
  input : t.input = u.input

/-- The chain and the caps on the price of gas agree. -/
structure SameCaps (t u : TransactionBody) : Prop where
  chainId : t.chainId = u.chainId
  cap : t.maxFeePerGas = u.maxFeePerGas
  tip : t.maxPriorityFeePerGas = u.maxPriorityFeePerGas

/-- The fields that some kinds write and others do not agree. Where an access list may be absent, it
counts as empty then. -/
def Kind.SameTerms (t u : TransactionBody) : Kind → Prop
  | legacy => t.gasPrice = u.gasPrice
  | accessList => t.chainId = u.chainId ∧ t.gasPrice = u.gasPrice ∧ t.accessList = u.accessList
  | dynamicFee => SameCaps t u ∧ t.accessList.getD [] = u.accessList.getD []
  | blob => SameCaps t u ∧ t.accessList.getD [] = u.accessList.getD [] ∧
      t.maxFeePerBlobGas = u.maxFeePerBlobGas ∧ t.blobVersionedHashes = u.blobVersionedHashes
  | delegation => SameCaps t u ∧ t.accessList = u.accessList ∧
      t.authorizationList = u.authorizationList

/-- The number that a kind writes for a parity: in the oldest kind all of it, later only its bit. -/
def Kind.parityNumber (parity : Parity) : Kind → Nat
  | legacy => parity.legacyV
  | _ => parity.bit.toNat

/-- A transaction is signed with `r` and `s` and a parity that its kind writes as `v`. -/
def Kind.Seals (kind : Kind) (t : TransactionBody) (v : Nat) (r s : Word 256) : Prop :=
  ∃ signature parity, t.signature = some signature ∧ parityOf signature = .ok parity ∧
    kind.parityNumber parity = v ∧ signature.r = r ∧ signature.s = s

/-- Two transactions of a kind agree in all that the kind writes. -/
structure Kind.Agree (kind : Kind) (t u : SignedTransaction) : Prop where
  type : Kind.ofType? t.kind = some kind
  sameType : t.kind = u.kind
  call : SameCall t.toTransactionBody u.toTransactionBody
  terms : kind.SameTerms t.toTransactionBody u.toTransactionBody
  signature : ∃ v r s, kind.Seals t.toTransactionBody v r s ∧ kind.Seals u.toTransactionBody v r s

/-! ### Fields that are written alike -/

namespace Rlp

theorem nat_inj {m n : Nat} : nat m = nat n ↔ m = n := by
  rw [nat, nat, bytes.injEq, Bytes.ofNat_injective.eq_iff]

theorem word_inj {bits : Nat} {a b : Word bits} : word a = word b ↔ a = b := by
  rw [word, word, nat_inj, Word.ext_iff]

theorem fixed_inj {size : Nat} {a b : FixedBytes size} : fixed a = fixed b ↔ a = b := by
  rw [fixed, fixed, bytes.injEq, FixedBytes.ext_iff]

theorem map_fixed_inj {size : Nat} {as bs : List (FixedBytes size)} :
    as.map fixed = bs.map fixed ↔ as = bs :=
  List.map_inj_right fun _ _ ↦ fixed_inj.mp

end Rlp

open Rlp

/-- No address is without bytes, as an absent recipient is. -/
theorem recipientItem_inj {a b : Option Address} : recipientItem a = recipientItem b ↔ a = b := by
  have hsome (address : Address) : fixed address ≠ .bytes [] := by
    intro hnone
    have hlength := address.length_eq
    rw [bytes.inj hnone] at hlength
    cases hlength
  cases a <;> cases b <;> simp [recipientItem, fixed_inj, hsome, (hsome _).symm]

theorem accessItem_inj {a b : AccessEntry} : accessItem a = accessItem b ↔ a = b := by
  cases a
  cases b
  simp [accessItem, fixed_inj, map_fixed_inj]

theorem accessItems_inj {as bs : List AccessEntry} : accessItems as = accessItems bs ↔ as = bs := by
  rw [accessItems, accessItems, list.injEq, List.map_inj_right fun _ _ ↦ accessItem_inj.mp]

theorem authorizationItem_inj {a b : Authorization} :
    authorizationItem a = authorizationItem b ↔ a = b := by
  cases a
  cases b
  simp only [authorizationItem, list.injEq, List.cons.injEq, fixed_inj, word_inj, and_true,
    Authorization.mk.injEq]
  -- The parity is written before the two numbers that it belongs to.
  tauto

theorem map_authorizationItem_inj {as bs : List Authorization} :
    as.map authorizationItem = bs.map authorizationItem ↔ as = bs :=
  List.map_inj_right fun _ _ ↦ authorizationItem_inj.mp

theorem need_eq_ok {α : Type} {field : Field} {o : Option α} {a : α}
    (hneed : need field o = .ok a) : o = some a := by
  cases o <;> cases hneed
  rfl

theorem eq_of_need {α : Type} {field : Field} {o o' : Option α} {a : α}
    (ho : need field o = .ok a) (ho' : need field o' = .ok a) : o = o' :=
  (need_eq_ok ho).trans (need_eq_ok ho').symm

/-! ### Lists of fields -/

/-- The chain and the caps of a transaction are these. -/
structure HasCaps (t : TransactionBody) (chainId : Word 64) (cap tip : Word 128) : Prop where
  chainId : t.chainId = some chainId
  cap : t.maxFeePerGas = some cap
  tip : t.maxPriorityFeePerGas = some tip

section Items

variable {t u : TransactionBody} {parity parity' : Parity} {signature signature' : Signature}

/-- The later kinds ask for the chain and the caps before anything else. -/
theorem exists_hasCaps {α : Type} {rest : Word 64 → Word 128 → Word 128 → Except Fault α} {a : α}
    (ha : (do
      let chainId ← need .chainId t.chainId
      let cap ← need .maxFeePerGas t.maxFeePerGas
      let tip ← need .maxPriorityFeePerGas t.maxPriorityFeePerGas
      rest chainId cap tip) = .ok a) :
    ∃ chainId cap tip, HasCaps t chainId cap tip ∧ rest chainId cap tip = .ok a := by
  obtain ⟨chainId, hchainId, ha⟩ := bind_eq_ok ha
  obtain ⟨cap, hcap, ha⟩ := bind_eq_ok ha
  obtain ⟨tip, htip, ha⟩ := bind_eq_ok ha
  exact ⟨chainId, cap, tip, ⟨need_eq_ok hchainId, need_eq_ok hcap, need_eq_ok htip⟩, ha⟩

theorem same_of_cappedItems {chainId chainId' : Word 64} {cap tip cap' tip' : Word 128}
    {access access' : List AccessEntry} {rest rest' : List Rlp}
    (hcaps : HasCaps t chainId cap tip) (hcaps' : HasCaps u chainId' cap' tip')
    (happend : cappedItems t chainId tip cap access ++ rest =
      cappedItems u chainId' tip' cap' access' ++ rest') :
    SameCall t u ∧ SameCaps t u ∧ access = access' ∧ rest = rest' := by
  obtain ⟨hcapped, hrest⟩ := List.append_inj happend rfl
  simp only [cappedItems, List.cons.injEq, word_inj, bytes.injEq, recipientItem_inj,
    accessItems_inj, and_true] at hcapped
  obtain ⟨rfl, hnonce, rfl, rfl, hgas, hrecipient, hvalue, hinput, haccess⟩ := hcapped
  exact ⟨⟨hnonce, hgas, hrecipient, hvalue, hinput⟩, ⟨hcaps.chainId.trans hcaps'.chainId.symm,
    hcaps.cap.trans hcaps'.cap.symm, hcaps.tip.trans hcaps'.tip.symm⟩, haccess, hrest⟩

theorem signatureItems_inj
    (hsame : signatureItems parity signature = signatureItems parity' signature') :
    parity.bit.toNat = parity'.bit.toNat ∧ signature.r = signature'.r ∧
      signature.s = signature'.s := by
  simpa only [signatureItems, List.cons.injEq, nat_inj, word_inj, and_true] using hsame

/-- Transactions of a kind with the same list of fields agree in each of them. -/
theorem same_of_items {kind : Kind} {fields : List Rlp}
    (ht : items kind t parity signature = .ok fields)
    (hu : items kind u parity' signature' = .ok fields) :
    SameCall t u ∧ kind.SameTerms t u ∧
      kind.parityNumber parity = kind.parityNumber parity' ∧ signature.r = signature'.r ∧
        signature.s = signature'.s := by
  cases kind with
  | legacy =>
    obtain ⟨price, hprice, ht⟩ := bind_eq_ok ht
    obtain ⟨price', hprice', hu⟩ := bind_eq_ok hu
    have hsame := Except.ok.inj (ht.trans hu.symm)
    simp only [List.cons.injEq, word_inj, nat_inj, bytes.injEq, recipientItem_inj, and_true]
      at hsame
    obtain ⟨hnonce, rfl, hgas, hrecipient, hvalue, hinput, hseal⟩ := hsame
    exact ⟨⟨hnonce, hgas, hrecipient, hvalue, hinput⟩, eq_of_need hprice hprice', hseal⟩
  | accessList =>
    obtain ⟨chainId, hchainId, ht⟩ := bind_eq_ok ht
    obtain ⟨price, hprice, ht⟩ := bind_eq_ok ht
    obtain ⟨access, haccess, ht⟩ := bind_eq_ok ht
    obtain ⟨chainId', hchainId', hu⟩ := bind_eq_ok hu
    obtain ⟨price', hprice', hu⟩ := bind_eq_ok hu
    obtain ⟨access', haccess', hu⟩ := bind_eq_ok hu
    obtain ⟨hsame, hseal⟩ := List.append_inj (Except.ok.inj (ht.trans hu.symm)) rfl
    simp only [List.cons.injEq, word_inj, bytes.injEq, recipientItem_inj, accessItems_inj,
      and_true] at hsame
    obtain ⟨rfl, hnonce, rfl, hgas, hrecipient, hvalue, hinput, rfl⟩ := hsame
    exact ⟨⟨hnonce, hgas, hrecipient, hvalue, hinput⟩, ⟨eq_of_need hchainId hchainId',
      eq_of_need hprice hprice', eq_of_need haccess haccess'⟩, signatureItems_inj hseal⟩
  | dynamicFee =>
    obtain ⟨chainId, cap, tip, hcaps, ht⟩ := exists_hasCaps ht
    obtain ⟨chainId', cap', tip', hcaps', hu⟩ := exists_hasCaps hu
    obtain ⟨hcall, hsame, haccess, hseal⟩ :=
      same_of_cappedItems hcaps hcaps' (Except.ok.inj (ht.trans hu.symm))
    exact ⟨hcall, ⟨hsame, haccess⟩, signatureItems_inj hseal⟩
  | blob =>
    obtain ⟨chainId, cap, tip, hcaps, ht⟩ := exists_hasCaps ht
    obtain ⟨_, -, ht⟩ := bind_eq_ok ht
    obtain ⟨hashes, hhashes, ht⟩ := bind_eq_ok ht
    obtain ⟨blobCap, hblobCap, ht⟩ := bind_eq_ok ht
    obtain ⟨chainId', cap', tip', hcaps', hu⟩ := exists_hasCaps hu
    obtain ⟨_, -, hu⟩ := bind_eq_ok hu
    obtain ⟨hashes', hhashes', hu⟩ := bind_eq_ok hu
    obtain ⟨blobCap', hblobCap', hu⟩ := bind_eq_ok hu
    have hlists := Except.ok.inj (ht.trans hu.symm)
    rw [List.append_assoc, List.append_assoc] at hlists
    obtain ⟨hcall, hsame, haccess, hrest⟩ := same_of_cappedItems hcaps hcaps' hlists
    obtain ⟨hblob, hseal⟩ := List.append_inj hrest rfl
    simp only [List.cons.injEq, word_inj, list.injEq, map_fixed_inj, and_true] at hblob
    obtain ⟨rfl, rfl⟩ := hblob
    exact ⟨hcall, ⟨hsame, haccess, eq_of_need hblobCap hblobCap', eq_of_need hhashes hhashes'⟩,
      signatureItems_inj hseal⟩
  | delegation =>
    obtain ⟨chainId, cap, tip, hcaps, ht⟩ := exists_hasCaps ht
    obtain ⟨_, -, ht⟩ := bind_eq_ok ht
    obtain ⟨access, haccess, ht⟩ := bind_eq_ok ht
    obtain ⟨permissions, hpermissions, ht⟩ := bind_eq_ok ht
    obtain ⟨chainId', cap', tip', hcaps', hu⟩ := exists_hasCaps hu
    obtain ⟨_, -, hu⟩ := bind_eq_ok hu
    obtain ⟨access', haccess', hu⟩ := bind_eq_ok hu
    obtain ⟨permissions', hpermissions', hu⟩ := bind_eq_ok hu
    have hlists := Except.ok.inj (ht.trans hu.symm)
    rw [List.append_assoc, List.append_assoc] at hlists
    obtain ⟨hcall, hsame, rfl, hrest⟩ := same_of_cappedItems hcaps hcaps' hlists
    obtain ⟨hdelegated, hseal⟩ := List.append_inj hrest rfl
    simp only [List.cons.injEq, list.injEq, map_authorizationItem_inj, and_true] at hdelegated
    subst hdelegated
    exact ⟨hcall, ⟨hsame, eq_of_need haccess haccess', eq_of_need hpermissions hpermissions'⟩,
      signatureItems_inj hseal⟩

end Items

/-! ### Kinds -/

namespace Kind

/-- The type of the transactions of a kind. -/
def number : Kind → Nat
  | legacy => 0
  | accessList => 1
  | dynamicFee => 2
  | blob => 3
  | delegation => 4

theorem toNat_of_ofType? {type : Word 8} {kind : Kind} (hkind : ofType? type = some kind) :
    type.toNat = kind.number := by
  unfold ofType? at hkind
  split at hkind <;> cases hkind <;> assumption

theorem mark_injective : Function.Injective mark := by
  intro kind kind' hmark
  cases kind <;> cases kind' <;> simp [mark] at hmark ⊢

/-- The byte of a later kind is too small to begin a list. -/
theorem mark_cases (kind : Kind) :
    kind.mark = [] ∨ ∃ b : UInt8, kind.mark = [b] ∧ b.toNat < 192 := by
  cases kind with
  | legacy => exact Or.inl rfl
  | accessList => exact Or.inr ⟨1, rfl, by decide⟩
  | dynamicFee => exact Or.inr ⟨2, rfl, by decide⟩
  | blob => exact Or.inr ⟨3, rfl, by decide⟩
  | delegation => exact Or.inr ⟨4, rfl, by decide⟩

/-- Before lists, the mark of one kind is not the beginning of what another kind writes. -/
theorem mark_append_inj {kind kind' : Kind} {first first' : UInt8} {rest rest' : Bytes}
    (hfirst : 192 ≤ first.toNat) (hfirst' : 192 ≤ first'.toNat)
    (happend : kind.mark ++ first :: rest = kind'.mark ++ first' :: rest') :
    kind = kind' ∧ first :: rest = first' :: rest' := by
  have hmark : kind.mark = kind'.mark := by
    rcases mark_cases kind with hnone | ⟨b, hsome, hb⟩ <;>
      rcases mark_cases kind' with hnone' | ⟨b', hsome', hb'⟩
    · rw [hnone, hnone']
    · rw [hnone, hsome'] at happend
      rw [(List.cons.inj happend).1] at hfirst
      omega
    · rw [hsome, hnone'] at happend
      rw [← (List.cons.inj happend).1] at hfirst'
      omega
    · rw [hsome, hsome'] at happend
      rw [hsome, hsome', (List.cons.inj happend).1]
  rw [hmark] at happend
  exact ⟨mark_injective hmark, List.append_cancel_left happend⟩

end Kind

/-! ### Whole forms -/

section Forms

variable {t u : SignedTransaction} {raw raw' : Bytes}

theorem encode_eq_ok (ht : encode t = .ok raw) :
    ∃ kind signature parity fields, Kind.ofType? t.kind = some kind ∧
      t.signature = some signature ∧ parityOf signature = .ok parity ∧
      items kind t.toTransactionBody parity signature = .ok fields ∧
      raw = kind.mark ++ (list fields).encode := by
  unfold encode at ht
  split at ht
  · cases ht
  · rename_i kind hkind
    split at ht
    · cases ht
    · rename_i signature hsignature
      obtain ⟨parity, hparity, ht⟩ := bind_eq_ok ht
      obtain ⟨fields, hfields, ht⟩ := bind_eq_ok ht
      cases ht
      exact ⟨kind, signature, parity, fields, hkind, hsignature, hparity, hfields, rfl⟩

/-- Marked lists of fields are told apart from what follows them. -/
theorem marked_append_inj {kind kind' : Kind} {fields fields' : List Rlp} {after : Bytes}
    (hfits : (kind'.mark ++ (list fields').encode).length < 2 ^ 64)
    (happend : kind.mark ++ (list fields).encode ++ after = kind'.mark ++ (list fields').encode) :
    kind = kind' ∧ fields = fields' ∧ after = [] := by
  have hlength := congrArg List.length happend
  simp only [List.length_append] at hlength hfits
  have hlist : (list fields).encode.length < 2 ^ 64 := by omega
  have hlist' : (list fields').encode.length < 2 ^ 64 := by omega
  obtain ⟨first, rest, hcons, hfirst⟩ := exists_encode_list_eq_cons hlist
  obtain ⟨first', rest', hcons', hfirst'⟩ := exists_encode_list_eq_cons hlist'
  rw [List.append_assoc, hcons, hcons', List.cons_append] at happend
  obtain ⟨hkind, hsame⟩ := Kind.mark_append_inj hfirst hfirst' happend
  rw [← List.cons_append, ← hcons, ← hcons', ← List.append_nil (list fields').encode] at hsame
  obtain ⟨hfields, hafter⟩ := encode_append_inj _ _ hlist hlist' hsame
  exact ⟨hkind, list.inj hfields, hafter⟩

/-- If the network form of a transaction is the beginning of that of another, then both are the same
bytes, and the two transactions are of one kind and agree in all that it writes. The length of the
second form is one of 64 bits, as that of any byte string in memory is: a header has no room for
more. -/
theorem agree_of_isPrefix_encode (ht : encode t = .ok raw) (hu : encode u = .ok raw')
    (hfits : raw'.length < 2 ^ 64) (hbegins : raw <+: raw') :
    raw = raw' ∧ ∃ kind : Kind, kind.Agree t u := by
  obtain ⟨kind, signature, parity, fields, hkind, hsignature, hparity, hfields, rfl⟩ :=
    encode_eq_ok ht
  obtain ⟨kind', signature', parity', fields', hkind', hsignature', hparity', hfields', rfl⟩ :=
    encode_eq_ok hu
  obtain ⟨after, hafter⟩ := hbegins
  obtain ⟨rfl, rfl, -⟩ := marked_append_inj hfits hafter
  obtain ⟨hcall, hterms, hv, hr, hs⟩ := same_of_items hfields hfields'
  have htype : t.kind = u.kind :=
    Word.ext ((Kind.toNat_of_ofType? hkind).trans (Kind.toNat_of_ofType? hkind').symm)
  exact ⟨rfl, kind, hkind, htype, hcall, hterms, _, _, _,
    ⟨signature, parity, hsignature, hparity, hv, hr, hs⟩,
    ⟨signature', parity', hsignature', hparity', rfl, rfl, rfl⟩⟩

end Forms

/-! ### One form for two spellings of a transaction -/

namespace Sample

/-- A transaction with a fee cap and without access list, whose input needs a long header. -/
def capped : SignedTransaction where
  hash := .zero 32
  nonce := 7
  blockHash := none
  blockNumber := none
  transactionIndex := none
  sender := .zero 20
  recipient := none
  value := 1000
  gasPrice := none
  gas := 21000
  maxFeePerGas := some 300
  maxPriorityFeePerGas := some 0
  maxFeePerBlobGas := none
  input := List.replicate 60 128
  signature := some ⟨5, 6, 28, none⟩
  chainId := some 10
  blobVersionedHashes := none
  accessList := none
  type := some 2
  authorizationList := none
  mint := none
  sourceHash := none

/-- The same with an empty access list and the parity as a bit, in a block and with a gas price. -/
def respelled : SignedTransaction :=
  { capped with
    blockNumber := some 3
    gasPrice := some 250
    signature := some ⟨5, 6, 0, some true⟩
    accessList := some [] }

end Sample

/-- A list that is absent or empty and a parity in either spelling make the same form. -/
theorem agree_of_isPrefix_encode_respelled :
    ∃ raw, encode Sample.capped = .ok raw ∧ encode Sample.respelled = .ok raw ∧
      raw.length < 2 ^ 64 ∧ ∃ kind : Kind, kind.Agree Sample.capped Sample.respelled := by
  obtain ⟨raw, hcapped, hrespelled, hfits⟩ : ∃ raw, encode Sample.capped = .ok raw ∧
      encode Sample.respelled = .ok raw ∧ raw.length < 2 ^ 64 :=
    ⟨_, rfl, rfl, by decide +kernel⟩
  exact ⟨raw, hcapped, hrespelled, hfits,
    (agree_of_isPrefix_encode hcapped hrespelled hfits (List.prefix_refl raw)).2⟩

end RollupLedger.Envelope
