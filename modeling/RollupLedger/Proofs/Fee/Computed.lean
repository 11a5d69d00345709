import RollupLedger.Proofs.Fee.Reported
import RollupLedger.Proofs.Fee.Scalar

/-!
# Fees that are computed

Where a receipt reports the price of gas but no fee, the fee is computed from the encoded
transaction. A `Tariff` is a formula with what it takes from the receipt and the chain, and
`Applies` says which one is in force. The assessment fails only where the transaction has no network
form or the tariff needs a scalar that is no numeral; otherwise it finds the fee of the tariff
(`assess_computed`), which is the exact rational value rounded down as long as all intermediate
values fit a word (`Tariff.toNat_fee`), and which never falls as the price of gas rises
(`Tariff.fee_mono`).
-/

set_option autoImplicit false
set_option relaxedAutoImplicit false

namespace RollupLedger.DataFee

open Wire

/-! ### Tariffs -/

/-- A formula for the fee, with the quantities that it takes besides the bytes and the price. -/
inductive Tariff where
  | bedrock (overhead scalar : Word 256)
  | regolith (overhead scalar : Word 256)
  | ecotone (blobs : BlobPricing)
  | fjord (blobs : BlobPricing)
deriving DecidableEq

/-- The exact price of a unit of call data and of blobs together. -/
def exactPrice (price : Word 256) (blobs : BlobPricing) : ℚ :=
  16 * price.toNat * (blobs.baseFeeScalar.toNat / 10 ^ 6) +
    blobs.blobBaseFee.toNat * (blobs.blobBaseFeeScalar.toNat / 10 ^ 6)

/-- The weighted price in millionths. -/
def priceMillionths (price : Word 256) (blobs : BlobPricing) : Nat :=
  price.toNat * 16 * blobs.baseFeeScalar.toNat +
    blobs.blobBaseFee.toNat * blobs.blobBaseFeeScalar.toNat

namespace Tariff

variable (raw : Bytes) (price : Word 256)

/-- The fee that a tariff charges. -/
def fee : Tariff → Word 256
  | bedrock overhead scalar => DataFee.bedrock raw overhead price scalar
  | regolith overhead scalar => DataFee.regolith raw overhead price scalar
  | ecotone blobs => DataFee.ecotone raw price blobs
  | fjord blobs => DataFee.fjord raw price blobs

/-- The exact value of the formula. Scalars count millionths. The price of blobs came with a price
for a sixteenth of the call data gas, and then with one for the compressed bytes, a hundred at
least. -/
def exact : Tariff → ℚ
  | bedrock overhead scalar =>
    (callDataGas raw + 68 * 16 + overhead.toNat) * price.toNat * (scalar.toNat / 10 ^ 6)
  | regolith overhead scalar =>
    (callDataGas raw + overhead.toNat) * price.toNat * (scalar.toNat / 10 ^ 6)
  | ecotone blobs => exactPrice price blobs * (callDataGas raw / 16)
  | fjord blobs =>
    exactPrice price blobs * max 100 (0.8365 * (CompressedSize.estimate raw : ℚ) - 42.5856)

/-- The values that come up before the last division. -/
def intermediates : Tariff → List Nat
  | bedrock overhead scalar => flat (callDataGas raw + 68 * 16) overhead scalar
  | regolith overhead scalar => flat (callDataGas raw) overhead scalar
  | ecotone blobs =>
    weighted blobs ++ [callDataGas raw, priceMillionths price blobs * callDataGas raw]
  | fjord blobs => weighted blobs ++ [scaledSize raw, scaledSize raw * priceMillionths price blobs]
where
  flat (gas : Nat) (overhead scalar : Word 256) : List Nat :=
    [gas, gas + overhead.toNat, (gas + overhead.toNat) * price.toNat,
      (gas + overhead.toNat) * price.toNat * scalar.toNat]
  weighted (blobs : BlobPricing) : List Nat :=
    [price.toNat * 16, price.toNat * 16 * blobs.baseFeeScalar.toNat,
      blobs.blobBaseFee.toNat * blobs.blobBaseFeeScalar.toNat, priceMillionths price blobs]

end Tariff

/-! ### Exact values -/

section Exact

variable {raw : Bytes} {price : Word 256}

theorem toNat_beforeBlobs {gas : Nat} {overhead scalar : Word 256}
    (hfits : ∀ n ∈ Tariff.intermediates.flat price gas overhead scalar, n < 2 ^ 256) :
    (beforeBlobs gas overhead price scalar).toNat =
      ⌊((gas : ℚ) + overhead.toNat) * price.toNat * (scalar.toNat / 10 ^ 6)⌋₊ := by
  simp only [Tariff.intermediates.flat, List.forall_mem_cons, List.not_mem_nil, false_implies,
    implies_true, and_true] at hfits
  obtain ⟨hgas, hsum, hpriced, hscaled⟩ := hfits
  have hgas := Word.toNat_saturate_of_lt hgas
  have hsum := Word.toNat_satAdd_of_lt hgas rfl hsum
  have hpriced := Word.toNat_satMul_of_lt hsum rfl hpriced
  have hexact : ((gas : ℚ) + overhead.toNat) * price.toNat * (scalar.toNat / 10 ^ 6) =
      ((gas + overhead.toNat) * price.toNat * scalar.toNat : ℕ) / (1000000 : ℕ) := by
    push_cast
    ring
  rw [hexact, Nat.floor_div_eq_div, beforeBlobs, Word.toNat_divNat,
    Word.toNat_satMul_of_lt hpriced rfl hscaled]

theorem toNat_weightedPrice {blobs : BlobPricing}
    (hfits : ∀ n ∈ Tariff.intermediates.weighted price blobs, n < 2 ^ 256) :
    (weightedPrice price blobs).toNat = priceMillionths price blobs := by
  simp only [Tariff.intermediates.weighted, List.forall_mem_cons, List.not_mem_nil, false_implies,
    implies_true, and_true, priceMillionths] at hfits
  obtain ⟨hsixteen, hdata, hblobs, hsum⟩ := hfits
  have hsixteen : (price.satMul 16).toNat = price.toNat * 16 :=
    Word.toNat_satMul_of_lt rfl rfl hsixteen
  have hdata := Word.toNat_satMul_of_lt hsixteen rfl hdata
  have hblobs := Word.toNat_satMul_of_lt rfl rfl hblobs
  exact Word.toNat_satAdd_of_lt hdata hblobs hsum

theorem exactPrice_eq (price : Word 256) (blobs : BlobPricing) :
    exactPrice price blobs = priceMillionths price blobs / 10 ^ 6 := by
  rw [exactPrice, priceMillionths]
  push_cast
  ring

/-- The estimated size in bytes, a hundred at least. -/
theorem exactSize_eq (raw : Bytes) :
    max 100 (0.8365 * (CompressedSize.estimate raw : ℚ) - 42.5856) = scaledSize raw / 10 ^ 6 := by
  rw [eq_div_iff (by norm_num), max_mul_of_nonneg _ _ (by norm_num), scaledSize]
  rcases Nat.le_total (CompressedSize.estimate raw * 836500) 42585600 with hle | hle
  · have hsmall : (CompressedSize.estimate raw : ℚ) * 836500 ≤ 42585600 := by exact_mod_cast hle
    rw [Nat.sub_eq_zero_of_le hle, max_eq_left (by linarith)]
    norm_num
  · rw [Nat.cast_max, Nat.cast_sub hle]
    push_cast
    congr 1 <;> ring

/-- As long as the values in between fit a word, the fee of a tariff is its exact value rounded
down. -/
theorem Tariff.toNat_fee (tariff : Tariff)
    (hfits : ∀ n ∈ tariff.intermediates raw price, n < 2 ^ 256) :
    (tariff.fee raw price).toNat = ⌊tariff.exact raw price⌋₊ := by
  cases tariff with
  | bedrock overhead scalar =>
    have hgas : ((callDataGas raw + 68 * 16 : ℕ) : ℚ) = callDataGas raw + 68 * 16 := by
      norm_num
    rw [fee, DataFee.bedrock, signaturePadding, toNat_beforeBlobs hfits, exact, hgas]
  | regolith overhead scalar => exact toNat_beforeBlobs hfits
  | ecotone blobs =>
    have hexact : (ecotone blobs).exact raw price =
        (priceMillionths price blobs * callDataGas raw : ℕ) / (16000000 : ℕ) := by
      rw [exact, exactPrice_eq]
      push_cast
      ring
    rw [intermediates, List.forall_mem_append] at hfits
    obtain ⟨hweighted, hrest⟩ := hfits
    simp only [List.forall_mem_cons, List.not_mem_nil, false_implies, implies_true, and_true]
      at hrest
    rw [hexact, Nat.floor_div_eq_div, fee, DataFee.ecotone, Word.toNat_divNat,
      Word.toNat_satMul_of_lt (toNat_weightedPrice hweighted)
        (Word.toNat_saturate_of_lt hrest.1) hrest.2]
  | fjord blobs =>
    have hexact : (fjord blobs).exact raw price =
        (scaledSize raw * priceMillionths price blobs : ℕ) / (1000000000000 : ℕ) := by
      rw [exact, exactPrice_eq, exactSize_eq]
      push_cast
      ring
    rw [intermediates, List.forall_mem_append] at hfits
    obtain ⟨hweighted, hrest⟩ := hfits
    simp only [List.forall_mem_cons, List.not_mem_nil, false_implies, implies_true, and_true]
      at hrest
    rw [hexact, Nat.floor_div_eq_div, fee, DataFee.fjord, Word.toNat_divNat,
      Word.toNat_satMul_of_lt (Word.toNat_saturate_of_lt hrest.1)
        (toNat_weightedPrice hweighted) hrest.2]

/-! ### Order -/

theorem beforeBlobs_mono {higher : Word 256} (hle : price ≤ higher) (gas : Nat)
    (overhead scalar : Word 256) :
    beforeBlobs gas overhead price scalar ≤ beforeBlobs gas overhead higher scalar :=
  Word.divNat_mono (Word.satMul_mono (Word.satMul_mono (Word.le_refl _) hle) (Word.le_refl _)) _

theorem weightedPrice_mono {higher : Word 256} (hle : price ≤ higher) (blobs : BlobPricing) :
    weightedPrice price blobs ≤ weightedPrice higher blobs :=
  Word.satAdd_mono (Word.satMul_mono (Word.satMul_mono hle (Word.le_refl _)) (Word.le_refl _))
    (Word.le_refl _)

/-- A higher price of gas never makes a fee lower, whether or not the values fit a word. -/
theorem Tariff.fee_mono (tariff : Tariff) (raw : Bytes) {higher : Word 256}
    (hle : price ≤ higher) : tariff.fee raw price ≤ tariff.fee raw higher := by
  cases tariff with
  | bedrock overhead scalar => exact beforeBlobs_mono hle _ overhead scalar
  | regolith overhead scalar => exact beforeBlobs_mono hle _ overhead scalar
  | ecotone blobs =>
    exact Word.divNat_mono (Word.satMul_mono (weightedPrice_mono hle blobs) (Word.le_refl _)) _
  | fjord blobs =>
    exact Word.divNat_mono (Word.satMul_mono (Word.le_refl _) (weightedPrice_mono hle blobs)) _

end Exact

/-! ### The tariff in force -/

/-- The receipt reports the price of blobs and both scalars that go with it. -/
structure Blobbed (receipt : Receipt) (blobs : BlobPricing) : Prop where
  baseFeeScalar : receipt.l1BaseFeeScalar.map (·.widen) = some blobs.baseFeeScalar
  blobBaseFee : receipt.l1BlobBaseFee = some blobs.blobBaseFee
  blobBaseFeeScalar : receipt.l1BlobBaseFeeScalar.map (·.widen) = some blobs.blobBaseFeeScalar

/-- The price of blobs or one of the two scalars that go with it is missing. -/
def Unblobbed (receipt : Receipt) : Prop :=
  receipt.l1BaseFeeScalar = none ∨ receipt.l1BlobBaseFee = none ∨ receipt.l1BlobBaseFeeScalar = none

/-- The scalar is the one that the receipt reports, or the chain's if it reports none. -/
inductive ScalarOf (receipt : Receipt) (chain : Chain) : Word 256 → Prop
  | reported {text : String} {x : ℚ} {scalar : Word 256} (htext : receipt.l1FeeScalar = some text)
    (hdenotes : FeeScalar.Denotes text x) (hwhole : ⌊x⌋₊ < 2 ^ 256)
    (hscalar : scalar.toNat = min ⌊10 ^ 6 * x⌋₊ (2 ^ 256 - 1)) : ScalarOf receipt chain scalar
  | standing (hnone : receipt.l1FeeScalar = none) : ScalarOf receipt chain chain.l1FeeScalar.widen

/-- The tariff is in force for a block of the chain with this receipt. -/
inductive Applies (receipt : Receipt) (block : BlockContext) (chain : Chain) : Tariff → Prop
  | fjord {blobs : BlobPricing} {time : Word 64} (hblobs : Blobbed receipt blobs)
    (htime : chain.fjordTime = some time) (hactive : time ≤ block.timestamp) :
    Applies receipt block chain (.fjord blobs)
  | ecotone {blobs : BlobPricing} (hblobs : Blobbed receipt blobs)
    (hinactive : ∀ time, chain.fjordTime = some time → block.timestamp < time) :
    Applies receipt block chain (.ecotone blobs)
  | regolith {scalar : Word 256} (hmissing : Unblobbed receipt)
    (hscalar : ScalarOf receipt chain scalar) (hflag : chain.regolith = true) :
    Applies receipt block chain (.regolith chain.l1FeeOverhead.widen scalar)
  | bedrock {scalar : Word 256} (hmissing : Unblobbed receipt)
    (hscalar : ScalarOf receipt chain scalar) (hflag : chain.regolith = false) :
    Applies receipt block chain (.bedrock chain.l1FeeOverhead.widen scalar)

section Assessment

variable {t : SignedTransaction} {receipt : Receipt} {block : BlockContext} {chain : Chain}

theorem blobbed_iff {blobs : BlobPricing} :
    Blobbed receipt blobs ↔ receipt.blobPricing? = some blobs := by
  unfold Receipt.blobPricing?
  constructor
  · rintro ⟨hdata, hprice, hblob⟩
    obtain ⟨dataScalar, hdata, hwiden⟩ := Option.map_eq_some_iff.mp hdata
    obtain ⟨blobScalar, hblob, hwiden'⟩ := Option.map_eq_some_iff.mp hblob
    simp only [hdata, hprice, hblob, hwiden, hwiden']
  · intro hblobs
    split at hblobs
    · rename_i hdata hprice hblob
      cases hblobs
      exact ⟨by rw [hdata, Option.map_some], hprice, by rw [hblob, Option.map_some]⟩
    · cases hblobs

theorem unblobbed_iff : Unblobbed receipt ↔ receipt.blobPricing? = none := by
  unfold Unblobbed Receipt.blobPricing?
  cases receipt.l1BaseFeeScalar <;> cases receipt.l1BlobBaseFee <;>
    cases receipt.l1BlobBaseFeeScalar <;> simp

theorem isFjordActive_iff {timestamp : Word 64} : chain.isFjordActive timestamp = true ↔
    ∃ time, chain.fjordTime = some time ∧ time ≤ timestamp := by
  unfold Chain.isFjordActive
  cases chain.fjordTime <;> simp

theorem scalarOf_eq_ok_iff {scalar : Word 256} :
    scalarOf receipt chain = .ok scalar ↔ ScalarOf receipt chain scalar := by
  unfold scalarOf
  cases htext : receipt.l1FeeScalar with
  | none =>
    constructor
    · rintro ⟨⟩
      exact .standing htext
    · rintro (⟨htext', -, -, -⟩ | -)
      · cases htext.symm.trans htext'
      · rfl
  | some text =>
    simp only
    constructor
    · intro hread
      cases hparse : FeeScalar.parse text with
      | none => simp [hparse] at hread
      | some parsed =>
        simp only [hparse, Except.ok.injEq] at hread
        obtain ⟨x, hdenotes, hwhole, hscalar⟩ := FeeScalar.parse_eq_some_iff.mp hparse
        exact .reported htext hdenotes hwhole (hread ▸ hscalar)
    · rintro (⟨htext', hdenotes, hwhole, hscalar⟩ | hnone)
      · obtain rfl := Option.some.inj (htext.symm.trans htext')
        rw [FeeScalar.parse_eq_some_iff.mpr ⟨_, hdenotes, hwhole, hscalar⟩]
      · cases htext.symm.trans hnone

/-- With blob prices the tariff depends on the time alone. -/
theorem applies_iff_of_blobs {blobs : BlobPricing} (hblobs : receipt.blobPricing? = some blobs)
    {tariff : Tariff} : Applies receipt block chain tariff ↔
      tariff = if chain.isFjordActive block.timestamp then .fjord blobs else .ecotone blobs := by
  have hsame {other : BlobPricing} (hother : Blobbed receipt other) : other = blobs :=
    Option.some.inj ((blobbed_iff.mp hother).symm.trans hblobs)
  have hnone (hmissing : Unblobbed receipt) : False := by
    cases hblobs.symm.trans (unblobbed_iff.mp hmissing)
  split_ifs with hactive
  · obtain ⟨time, htime, hle⟩ := isFjordActive_iff.mp hactive
    constructor
    · rintro (⟨hother, -, -⟩ | ⟨-, hinactive⟩ | hmissing | hmissing)
      · rw [hsame hother]
      · exact absurd (hinactive time htime) (Nat.not_lt.mpr hle)
      · exact (hnone hmissing).elim
      · exact (hnone hmissing).elim
    · rintro rfl
      exact .fjord (blobbed_iff.mpr hblobs) htime hle
  · constructor
    · rintro (⟨-, htime, hle⟩ | ⟨hother, -⟩ | hmissing | hmissing)
      · exact absurd (isFjordActive_iff.mpr ⟨_, htime, hle⟩) hactive
      · rw [hsame hother]
      · exact (hnone hmissing).elim
      · exact (hnone hmissing).elim
    · rintro rfl
      refine .ecotone (blobbed_iff.mpr hblobs) fun time htime ↦ Nat.not_le.mp fun hle ↦ ?_
      exact hactive (isFjordActive_iff.mpr ⟨time, htime, hle⟩)

/-- Without them the tariff depends on the chain and on the scalar. -/
theorem applies_iff_of_none (hblobs : receipt.blobPricing? = none) {tariff : Tariff} :
    Applies receipt block chain tariff ↔ ∃ scalar, ScalarOf receipt chain scalar ∧
      tariff = if chain.regolith then .regolith chain.l1FeeOverhead.widen scalar
        else .bedrock chain.l1FeeOverhead.widen scalar := by
  have hsome {other : BlobPricing} (hother : Blobbed receipt other) : False := by
    cases hblobs.symm.trans (blobbed_iff.mp hother)
  constructor
  · rintro (⟨hother, -, -⟩ | ⟨hother, -⟩ | ⟨-, hscalar, hflag⟩ | ⟨-, hscalar, hflag⟩)
    · exact (hsome hother).elim
    · exact (hsome hother).elim
    · exact ⟨_, hscalar, by rw [if_pos hflag]⟩
    · exact ⟨_, hscalar, by rw [hflag, if_neg Bool.false_ne_true]⟩
  · rintro ⟨scalar, hscalar, rfl⟩
    cases hflag : chain.regolith with
    | true => exact .regolith (unblobbed_iff.mpr hblobs) hscalar hflag
    | false => exact .bedrock (unblobbed_iff.mpr hblobs) hscalar hflag

/-- Pricing finds the fee of the tariff in force. -/
theorem price_of_applies {tariff : Tariff} (happlies : Applies receipt block chain tariff)
    (raw : Bytes) (gasPrice : Word 256) :
    price raw gasPrice receipt block chain = .ok (tariff.fee raw gasPrice) := by
  unfold price
  cases hblobs : receipt.blobPricing? with
  | some blobs =>
    rw [(applies_iff_of_blobs hblobs).mp happlies]
    cases chain.isFjordActive block.timestamp <;> rfl
  | none =>
    obtain ⟨scalar, hscalar, rfl⟩ := (applies_iff_of_none hblobs).mp happlies
    simp only [scalarOf_eq_ok_iff.mpr hscalar]
    cases chain.regolith <;> rfl

/-- One tariff at most is in force. -/
theorem Applies.unique {first second : Tariff} (hfirst : Applies receipt block chain first)
    (hsecond : Applies receipt block chain second) : first = second := by
  cases hblobs : receipt.blobPricing? with
  | some blobs =>
    rw [(applies_iff_of_blobs hblobs).mp hfirst, (applies_iff_of_blobs hblobs).mp hsecond]
  | none =>
    obtain ⟨scalar, hscalar, rfl⟩ := (applies_iff_of_none hblobs).mp hfirst
    obtain ⟨other, hother, rfl⟩ := (applies_iff_of_none hblobs).mp hsecond
    have hsame := (scalarOf_eq_ok_iff.mpr hscalar).symm.trans (scalarOf_eq_ok_iff.mpr hother)
    rw [Except.ok.inj hsame]

/-! ### The assessment -/

/-- The receipt reports a scalar that is no numeral, or one of a number too large, where it is
needed. -/
structure Malformed (receipt : Receipt) (text : String) : Prop where
  missing : Unblobbed receipt
  scalar : receipt.l1FeeScalar = some text
  unreadable : ¬ ∃ x, FeeScalar.Denotes text x ∧ ⌊x⌋₊ < 2 ^ 256

theorem malformed_iff {text : String} : Malformed receipt text ↔ Misread receipt text := by
  have hparse : FeeScalar.parse text = none ↔ ¬ ∃ x, FeeScalar.Denotes text x ∧ ⌊x⌋₊ < 2 ^ 256 := by
    rw [Option.eq_none_iff_forall_ne_some, not_exists]
    constructor
    · rintro hparse x ⟨hdenotes, hwhole⟩
      exact hparse (.saturate 256 ⌊10 ^ 6 * x⌋₊)
        (FeeScalar.parse_eq_some_iff.mpr ⟨x, hdenotes, hwhole, rfl⟩)
    · intro hnone scalar hparse
      obtain ⟨x, hdenotes, hwhole, -⟩ := FeeScalar.parse_eq_some_iff.mp hparse
      exact hnone x ⟨hdenotes, hwhole⟩
  exact ⟨fun h ↦ ⟨unblobbed_iff.mp h.missing, h.scalar, hparse.mpr h.unreadable⟩,
    fun h ↦ ⟨unblobbed_iff.mpr h.unblobbed, h.scalar, hparse.mp h.unreadable⟩⟩

/-- A tariff is in force unless the receipt's scalar is malformed. -/
theorem exists_applies (hwell : ∀ text, ¬ Malformed receipt text) (block : BlockContext)
    (chain : Chain) : ∃ tariff, Applies receipt block chain tariff := by
  cases hblobs : receipt.blobPricing? with
  | some blobs => exact ⟨_, (applies_iff_of_blobs hblobs).mpr rfl⟩
  | none =>
    have hread : ∃ scalar, scalarOf receipt chain = .ok scalar := by
      unfold scalarOf
      cases htext : receipt.l1FeeScalar with
      | none => exact ⟨_, rfl⟩
      | some text =>
        cases hparse : FeeScalar.parse text with
        | some scalar => exact ⟨scalar, by simp only [hparse]⟩
        | none => exact absurd (malformed_iff.mpr ⟨hblobs, htext, hparse⟩) (hwell text)
    obtain ⟨scalar, hscalar⟩ := hread
    exact ⟨_, (applies_iff_of_none hblobs).mpr ⟨scalar, scalarOf_eq_ok_iff.mp hscalar, rfl⟩⟩

section Unreported

variable {gasPrice : Word 256} (hdeposit : t.isDeposit = false)
  (hprice : receipt.l1GasPrice = some gasPrice) (hfee : receipt.l1Fee = none)
include hdeposit hprice hfee

theorem assess_of_encoded {raw : Bytes} (hraw : encoded t = .ok raw) :
    assess t receipt block chain = (price raw gasPrice receipt block chain).map some := by
  simp only [assess, hdeposit, hprice, hraw, hfee, Bool.false_eq_true, if_false]
  cases price raw gasPrice receipt block chain <;> rfl

theorem assess_of_not_encoded {fault : FlattenError} (hfault : encoded t = .error fault) :
    assess t receipt block chain = .error fault := by
  simp only [assess, hdeposit, hprice, hfault, hfee, Bool.false_eq_true, if_false]

theorem assess_of_malformed {raw : Bytes} {text : String} (hraw : encoded t = .ok raw)
    (hmalformed : Malformed receipt text) :
    assess t receipt block chain = .error (.invalidFeeScalar text) := by
  rw [assess_of_encoded hdeposit hprice hfee hraw,
    price_of_misread (malformed_iff.mp hmalformed)]
  rfl

theorem assess_of_applies {raw : Bytes} {tariff : Tariff} (hraw : encoded t = .ok raw)
    (happlies : Applies receipt block chain tariff) :
    assess t receipt block chain = .ok (some (tariff.fee raw gasPrice)) := by
  rw [assess_of_encoded hdeposit hprice hfee hraw, price_of_applies happlies]
  rfl

/-- Computing a fee fails exactly where the transaction has no network form, with the fault of the
encoding, and where it has one but the receipt's scalar is needed and malformed. Otherwise exactly
one tariff is in force, and the fee is the tariff's for the encoded bytes: its exact value rounded
down, as long as all values in between fit a word. With everything else as it is, a higher price of
gas never brings a lower fee. -/
theorem assess_computed (block : BlockContext) (chain : Chain) :
    (∀ fault, assess t receipt block chain = .error fault ↔ encoded t = .error fault ∨
      ∃ raw text, encoded t = .ok raw ∧ Malformed receipt text ∧
        fault = .invalidFeeScalar text) ∧
    (∀ raw, encoded t = .ok raw → (∀ text, ¬ Malformed receipt text) →
      ∃ tariff, Applies receipt block chain tariff ∧
        (∀ other, Applies receipt block chain other → other = tariff) ∧
        assess t receipt block chain = .ok (some (tariff.fee raw gasPrice)) ∧
        ((∀ n ∈ tariff.intermediates raw gasPrice, n < 2 ^ 256) →
          (tariff.fee raw gasPrice).toNat = ⌊tariff.exact raw gasPrice⌋₊)) ∧
    ∀ higher fee, gasPrice ≤ higher → assess t receipt block chain = .ok (some fee) →
      ∃ more, assess t { receipt with l1GasPrice := some higher } block chain = .ok (some more) ∧
        fee ≤ more := by
  refine ⟨fun fault ↦ ⟨fun hassess ↦ ?_, ?_⟩, fun raw hraw hwell ↦ ?_, ?_⟩
  · cases hraw : encoded t with
    | error reason =>
      rw [assess_of_not_encoded hdeposit hprice hfee hraw] at hassess
      cases hassess
      exact Or.inl rfl
    | ok raw =>
      by_cases hwell : ∀ text, ¬ Malformed receipt text
      · obtain ⟨tariff, happlies⟩ := exists_applies hwell block chain
        cases (assess_of_applies hdeposit hprice hfee hraw happlies).symm.trans hassess
      · obtain ⟨text, hmalformed⟩ := not_forall_not.mp hwell
        have hstops : assess t receipt block chain = .error (.invalidFeeScalar text) :=
          assess_of_malformed hdeposit hprice hfee hraw hmalformed
        exact Or.inr ⟨raw, text, rfl, hmalformed, Except.error.inj (hassess.symm.trans hstops)⟩
  · rintro (hfault | ⟨raw, text, hraw, hmalformed, rfl⟩)
    · exact assess_of_not_encoded hdeposit hprice hfee hfault
    · exact assess_of_malformed hdeposit hprice hfee hraw hmalformed
  · obtain ⟨tariff, happlies⟩ := exists_applies hwell block chain
    exact ⟨tariff, happlies, fun other hother ↦ hother.unique happlies,
      assess_of_applies hdeposit hprice hfee hraw happlies, tariff.toNat_fee⟩
  · intro higher fee hle hassess
    cases hraw : encoded t with
    | error reason => cases (assess_of_not_encoded hdeposit hprice hfee hraw).symm.trans hassess
    | ok raw =>
      have hwell (text : String) (hmalformed : Malformed receipt text) : False := by
        cases (assess_of_malformed hdeposit hprice hfee hraw hmalformed).symm.trans hassess
      obtain ⟨tariff, happlies⟩ := exists_applies hwell block chain
      have hless := (assess_of_applies hdeposit hprice hfee hraw happlies).symm.trans hassess
      rw [Except.ok.injEq, Option.some.injEq] at hless
      -- The price of gas has no part in the choice of the tariff.
      have hmore : price raw higher { receipt with l1GasPrice := some higher } block chain =
          .ok (tariff.fee raw higher) := price_of_applies happlies raw higher
      have hraised : ({ receipt with l1GasPrice := some higher } : Receipt).l1Fee = none := hfee
      refine ⟨tariff.fee raw higher, ?_, hless ▸ tariff.fee_mono raw hle⟩
      rw [assess_of_encoded hdeposit rfl hraised hraw, hmore]
      rfl

end Unreported

end Assessment

/-! ### A transaction without blob prices -/

namespace Sample

/-- A receipt with a scalar and without a fee. -/
def unreported : Receipt := { reported "0.684" with l1Fee := none }

theorem denotes_scalar : FeeScalar.Denotes "0.684" 0.684 := by
  refine ⟨[], _, [], ['0'], ['6', '8', '4'], rfl, List.all_eq_true.mp rfl,
    ⟨List.all_eq_true.mp rfl, by decide, Or.inl rfl⟩, ?_⟩
  have hwhole : Nat.ofDigitChars 10 ['0'] 0 = 0 := rfl
  have hfraction : Nat.ofDigitChars 10 ['6', '8', '4'] 0 = 684 := rfl
  rw [FeeScalar.value, hwhole, hfraction]
  norm_num

theorem applies_regolith :
    Applies unreported Flatten.Sample.block .standard (.regolith 2100 684000) := by
  refine .regolith (Or.inl rfl) (.reported rfl denotes_scalar ?_ ?_) rfl
  · norm_num [Nat.floor_eq_zero]
  · norm_num
    rfl

end Sample

/-- A call data gas of 252 and the overhead of 2100, at a price of 100 and times 0.684, come to
160876 and a fraction. -/
theorem assess_computed_regolith :
    Sample.signed.isDeposit = false ∧ Sample.unreported.l1GasPrice = some 100 ∧
      Sample.unreported.l1Fee = none ∧ ∃ fee : Word 256, fee.toNat = 160876 ∧
        assess Sample.signed Sample.unreported Flatten.Sample.block .standard =
          .ok (some fee) := by
  have hdeposit : Sample.signed.isDeposit = false := rfl
  have hprice : Sample.unreported.l1GasPrice = some 100 := rfl
  have hfee : Sample.unreported.l1Fee = none := rfl
  have hraw : ∃ raw, encoded Sample.signed = .ok raw ∧ callDataGas raw = 252 :=
    ⟨_, rfl, by decide +kernel⟩
  obtain ⟨raw, hraw, hgas⟩ := hraw
  have hwell (text : String) (hmalformed : Malformed Sample.unreported text) : False := by
    have htext : text = "0.684" := (Option.some.inj hmalformed.scalar).symm
    exact hmalformed.unreadable ⟨_, htext ▸ Sample.denotes_scalar, by norm_num [Nat.floor_eq_zero]⟩
  obtain ⟨-, hgoes, -⟩ := assess_computed hdeposit hprice hfee Flatten.Sample.block .standard
  obtain ⟨tariff, -, hunique, hassess, hexact⟩ := hgoes raw hraw hwell
  obtain rfl := hunique _ Sample.applies_regolith
  have hfits : ∀ n ∈ (Tariff.regolith 2100 684000).intermediates raw 100, n < 2 ^ 256 := by
    rw [Tariff.intermediates, hgas]
    decide
  have hvalue : (Tariff.regolith 2100 684000).exact raw 100 = 160876.8 := by
    have hoverhead : (2100 : Word 256).toNat = 2100 := rfl
    have hgasPrice : (100 : Word 256).toNat = 100 := rfl
    have hscalar : (684000 : Word 256).toNat = 684000 := rfl
    rw [Tariff.exact, hgas, hoverhead, hgasPrice, hscalar]
    norm_num
  refine ⟨hdeposit, hprice, hfee, _, ?_, hassess⟩
  rw [hexact hfits, hvalue, Nat.floor_eq_iff (by norm_num)]
  norm_num

end RollupLedger.DataFee
