import RollupLedger.Flatten.Basic
import RollupLedger.Proofs.Flatten.Walk

/-!
# Fees that a receipt reports

A fee that the receipt reports stands, although it is computed again for comparison. One thing can
still go wrong: where the formulas of before the blobs are in force, the scalar that the receipt
gives beside the fee is read first, and one that is no numeral ends the assessment (`Stumbles`).
`assess_of_reported` says that nothing else does; a transaction that has no network form keeps its
reported fee.
-/

set_option autoImplicit false
set_option relaxedAutoImplicit false

namespace RollupLedger.DataFee

open Wire

section Assessment

variable {t : SignedTransaction} {receipt : Receipt} {block : BlockContext} {chain : Chain}

/-- The scalar that a receipt gives is no numeral, and it is asked for. -/
structure Misread (receipt : Receipt) (text : String) : Prop where
  unblobbed : receipt.blobPricing? = none
  scalar : receipt.l1FeeScalar = some text
  unreadable : FeeScalar.parse text = none

theorem price_of_misread {text : String} (hmisread : Misread receipt text) (raw : Bytes)
    (gasPrice : Word 256) :
    price raw gasPrice receipt block chain = .error (.invalidFeeScalar text) := by
  simp only [price, hmisread.unblobbed, scalarOf, hmisread.scalar, hmisread.unreadable]
  rfl

theorem exists_price (hread : ∀ text, ¬ Misread receipt text) (raw : Bytes) (gasPrice : Word 256)
    (block : BlockContext) (chain : Chain) :
    ∃ fee, price raw gasPrice receipt block chain = .ok fee := by
  unfold price
  cases hblobs : receipt.blobPricing? with
  | some blobs => exact ⟨_, rfl⟩
  | none =>
    simp only [scalarOf]
    cases hscalar : receipt.l1FeeScalar with
    | none => exact ⟨_, rfl⟩
    | some text =>
      simp only
      cases hparse : FeeScalar.parse text with
      | some scalar => exact ⟨_, rfl⟩
      | none => exact absurd ⟨hblobs, hscalar, hparse⟩ (hread text)

/-- A fee is computed although one is reported, from a scalar that is no numeral. -/
structure Stumbles (t : SignedTransaction) (receipt : Receipt) (text : String) : Prop where
  priced : ∃ gasPrice, receipt.l1GasPrice = some gasPrice
  encoded : ∃ raw, encoded t = .ok raw
  misread : Misread receipt text

section Reported

variable {fee : Word 256} (hdeposit : t.isDeposit = false)
include hdeposit

theorem assess_of_stumbles {text : String} (hstumbles : Stumbles t receipt text) :
    assess t receipt block chain = .error (.invalidFeeScalar text) := by
  obtain ⟨gasPrice, hprice⟩ := hstumbles.priced
  obtain ⟨raw, hraw⟩ := hstumbles.encoded
  simp only [assess, hdeposit, hprice, hraw, price_of_misread hstumbles.misread]
  rfl

variable (hfee : receipt.l1Fee = some fee)
include hfee

theorem assess_of_not_stumbles (hgoes : ∀ text, ¬ Stumbles t receipt text) :
    assess t receipt block chain = .ok (some fee) := by
  simp only [assess, hdeposit, hfee]
  cases hprice : receipt.l1GasPrice with
  | none => rfl
  | some gasPrice =>
    cases hraw : encoded t with
    | error fault => rfl
    | ok raw =>
      have hread (text : String) (hmisread : Misread receipt text) : False :=
        hgoes text ⟨⟨gasPrice, hprice⟩, ⟨raw, hraw⟩, hmisread⟩
      obtain ⟨computed, hcomputed⟩ := exists_price hread raw gasPrice block chain
      simp only [hcomputed]
      rfl

/-- The fee that a receipt reports is the fee of the transaction, whatever else the receipt says and
whether or not the transaction has a network form, unless the assessment stumbles over a scalar. The
transaction can be flattened with its fees exactly if it does not. -/
theorem assess_of_reported (block : BlockContext) (chain : Chain) :
    ((∀ text, ¬ Stumbles t receipt text) ↔ assess t receipt block chain = .ok (some fee)) ∧
      (∀ text, Stumbles t receipt text →
        assess t receipt block chain = .error (.invalidFeeScalar text)) ∧
      ∀ arena, receipt.transactionHash = t.hash →
        ((∀ text, ¬ Stumbles t receipt text) ↔
          ∃ operations, Flatten.flatten t receipt arena block chain = .ok operations) := by
  have hfails (text : String) (hstumbles : Stumbles t receipt text) :
      assess t receipt block chain = .error (.invalidFeeScalar text) :=
    assess_of_stumbles hdeposit hstumbles
  refine ⟨⟨assess_of_not_stumbles hdeposit hfee, fun hassess text hstumbles ↦ ?_⟩, hfails,
    fun arena hown ↦ ⟨fun hgoes ↦ ?_, fun ⟨operations, hflat⟩ text hstumbles ↦ ?_⟩⟩
  · cases hassess.symm.trans (hfails text hstumbles)
  · have hassess : assess t receipt block chain = .ok (some fee) :=
      assess_of_not_stumbles hdeposit hfee hgoes
    simp only [Flatten.flatten, Flatten.postings, hown, Flatten.feePostings, hdeposit, hassess,
      ne_eq, not_true_eq_false, if_false]
    exact ⟨_, rfl⟩
  · obtain ⟨fees, hfees, -⟩ := Flatten.flatten_eq_ok hflat
    rcases Flatten.feePostings_eq_ok hfees with ⟨hisDeposit, -⟩ | ⟨-, _, hassess, -⟩
    · exact absurd (hdeposit.symm.trans hisDeposit) Bool.false_ne_true
    · cases hassess.symm.trans (hfails text hstumbles)

end Reported

end Assessment

/-! ### A reported fee beside a scalar that is no numeral -/

namespace Sample

open Flatten.Sample

def signed : SignedTransaction :=
  { transfer with signature := some ⟨1, 1, 27, none⟩, type := some 0 }

/-- A receipt that reports a fee of 6, and a scalar. -/
def reported (scalar : String) : Receipt :=
  { Flatten.Sample.receipt with l1GasPrice := some 100, l1FeeScalar := some scalar }

theorem stumbles_reported : Stumbles signed (reported "x") "x" :=
  ⟨⟨_, rfl⟩, ⟨_, rfl⟩, rfl, rfl, by decide +kernel⟩

theorem not_stumbles_reported (text : String) : ¬ Stumbles signed (reported "0.684") text := by
  intro hstumbles
  have hscalar : text = "0.684" := (Option.some.inj hstumbles.misread.scalar).symm
  have hread : FeeScalar.parse "0.684" ≠ none := by decide +kernel
  exact hread (hscalar ▸ hstumbles.misread.unreadable)

end Sample

/-- With a scalar that is a numeral the reported fee stands. -/
theorem assess_of_reported_numeral :
    Sample.signed.isDeposit = false ∧ (Sample.reported "0.684").l1Fee = some 6 ∧
      assess Sample.signed (Sample.reported "0.684") Flatten.Sample.block .standard =
        .ok (some 6) :=
  ⟨rfl, rfl, (assess_of_reported rfl rfl Flatten.Sample.block .standard).1.mp
    Sample.not_stumbles_reported⟩

/-- A scalar that is no numeral ends the assessment, although a fee is reported. -/
theorem assess_reported_stumbles :
    Sample.signed.isDeposit = false ∧ (Sample.reported "x").l1Fee = some 6 ∧
      assess Sample.signed (Sample.reported "x") Flatten.Sample.block .standard =
        .error (.invalidFeeScalar "x") :=
  ⟨rfl, rfl, assess_of_stumbles rfl Sample.stumbles_reported⟩

end RollupLedger.DataFee
