import RollupLedger.Proofs.Ledger.Acceptance

/-!
# The text of an amount

A credit and a debit are written as the shortest numeral of the integer that they stand for: no zero
before other digits, and a minus sign only for what is really taken. What was written is read again
with its sign, so credits and debits that share a text stand for one integer (`rendered_and_read`).
-/

set_option autoImplicit false
set_option relaxedAutoImplicit false

namespace RollupLedger.Ledger.Amount

/-- A credit or a debit, and the integer that it stands for. -/
inductive Stands : Amount → Int → Prop
  | credit (value : Word 256) (currency : Currency) : Stands (credit value currency) value.toNat
  | debit (value : Word 256) (currency : Currency) : Stands (debit value currency) (-value.toNat)

/-- The value is the minimal numeral of an integer, after a minus sign exactly if that is
negative. -/
def IsMinimal (amount : Amount) (z : Int) : Prop :=
  ∃ digits, Numeral.IsMinimal digits z.natAbs ∧
    amount.value.toList = sign (decide (z < 0)) ++ digits

/-- Nothing is taken by a debit of zero. -/
theorem debit_of_isZero {value : Word 256} (hvalue : value.isZero = true) (currency : Currency) :
    debit value currency = credit value currency := by
  rw [debit, if_pos hvalue, credit]

theorem signed?_debit_eq (value : Word 256) (currency : Currency) :
    (debit value currency).signed? = some ⟨!value.isZero, value⟩ := by
  cases hvalue : value.isZero with
  | true => rw [debit_of_isZero hvalue, signed?_credit, Bool.not_true]
  | false => rw [signed?_debit (Word.isZero_eq_false_iff.mp hvalue), Bool.not_false]

/-- Reading does not look at the currency. -/
theorem signed?_congr {amount other : Amount} (hvalue : amount.value = other.value) :
    amount.signed? = other.signed? := by
  rw [signed?, signed?, hvalue]

theorem toList_value_credit (value : Word 256) (currency : Currency) :
    (credit value currency).value.toList = Nat.toDigits 10 value.toNat :=
  toList_toDecimal value

theorem toList_value_debit (value : Word 256) (currency : Currency) :
    (debit value currency).value.toList = sign (!value.isZero) ++ Nat.toDigits 10 value.toNat := by
  cases hvalue : value.isZero with
  | true =>
    rw [debit_of_isZero hvalue, toList_value_credit]
    rfl
  | false =>
    rw [debit, hvalue, if_neg Bool.false_ne_true, String.toList_append, toList_toDecimal]
    rfl

namespace Stands

variable {amount other : Amount} {z w : Int}

theorem toList_value (hstands : amount.Stands z) :
    amount.value.toList = sign (decide (z < 0)) ++ Nat.toDigits 10 z.natAbs := by
  cases hstands with
  | credit value currency =>
    have hsign : decide ((value.toNat : Int) < 0) = false := decide_eq_false (by omega)
    rw [toList_value_credit, hsign, Int.natAbs_natCast]
    rfl
  | debit value currency =>
    have hsign : decide (-(value.toNat : Int) < 0) = !value.isZero := by
      rw [Bool.eq_iff_iff, decide_eq_true_iff, Bool.not_eq_true', Word.isZero_eq_false_iff]
      omega
    rw [toList_value_debit, hsign, Int.natAbs_neg, Int.natAbs_natCast]

theorem isMinimal (hstands : amount.Stands z) : amount.IsMinimal z :=
  ⟨Nat.toDigits 10 z.natAbs, Numeral.isMinimal_toDigits z.natAbs, hstands.toList_value⟩

theorem exists_signed? (hstands : amount.Stands z) :
    ∃ signed, amount.signed? = some signed ∧ signed.toInt = z := by
  cases hstands with
  | credit value currency => exact ⟨_, signed?_credit value currency, rfl⟩
  | debit value currency =>
    refine ⟨_, signed?_debit_eq value currency, ?_⟩
    cases hvalue : value.isZero with
    | true => simp [Signed.toInt, Word.isZero_iff.mp hvalue]
    | false => rfl

theorem value_eq_iff (hstands : amount.Stands z) (hother : other.Stands w) :
    amount.value = other.value ↔ z = w := by
  constructor
  · intro hvalue
    obtain ⟨signed, hsigned, rfl⟩ := hstands.exists_signed?
    obtain ⟨signed', hsigned', rfl⟩ := hother.exists_signed?
    rw [signed?_congr hvalue, hsigned'] at hsigned
    rw [Option.some.inj hsigned]
  · rintro rfl
    rw [← String.toList_inj, hstands.toList_value, hother.toList_value]

end Stands

/-- Credits and debits of any word are read back, with the sign of what is really taken, and are
written minimally. Their texts are the same exactly if they stand for the same integer. -/
theorem rendered_and_read :
    (∀ value currency, (credit value currency).signed? = some ⟨false, value⟩ ∧
      (debit value currency).signed? = some ⟨!value.isZero, value⟩ ∧
      (credit value currency).IsMinimal value.toNat ∧
      (debit value currency).IsMinimal (-value.toNat)) ∧
    ∀ (amount other : Amount) (z w : Int), amount.Stands z → other.Stands w →
      (amount.value = other.value ↔ z = w) :=
  ⟨fun value currency ↦ ⟨signed?_credit value currency, signed?_debit_eq value currency,
    (Stands.credit value currency).isMinimal, (Stands.debit value currency).isMinimal⟩,
    fun _ _ _ _ hstands hother ↦ hstands.value_eq_iff hother⟩

/-- The largest word is written with its sign, and zero without one, whatever the currency. -/
theorem rendered_and_read_extremes :
    (debit Sample.largest .ether).Stands (-(2 ^ 256 - 1)) ∧
      (credit Sample.largest .ether).Stands (2 ^ 256 - 1) ∧
      (debit Sample.largest .ether).value ≠ (credit Sample.largest .ether).value ∧
      (debit 0 .ether).Stands 0 ∧ (credit 0 ⟨"OP", 18⟩).Stands 0 ∧
      (debit 0 .ether).value = (credit 0 ⟨"OP", 18⟩).value := by
  have htaken : (debit Sample.largest .ether).Stands (-(2 ^ 256 - 1)) := .debit _ _
  have hgiven : (credit Sample.largest .ether).Stands (2 ^ 256 - 1) := .credit _ _
  have hnone : (debit 0 .ether).Stands 0 := .debit 0 .ether
  have hnone' : (credit 0 ⟨"OP", 18⟩).Stands 0 := .credit 0 ⟨"OP", 18⟩
  refine ⟨htaken, hgiven, fun hvalue ↦ ?_, hnone, hnone', ?_⟩
  · exact absurd ((rendered_and_read.2 _ _ _ _ htaken hgiven).mp hvalue) (by decide)
  · exact (rendered_and_read.2 _ _ _ _ hnone hnone').mpr rfl

end RollupLedger.Ledger.Amount
