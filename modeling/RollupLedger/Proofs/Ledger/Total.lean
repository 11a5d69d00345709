import RollupLedger.Ledger.Conservation
import RollupLedger.Proofs.Word
import Mathlib.Algebra.BigOperators.Group.List.Basic
import Mathlib.Tactic.Ring

/-!
# Saturating totals

A total of magnitudes is the exact sum or, where that does not fit, the largest word
(`total_eq_saturate`). Credits and debits whose exact difference is zero therefore have equal
totals, saturated or not, and a list of operations whose amounts can be read and balance in every
currency passes the check (`isConserved_of_net_eq_zero`).
-/

set_option autoImplicit false
set_option relaxedAutoImplicit false

namespace RollupLedger

namespace Word

variable {bits : Nat}

theorem foldl_satAdd (words : List (Word bits)) (a : Word bits) :
    words.foldl satAdd a = saturate bits (a.toNat + (words.map toNat).sum) := by
  induction words generalizing a with
  | nil =>
    apply ext
    have := a.toNat_le
    simp only [List.foldl_nil, List.map_nil, List.sum_nil, toNat_saturate]
    omega
  | cons word rest ih =>
    apply ext
    rw [List.foldl_cons, ih, List.map_cons, List.sum_cons]
    simp only [toNat_satAdd, toNat_saturate]
    omega

end Word

namespace Ledger

variable (currency : Currency) (entries : List (Currency × Signed))

/-- The exact sum of the magnitudes in a currency that have the given sign. -/
def magnitude (negative : Bool) : Nat :=
  ((entries.filter fun e ↦ e.1 == currency && e.2.negative == negative).map fun e ↦
    e.2.magnitude.toNat).sum

/-- The exact sum of the signed amounts in a currency. -/
def net : Int := ((entries.filter fun e ↦ e.1 == currency).map fun e ↦ e.2.toInt).sum

theorem total_eq_saturate (negative : Bool) :
    total currency negative entries = .saturate 256 (magnitude currency entries negative) := by
  rw [total, Word.foldl_satAdd, List.map_map, magnitude]
  have hzero : (0 : Word 256).toNat = 0 := rfl
  rw [hzero, Nat.zero_add]
  rfl

variable (e : Currency × Signed)

theorem magnitude_cons (negative : Bool) :
    magnitude currency (e :: entries) negative =
      (if e.1 = currency ∧ e.2.negative = negative then e.2.magnitude.toNat else 0) +
        magnitude currency entries negative := by
  by_cases hkept : e.1 = currency ∧ e.2.negative = negative
  · simp [magnitude, hkept]
  · rw [if_neg hkept, Nat.zero_add, magnitude, List.filter_cons, if_neg (by simpa using hkept)]
    rfl

theorem net_cons :
    net currency (e :: entries) =
      (if e.1 = currency then e.2.toInt else 0) + net currency entries := by
  by_cases hkept : e.1 = currency
  · simp [net, hkept]
  · rw [if_neg hkept, Int.zero_add, net, List.filter_cons, if_neg (by simpa using hkept)]
    rfl

theorem net_eq :
    net currency entries = magnitude currency entries false - magnitude currency entries true := by
  induction entries with
  | nil => rfl
  | cons e rest ih =>
    rw [net_cons, magnitude_cons, magnitude_cons, ih]
    by_cases hcurrency : e.1 = currency
    · cases hsign : e.2.negative with
      | true =>
        simp only [hcurrency, Signed.toInt, hsign, if_true, Bool.true_eq_false, and_false, if_false,
          true_and]
        push_cast
        ring
      | false =>
        simp only [hcurrency, Signed.toInt, hsign, if_true, Bool.false_eq_true, and_false,
          if_false, true_and]
        push_cast
        ring
    · simp [hcurrency]

/-- Amounts that balance exactly in every currency pass the check, also where the totals do not
fit a word. -/
theorem isConserved_of_net_eq_zero {operations : List Operation}
    (hread : readAmounts? (balancedAmounts operations) = some entries)
    (hnet : ∀ e ∈ entries, net e.1 entries = 0) : isConserved operations = true := by
  simp only [isConserved, hread, List.all_eq_true, beq_iff_eq]
  intro e he
  have hequal : magnitude e.1 entries false = magnitude e.1 entries true := by
    have hzero := hnet e he
    rw [net_eq] at hzero
    omega
  rw [total_eq_saturate, total_eq_saturate, hequal]

end Ledger

end RollupLedger
