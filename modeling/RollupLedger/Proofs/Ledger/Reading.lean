import RollupLedger.Ledger.Conservation
import RollupLedger.Proofs.Numeral
import Mathlib.Algebra.BigOperators.Group.List.Basic
import Mathlib.Algebra.Ring.Int.Defs

/-!
# Amounts are read back, and lists of them are read as a whole

An amount that was written as a credit or a debit is read as the signed number that it was written
from (`signed?_credit`, `signed?_debit`). `Operation.delta` is the number that an operation's amount
is read as, and `exists_readAmounts?` reads the amounts of any part of a list of operations whose
amounts can all be read: the numbers read add up to the sum of the deltas.
-/

set_option autoImplicit false
set_option relaxedAutoImplicit false

namespace RollupLedger.Ledger

/-! ### One amount -/

namespace Amount

theorem splitSign_of_digits {digits : List Char} (hdigits : ∀ c ∈ digits, c.isDigit) :
    splitSign digits = (false, digits) := by
  cases digits with
  | nil => rfl
  | cons c rest =>
    have hc : c ≠ '-' := by
      rintro rfl
      exact absurd (hdigits '-' List.mem_cons_self) (by decide)
    simp [splitSign, hc]

theorem word?_decimal (value : Word 256) :
    Numeral.word? 256 10 (Nat.toDigits 10 value.toNat) = some value :=
  Numeral.word?_toDigits (by decide) (by decide) value

theorem toList_toDecimal {bits : Nat} (value : Word bits) :
    value.toDecimal.toList = Nat.toDigits 10 value.toNat := Nat.toList_repr

theorem signed?_credit (value : Word 256) (currency : Currency) :
    (credit value currency).signed? = some ⟨false, value⟩ := by
  have hsplit : splitSign (Nat.toDigits 10 value.toNat) = (false, Nat.toDigits 10 value.toNat) :=
    splitSign_of_digits fun c hc ↦ Nat.isDigit_of_mem_toDigits (by decide) (by decide) hc
  simp only [signed?, credit, toList_toDecimal, hsplit, word?_decimal, Option.map_some]

theorem signed?_debit {value : Word 256} (hvalue : value.toNat ≠ 0) (currency : Currency) :
    (debit value currency).signed? = some ⟨true, value⟩ := by
  have hzero : value.isZero = false := Word.isZero_eq_false_iff.mpr hvalue
  have htext : ("-" ++ value.toDecimal).toList = '-' :: Nat.toDigits 10 value.toNat := by
    rw [String.toList_append, toList_toDecimal]
    rfl
  simp only [signed?, debit, hzero, Bool.false_eq_true, if_false, htext, splitSign,
    word?_decimal, Option.map_some]

end Amount

/-! ### The amounts of operations -/

/-- The signed number of an operation's amount; one without an amount changes nothing. -/
def Operation.delta (o : Operation) : Int :=
  ((o.amount.bind Amount.signed?).map Signed.toInt).getD 0

/-- Whether the amount of an operation, if it has one, can be read. -/
def Operation.Readable (o : Operation) : Prop :=
  ∀ amount, o.amount = some amount → amount.signed?.isSome

/-- The amounts of readable operations are all read, and the sum of what is read is the sum of the
operations' deltas. -/
theorem exists_readAmounts? (operations : List Operation)
    (hreadable : ∀ o ∈ operations, o.Readable) :
    ∃ entries, readAmounts? (operations.filterMap Operation.amount) = some entries ∧
      (entries.map fun e ↦ e.2.toInt).sum = (operations.map Operation.delta).sum ∧
      ∀ e ∈ entries, ∃ o ∈ operations, ∃ amount, o.amount = some amount ∧
        amount.currency = e.1 := by
  induction operations with
  | nil => exact ⟨[], rfl, rfl, by simp⟩
  | cons o rest ih =>
    obtain ⟨entries, hread, hsum, hfrom⟩ :=
      ih fun o' ho' ↦ hreadable o' (List.mem_cons_of_mem o ho')
    have hlater (e : Currency × Signed) (he : e ∈ entries) : ∃ o' ∈ o :: rest, ∃ amount,
        o'.amount = some amount ∧ amount.currency = e.1 := by
      obtain ⟨o', ho', hamount⟩ := hfrom e he
      exact ⟨o', List.mem_cons_of_mem o ho', hamount⟩
    cases hamount : o.amount with
    | none =>
      refine ⟨entries, by simpa [List.filterMap_cons, hamount] using hread, ?_, hlater⟩
      simp [hsum, Operation.delta, hamount]
    | some amount =>
      obtain ⟨signed, hsigned⟩ := Option.isSome_iff_exists.mp
        (hreadable o List.mem_cons_self amount hamount)
      refine ⟨(amount.currency, signed) :: entries, ?_, ?_, ?_⟩
      · unfold readAmounts? at hread ⊢
        rw [List.filterMap_cons, hamount]
        simp [List.mapM_cons, hsigned, hread]
      · simp [hsum, Operation.delta, hamount, hsigned]
      · intro e he
        rcases List.mem_cons.mp he with rfl | he
        · exact ⟨o, List.mem_cons_self, amount, hamount, rfl⟩
        · exact hlater e he

end RollupLedger.Ledger
