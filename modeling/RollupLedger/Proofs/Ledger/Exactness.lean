import RollupLedger.Proofs.Ledger.Reading
import RollupLedger.Proofs.Ledger.Total
import RollupLedger.Proofs.Numeral.Decimal

/-!
# How exact the check of conservation is

Operations whose amounts are integers in base ten pass the check exactly if in every currency the
integers that have to balance add up to zero, or what is given and what is taken both reach the
largest word (`isConserved_iff_of_integers`). The second case is where the totals can no longer tell
sums apart: two credits of the largest word against one debit of it pass
(`isConserved_unbalanced`).
-/

set_option autoImplicit false
set_option relaxedAutoImplicit false

namespace RollupLedger.Ledger

/-! ### Integers in base ten -/

namespace Amount

/-- The value is an integer in base ten: at least one ASCII digit, after a minus sign or none. -/
def Denotes (amount : Amount) (z : Int) : Prop :=
  ∃ digits : List Char, digits ≠ [] ∧ (∀ c ∈ digits, c.isDigit) ∧
    (amount.value.toList = digits ∧ z = Nat.ofDigitChars 10 digits 0 ∨
      amount.value.toList = '-' :: digits ∧ z = -(Nat.ofDigitChars 10 digits 0 : Int))

/-- An integer whose magnitude fits a word is read with its sign. -/
theorem exists_signed?_of_denotes {amount : Amount} {z : Int} (hdenotes : amount.Denotes z)
    (hfits : z.natAbs < 2 ^ 256) : ∃ signed, amount.signed? = some signed ∧ signed.toInt = z := by
  obtain ⟨digits, -, hdigits, hvalue⟩ := hdenotes
  have hword (hnumber : Nat.ofDigitChars 10 digits 0 < 2 ^ 256) :
      Numeral.word? 256 10 digits = some ⟨_, hnumber⟩ := by
    rw [Numeral.word?_of_isDigit hdigits]
    exact Word.ofNat?_eq_some_iff.mpr rfl
  rcases hvalue with ⟨hvalue, rfl⟩ | ⟨hvalue, rfl⟩
  · rw [Int.natAbs_natCast] at hfits
    refine ⟨⟨false, _, hfits⟩, ?_, rfl⟩
    simp only [signed?, hvalue, splitSign_of_digits hdigits, hword hfits, Option.map_some]
  · rw [Int.natAbs_neg, Int.natAbs_natCast] at hfits
    refine ⟨⟨true, _, hfits⟩, ?_, rfl⟩
    simp only [signed?, hvalue, splitSign, hword hfits, Option.map_some]

theorem denotes_credit (value : Word 256) (currency : Currency) :
    (credit value currency).Denotes value.toNat :=
  ⟨Nat.toDigits 10 value.toNat, Nat.toDigits_ne_nil,
    fun _ hc ↦ Nat.isDigit_of_mem_toDigits (by decide) (by decide) hc,
    Or.inl ⟨toList_toDecimal value, by rw [Nat.ofDigitChars_toDigits (by decide) (by decide)]⟩⟩

theorem denotes_debit {value : Word 256} (hvalue : value.toNat ≠ 0) (currency : Currency) :
    (debit value currency).Denotes (-value.toNat) := by
  have htext : (debit value currency).value.toList = '-' :: Nat.toDigits 10 value.toNat := by
    rw [debit, Word.isZero_eq_false_iff.mpr hvalue, if_neg Bool.false_ne_true,
      String.toList_append, toList_toDecimal]
    rfl
  exact ⟨Nat.toDigits 10 value.toNat, Nat.toDigits_ne_nil,
    fun _ hc ↦ Nat.isDigit_of_mem_toDigits (by decide) (by decide) hc,
    Or.inr ⟨htext, by rw [Nat.ofDigitChars_toDigits (by decide) (by decide)]⟩⟩

end Amount

/-! ### Sums in one currency -/

section Sums

variable (currency : Currency) (entries : List (Currency × Int))

/-- The exact sum of the integers in a currency. -/
def sumIn : Int := ((entries.filter fun e ↦ e.1 == currency).map fun e ↦ e.2).sum

/-- The exact sum of the positive ones. -/
def givenIn : Int := ((entries.filter fun e ↦ e.1 == currency).map fun e ↦ max e.2 0).sum

/-- The exact sum of the magnitudes of the negative ones. -/
def takenIn : Int := ((entries.filter fun e ↦ e.1 == currency).map fun e ↦ max (-e.2) 0).sum

variable {currency entries}

theorem sum_filter_cons (part : Int → Int) (e : Currency × Int) :
    (((e :: entries).filter fun e ↦ e.1 == currency).map fun e ↦ part e.2).sum =
      (if e.1 = currency then part e.2 else 0) +
        ((entries.filter fun e ↦ e.1 == currency).map fun e ↦ part e.2).sum := by
  by_cases hkept : e.1 = currency
  · simp [hkept]
  · rw [if_neg hkept, Int.zero_add, List.filter_cons_of_neg (by simpa using hkept)]

theorem givenIn_sub_takenIn : givenIn currency entries - takenIn currency entries =
    sumIn currency entries := by
  induction entries with
  | nil => rfl
  | cons e rest ih =>
    unfold givenIn takenIn sumIn at ih ⊢
    rw [sum_filter_cons (max · 0), sum_filter_cons (fun z ↦ max (-z) 0), sum_filter_cons fun z ↦ z]
    split <;> omega

theorem filter_eq_nil_of_not_mem {β : Type} {entries : List (Currency × β)}
    (hnone : ∀ e ∈ entries, e.1 ≠ currency) : (entries.filter fun e ↦ e.1 == currency) = [] := by
  rw [List.filter_eq_nil_iff]
  intro e he hsame
  exact hnone e he (beq_iff_eq.mp hsame)

end Sums

/-! ### What is recorded and what is read -/

/-- Entries with a sign and a magnitude, as integers. -/
def integers (entries : List (Currency × Signed)) : List (Currency × Int) :=
  entries.map fun e ↦ (e.1, e.2.toInt)

/-- The entries of one sign add up to the magnitudes that are read for it. -/
theorem sum_part_integers (currency : Currency) (entries : List (Currency × Signed))
    (negative : Bool) :
    (((integers entries).filter fun e ↦ e.1 == currency).map fun e ↦
      max (if negative then -e.2 else e.2) 0).sum = magnitude currency entries negative := by
  induction entries with
  | nil => rfl
  | cons e rest ih =>
    unfold integers at ih ⊢
    rw [List.map_cons, sum_filter_cons (fun z ↦ max (if negative then -z else z) 0),
      magnitude_cons, ih]
    cases negative <;> cases hsign : e.2.negative <;> by_cases hkept : e.1 = currency <;>
      simp [hkept, Signed.toInt, hsign]

theorem givenIn_integers (currency : Currency) (entries : List (Currency × Signed)) :
    givenIn currency (integers entries) = magnitude currency entries false :=
  sum_part_integers currency entries false

theorem takenIn_integers (currency : Currency) (entries : List (Currency × Signed)) :
    takenIn currency (integers entries) = magnitude currency entries true :=
  sum_part_integers currency entries true

/-- The amounts that have to balance are these integers in these currencies, and their magnitudes
fit a word. -/
def Recorded (operations : List Operation) (entries : List (Currency × Int)) : Prop :=
  List.Forall₂ (fun amount e ↦ amount.currency = e.1 ∧ amount.Denotes e.2 ∧ e.2.natAbs < 2 ^ 256)
    (balancedAmounts operations) entries

variable {operations : List Operation}

theorem exists_recorded (hintegers : ∀ o ∈ operations, o.status = .success → o.type ≠ .mint →
    o.type ≠ .burn → ∀ amount, o.amount = some amount →
      ∃ z, amount.Denotes z ∧ z.natAbs < 2 ^ 256) : ∃ entries, Recorded operations entries := by
  have hamounts (amount : Amount) (hmem : amount ∈ balancedAmounts operations) :
      ∃ z, amount.Denotes z ∧ z.natAbs < 2 ^ 256 := by
    obtain ⟨o, ho, hamount⟩ := List.mem_filterMap.mp hmem
    obtain ⟨ho, hbalanced⟩ := List.mem_filter.mp ho
    rw [Operation.isBalanced, Bool.and_eq_true, beq_iff_eq, Bool.not_eq_true'] at hbalanced
    obtain ⟨hsuccess, hsymmetric⟩ := hbalanced
    refine hintegers o ho hsuccess ?_ ?_ amount hamount
    all_goals
      intro htype
      rw [htype] at hsymmetric
      cases hsymmetric
  choose! z hz using hamounts
  refine ⟨(balancedAmounts operations).map fun amount ↦ (amount.currency, z amount), ?_⟩
  rw [Recorded, List.forall₂_map_right_iff, List.forall₂_same]
  exact fun amount hmem ↦ ⟨rfl, hz amount hmem⟩

theorem readAmounts?_of_recorded {entries : List (Currency × Int)}
    (hrecorded : Recorded operations entries) :
    ∃ signed, readAmounts? (balancedAmounts operations) = some signed ∧
      integers signed = entries := by
  unfold Recorded at hrecorded
  generalize balancedAmounts operations = amounts at hrecorded
  unfold readAmounts?
  induction hrecorded with
  | nil => exact ⟨[], rfl, rfl⟩
  | @cons amount e _ _ hamount _ ih =>
    obtain ⟨hcurrency, hdenotes, hfits⟩ := hamount
    obtain ⟨first, hfirst, hinteger⟩ := Amount.exists_signed?_of_denotes hdenotes hfits
    obtain ⟨rest, hrest, hintegers⟩ := ih
    refine ⟨(amount.currency, first) :: rest, by simp [List.mapM_cons, hfirst, hrest], ?_⟩
    rw [integers, List.map_cons, ← integers, hintegers, hinteger, hcurrency]

/-- The totals of a currency agree if the sums do or both reach the largest word. -/
theorem total_eq_total_iff (currency : Currency) (entries : List (Currency × Signed)) :
    total currency false entries = total currency true entries ↔
      sumIn currency (integers entries) = 0 ∨
        2 ^ 256 - 1 ≤ givenIn currency (integers entries) ∧
          2 ^ 256 - 1 ≤ takenIn currency (integers entries) := by
  rw [← givenIn_sub_takenIn, givenIn_integers, takenIn_integers, total_eq_saturate,
    total_eq_saturate, Word.ext_iff, Word.toNat_saturate, Word.toNat_saturate]
  omega

theorem isConserved_iff {entries : List (Currency × Int)}
    (hrecorded : Recorded operations entries) :
    isConserved operations = true ↔ ∀ currency, sumIn currency entries = 0 ∨
      2 ^ 256 - 1 ≤ givenIn currency entries ∧ 2 ^ 256 - 1 ≤ takenIn currency entries := by
  obtain ⟨signed, hread, rfl⟩ := readAmounts?_of_recorded hrecorded
  simp only [isConserved, hread, List.all_eq_true, beq_iff_eq, total_eq_total_iff]
  refine ⟨fun hall currency ↦ ?_, fun hall e _ ↦ hall e.1⟩
  by_cases hpresent : ∃ e ∈ signed, e.1 = currency
  · obtain ⟨e, he, rfl⟩ := hpresent
    exact hall e he
  · have hnone : ∀ e ∈ integers signed, e.1 ≠ currency := by
      intro e he hsame
      obtain ⟨other, hother, rfl⟩ := List.mem_map.mp he
      exact hpresent ⟨other, hother, hsame⟩
    left
    rw [sumIn, filter_eq_nil_of_not_mem hnone]
    rfl

/-- Where all amounts that have to balance are integers in base ten whose magnitudes fit a word, the
operations pass the check exactly if in every currency the integers add up to zero or what is given
and what is taken both reach the largest word. Short of that the check is exact. -/
theorem isConserved_iff_of_integers (hintegers : ∀ o ∈ operations, o.status = .success →
    o.type ≠ .mint → o.type ≠ .burn → ∀ amount, o.amount = some amount →
      ∃ z, amount.Denotes z ∧ z.natAbs < 2 ^ 256) :
    ∃ entries, Recorded operations entries ∧
      (isConserved operations = true ↔ ∀ currency, sumIn currency entries = 0 ∨
        2 ^ 256 - 1 ≤ givenIn currency entries ∧ 2 ^ 256 - 1 ≤ takenIn currency entries) ∧
      ((∀ currency, givenIn currency entries < 2 ^ 256 - 1 ∨
          takenIn currency entries < 2 ^ 256 - 1) →
        (isConserved operations = true ↔ ∀ currency, sumIn currency entries = 0)) := by
  obtain ⟨entries, hrecorded⟩ := exists_recorded hintegers
  have hchecked := isConserved_iff hrecorded
  refine ⟨entries, hrecorded, hchecked, fun hshort ↦ hchecked.trans (forall_congr' ?_)⟩
  intro currency
  refine or_iff_left fun ⟨hgiven, htaken⟩ ↦ ?_
  rcases hshort currency with hless | hless
  · exact absurd hgiven (not_le.mpr hless)
  · exact absurd htaken (not_le.mpr hless)

/-! ### A list that balances, and one that only seems to -/

namespace Sample

/-- An operation that succeeded. -/
def posted (amount : Amount) : Operation := ⟨0, none, .call, .success, none, some amount, none⟩

/-- Two currencies that balance, and a failure. -/
def balanced : List Operation :=
  [posted (.credit 5 .ether), posted (.credit 7 ⟨"OP", 18⟩), posted (.debit 5 .ether),
    posted (.debit 7 ⟨"OP", 18⟩), { posted (.credit 9 .ether) with status := .failure }]

def largest : Word 256 := .saturate 256 (2 ^ 256)

/-- The largest word is given to two accounts and taken from one. -/
def unbalanced : List Operation :=
  [posted (.credit largest .ether), posted (.credit largest .ether), posted (.debit largest .ether)]

end Sample

theorem isConserved_iff_of_integers_balanced :
    isConserved Sample.balanced = true ∧ ∃ entries, Recorded Sample.balanced entries ∧
      ∀ currency, sumIn currency entries = 0 ∨
        2 ^ 256 - 1 ≤ givenIn currency entries ∧ 2 ^ 256 - 1 ≤ takenIn currency entries := by
  have hpasses : isConserved Sample.balanced = true := by decide +kernel
  obtain ⟨entries, hrecorded, hiff, -⟩ := @isConserved_iff_of_integers Sample.balanced <| by
    intro o ho hsuccess _ _ amount hamount
    simp only [Sample.balanced, List.mem_cons, List.not_mem_nil, or_false] at ho
    rcases ho with rfl | rfl | rfl | rfl | rfl
    · cases hamount
      exact ⟨_, Amount.denotes_credit 5 _, by decide⟩
    · cases hamount
      exact ⟨_, Amount.denotes_credit 7 _, by decide⟩
    · cases hamount
      exact ⟨_, Amount.denotes_debit (by decide) _, by decide⟩
    · cases hamount
      exact ⟨_, Amount.denotes_debit (by decide) _, by decide⟩
    · cases hsuccess
  exact ⟨hpasses, entries, hrecorded, hiff.mp hpasses⟩

/-- Operations that give more than they take pass the check, since both totals are the largest
word. -/
theorem isConserved_unbalanced :
    Recorded Sample.unbalanced
      [(.ether, 2 ^ 256 - 1), (.ether, 2 ^ 256 - 1), (.ether, -(2 ^ 256 - 1))] ∧
    sumIn .ether [(.ether, 2 ^ 256 - 1), (.ether, 2 ^ 256 - 1), (.ether, -(2 ^ 256 - 1))] ≠ 0 ∧
    isConserved Sample.unbalanced = true := by
  have hgiven : (Amount.credit Sample.largest .ether).Denotes (2 ^ 256 - 1) :=
    Amount.denotes_credit _ _
  have htaken : (Amount.debit Sample.largest .ether).Denotes (-(2 ^ 256 - 1)) :=
    Amount.denotes_debit (by decide) _
  refine ⟨?_, by decide +kernel, by decide +kernel⟩
  exact .cons ⟨rfl, hgiven, by decide⟩
    (.cons ⟨rfl, hgiven, by decide⟩ (.cons ⟨rfl, htaken, by decide⟩ .nil))

end RollupLedger.Ledger
