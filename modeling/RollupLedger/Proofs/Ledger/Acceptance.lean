import RollupLedger.Proofs.Ledger.Exactness
import RollupLedger.Proofs.Optional

/-!
# Which texts are read as amounts

The value of an amount spells a signed number if it is an integer in base ten, with a minus sign if
the number is negative (`Amount.Spells`). Such a value is read as the number that it spells. Values
with underscores among their digits or without any digit are read as well, and no others
(`Amount.read_iff_admits`); an operation whose amount is not read is never taken to be balanced. The
empty value, which spells nothing, is read as zero (`Amount.read_blank`).
-/

set_option autoImplicit false
set_option relaxedAutoImplicit false

namespace RollupLedger.Ledger

/-! ### Signs -/

/-- The minus sign of a negative number. -/
def sign (negative : Bool) : List Char := if negative then ['-'] else []

namespace Amount

theorem sign_append_splitSign (cs : List Char) :
    sign (splitSign cs).1 ++ (splitSign cs).2 = cs := by
  unfold splitSign
  split <;> rfl

theorem splitSign_sign_append {body : List Char} (hbody : ∀ c ∈ body, c = '_' ∨ c.isDigit)
    (negative : Bool) : splitSign (sign negative ++ body) = (negative, body) := by
  cases negative with
  | true => rfl
  | false =>
    cases body with
    | nil => rfl
    | cons c rest =>
      have hc : c ≠ '-' := by
        rintro rfl
        exact absurd (hbody '-' List.mem_cons_self) (by decide)
      simp [splitSign, sign, hc]

/-! ### Integers and what passes for one -/

variable (amount : Amount) (signed : Signed)

/-- The value is an integer in base ten: at least one ASCII digit, after a minus sign if it is
negative. -/
def Spells : Prop :=
  ∃ digits, digits ≠ [] ∧ (∀ c ∈ digits, c.isDigit) ∧
    amount.value.toList = sign signed.negative ++ digits ∧
    Nat.ofDigitChars 10 digits 0 = signed.magnitude.toNat

/-- The value is any number of digits and underscores, after a minus sign if it is negative. The
underscores do not count, and no digits are zero. -/
def Admits : Prop :=
  ∃ body, (∀ c ∈ body, c = '_' ∨ c.isDigit) ∧ amount.value.toList = sign signed.negative ++ body ∧
    Nat.ofDigitChars 10 (body.filter (· ≠ '_')) 0 = signed.magnitude.toNat

variable {amount signed}

theorem signed?_eq_some_iff : amount.signed? = some signed ↔ amount.Admits signed := by
  show ((Numeral.word? 256 10 (splitSign amount.value.toList).2).map
    (Signed.mk (splitSign amount.value.toList).1)) = some signed ↔ _
  rw [Option.map_eq_some_iff]
  constructor
  · rintro ⟨magnitude, hword, rfl⟩
    obtain ⟨hbody, hmagnitude⟩ := Numeral.word?_ten_eq_some_iff.mp hword
    exact ⟨_, hbody, (sign_append_splitSign amount.value.toList).symm, hmagnitude⟩
  · rintro ⟨body, hbody, hvalue, hmagnitude⟩
    refine ⟨signed.magnitude, ?_⟩
    rw [hvalue, splitSign_sign_append hbody]
    exact ⟨Numeral.word?_ten_eq_some_iff.mpr ⟨hbody, hmagnitude⟩, rfl⟩

theorem not_isDigit_of_mem_sign {negative : Bool} {c : Char} (hc : c ∈ sign negative) :
    ¬ c.isDigit ∧ c ≠ '_' := by
  cases negative with
  | true =>
    obtain rfl := List.mem_singleton.mp hc
    decide
  | false => cases hc

/-- Integers are what is admitted with a digit and without underscores. -/
theorem spells_iff :
    amount.Spells signed ↔ amount.Admits signed ∧ '_' ∉ amount.value.toList ∧
      ∃ c ∈ amount.value.toList, c.isDigit := by
  constructor
  · rintro ⟨digits, hsome, hdigits, hvalue, hmagnitude⟩
    have hplain : ∀ c ∈ digits, c ≠ '_' := by
      rintro _ hc rfl
      exact absurd (hdigits _ hc) (by decide)
    have hall : digits.filter (· ≠ '_') = digits :=
      List.filter_eq_self.mpr fun c hc ↦ decide_eq_true (hplain c hc)
    refine ⟨⟨digits, fun c hc ↦ Or.inr (hdigits c hc), hvalue, by rw [hall, hmagnitude]⟩, ?_, ?_⟩
    · rw [hvalue, List.mem_append]
      rintro (hc | hc)
      · exact (not_isDigit_of_mem_sign hc).2 rfl
      · exact hplain _ hc rfl
    · obtain ⟨c, hc⟩ := List.exists_mem_of_ne_nil digits hsome
      exact ⟨c, hvalue ▸ List.mem_append_right _ hc, hdigits c hc⟩
  · rintro ⟨⟨body, hbody, hvalue, hmagnitude⟩, hplain, c, hc, hdigit⟩
    rw [hvalue, List.mem_append, not_or] at hplain
    have hdigits : ∀ c ∈ body, c.isDigit := by
      intro c hc
      refine (hbody c hc).resolve_left ?_
      rintro rfl
      exact hplain.2 hc
    have hall : body.filter (· ≠ '_') = body := by
      refine List.filter_eq_self.mpr fun c hc ↦ decide_eq_true ?_
      rintro rfl
      exact hplain.2 hc
    refine ⟨body, ?_, hdigits, hvalue, by rw [← hmagnitude, hall]⟩
    rintro rfl
    rw [hvalue, List.append_nil] at hc
    exact (not_isDigit_of_mem_sign hc).1 hdigit

/-! ### Amounts that are not read -/

/-- An amount that is not read settles the check against the operations. -/
theorem isConserved_of_unread {operations : List Operation} {o : Operation}
    (hunread : amount.signed? = none) (ho : o ∈ operations) (hbalanced : o.isBalanced = true)
    (hamount : o.amount = some amount) : isConserved operations = false := by
  have hmem : amount ∈ balancedAmounts operations :=
    List.mem_filterMap.mpr ⟨o, List.mem_filter.mpr ⟨ho, hbalanced⟩, hamount⟩
  have hnone : readAmounts? (balancedAmounts operations) = none :=
    mapM_eq_none_iff.mpr ⟨amount, hmem, by rw [hunread, Option.map_none]⟩
  rw [isConserved, hnone]

theorem isBalanced_of_success {o : Operation} (hsuccess : o.status = .success)
    (hmint : o.type ≠ .mint) (hburn : o.type ≠ .burn) : o.isBalanced = true := by
  have hsymmetric : o.type.isAsymmetric = false := by
    cases htype : o.type with
    | mint => exact absurd htype hmint
    | burn => exact absurd htype hburn
    | _ => rfl
  simp [Operation.isBalanced, hsuccess, hsymmetric]

variable (amount)

/-- An amount is read exactly if its value is made of digits and underscores after a minus sign or
none, and fits a word. Values that have a digit and no underscore are read exactly if they are
integers in base ten, as what they spell. An amount that is not read fails the check of conservation
wherever it has to be balanced. -/
theorem read_iff_admits :
    (∀ signed, amount.signed? = some signed ↔ amount.Admits signed) ∧
      (∀ signed, amount.Spells signed ↔ amount.signed? = some signed ∧
        '_' ∉ amount.value.toList ∧ ∃ c ∈ amount.value.toList, c.isDigit) ∧
      (amount.signed? = none → ∀ operations, ∀ o ∈ operations, o.status = .success →
        o.type ≠ .mint → o.type ≠ .burn → o.amount = some amount →
          isConserved operations = false) := by
  refine ⟨fun signed ↦ signed?_eq_some_iff, fun signed ↦ ?_, ?_⟩
  · rw [signed?_eq_some_iff]
    exact spells_iff
  · intro hunread operations o ho hsuccess hmint hburn hamount
    exact isConserved_of_unread hunread ho (isBalanced_of_success hsuccess hmint hburn) hamount

/-! ### A word and nothing at all -/

/-- A word for a number is no amount, and what has it does not pass the check. -/
theorem read_iff_admits_five :
    (⟨"five", .ether⟩ : Amount).signed? = none ∧
      isConserved [Sample.posted ⟨"five", .ether⟩] = false := by
  have hunread : (⟨"five", .ether⟩ : Amount).signed? = none := by decide +kernel
  exact ⟨hunread, (read_iff_admits ⟨"five", .ether⟩).2.2 hunread _ _ List.mem_cons_self rfl
    nofun nofun rfl⟩

/-- The empty value spells no integer, but is read as zero and passes the check. So is a lone minus
sign, and so are digits that an underscore separates. -/
theorem read_blank :
    (∀ signed, ¬ (⟨"", .ether⟩ : Amount).Spells signed) ∧
      (⟨"", .ether⟩ : Amount).signed? = some ⟨false, 0⟩ ∧
      (⟨"-", .ether⟩ : Amount).signed? = some ⟨true, 0⟩ ∧
      (⟨"1_0", .ether⟩ : Amount).signed? = some ⟨false, 10⟩ ∧
      isConserved [Sample.posted ⟨"", .ether⟩] = true := by
  refine ⟨fun signed hspells ↦ ?_, by decide +kernel, by decide +kernel, by decide +kernel,
    by decide +kernel⟩
  obtain ⟨-, -, c, hc, -⟩ := spells_iff.mp hspells
  cases hc

end Amount

end RollupLedger.Ledger
