import RollupLedger.Numeral
import Mathlib.Algebra.Order.Ring.Nat
import Mathlib.Data.List.Induction

/-!
# Decimal digits

Characters that are all ASCII digits are read as the number that the digits denote in base ten,
however many zeros are in front (`read?_of_isDigit`). Underscores among them are the only other
characters that are accepted (`word?_ten_eq_some_iff`). Of digits the first few denote the number
without its last decimal places (`ofDigitChars_take`). A number is written by its shortest numeral
(`isMinimal_toDigits`), of which there is one (`IsMinimal.eq_toDigits`).
-/

set_option autoImplicit false
set_option relaxedAutoImplicit false

namespace RollupLedger.Numeral

variable {c : Char} {cs : List Char}

theorem isDigit_iff : c.isDigit ↔ '0'.toNat ≤ c.toNat ∧ c.toNat ≤ '9'.toNat := by
  simp only [Char.isDigit, Bool.and_eq_true, decide_eq_true_eq]
  exact Iff.rfl

theorem toNat_sub_zero_le (hc : c.isDigit) : c.toNat - '0'.toNat ≤ 9 := by
  have hrange := isDigit_iff.mp hc
  have hnine : '9'.toNat = '0'.toNat + 9 := rfl
  omega

theorem push?_of_isDigit (hc : c.isDigit) (n : Nat) :
    push? 10 n c = some (10 * n + (c.toNat - '0'.toNat)) := by
  have hmark : c ≠ '_' := by
    rintro rfl
    exact absurd hc (by decide)
  have hrange : '0' ≤ c ∧ c ≤ '9' := isDigit_iff.mp hc
  have hdigit : digit? 10 c = some (c.toNat - '0'.toNat) := by
    have hsmall := Nat.lt_succ_of_le (toNat_sub_zero_le hc)
    rw [digit?, digitValue?, if_pos hrange, Option.filter_some, if_pos (decide_eq_true hsmall)]
  rw [push?, if_neg hmark, hdigit, Option.map_some, Nat.mul_comm]

theorem foldlM_push?_of_isDigit (hcs : ∀ c ∈ cs, c.isDigit) (n : Nat) :
    cs.foldlM (push? 10) n = some (Nat.ofDigitChars 10 cs n) := by
  induction cs generalizing n with
  | nil => rfl
  | cons c rest ih =>
    rw [List.forall_mem_cons] at hcs
    rw [List.foldlM_cons, push?_of_isDigit hcs.1, Nat.ofDigitChars_cons]
    exact ih hcs.2 _

/-- Every character that is read in base ten is a digit or an underscore. -/
theorem isDigit_of_push? {n m : Nat} (hpush : push? 10 n c = some m) (hc : c ≠ '_') :
    c.isDigit := by
  rw [push?, if_neg hc] at hpush
  obtain ⟨d, hdigit, -⟩ := Option.map_eq_some_iff.mp hpush
  obtain ⟨hvalue, hsmall⟩ := Option.filter_eq_some_iff.mp hdigit
  have hlt : d < 10 := of_decide_eq_true hsmall
  unfold digitValue? at hvalue
  split_ifs at hvalue with hrange
  · exact isDigit_iff.mpr hrange
  -- A letter counts for ten or more.
  all_goals
    have hten := Option.some.inj hvalue
    omega

/-- Reading on from a number takes digits and underscores, of which the underscores do not count. -/
theorem foldlM_push?_ten_iff {n m : Nat} :
    cs.foldlM (push? 10) n = some m ↔
      (∀ c ∈ cs, c = '_' ∨ c.isDigit) ∧ Nat.ofDigitChars 10 (cs.filter (· ≠ '_')) n = m := by
  induction cs generalizing n with
  | nil =>
    rw [List.foldlM_nil, and_iff_right (List.forall_mem_nil _)]
    exact Option.some_inj
  | cons c rest ih =>
    rw [List.foldlM_cons, List.forall_mem_cons]
    by_cases hc : c = '_'
    · subst hc
      rw [List.filter_cons_of_neg (by simp), and_iff_right (Or.inl rfl)]
      exact ih
    · rw [List.filter_cons_of_pos (by simpa using hc), Nat.ofDigitChars_cons, or_iff_right hc,
        and_assoc, ← ih]
      show (push? 10 n c).bind _ = some m ↔ _
      rw [Option.bind_eq_some_iff]
      constructor
      · rintro ⟨next, hpush, hrest⟩
        have hdigit := isDigit_of_push? hpush hc
        rw [push?_of_isDigit hdigit] at hpush
        cases hpush
        exact ⟨hdigit, hrest⟩
      · rintro ⟨hdigit, hrest⟩
        exact ⟨_, push?_of_isDigit hdigit n, hrest⟩

/-- What is read as a word in base ten: digits that denote it, with underscores among them. -/
theorem word?_ten_eq_some_iff {bits : Nat} {word : Word bits} :
    word? bits 10 cs = some word ↔
      (∀ c ∈ cs, c = '_' ∨ c.isDigit) ∧
        Nat.ofDigitChars 10 (cs.filter (· ≠ '_')) 0 = word.toNat := by
  rw [word?, Option.bind_eq_some_iff, ← foldlM_push?_ten_iff]
  simp only [Word.ofNat?_eq_some_iff]
  constructor
  · rintro ⟨_, hread, rfl⟩
    exact hread
  · intro hread
    exact ⟨word.toNat, hread, rfl⟩

/-- Digits are read as the number that they denote. -/
theorem read?_of_isDigit (hcs : ∀ c ∈ cs, c.isDigit) :
    read? 10 cs = some (Nat.ofDigitChars 10 cs 0) :=
  foldlM_push?_of_isDigit hcs 0

/-- Digits are read as a word if the number that they denote fits. -/
theorem word?_of_isDigit (hcs : ∀ c ∈ cs, c.isDigit) (bits : Nat) :
    word? bits 10 cs = Word.ofNat? bits (Nat.ofDigitChars 10 cs 0) := by
  rw [word?, read?_of_isDigit hcs, Option.bind_some]

theorem ofDigitChars_lt (hcs : ∀ c ∈ cs, c.isDigit) :
    Nat.ofDigitChars 10 cs 0 < 10 ^ cs.length := by
  induction cs with
  | nil => exact Nat.one_pos
  | cons c rest ih =>
    rw [List.forall_mem_cons] at hcs
    have hdigit := toNat_sub_zero_le hcs.1
    have hrest := ih hcs.2
    rw [Nat.ofDigitChars_cons, Nat.ofDigitChars_eq_ofDigitChars_zero, List.length_cons, pow_succ]
    have hhead : 10 ^ rest.length * (10 * 0 + (c.toNat - '0'.toNat)) ≤ 10 ^ rest.length * 9 :=
      Nat.mul_le_mul_left _ (by omega)
    omega

/-- Leaving out the digits after the first `n` divides by the power of ten for their number. -/
theorem ofDigitChars_take (hcs : ∀ c ∈ cs, c.isDigit) (n : Nat) :
    Nat.ofDigitChars 10 (cs.take n) 0 = Nat.ofDigitChars 10 cs 0 / 10 ^ (cs.length - n) := by
  have hdropped : Nat.ofDigitChars 10 (cs.drop n) 0 < 10 ^ (cs.length - n) := by
    rw [← List.length_drop]
    exact ofDigitChars_lt fun c hc ↦ hcs c (List.mem_of_mem_drop hc)
  have hsplit : Nat.ofDigitChars 10 cs 0 =
      10 ^ (cs.length - n) * Nat.ofDigitChars 10 (cs.take n) 0 +
        Nat.ofDigitChars 10 (cs.drop n) 0 := by
    rw [← List.length_drop, ← Nat.ofDigitChars_eq_ofDigitChars_zero, ← Nat.ofDigitChars_append,
      List.take_append_drop]
  rw [hsplit, Nat.mul_add_div (Nat.pow_pos (by decide)), Nat.div_eq_of_lt hdropped, Nat.add_zero]

/-- Zeros behind the digits multiply by a power of ten. -/
theorem ofDigitChars_append_zeros (cs : List Char) (n : Nat) :
    Nat.ofDigitChars 10 (cs ++ List.replicate n '0') 0 = 10 ^ n * Nat.ofDigitChars 10 cs 0 := by
  have hzeros (k : Nat) : Nat.ofDigitChars 10 (List.replicate k '0') 0 = 0 := by
    induction k with
    | zero => rfl
    | succ k ih => rw [List.replicate_succ, Nat.ofDigitChars_cons]; exact ih
  rw [Nat.ofDigitChars_append, Nat.ofDigitChars_eq_ofDigitChars_zero, hzeros,
    List.length_replicate, Nat.add_zero]

/-- Digits that denote a number, the first of which is zero only if there are no others. -/
structure IsMinimal (cs : List Char) (n : Nat) : Prop where
  digits : ∀ c ∈ cs, c.isDigit
  denotes : Nat.ofDigitChars 10 cs 0 = n
  nonempty : cs ≠ []
  first : cs.head? = some '0' → cs = ['0']

theorem head?_toDigits {n : Nat} (hn : 0 < n) : (Nat.toDigits 10 n).head? ≠ some '0' := by
  induction n using Nat.base_induction 10 (by decide) with
  | single d hd =>
    rw [Nat.toDigits_of_lt_base hd, List.head?_cons, Ne, Option.some.injEq, Nat.digitChar_eq_zero]
    exact Nat.pos_iff_ne_zero.mp hn
  | digit n d hd hpos ih =>
    obtain ⟨c, rest, hdigits⟩ := List.exists_cons_of_ne_nil (Nat.toDigits_ne_nil (n := n) (b := 10))
    have hfirst := ih hpos
    rw [hdigits] at hfirst
    rw [← Nat.toDigits_append_toDigits (by decide) hpos hd, hdigits]
    exact hfirst

theorem isMinimal_toDigits (n : Nat) : IsMinimal (Nat.toDigits 10 n) n where
  digits := fun _ hc ↦ Nat.isDigit_of_mem_toDigits (by decide) (by decide) hc
  denotes := Nat.ofDigitChars_ten_toDigits
  nonempty := Nat.toDigits_ne_nil
  first := fun hhead ↦ by
    obtain rfl | hn := Nat.eq_zero_or_pos n
    · rfl
    · exact absurd hhead (head?_toDigits hn)

/-- A digit is the one of its value. -/
theorem digitChar_toNat_sub (hc : c.isDigit) : Nat.digitChar (c.toNat - '0'.toNat) = c := by
  have hvalue : ∀ n < 128, (Char.ofNat n).isDigit →
      Nat.digitChar (n - '0'.toNat) = Char.ofNat n := by decide +kernel
  have hlt : c.toNat < 128 := Nat.lt_of_le_of_lt (isDigit_iff.mp hc).2 (by decide)
  have hchar := hvalue c.toNat hlt
  rw [Char.ofNat_toNat] at hchar
  exact hchar hc

/-- There is one shortest numeral of a number. -/
theorem IsMinimal.eq_toDigits {n : Nat} (hminimal : IsMinimal cs n) : cs = Nat.toDigits 10 n := by
  induction cs using List.reverseRecOn generalizing n with
  | nil => exact absurd rfl hminimal.nonempty
  | append_singleton init c ih =>
    obtain ⟨hinit, hlast⟩ := List.forall_mem_append.mp hminimal.digits
    have hc := hlast c List.mem_cons_self
    have hsmall := toNat_sub_zero_le hc
    have hvalue : 10 * Nat.ofDigitChars 10 init 0 + (c.toNat - '0'.toNat) = n := by
      rw [← hminimal.denotes, Nat.ofDigitChars_append, Nat.ofDigitChars_cons, Nat.ofDigitChars_nil]
    by_cases hnil : init = []
    · subst hnil
      rw [← hvalue, Nat.ofDigitChars_nil, Nat.mul_zero, Nat.zero_add,
        Nat.toDigits_of_lt_base (Nat.lt_succ_of_le hsmall), digitChar_toNat_sub hc]
      rfl
    · -- More than one digit is there, so the first is not zero, and neither is what they denote.
      have hfirst : init.head? ≠ some '0' := by
        intro hzero
        have hwhole := hminimal.first (by rw [List.head?_append, hzero]; rfl)
        have hlength := congrArg List.length hwhole
        rw [List.length_append, List.length_singleton, List.length_singleton] at hlength
        exact hnil (List.eq_nil_of_length_eq_zero (by omega))
      have hshort : init = Nat.toDigits 10 (Nat.ofDigitChars 10 init 0) :=
        ih ⟨hinit, rfl, hnil, fun hzero ↦ absurd hzero hfirst⟩
      have hpos : 0 < Nat.ofDigitChars 10 init 0 := by
        refine Nat.pos_of_ne_zero fun hzero ↦ hfirst ?_
        rw [hshort, hzero]
        rfl
      rw [← hvalue, ← Nat.toDigits_append_toDigits (by decide) hpos (Nat.lt_succ_of_le hsmall),
        ← hshort, Nat.toDigits_of_lt_base (Nat.lt_succ_of_le hsmall), digitChar_toNat_sub hc]

end RollupLedger.Numeral
