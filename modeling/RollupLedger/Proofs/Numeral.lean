import RollupLedger.Numeral
import Mathlib.Data.Nat.Basic

/-!
# Numerals are read back

The reader of numerals undoes the writer: the minimal numeral of a number in a base up to sixteen is
read as that number (`read?_toDigits`), and as a word if the number fits one (`word?_toDigits`).
-/

set_option autoImplicit false
set_option relaxedAutoImplicit false

namespace RollupLedger.Numeral

theorem digitValue?_digitChar : ∀ d < 16, digitValue? (Nat.digitChar d) = some d := by
  decide

theorem digitChar_ne_underscore : ∀ d < 16, Nat.digitChar d ≠ '_' := by
  decide

theorem push?_digitChar {base d : Nat} (hbase : base ≤ 16) (hd : d < base) (n : Nat) :
    push? base n (Nat.digitChar d) = some (n * base + d) := by
  have hvalue := digitValue?_digitChar d (by omega)
  have hdigit : digit? base (Nat.digitChar d) = some d := by
    rw [digit?, hvalue, Option.filter_some, if_pos (by simpa using hd)]
  rw [push?, if_neg (digitChar_ne_underscore d (by omega)), hdigit, Option.map_some]

theorem read?_append (base : Nat) (first rest : List Char) :
    read? base (first ++ rest) =
      (read? base first).bind fun n ↦ rest.foldlM (push? base) n := by
  rw [read?, List.foldlM_append]
  rfl

theorem read?_toDigits {base : Nat} (hone : 1 < base) (hbase : base ≤ 16) (n : Nat) :
    read? base (Nat.toDigits base n) = some n := by
  induction n using Nat.base_induction base hone with
  | single d hd =>
    have hpush := push?_digitChar hbase hd 0
    rw [Nat.zero_mul, Nat.zero_add] at hpush
    rw [Nat.toDigits_of_lt_base hd, read?, List.foldlM_cons, hpush]
    rfl
  | digit n d hd hn ih =>
    rw [← Nat.toDigits_append_toDigits hone hn hd, read?_append, ih, Option.bind_some,
      Nat.toDigits_of_lt_base hd, List.foldlM_cons, push?_digitChar hbase hd n, Nat.mul_comm n]
    rfl

theorem word?_toDigits {bits base : Nat} (hone : 1 < base) (hbase : base ≤ 16)
    (a : Word bits) : word? bits base (Nat.toDigits base a.toNat) = some a := by
  rw [word?, read?_toDigits hone hbase, Option.bind_some, Word.ofNat?_toNat]

end RollupLedger.Numeral
