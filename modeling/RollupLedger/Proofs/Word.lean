import RollupLedger.Word
import Mathlib.Algebra.Group.Nat.Defs

/-!
# Words as numbers

A word is a number below `2 ^ bits` (`Word.toNat_lt`), and every operation on words is one on the
numbers, cut off at the largest word where the result may not fit.
-/

set_option autoImplicit false
set_option relaxedAutoImplicit false

namespace RollupLedger.Word

variable {bits : Nat}

theorem toNat_lt (a : Word bits) : a.toNat < 2 ^ bits := a.isLt

theorem toNat_le (a : Word bits) : a.toNat ≤ 2 ^ bits - 1 := Nat.le_sub_one_of_lt a.isLt

theorem toNat_saturate (n : Nat) : (saturate bits n).toNat = min n (2 ^ bits - 1) := rfl

theorem toNat_satAdd (a b : Word bits) :
    (a.satAdd b).toNat = min (a.toNat + b.toNat) (2 ^ bits - 1) := rfl

theorem toNat_satMul (a b : Word bits) :
    (a.satMul b).toNat = min (a.toNat * b.toNat) (2 ^ bits - 1) := rfl

theorem toNat_floorSub (a b : Word bits) : (a.floorSub b).toNat = a.toNat - b.toNat := rfl

theorem toNat_least (a b : Word bits) : (a.least b).toNat = min a.toNat b.toNat := by
  unfold least
  by_cases hle : a ≤ b
  · have hnat : a.toNat ≤ b.toNat := hle
    rw [if_pos hle, Nat.min_eq_left hnat]
  · have hnat : ¬ a.toNat ≤ b.toNat := hle
    rw [if_neg hle, Nat.min_eq_right (by omega)]

theorem toNat_divNat (a : Word bits) (n : Nat) : (a.divNat n).toNat = a.toNat / n := rfl

/-! ### Results that fit -/

theorem toNat_saturate_of_lt {n : Nat} (hfits : n < 2 ^ bits) : (saturate bits n).toNat = n := by
  rw [toNat_saturate, Nat.min_eq_left (Nat.le_sub_one_of_lt hfits)]

theorem toNat_satAdd_of_lt {a b : Word bits} {m n : Nat} (ha : a.toNat = m) (hb : b.toNat = n)
    (hfits : m + n < 2 ^ bits) : (a.satAdd b).toNat = m + n := by
  subst ha hb
  exact toNat_saturate_of_lt hfits

theorem toNat_satMul_of_lt {a b : Word bits} {m n : Nat} (ha : a.toNat = m) (hb : b.toNat = n)
    (hfits : m * n < 2 ^ bits) : (a.satMul b).toNat = m * n := by
  subst ha hb
  exact toNat_saturate_of_lt hfits

/-! ### Order -/

variable {a b c d : Word bits}

theorem le_refl (a : Word bits) : a ≤ a := Nat.le_refl a.toNat

theorem saturate_mono {n m : Nat} (hle : n ≤ m) : saturate bits n ≤ saturate bits m := by
  show min n (2 ^ bits - 1) ≤ min m (2 ^ bits - 1)
  omega

theorem satAdd_mono (hab : a ≤ b) (hcd : c ≤ d) : a.satAdd c ≤ b.satAdd d :=
  saturate_mono (Nat.add_le_add hab hcd)

theorem satMul_mono (hab : a ≤ b) (hcd : c ≤ d) : a.satMul c ≤ b.satMul d :=
  saturate_mono (Nat.mul_le_mul hab hcd)

theorem divNat_mono (hab : a ≤ b) (n : Nat) : a.divNat n ≤ b.divNat n :=
  Nat.div_le_div_right hab

end RollupLedger.Word
