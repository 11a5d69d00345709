import RollupLedger.Bytes.Basic
import Mathlib.Algebra.Group.Nat.Defs

/-!
# Big-endian bytes

The big-endian bytes of a number denote it (`toNat_ofNat`), so no two numbers share them. A number
below `256 ^ k` has at most `k` bytes (`length_ofNat_le`).
-/

set_option autoImplicit false
set_option relaxedAutoImplicit false

namespace RollupLedger.Bytes

theorem ofNat_zero : ofNat 0 = [] := by
  rw [ofNat, if_pos rfl]

theorem ofNat_of_ne_zero {n : Nat} (hn : n ≠ 0) :
    ofNat n = ofNat (n / 256) ++ [UInt8.ofNat (n % 256)] := by
  rw [ofNat, if_neg hn]

theorem toNat_append_singleton (bytes : Bytes) (b : UInt8) :
    toNat (bytes ++ [b]) = toNat bytes * 256 + b.toNat := by
  rw [toNat, List.foldl_append]
  rfl

theorem toNat_ofNat (n : Nat) : toNat (ofNat n) = n := by
  induction n using ofNat.induct with
  | case1 =>
    rw [ofNat_zero]
    rfl
  | case2 n hn ih =>
    have hlast : (UInt8.ofNat (n % 256)).toNat = n % 256 :=
      UInt8.toNat_ofNat_of_lt (Nat.mod_lt n (by decide))
    rw [ofNat_of_ne_zero hn, toNat_append_singleton, ih, hlast]
    omega

theorem ofNat_injective : Function.Injective ofNat :=
  Function.LeftInverse.injective toNat_ofNat

theorem length_ofNat_le {n k : Nat} (hn : n < 256 ^ k) : (ofNat n).length ≤ k := by
  induction k generalizing n with
  | zero =>
    obtain rfl : n = 0 := by omega
    rw [ofNat_zero]
    exact Nat.le_refl 0
  | succ k ih =>
    by_cases hzero : n = 0
    · rw [hzero, ofNat_zero]
      exact Nat.zero_le _
    · have hrest : n / 256 < 256 ^ k := by
        rw [Nat.pow_succ] at hn
        exact Nat.div_lt_of_lt_mul (by omega)
      rw [ofNat_of_ne_zero hzero, List.length_append, List.length_singleton]
      exact Nat.succ_le_succ (ih hrest)

theorem length_ofNat_pos {n : Nat} (hn : n ≠ 0) : 0 < (ofNat n).length := by
  rw [ofNat_of_ne_zero hn, List.length_append]
  exact Nat.succ_pos _

end RollupLedger.Bytes
