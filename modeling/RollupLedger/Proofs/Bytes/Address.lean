import RollupLedger.Address
import Mathlib.Logic.Function.Basic

/-!
# The shown form of an address names it

Lower-casing undoes the checksum, and the lower-case digits of a byte string determine it, so two
accounts with the same shown form are one (`checksummed_injective`).
-/

set_option autoImplicit false
set_option relaxedAutoImplicit false

namespace RollupLedger

namespace Hex

/-- The value of a lower-case digit. -/
def valueOf (c : Char) : Nat := if c.toNat < 58 then c.toNat - 48 else c.toNat - 87

theorem valueOf_digitOf {n : Nat} (hn : n < 16) : valueOf (digitOf n) = n := by
  revert n
  decide

theorem toLower_digitOf {n : Nat} (hn : n < 16) : (digitOf n).toLower = digitOf n := by
  revert n
  decide

theorem toLower_toUpper_digitOf {n : Nat} (hn : n < 16) :
    (digitOf n).toUpper.toLower = digitOf n := by
  revert n
  decide

theorem pair_injective : Function.Injective pair := by
  intro a b hpair
  have ha := a.toNat_lt
  have hb := b.toNat_lt
  simp only [pair, List.cons.injEq, and_true] at hpair
  have hhigh := congrArg valueOf hpair.1
  have hlow := congrArg valueOf hpair.2
  rw [valueOf_digitOf (by omega), valueOf_digitOf (by omega)] at hhigh
  rw [valueOf_digitOf (by omega), valueOf_digitOf (by omega)] at hlow
  exact UInt8.toNat_inj.mp (by omega)

theorem digits_cons (b : UInt8) (rest : Bytes) : digits (b :: rest) = pair b ++ digits rest := rfl

theorem length_pair (b : UInt8) : (pair b).length = 2 := rfl

theorem length_digits (bytes : Bytes) : (digits bytes).length = 2 * bytes.length := by
  induction bytes with
  | nil => rfl
  | cons b rest ih =>
    rw [digits_cons, List.length_append, length_pair, ih, List.length_cons]
    omega

theorem digits_injective : Function.Injective digits := by
  intro first
  induction first with
  | nil =>
    intro second hdigits
    cases second with
    | nil => rfl
    | cons b rest => cases hdigits
  | cons a others ih =>
    intro second hdigits
    cases second with
    | nil => cases hdigits
    | cons b rest =>
      rw [digits_cons, digits_cons] at hdigits
      obtain ⟨hpair, hrest⟩ := List.append_inj hdigits rfl
      rw [pair_injective hpair, ih hrest]

theorem exists_digitOf_of_mem_digits {bytes : Bytes} {c : Char} (hc : c ∈ digits bytes) :
    ∃ n < 16, c = digitOf n := by
  obtain ⟨b, -, hc⟩ := List.mem_flatMap.mp hc
  have hb := b.toNat_lt
  simp only [pair, List.mem_cons, List.not_mem_nil, or_false] at hc
  rcases hc with rfl | rfl
  · exact ⟨b.toNat / 16, by omega, rfl⟩
  · exact ⟨b.toNat % 16, by omega, rfl⟩

end Hex

namespace Address

theorem length_halves (bytes : Bytes) : (halves bytes).length = 2 * bytes.length := by
  induction bytes with
  | nil => rfl
  | cons b rest ih =>
    rw [halves, List.flatMap_cons, List.length_append, ← halves, ih, List.length_cons]
    simp only [List.length_cons, List.length_nil]
    omega

/-- Lower-casing undoes marking, if there are marks for all digits. -/
theorem map_toLower_zipWith (digits : List Char) (marks : List Nat)
    (hdigits : ∀ c ∈ digits, ∃ n < 16, c = Hex.digitOf n) (hmarks : digits.length ≤ marks.length) :
    (List.zipWith (fun c mark ↦ if 8 ≤ mark then c.toUpper else c) digits marks).map Char.toLower =
      digits := by
  induction digits generalizing marks with
  | nil => rfl
  | cons c rest ih =>
    cases marks with
    | nil => simp at hmarks
    | cons mark others =>
      obtain ⟨n, hn, rfl⟩ := hdigits c List.mem_cons_self
      have hrest := ih others (fun d hd ↦ hdigits d (List.mem_cons_of_mem _ hd))
        (Nat.le_of_succ_le_succ hmarks)
      rw [List.zipWith_cons_cons, List.map_cons, hrest]
      by_cases hmark : 8 ≤ mark
      · rw [if_pos hmark, Hex.toLower_toUpper_digitOf hn]
      · rw [if_neg hmark, Hex.toLower_digitOf hn]

/-- Marks change nothing where no digit is a letter. -/
theorem zipWith_of_toUpper (digits : List Char) (marks : List Nat)
    (hplain : ∀ c ∈ digits, c.toUpper = c) (hmarks : digits.length ≤ marks.length) :
    List.zipWith (fun c mark ↦ if 8 ≤ mark then c.toUpper else c) digits marks = digits := by
  induction digits generalizing marks with
  | nil => rfl
  | cons c rest ih =>
    cases marks with
    | nil => simp at hmarks
    | cons mark others =>
      obtain ⟨hc, hrest⟩ := List.forall_mem_cons.mp hplain
      rw [List.zipWith_cons_cons, ih others hrest (Nat.le_of_succ_le_succ hmarks), hc, ite_self]

/-- An address whose digits have no letters is shown as it is written. -/
theorem checksummed_of_toUpper {address : Address}
    (hplain : (Hex.digits address.bytes).map Char.toUpper = Hex.digits address.bytes) :
    address.checksummed = address.hex := by
  refine congrArg (fun digits ↦ String.ofList ('0' :: 'x' :: digits)) ?_
  refine zipWith_of_toUpper _ _ (List.map_inj_left.mp (hplain.trans (List.map_id _).symm)) ?_
  rw [Hex.length_digits, length_halves, address.length_eq, FixedBytes.length_eq]
  omega

theorem checksummed_injective : Function.Injective checksummed := by
  intro a b hshown
  have hlower (address : Address) (marks : FixedBytes 32) :
      (List.zipWith (fun c mark ↦ if 8 ≤ mark then c.toUpper else c) (Hex.digits address.bytes)
        (halves marks.bytes)).map Char.toLower = Hex.digits address.bytes := by
    refine map_toLower_zipWith _ _ (fun c ↦ Hex.exists_digitOf_of_mem_digits) ?_
    rw [Hex.length_digits, length_halves, address.length_eq, marks.length_eq]
    omega
  have hchars := String.ofList_injective hshown
  simp only [List.cons.injEq, true_and] at hchars
  have hdigits := congrArg (List.map Char.toLower) hchars
  rw [hlower, hlower] at hdigits
  exact FixedBytes.ext (Hex.digits_injective hdigits)

end Address

end RollupLedger
