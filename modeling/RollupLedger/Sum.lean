/-!
Sums of natural numbers over the items of a list.
-/

set_option autoImplicit false
set_option relaxedAutoImplicit false

namespace RollupLedger

variable {α : Type}

/-- What the items of a list count together. -/
def sumOf (count : α → Nat) (items : List α) : Nat :=
  items.foldr (fun item sum => count item + sum) 0

@[simp] theorem sumOf_nil (count : α → Nat) : sumOf count [] = 0 := rfl

@[simp] theorem sumOf_cons (count : α → Nat) (item : α) (rest : List α) :
    sumOf count (item :: rest) = count item + sumOf count rest := rfl

@[simp] theorem sumOf_append (count : α → Nat) (first rest : List α) :
    sumOf count (first ++ rest) = sumOf count first + sumOf count rest := by
  induction first with
  | nil => simp
  | cons item others ih => rw [List.cons_append, sumOf_cons, sumOf_cons, ih, Nat.add_assoc]

theorem sumOf_filter_add (count : α → Nat) (p : α → Bool) (items : List α) :
    sumOf count (items.filter p) + sumOf count (items.filter fun item => !p item) =
      sumOf count items := by
  induction items with
  | nil => rfl
  | cons item rest ih =>
    rw [sumOf_cons, ← ih]
    cases hp : p item with
    | true =>
      rw [List.filter_cons_of_pos hp, List.filter_cons_of_neg (by simp [hp]), sumOf_cons]
      omega
    | false =>
      rw [List.filter_cons_of_neg (by simp [hp]), List.filter_cons_of_pos (by simp [hp]),
        sumOf_cons]
      omega

theorem sumOf_eq_zero {count : α → Nat} {items : List α} (hzero : ∀ item ∈ items, count item = 0) :
    sumOf count items = 0 := by
  induction items with
  | nil => rfl
  | cons item rest ih =>
    rw [sumOf_cons, hzero item List.mem_cons_self, Nat.zero_add]
    exact ih fun other hother => hzero other (List.mem_cons_of_mem item hother)

theorem sumOf_le_sumOf {less more : α → Nat} {items : List α}
    (hle : ∀ item ∈ items, less item ≤ more item) : sumOf less items ≤ sumOf more items := by
  induction items with
  | nil => exact Nat.le_refl 0
  | cons item rest ih =>
    have hitem := hle item List.mem_cons_self
    have hrest := ih fun other hother => hle other (List.mem_cons_of_mem item hother)
    rw [sumOf_cons, sumOf_cons]
    omega

theorem le_sumOf_of_mem (count : α → Nat) {item : α} {items : List α} (hitem : item ∈ items) :
    count item ≤ sumOf count items := by
  obtain ⟨before, after, rfl⟩ := List.append_of_mem hitem
  rw [sumOf_append, sumOf_cons]
  omega

theorem sumOf_perm (count : α → Nat) {items others : List α} (hperm : items.Perm others) :
    sumOf count items = sumOf count others := by
  induction hperm with
  | nil => rfl
  | cons item _ ih => rw [sumOf_cons, sumOf_cons, ih]
  | swap first second rest =>
    simp only [sumOf_cons]
    omega
  | trans _ _ ihfirst ihthen => rw [ihfirst, ihthen]

theorem sumOf_sublist_le (count : α → Nat) {items others : List α} (hsub : items.Sublist others) :
    sumOf count items ≤ sumOf count others := by
  induction hsub with
  | slnil => exact Nat.le_refl 0
  | cons item _ ih =>
    rw [sumOf_cons]
    omega
  | cons_cons item _ ih =>
    rw [sumOf_cons, sumOf_cons]
    omega

end RollupLedger
