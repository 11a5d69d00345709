import RollupLedger.Proofs.Optional

/-!
# Lists side by side

Lists of one length whose items belong together place by place, two or three at a time, and lists
that are split or put together.
-/

set_option autoImplicit false
set_option relaxedAutoImplicit false

namespace RollupLedger

variable {α β γ : Type}

/-- Three lists of one length whose items are related place by place. -/
inductive Forall₃ (R : α → β → γ → Prop) : List α → List β → List γ → Prop
  | nil : Forall₃ R [] [] []
  | cons {x : α} {y : β} {z : γ} {xs : List α} {ys : List β} {zs : List γ} (hfirst : R x y z)
    (hrest : Forall₃ R xs ys zs) : Forall₃ R (x :: xs) (y :: ys) (z :: zs)

namespace Forall₃

variable {R S : α → β → γ → Prop} {xs : List α} {ys : List β} {zs : List γ}

theorem imp (hall : Forall₃ R xs ys zs) (himp : ∀ x y z, R x y z → S x y z) :
    Forall₃ S xs ys zs := by
  induction hall with
  | nil => exact .nil
  | cons hfirst _ ih => exact .cons (himp _ _ _ hfirst) ih

theorem rotate (hall : Forall₃ R xs ys zs) : Forall₃ (fun y z x ↦ R x y z) ys zs xs := by
  induction hall with
  | nil => exact .nil
  | cons hfirst _ ih => exact .cons hfirst ih

theorem length_left (hall : Forall₃ R xs ys zs) : xs.length = ys.length := by
  induction hall with
  | nil => rfl
  | cons _ _ ih => rw [List.length_cons, List.length_cons, ih]

theorem length_right (hall : Forall₃ R xs ys zs) : ys.length = zs.length := hall.rotate.length_left

/-- What is in the middle stands beside what is on its left. -/
theorem forall₂_zip (hall : Forall₃ R xs ys zs) :
    xs.Forall₂ (fun x z ↦ ∃ y, (x, y) ∈ xs.zip ys ∧ R x y z) zs := by
  induction hall with
  | nil => exact .nil
  | @cons x y z xs ys _ hfirst _ ih =>
    rw [List.zip_cons_cons]
    refine .cons ⟨y, List.mem_cons_self, hfirst⟩ (ih.imp fun _ _ ⟨y', hy', hR⟩ ↦ ?_)
    exact ⟨y', List.mem_cons_of_mem (x, y) hy', hR⟩

theorem forall₂ (hall : Forall₃ R xs ys zs) : xs.Forall₂ (fun x z ↦ ∃ y ∈ ys, R x y z) zs :=
  hall.forall₂_zip.imp fun _ _ ⟨y, hy, hR⟩ ↦ ⟨y, (List.of_mem_zip hy).2, hR⟩

theorem exists_of_getElem? (hall : Forall₃ R xs ys zs) {place : Nat} {x : α}
    (hx : xs[place]? = some x) :
    ∃ y z, ys[place]? = some y ∧ zs[place]? = some z ∧ R x y z := by
  induction hall generalizing place with
  | nil => cases hx
  | cons hfirst _ ih =>
    cases place with
    | zero =>
      cases hx
      exact ⟨_, _, rfl, rfl, hfirst⟩
    | succ place => exact ih hx

theorem forall_mem (hall : Forall₃ R xs ys zs) : ∀ y ∈ ys, ∃ x ∈ xs, ∃ z ∈ zs, R x y z := by
  induction hall with
  | nil => exact nofun
  | @cons x y z xs ys zs hfirst _ ih =>
    refine List.forall_mem_cons.mpr
      ⟨⟨x, List.mem_cons_self, z, List.mem_cons_self, hfirst⟩, fun y' hy' ↦ ?_⟩
    obtain ⟨x', hx', z', hz', hR⟩ := ih y' hy'
    exact ⟨x', List.mem_cons_of_mem x hx', z', List.mem_cons_of_mem z hz', hR⟩

end Forall₃

theorem exists_mem_zip {xs : List α} {ys : List β} (hlength : xs.length = ys.length) {y : β}
    (hy : y ∈ ys) : ∃ x ∈ xs, (x, y) ∈ xs.zip ys := by
  obtain ⟨place, hplace, rfl⟩ := List.mem_iff_getElem.mp hy
  have hother : place < xs.length := hlength ▸ hplace
  have hzip : place < (xs.zip ys).length := by
    rw [List.length_zip]
    omega
  refine ⟨xs[place], List.getElem_mem hother, ?_⟩
  rw [← List.getElem_zip (h := hzip)]
  exact List.getElem_mem hzip

theorem forall₃_of_zip {R : α → β → γ → Prop} {xs : List α} {ys : List β} {zs : List γ}
    (hlength : xs.length = ys.length) (hall : (xs.zip ys).Forall₂ (fun s z ↦ R s.1 s.2 z) zs) :
    Forall₃ R xs ys zs := by
  induction xs generalizing ys zs with
  | nil =>
    obtain rfl := List.length_eq_zero_iff.mp hlength.symm
    cases hall
    exact .nil
  | cons x rest ih =>
    cases ys with
    | nil => cases hlength
    | cons y others =>
      cases hall with
      | cons hfirst hrest => exact .cons hfirst (ih (Nat.succ.inj hlength) hrest)

theorem forall₂_zip_right {R : α → β → Prop} {S : α → γ → Prop} {xs : List α} {ys : List β}
    {zs : List γ} (hys : xs.Forall₂ R ys) (hzs : xs.Forall₂ S zs) :
    xs.Forall₂ (fun x s ↦ R x s.1 ∧ S x s.2) (ys.zip zs) := by
  induction hys generalizing zs with
  | nil => exact .nil
  | cons hy _ ih =>
    cases hzs with
    | cons hz hzs => exact .cons ⟨hy, hz⟩ (ih hzs)

theorem exists_forall₂ {R : α → β → Prop} {xs : List α} (hall : ∀ x ∈ xs, ∃ y, R x y) :
    ∃ ys, xs.Forall₂ R ys := by
  induction xs with
  | nil => exact ⟨[], .nil⟩
  | cons x rest ih =>
    obtain ⟨⟨y, hy⟩, hrest⟩ := List.forall_mem_cons.mp hall
    obtain ⟨ys, hys⟩ := ih hrest
    exact ⟨y :: ys, .cons hy hys⟩

theorem exists_mem_of_forall₂ {R : α → β → Prop} {xs : List α} {ys : List β}
    (hall : xs.Forall₂ R ys) {y : β} (hy : y ∈ ys) : ∃ x ∈ xs, R x y := by
  induction hall with
  | nil => cases hy
  | @cons x z _ _ hfirst _ ih =>
    rcases List.mem_cons.mp hy with rfl | hy
    · exact ⟨x, List.mem_cons_self, hfirst⟩
    · obtain ⟨x', hx', hR⟩ := ih hy
      exact ⟨x', List.mem_cons_of_mem x hx', hR⟩

/-- What stands before the first place of an item, and what stands after it. -/
theorem append_cons_inj {a : α} {xs ys rest more : List α} (hxs : a ∉ xs) (hys : a ∉ ys)
    (hsame : xs ++ a :: rest = ys ++ a :: more) : xs = ys ∧ rest = more := by
  induction xs generalizing ys with
  | nil =>
    cases ys with
    | nil => exact ⟨rfl, (List.cons.inj hsame).2⟩
    | cons y others =>
      obtain rfl := (List.cons.inj hsame).1
      exact absurd List.mem_cons_self hys
  | cons x others ih =>
    rw [List.mem_cons, not_or] at hxs
    cases ys with
    | nil => exact absurd (List.cons.inj hsame).1.symm hxs.1
    | cons y ys =>
      rw [List.mem_cons, not_or] at hys
      obtain ⟨rfl, htail⟩ := List.cons.inj hsame
      obtain ⟨rfl, hrest⟩ := ih hxs.2 hys.2 htail
      exact ⟨rfl, hrest⟩

/-- What follows each of two lists may as well follow both of them. -/
theorem perm_append_swap (xs more ys after : List α) :
    (xs ++ more ++ (ys ++ after)).Perm (xs ++ ys ++ (more ++ after)) := by
  rw [List.append_assoc, List.append_assoc]
  refine List.Perm.append_left xs ?_
  rw [← List.append_assoc, ← List.append_assoc]
  exact List.perm_append_comm.append_right after

/-- A computation over two lists side by side that succeeds has done so place by place. -/
theorem mapM_zip_eq_ok {ε : Type} {f : α → β → Except ε γ} {xs : List α} {ys : List β} {zs : List γ}
    (hlength : xs.length = ys.length) (hzs : (xs.zip ys).mapM (fun s ↦ f s.1 s.2) = .ok zs) :
    Forall₃ (fun x y z ↦ f x y = .ok z) xs ys zs :=
  forall₃_of_zip hlength (mapM_eq_ok hzs)

end RollupLedger
