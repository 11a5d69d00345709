import Mathlib.Data.List.Forall2

/-!
# Lists of things that may be missing

What it means that each item of a list is there, what a computation that may fail has done if it
succeeds and which errors it avoids, and what is left of it when its errors are forgotten.
-/

set_option autoImplicit false
set_option relaxedAutoImplicit false

namespace RollupLedger

variable {ε α β γ : Type}

theorem mapM_eq_some_iff {f : α → Option β} {xs : List α} {ys : List β} :
    xs.mapM f = some ys ↔ xs.map f = ys.map some := by
  induction xs generalizing ys with
  | nil => cases ys <;> simp
  | cons x rest ih =>
    cases ys with
    | nil => simp [List.mapM_cons, Option.bind_eq_some_iff]
    | cons y others => simp [List.mapM_cons, Option.bind_eq_some_iff, ← ih]

theorem mapM_eq_none_iff {f : α → Option β} {xs : List α} :
    xs.mapM f = none ↔ ∃ x ∈ xs, f x = none := by
  induction xs with
  | nil => simp
  | cons x rest ih =>
    rw [List.mapM_cons, List.exists_mem_cons_iff, ← ih]
    cases f x <;> cases rest.mapM f <;> simp

/-- What depends on the items one by one is found at once. -/
theorem mapM_bind_zip (f : α → Option β) (g : α → β → Option γ) (xs : List α) :
    ((xs.mapM f).bind fun ys ↦ (xs.zip ys).mapM fun s ↦ g s.1 s.2) =
      xs.mapM fun x ↦ (f x).bind (g x) := by
  induction xs with
  | nil => rfl
  | cons x rest ih =>
    rw [List.mapM_cons, List.mapM_cons, ← ih]
    cases f x with
    | none => rfl
    | some y =>
      cases rest.mapM f with
      | none => cases hg : g x y <;> simp [hg]
      | some ys => simp [List.mapM_cons]

/-! ### Success -/

theorem bind_eq_ok {x : Except ε α} {f : α → Except ε β} {b : β} (hb : (x >>= f) = .ok b) :
    ∃ a, x = .ok a ∧ f a = .ok b := by
  cases x with
  | error e => cases hb
  | ok a => exact ⟨a, rfl, hb⟩

theorem exists_ok_of_any {p : α → Bool} {x : Except ε α} (hany : x.toOption.any p = true) :
    ∃ a, x = .ok a ∧ p a = true := by
  cases x with
  | error e => cases hany
  | ok a => exact ⟨a, rfl, hany⟩

theorem eq_ok_of_any [DecidableEq α] {x : Except ε α} {a : α}
    (hany : (x.toOption.any fun b ↦ b = a) = true) : x = .ok a := by
  obtain ⟨b, hb, hsame⟩ := exists_ok_of_any hany
  rw [hb, of_decide_eq_true hsame]

theorem mapError_eq_ok {ε' : Type} {f : ε → ε'} {x : Except ε α} {a : α}
    (ha : x.mapError f = .ok a) : x = .ok a := by
  cases x with
  | error e => cases ha
  | ok b =>
    cases ha
    rfl

theorem map_eq_ok_iff {f : α → β} {x : Except ε α} {b : β} :
    x.map f = .ok b ↔ ∃ a, x = .ok a ∧ f a = b := by
  cases x with
  | error e => exact ⟨nofun, nofun⟩
  | ok a => simp only [Except.map, Except.ok.injEq, exists_eq_left']

theorem mapM_eq_ok {f : α → Except ε β} {xs : List α} {ys : List β} (hys : xs.mapM f = .ok ys) :
    xs.Forall₂ (fun x y ↦ f x = .ok y) ys := by
  induction xs generalizing ys with
  | nil =>
    cases hys
    exact .nil
  | cons x rest ih =>
    rw [List.mapM_cons] at hys
    obtain ⟨y, hy, hys⟩ := bind_eq_ok hys
    obtain ⟨others, hothers, hys⟩ := bind_eq_ok hys
    cases hys
    exact .cons hy (ih hothers)

theorem mapM_of_forall₂ {f : α → Except ε β} {xs : List α} {ys : List β}
    (hall : xs.Forall₂ (fun x y ↦ f x = .ok y) ys) : xs.mapM f = .ok ys := by
  induction hall with
  | nil => rfl
  | cons hfirst _ ih =>
    rw [List.mapM_cons, hfirst, ih]
    rfl

/-- A computation over a list fails with the error of the first item that fails. -/
theorem mapM_eq_error_iff {f : α → Except ε β} {xs : List α} {e : ε} :
    xs.mapM f = .error e ↔ ∃ before x after, xs = before ++ x :: after ∧
      (∀ y ∈ before, ∃ b, f y = .ok b) ∧ f x = .error e := by
  induction xs with
  | nil => simp [pure, Except.pure]
  | cons x rest ih =>
    rw [List.mapM_cons]
    cases hx : f x with
    | error other =>
      constructor
      · rintro ⟨⟩
        exact ⟨[], x, rest, rfl, List.forall_mem_nil _, hx⟩
      · rintro ⟨before, y, after, hsplit, hbefore, hy⟩
        cases before with
        | nil =>
          cases hsplit
          cases hx.symm.trans hy
          rfl
        | cons z before =>
          cases hsplit
          obtain ⟨b, hb⟩ := hbefore x List.mem_cons_self
          cases hx.symm.trans hb
    | ok b =>
      have hrest : (do let ys ← rest.mapM f; pure (b :: ys) : Except ε (List β)) = .error e ↔
          rest.mapM f = .error e := by
        cases rest.mapM f with
        | error other => exact Iff.rfl
        | ok ys => exact ⟨nofun, nofun⟩
      refine hrest.trans (ih.trans ⟨?_, ?_⟩)
      · rintro ⟨before, y, after, rfl, hbefore, hy⟩
        exact ⟨x :: before, y, after, rfl, List.forall_mem_cons.mpr ⟨⟨b, hx⟩, hbefore⟩, hy⟩
      · rintro ⟨before, y, after, hsplit, hbefore, hy⟩
        cases before with
        | nil =>
          cases hsplit
          cases hx.symm.trans hy
        | cons z before =>
          cases hsplit
          exact ⟨before, y, after, rfl, (List.forall_mem_cons.mp hbefore).2, hy⟩

/-! ### Errors that do not occur -/

/-- A computation does not fail with an error of this kind. -/
def Avoids (bad : ε → Prop) (x : Except ε α) : Prop := ∀ e, x = .error e → ¬ bad e

variable {bad : ε → Prop}

theorem avoids_ok (a : α) : Avoids bad (.ok a : Except ε α) := nofun

theorem avoids_error {e : ε} (he : ¬ bad e) : Avoids bad (.error e : Except ε α) := by
  rintro _ ⟨⟩
  exact he

theorem avoids_bind {x : Except ε α} {f : α → Except ε β} (hx : Avoids bad x)
    (hf : ∀ a, x = .ok a → Avoids bad (f a)) : Avoids bad (x >>= f) := by
  cases x with
  | error e =>
    rintro _ ⟨⟩
    exact hx e rfl
  | ok a => exact hf a rfl

theorem avoids_mapM {f : α → Except ε β} {xs : List α} (hf : ∀ x ∈ xs, Avoids bad (f x)) :
    Avoids bad (xs.mapM f) := by
  induction xs with
  | nil => exact avoids_ok []
  | cons x rest ih =>
    obtain ⟨hfirst, hrest⟩ := List.forall_mem_cons.mp hf
    rw [List.mapM_cons]
    refine avoids_bind hfirst fun y _ ↦ avoids_bind (ih hrest) fun ys _ ↦ ?_
    exact avoids_ok (y :: ys)

theorem avoids_mapError {ε' : Type} {f : ε' → ε} {x : Except ε' α} (hx : Avoids (bad ∘ f) x) :
    Avoids bad (x.mapError f) := by
  cases x with
  | ok a => exact avoids_ok a
  | error e => exact avoids_error (hx e rfl)

/-! ### Forgetting errors -/

theorem toOption_bind (x : Except ε α) (f : α → Except ε β) :
    (x >>= f).toOption = x.toOption.bind fun a ↦ (f a).toOption := by
  cases x <;> rfl

theorem toOption_map (f : α → β) (x : Except ε α) :
    (x.map f).toOption = x.toOption.map f := by
  cases x <;> rfl

theorem toOption_mapError {ε' : Type} (f : ε → ε') (x : Except ε α) :
    (x.mapError f).toOption = x.toOption := by
  cases x <;> rfl

theorem toOption_mapM (f : α → Except ε β) (xs : List α) :
    (xs.mapM f).toOption = xs.mapM fun x ↦ (f x).toOption := by
  induction xs with
  | nil => rfl
  | cons x rest ih =>
    rw [List.mapM_cons, List.mapM_cons, toOption_bind, ← ih]
    cases f x with
    | error e => rfl
    | ok y => cases rest.mapM f <;> rfl

end RollupLedger
