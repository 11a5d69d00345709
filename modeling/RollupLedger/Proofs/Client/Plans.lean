import RollupLedger.Client.Basic
import RollupLedger.Proofs.Request.Outcome

/-!
# Plans taken apart

What a plan that is put together by `andThen`, `notes`, `ask` and `map` can come to, and by which
exchanges, follows from what its parts can come to.
-/

set_option autoImplicit false
set_option relaxedAutoImplicit false

namespace RollupLedger.Plan

variable {α β : Type} {rounds : Nat} {xs : List Exchange}

/-- A plan goes on with a value, or has come to an error without asking anything. -/
theorem comes_andThen {value : Except ClientError β} {next : β → Plan α rounds}
    {result : Except ClientError α} (hcomes : (andThen value next).Comes xs result) :
    (∃ b, value = .ok b ∧ (next b).Comes xs result) ∨
      ∃ e, value = .error e ∧ xs = [] ∧ result = .error e := by
  cases value with
  | ok b => exact Or.inl ⟨b, rfl, hcomes⟩
  | error e =>
    cases hcomes
    exact Or.inr ⟨e, rfl, rfl, rfl⟩

theorem comes_andThen_ok {value : Except ClientError β} {next : β → Plan α rounds} {a : α}
    (hcomes : (andThen value next).Comes xs (.ok a)) :
    ∃ b, value = .ok b ∧ (next b).Comes xs (.ok a) :=
  (comes_andThen hcomes).resolve_right fun ⟨_, _, _, hfail⟩ ↦ nomatch hfail

theorem comes_notes {events : List Event} {next : Plan α rounds} {result : Except ClientError α}
    (hcomes : (notes events next).Comes xs result) : next.Comes xs result := by
  induction events with
  | nil => exact hcomes
  | cons event rest ih =>
    cases hcomes with
    | note hcomes => exact ih hcomes

/-- A plan goes on with the value that a call brought, or fails without another exchange. -/
theorem comes_ask {c : Call} {next : Json → Plan α rounds} {result : Except ClientError α}
    (hcomes : (ask c next).Comes xs result) :
    (∃ value ys, xs = .call c (.ok value) :: ys ∧ (next value).Comes ys result) ∨
      ∃ message, xs = [.call c (.error message)] ∧
        result = .error (.transport c.method (.reported message)) := by
  cases hcomes with
  | @call _ _ _ reply ys _ hcomes =>
    cases reply with
    | ok value => exact Or.inl ⟨value, ys, rfl, hcomes⟩
    | error message =>
      cases hcomes
      exact Or.inr ⟨message, rfl, rfl⟩

theorem comes_ask_ok {c : Call} {next : Json → Plan α rounds} {a : α}
    (hcomes : (ask c next).Comes xs (.ok a)) :
    ∃ value ys, xs = .call c (.ok value) :: ys ∧ (next value).Comes ys (.ok a) :=
  (comes_ask hcomes).resolve_right fun ⟨_, _, hfail⟩ ↦ nomatch hfail

/-- A plan with its value changed comes to changed values, by the same exchanges. -/
theorem comes_map {f : α → β} {plan : Plan α rounds} {xs : List Exchange}
    {result : Except ClientError β} (hcomes : (plan.map f).Comes xs result) :
    ∃ before, plan.Comes xs before ∧ result = before.map f := by
  induction plan generalizing xs with
  | done before =>
    cases hcomes
    exact ⟨before, .done, rfl⟩
  | note event next ih =>
    cases hcomes with
    | note hcomes =>
      obtain ⟨before, hbefore, rfl⟩ := ih hcomes
      exact ⟨before, .note hbefore, rfl⟩
  | call c next ih =>
    cases hcomes with
    | call hcomes =>
      obtain ⟨before, hbefore, rfl⟩ := ih _ hcomes
      exact ⟨before, .call hbefore, rfl⟩
  | batch cs next ih =>
    cases hcomes with
    | batch hcomes =>
      obtain ⟨before, hbefore, rfl⟩ := ih _ hcomes
      exact ⟨before, .batch hbefore, rfl⟩
  | query document next ih =>
    cases hcomes with
    | query hcomes =>
      obtain ⟨before, hbefore, rfl⟩ := ih _ hcomes
      exact ⟨before, .query hbefore, rfl⟩
  | both left right next ih =>
    cases hcomes with
    | left hfails => exact ⟨_, .left hfails, rfl⟩
    | right hfails => exact ⟨_, .right hfails, rfl⟩
    | both hperm hl hr hcomes =>
      obtain ⟨before, hbefore, rfl⟩ := ih _ _ hcomes
      exact ⟨before, .both hperm hl hr hbefore, rfl⟩

end RollupLedger.Plan
