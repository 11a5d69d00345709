import RollupLedger.Proofs.Request.Custody

/-!
# Traces stay within the units of the gate

`World.Within capacity w stake` says that a world has a gate of the given capacity whose tickets are
those of a stake, that as many traces are in flight as were asked for, none of them under fewer
units than their number, and that there have never been more than the capacity. Every step of the
world preserves this as long as traces are asked for under enough units, and hence so does whatever
may happen to a system whose tasks ask in this way (`System.within_act`).
-/

set_option autoImplicit false
set_option relaxedAutoImplicit false

namespace RollupLedger

open World

variable {σ α : Type} {capacity : Nat}

/-- Traces are covered by their units. -/
abbrev Covered (traces units : Nat) : Prop := traces ≤ units

/-- The units of the tickets known to be admitted. -/
def Stake.units (stake : Stake) : Nat := sumOf Admitted.units stake.flown

theorem Stake.traces_le_units {stake : Stake}
    (hcovered : ∀ holding ∈ stake.holdings, Covered holding.traces holding.units) :
    stake.traces ≤ stake.units := by
  have hunits (holdings : List Holding) :
      sumOf Holding.units holdings = sumOf Admitted.units (holdings.filterMap Holding.flown?) := by
    induction holdings with
    | nil => rfl
    | cons holding rest ih =>
      rw [sumOf_cons, ih]
      cases holding with
      | flown claim traces => rfl
      | queued claim => exact Nat.zero_add _
      | loose traces => exact Nat.zero_add _
  have hle := sumOf_le_sumOf hcovered
  rwa [hunits] at hle

/-! ### Worlds -/

namespace World

variable {w w₁ : World σ} {mine mine₁ yours stake : Stake}

structure Within (capacity : Nat) (w : World σ) (stake : Stake) : Prop where
  holds : w.Holds capacity stake
  counted : w.tracesInFlight = stake.traces
  covered : ∀ holding ∈ stake.holdings, Covered holding.traces holding.units
  peak : w.peak ≤ capacity

namespace Within

theorem units_le (hwithin : w.Within capacity stake) : stake.units ≤ capacity := by
  obtain ⟨rfl, hcustody⟩ := hwithin.holds
  exact Nat.le_trans hcustody.sumOf_flown_le hcustody.held_le

theorem tracesInFlight_le (hwithin : w.Within capacity stake) : w.tracesInFlight ≤ stake.units := by
  rw [hwithin.counted]
  exact Stake.traces_le_units hwithin.covered

theorem comm (hwithin : w.Within capacity (mine ++ yours)) : w.Within capacity (yours ++ mine) where
  holds := hwithin.holds.comm
  counted := by
    have hcounted := hwithin.counted
    rw [Stake.traces_append] at hcounted ⊢
    omega
  covered := by
    intro holding hholding
    apply hwithin.covered
    rw [Stake.holdings_append, List.mem_append] at hholding ⊢
    exact hholding.symm
  peak := hwithin.peak

end Within

/-- Asking for traces under enough units. -/
theorem Departs.within {traces : Nat} (hdeparts : Departs Covered traces mine mine₁)
    {others : Stake} (hwithin : w.Within capacity (mine ++ others)) (hgate : w₁.gate = w.gate)
    (hcount : w₁.tracesInFlight = w.tracesInFlight + traces)
    (hpeak : w₁.peak = max w.peak w₁.tracesInFlight) : w₁.Within capacity (mine₁ ++ others) := by
  have hholds : w₁.Holds capacity (mine₁ ++ others) := by
    have hbefore := hwithin.holds
    unfold Holds at hbefore ⊢
    rw [Stake.flown_append, Stake.queued_append] at hbefore ⊢
    rw [hgate, hdeparts.flown_eq.1, hdeparts.flown_eq.2]
    exact hbefore
  have hcounted : w₁.tracesInFlight = (mine₁ ++ others).traces := by
    have hbefore := hwithin.counted
    rw [Stake.traces_append] at hbefore ⊢
    rw [hcount, hbefore]
    cases hdeparts with
    | loose hallowed =>
      simp only [Stake.traces, sumOf_cons, sumOf_nil, Holding.traces, Stake.holdings_empty]
      omega
    | flown claim hallowed =>
      simp only [Stake.traces, sumOf_cons, sumOf_nil, Holding.traces]
      omega
  have hcovered : ∀ holding ∈ (mine₁ ++ others).holdings, Covered holding.traces holding.units := by
    have hbefore := hwithin.covered
    simp only [Stake.holdings_append, List.mem_append] at hbefore ⊢
    rintro holding (hmine | hother)
    · cases hdeparts with
      | loose hallowed =>
        rw [List.mem_singleton.mp hmine]
        exact hallowed
      | flown claim hallowed =>
        rw [List.mem_singleton.mp hmine]
        exact hallowed
    · exact hbefore holding (Or.inr hother)
  refine ⟨hholds, hcounted, hcovered, ?_⟩
  -- The new peak is the old one or what is in flight now, and neither is more than the units.
  have htraces := Stake.traces_le_units hcovered
  obtain ⟨rfl, hcustody⟩ := hholds
  have hunits : (mine₁ ++ others).units ≤ w₁.gate.capacity :=
    Nat.le_trans hcustody.sumOf_flown_le hcustody.held_le
  have hbefore := hwithin.peak
  omega

theorem Step.within (hstep : Step Covered capacity w w₁ mine mine₁) (others : Stake)
    (hwithin : w.Within capacity (mine ++ others)) : w₁.Within capacity (mine₁ ++ others) := by
  have hholds := hstep.holds others hwithin.holds
  have hcounted := hwithin.counted
  have hcovered := hwithin.covered
  rw [Stake.traces_append] at hcounted
  simp only [Stake.holdings_append, List.mem_append] at hcovered
  have hothers (holding : Holding) (hother : holding ∈ others.holdings) :
      Covered holding.traces holding.units := hcovered holding (Or.inr hother)
  cases hstep with
  | note block event => exact ⟨hholds, hwithin.counted, hwithin.covered, hwithin.peak⟩
  | call block c hdeparts => exact hdeparts.within hwithin rfl rfl rfl
  | batch block cs hdeparts => exact hdeparts.within hwithin rfl rfl rfl
  | query block document hdeparts => exact hdeparts.within hwithin rfl rfl rfl
  | acquire units =>
    refine ⟨hholds, ?_, ?_, hwithin.peak⟩
    · rw [Stake.traces_append]
      exact hcounted
    · simp only [Stake.holdings_append, List.mem_append, List.mem_singleton]
      rintro holding (rfl | hother)
      · exact Nat.le_refl 0
      · exact hothers holding hother
  | grant claim hadmitted =>
    refine ⟨hholds, ?_, ?_, hwithin.peak⟩
    · rw [Stake.traces_append]
      exact hcounted
    · simp only [Stake.holdings_append, List.mem_append, List.mem_singleton]
      rintro holding (rfl | hother)
      · exact Nat.zero_le _
      · exact hothers holding hother
  | release claim =>
    refine ⟨hholds, ?_, ?_, hwithin.peak⟩
    · rw [Stake.traces_append]
      exact hcounted
    · simpa using hothers
  | land flight units =>
    refine ⟨hholds, ?_, ?_, hwithin.peak⟩
    · rw [Flight.traces_stake] at hcounted
      rw [Stake.empty_append]
      simp only [World.land, hcounted]
      omega
    · simpa using hothers

theorem Passage.within (hpassage : Passage Covered capacity w w₁ mine mine₁) (others : Stake)
    (hwithin : w.Within capacity (mine ++ others)) : w₁.Within capacity (mine₁ ++ others) :=
  hpassage.preserves (Within capacity) (fun _ _ _ hwithin ↦ hwithin.comm)
    (fun _ _ _ _ hstep ↦ hstep.within) others hwithin

end World

/-! ### Systems -/

namespace System

/-- The tasks of a system have what there is, and ask for traces under enough units. -/
structure Within (capacity : Nat) (s : System α σ) : Prop where
  world : s.world.Within capacity (tasksStake capacity s.tasks)
  fits : ∀ task ∈ s.tasks, task.Fits Covered capacity

theorem tasksStake_append (first rest : List (Task α)) :
    tasksStake capacity (first ++ rest) =
      tasksStake capacity first ++ tasksStake capacity rest := by
  rw [tasksStake, List.map_append, Stake.all_append]
  rfl

variable {s : System α σ}

/-- A task takes a passage of its own, and everything else stays as it is. -/
theorem within_set (hwithin : s.Within capacity) {index : Nat} {task : Task α}
    (htask : s.tasks[index]? = some task) {made : Task α × World σ}
    (hpassage : Passage Covered capacity s.world made.2 (task.stake capacity)
      (made.1.stake capacity))
    (hfits : made.1.Fits Covered capacity) :
    ({ s with tasks := s.tasks.set index made.1, world := made.2 } : System α σ).Within
      capacity := by
  obtain ⟨hlt, hget⟩ := List.getElem?_eq_some_iff.mp htask
  have hsplit (other : Task α) : tasksStake capacity (s.tasks.set index other) =
      tasksStake capacity (s.tasks.take index) ++
        (other.stake capacity ++ tasksStake capacity (s.tasks.drop (index + 1))) := by
    rw [List.set_eq_take_append_cons_drop, if_pos hlt, tasksStake_append]
    rfl
  have hsame : s.tasks.set index task = s.tasks := by rw [← hget, List.set_getElem_self]
  have hbefore := hwithin.world
  rw [← hsame, hsplit, ← Stake.append_empty (_ ++ _)] at hbefore
  refine ⟨?_, ?_⟩
  · have hafter := ((hpassage.right _).left _).within ∅ hbefore
    rw [Stake.append_empty] at hafter
    rw [hsplit]
    exact hafter
  · intro other hother
    rcases List.mem_or_eq_of_mem_set hother with hother | rfl
    · exact hwithin.fits other hother
    · exact hfits

theorem within_pollAt (hwithin : s.Within capacity) (index : Nat) :
    (s.pollAt index).Within capacity := by
  unfold pollAt
  cases htask : s.tasks[index]? with
  | none => exact hwithin
  | some task =>
    have hfits := hwithin.fits task (List.mem_of_getElem? htask)
    exact within_set hwithin htask (task.passage_poll s.world s.tokens hfits)
      (task.fits_poll s.world s.tokens hfits)

theorem within_releaseAt (hwithin : s.Within capacity) (index : Nat) :
    (s.releaseAt index).Within capacity := by
  unfold releaseAt
  cases htask : s.tasks[index]? with
  | none => exact hwithin
  | some task =>
    have hfits := hwithin.fits task (List.mem_of_getElem? htask)
    exact within_set hwithin htask (task.passage_release s.world) (task.fits_release s.world hfits)

theorem within_spawn (hwithin : s.Within capacity) {task : Task α}
    (hstake : task.stake capacity = ∅) (hfits : task.Fits Covered capacity) :
    (s.spawn task).Within capacity where
  world := by
    have hnothing : tasksStake capacity [task] = ∅ := by simp [tasksStake, hstake]
    simp only [spawn, tasksStake_append, hnothing, Stake.append_empty]
    exact hwithin.world
  fits := by
    intro other hother
    rcases List.mem_append.mp hother with hother | hother
    · exact hwithin.fits other hother
    · rw [List.mem_singleton.mp hother]
      exact hfits

/-- Whatever happens to a system, as long as what is started has nothing yet and asks for traces
under enough units. -/
theorem within_act (hwithin : s.Within capacity) (action : Action α)
    (hstarts : ∀ task, action = .spawn task →
      task.stake capacity = ∅ ∧ task.Fits Covered capacity) : (s.act action).Within capacity := by
  cases action with
  | spawn task =>
    obtain ⟨hstake, hfits⟩ := hstarts task rfl
    exact within_spawn hwithin hstake hfits
  | poll index => exact within_pollAt hwithin index
  | release index => exact within_releaseAt hwithin index
  | cancel token => exact ⟨hwithin.world, hwithin.fits⟩
  | elapse time =>
    obtain ⟨hholds, hcounted, hcovered, hpeak⟩ := hwithin.world
    exact ⟨⟨hholds, hcounted, hcovered, hpeak⟩, hwithin.fits⟩

end System

end RollupLedger
