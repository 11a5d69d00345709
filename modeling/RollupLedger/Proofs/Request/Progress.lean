import RollupLedger.Proofs.Request.Custody

/-!
# Passes lower the rank

The measure of a run is how many rounds it may still wait for and how many steps the jobs of the
present round have before them. Polling never raises the measure of a task, and lowers it if the
task is awake. A task that is awake stays so while others are polled, because their trades leave its
tickets admitted; hence a pass over a system with an awake task lowers the rank
(`System.rank_pass_below`).
-/

set_option autoImplicit false
set_option relaxedAutoImplicit false

namespace RollupLedger

open World

variable {σ α : Type} {capacity : Nat}

/-! ### Measures -/

/-- Rounds come before steps. -/
def Below (a b : Nat × Nat) : Prop := a.1 < b.1 ∨ (a.1 = b.1 ∧ a.2 < b.2)

def NotAbove (a b : Nat × Nat) : Prop := a.1 < b.1 ∨ (a.1 = b.1 ∧ a.2 ≤ b.2)

theorem NotAbove.refl (a : Nat × Nat) : NotAbove a a := Or.inr ⟨rfl, Nat.le_refl _⟩

theorem Below.notAbove {a b : Nat × Nat} (hbelow : Below a b) : NotAbove a b := by
  unfold Below at hbelow
  unfold NotAbove
  omega

theorem NotAbove.add {a b c d : Nat × Nat} (hfirst : NotAbove a b) (hrest : NotAbove c d) :
    NotAbove (a.1 + c.1, a.2 + c.2) (b.1 + d.1, b.2 + d.2) := by
  unfold NotAbove at *
  simp only
  omega

theorem Below.add_notAbove {a b c d : Nat × Nat} (hfirst : Below a b) (hrest : NotAbove c d) :
    Below (a.1 + c.1, a.2 + c.2) (b.1 + d.1, b.2 + d.2) := by
  unfold Below NotAbove at *
  simp only
  omega

theorem NotAbove.add_below {a b c d : Nat × Nat} (hfirst : NotAbove a b) (hrest : Below c d) :
    Below (a.1 + c.1, a.2 + c.2) (b.1 + d.1, b.2 + d.2) := by
  unfold Below NotAbove at *
  simp only
  omega

theorem System.rankBelow_iff {a b : Nat × Nat} : rankBelow a b = true ↔ Below a b := by
  simp [rankBelow, Below]

/-! ### Staying awake -/

/-- Seen from someone's stake, nothing has changed between two worlds except that more of its
tickets may be admitted. -/
def World.Spares (w w₁ : World σ) (stake : Stake) : Prop :=
  w₁.now = w.now ∧ ∀ claim ∈ stake.flown ++ stake.queued,
    w.gate.isAdmitted claim.ticket = true → w₁.gate.isAdmitted claim.ticket = true

theorem World.Trade.spares {w w₁ : World σ} {mine mine₁ yours others : Stake}
    (htrade : Trade capacity w w₁ mine mine₁)
    (hholds : w.Holds capacity (mine ++ (yours ++ others))) : w.Spares w₁ yours := by
  refine ⟨htrade.now, fun claim hclaim hadmitted ↦ htrade.isAdmitted hholds ?_ hadmitted⟩
  simp only [Stake.flown_append, Stake.queued_append, List.mem_append] at hclaim ⊢
  rcases hclaim with hclaim | hclaim
  · exact Or.inl (Or.inl hclaim)
  · exact Or.inr (Or.inl hclaim)

theorem World.Spares.left {w w₁ : World σ} {first rest : Stake}
    (hspares : w.Spares w₁ (first ++ rest)) : w.Spares w₁ first := by
  refine ⟨hspares.1, fun claim hclaim ↦ hspares.2 claim ?_⟩
  simp only [Stake.flown_append, Stake.queued_append, List.mem_append] at hclaim ⊢
  rcases hclaim with hclaim | hclaim
  · exact Or.inl (Or.inl hclaim)
  · exact Or.inr (Or.inl hclaim)

theorem World.Spares.right {w w₁ : World σ} {first rest : Stake}
    (hspares : w.Spares w₁ (first ++ rest)) : w.Spares w₁ rest := by
  refine ⟨hspares.1, fun claim hclaim ↦ hspares.2 claim ?_⟩
  simp only [Stake.flown_append, Stake.queued_append, List.mem_append] at hclaim ⊢
  rcases hclaim with hclaim | hclaim
  · exact Or.inl (Or.inr hclaim)
  · exact Or.inr (Or.inr hclaim)

/-! ### Jobs -/

namespace Slot

variable (w : World σ) (block : Option String) (job : Job)

theorem stepsLeft_launch (ticket : Option Nat) : (launch w block job ticket).1.stepsLeft ≤ 1 := by
  simp only [launch]
  split <;> simp [stepsLeft]

theorem stepsLeft_enter (units : Nat) : (enter w block job units).1.stepsLeft ≤ 2 := by
  simp only [enter]
  split
  · exact Nat.le_succ_of_le (stepsLeft_launch _ block job _)
  · exact Nat.le_refl 2

theorem stepsLeft_poll_lt {slot : Slot} (hawake : slot.isAwake w = true) :
    (slot.poll w block job).1.stepsLeft < slot.stepsLeft := by
  cases slot with
  | idle =>
    cases hunits : job.units with
    | none =>
      simp only [poll, hunits]
      exact Nat.lt_of_le_of_lt (stepsLeft_launch w block job none) (by decide)
    | some units =>
      simp only [poll, hunits]
      exact Nat.lt_succ_of_le (stepsLeft_enter w block job units)
  | waiting ticket =>
    have hadmitted : w.gate.isAdmitted ticket = true := hawake
    simp only [poll]
    rw [if_pos hadmitted]
    exact Nat.lt_succ_of_le (stepsLeft_launch w block job _)
  | flying flight reply =>
    have hdue : flight.due ≤ w.now := by simpa [isAwake] using hawake
    simp only [poll]
    rw [if_pos hdue]
    exact Nat.zero_lt_one
  | finished reply => cases hawake

theorem poll_of_not_isAwake {slot : Slot} (hasleep : slot.isAwake w = false) :
    slot.poll w block job = (slot, w) := by
  cases slot with
  | idle => cases hasleep
  | waiting ticket =>
    have hwaits : ¬ w.gate.isAdmitted ticket = true := Bool.eq_false_iff.mp hasleep
    rw [poll, if_neg hwaits]
  | flying flight reply =>
    have hearly : ¬ flight.due ≤ w.now := by simpa [isAwake] using hasleep
    rw [poll, if_neg hearly]
  | finished reply => rfl

theorem stepsLeft_poll_le (slot : Slot) : (slot.poll w block job).1.stepsLeft ≤ slot.stepsLeft := by
  by_cases hawake : slot.isAwake w = true
  · exact Nat.le_of_lt (stepsLeft_poll_lt w block job hawake)
  · have hsame := poll_of_not_isAwake w block job (Bool.eq_false_iff.mpr hawake)
    exact Nat.le_of_eq (congrArg (fun polled ↦ polled.1.stepsLeft) hsame)

theorem isAwake_of_spares {w w₁ : World σ} {slot : Slot}
    (hspares : w.Spares w₁ (slot.stake capacity job)) (hawake : slot.isAwake w = true) :
    slot.isAwake w₁ = true := by
  cases slot with
  | waiting ticket => exact hspares.2 ⟨ticket, _⟩ List.mem_cons_self hawake
  | flying flight reply =>
    rw [isAwake, hspares.1]
    exact hawake
  | _ => exact hawake

end Slot

/-! ### Lanes -/

namespace LaneRun

variable (w : World σ) (block : Option String)

def slotsSteps (slots : List (Job × Slot)) : Nat := sumOf (fun s ↦ s.2.stepsLeft) slots

theorem slotsSteps_cons (job : Job) (slot : Slot) (rest : List (Job × Slot)) :
    slotsSteps ((job, slot) :: rest) = slot.stepsLeft + slotsSteps rest := rfl

theorem exists_isAwake_of_spares {w w₁ : World σ} {slots : List (Job × Slot)}
    (hspares : w.Spares w₁ (slotsStake capacity slots))
    (hawake : ∃ s ∈ slots, s.2.isAwake w = true) : ∃ s ∈ slots, s.2.isAwake w₁ = true := by
  obtain ⟨s, hs, hawake⟩ := hawake
  refine ⟨s, hs, ?_⟩
  induction slots with
  | nil => cases hs
  | cons head rest ih =>
    rcases List.mem_cons.mp hs with rfl | hs
    · exact Slot.isAwake_of_spares s.1 hspares.left hawake
    · exact ih hspares.right hs

/-- A visit takes no job back, and one without a rejected reply takes every awake job further. -/
theorem slotsSteps_pollSlots (reject : Job → BatchReply → Option ClientError) (isOpen : Bool)
    (slots : List (Job × Slot)) :
    slotsSteps (pollSlots reject block isOpen w slots).1 ≤ slotsSteps slots ∧
      ∀ others : Stake, w.Holds capacity (slotsStake capacity slots ++ others) →
        (∃ s ∈ slots, s.2.isAwake w = true) →
        (pollSlots reject block isOpen w slots).2.1 = none →
        slotsSteps (pollSlots reject block isOpen w slots).1 < slotsSteps slots := by
  refine pollSlots_rec (motive := fun _ w slots polled ↦ slotsSteps polled.1 ≤ slotsSteps slots ∧
    ∀ others : Stake, w.Holds capacity (slotsStake capacity slots ++ others) →
      (∃ s ∈ slots, s.2.isAwake w = true) → polled.2.1 = none →
      slotsSteps polled.1 < slotsSteps slots) ?_ ?_ ?_ isOpen w slots
  · refine fun _ w ↦ ⟨Nat.le_refl _, ?_⟩
    rintro others - ⟨s, hs, -⟩
    cases hs
  · intro w job slot rest reply e _ _
    rw [slotsSteps_cons, slotsSteps_cons]
    refine ⟨Nat.add_le_add_right (slot.stepsLeft_poll_le w block job) _, ?_⟩
    intro others _ _ hgoes
    cases hgoes
  · intro isOpen w job slot rest polled _ hrest
    have hslot := slot.stepsLeft_poll_le w block job
    rw [slotsSteps_cons, slotsSteps_cons]
    refine ⟨Nat.add_le_add hslot hrest.1, fun others hholds hawake hgoes ↦ ?_⟩
    obtain ⟨s, hs, hawake⟩ := hawake
    rcases List.mem_cons.mp hs with rfl | hs
    · exact Nat.add_lt_add_of_lt_of_le (slot.stepsLeft_poll_lt w block job hawake) hrest.1
    · have htrade : Trade capacity w _ (slot.stake capacity job) _ := slot.trade_poll w block job
      have hmine : w.Holds capacity
          (slot.stake capacity job ++ (slotsStake capacity rest ++ others)) := by
        rw [← Stake.append_assoc]
        exact hholds
      have hyours := (htrade.holds _ hmine).comm
      rw [Stake.append_assoc] at hyours
      have hstill := exists_isAwake_of_spares (htrade.spares hmine) ⟨s, hs, hawake⟩
      exact Nat.add_lt_add_of_le_of_lt hslot (hrest.2 _ hyours hstill hgoes)

variable (run : LaneRun)

theorem isAwake_iff : run.isAwake w = true ↔ ∃ s ∈ run.slots, s.2.isAwake w = true := by
  simp [isAwake]

theorem isAwake_of_spares {w w₁ : World σ} {run : LaneRun}
    (hspares : w.Spares w₁ (run.stake capacity)) (hawake : run.isAwake w = true) :
    run.isAwake w₁ = true := by
  rw [isAwake_iff] at hawake ⊢
  exact exists_isAwake_of_spares hspares hawake

theorem stepsLeft_poll_le : (run.poll w block).1.stepsLeft ≤ run.stepsLeft := by
  rw [stepsLeft, slots_poll]
  exact (@slotsSteps_pollSlots _ 0 w block run.lane.reject true run.slots).1

theorem stepsLeft_poll_lt {others : Stake}
    (hholds : w.Holds capacity (run.stake capacity ++ others))
    (hawake : run.isAwake w = true) (hgoes : (run.poll w block).2.1 = none) :
    (run.poll w block).1.stepsLeft < run.stepsLeft := by
  rw [poll_error, Option.or_eq_none_iff] at hgoes
  rw [stepsLeft, slots_poll]
  exact (slotsSteps_pollSlots w block run.lane.reject true run.slots).2 others hholds
    ((isAwake_iff w run).mp hawake) hgoes.1

end LaneRun

/-! ### Runs -/

namespace Run

variable (w : World σ) (block : Option String)

/-- Lanes that are waited for have a job without its reply. -/
def Stands : Run α → Prop
  | lanes left right _ => ∃ s ∈ left.slots ++ right.slots, s.2.reply? = none
  | _ => True

theorem stands_pending {left right l r : LaneRun}
    (hpending : (visit w block left right).1 = .pending l r) :
    ∃ s ∈ l.slots ++ r.slots, s.2.reply? = none := by
  obtain ⟨-, -, hmissing, -, -⟩ := visit_eq_pending hpending
  rcases hmissing with hleft | hright
  · obtain ⟨s, hs, hnone⟩ := LaneRun.replies?_eq_none_iff.mp hleft
    exact ⟨s, List.mem_append_left _ hs, hnone⟩
  · obtain ⟨s, hs, hnone⟩ := LaneRun.replies?_eq_none_iff.mp hright
    exact ⟨s, List.mem_append_right _ hs, hnone⟩

theorem stepsLeft_visit_le {left right l r : LaneRun}
    (hpending : (visit w block left right).1 = .pending l r) :
    l.stepsLeft + r.stepsLeft ≤ left.stepsLeft + right.stepsLeft := by
  obtain ⟨-, -, -, rfl, rfl⟩ := visit_eq_pending hpending
  exact Nat.add_le_add (left.stepsLeft_poll_le w block) (right.stepsLeft_poll_le _ block)

theorem stepsLeft_visit_lt {left right l r : LaneRun}
    (hpending : (visit w block left right).1 = .pending l r) {others : Stake}
    (hholds : w.Holds capacity (left.stake capacity ++ right.stake capacity ++ others))
    (hawake : left.isAwake w = true ∨ right.isAwake w = true) :
    l.stepsLeft + r.stepsLeft < left.stepsLeft + right.stepsLeft := by
  obtain ⟨hgoes, hends, -, rfl, rfl⟩ := visit_eq_pending hpending
  have hleft := left.stepsLeft_poll_le w block
  rw [Stake.append_assoc] at hholds
  rcases hawake with hawake | hawake
  · exact Nat.add_lt_add_of_lt_of_le (left.stepsLeft_poll_lt w block hholds hawake hgoes)
      (right.stepsLeft_poll_le _ block)
  · have htrade : Trade capacity w _ (left.stake capacity) _ := left.trade_poll w block
    have hyours := (htrade.holds _ hholds).comm
    rw [Stake.append_assoc] at hyours
    have hstill := LaneRun.isAwake_of_spares (htrade.spares hholds) hawake
    exact Nat.add_lt_add_of_le_of_lt hleft (right.stepsLeft_poll_lt _ block hyours hstill hends)

variable {rounds : Nat}

theorem roundsLeft_await (isThere : Bool) (flight : Flight) {rest : Plan α rounds}
    (hrest : ∀ w : World σ, (start block rest w).1.roundsLeft ≤ rounds) :
    (await block isThere flight rest w).1.roundsLeft ≤ rounds + 1 := by
  cases isThere with
  | true => exact Nat.le_succ_of_le (hrest _)
  | false => exact Nat.le_refl _

theorem stands_await (isThere : Bool) (flight : Flight) {rest : Plan α rounds}
    (hrest : ∀ w : World σ, (start block rest w).1.Stands) :
    (await block isThere flight rest w).1.Stands := by
  cases isThere with
  | true => exact hrest _
  | false => trivial

/-- What goes on after a visit has a round less before it, unless it waits for the same lanes. -/
theorem measure_resume {next : List BatchReply → List BatchReply → Plan α rounds}
    {visited : Visit × World σ}
    (hnext : ∀ l r, ∀ w : World σ, (start block (next l r) w).1.roundsLeft ≤ rounds) :
    (resume block next visited).1.roundsLeft < rounds + 1 ∨
      ∃ l r, visited.1 = .pending l r ∧ (resume block next visited).1 = lanes l r next := by
  obtain ⟨outcome, w⟩ := visited
  cases outcome with
  | failed e => exact Or.inl (Nat.succ_pos rounds)
  | complete l r => exact Or.inl (Nat.lt_succ_of_le (hnext l r w))
  | pending l r => exact Or.inr ⟨l, r, rfl, rfl⟩

theorem stands_resume (left right : LaneRun)
    {next : List BatchReply → List BatchReply → Plan α rounds}
    (hnext : ∀ l r, ∀ w : World σ, (start block (next l r) w).1.Stands) :
    (resume block next (visit w block left right)).1.Stands := by
  have hpending := @stands_pending _ w block left right
  generalize visit w block left right = visited at hpending
  obtain ⟨outcome, w₁⟩ := visited
  cases outcome with
  | failed e => trivial
  | complete l r => exact hnext l r w₁
  | pending l r => exact hpending rfl

theorem roundsLeft_start (plan : Plan α rounds) :
    (start block plan w).1.roundsLeft ≤ rounds := by
  induction plan generalizing w with
  | done result => exact Nat.zero_le _
  | note event next ih => exact ih _
  | call c next ih =>
    rw [start_call]
    exact roundsLeft_await _ block _ _ (ih _)
  | batch cs next ih =>
    rw [start_batch]
    exact roundsLeft_await _ block _ _ (ih _)
  | query document next ih =>
    rw [start_query]
    exact roundsLeft_await _ block _ _ (ih _)
  | both left right next ih =>
    rw [start_both]
    rcases measure_resume block fun l r w ↦ ih l r w with hfewer | ⟨l, r, -, hlanes⟩
    · exact Nat.le_of_lt hfewer
    · exact Nat.le_of_eq (congrArg roundsLeft hlanes)

theorem stands_start (plan : Plan α rounds) : (start block plan w).1.Stands := by
  induction plan generalizing w with
  | done result => trivial
  | note event next ih => exact ih _
  | call c next ih =>
    rw [start_call]
    exact stands_await _ block _ _ (ih _)
  | batch cs next ih =>
    rw [start_batch]
    exact stands_await _ block _ _ (ih _)
  | query document next ih =>
    rw [start_query]
    exact stands_await _ block _ _ (ih _)
  | both left right next ih =>
    rw [start_both]
    exact stands_resume w block _ _ fun l r w ↦ ih l r w

/-- How far a run is from its end. -/
def measure (run : Run α) : Nat × Nat := (run.roundsLeft, run.stepsLeft)

theorem stands_poll {run : Run α} (hstands : run.Stands) : (run.poll block w).1.Stands := by
  cases run with
  | done result => trivial
  | sleeping flight rest =>
    rw [poll_sleeping]
    exact stands_await w block _ flight fun w ↦ stands_start w block rest
  | lanes left right next =>
    rw [poll_lanes]
    exact stands_resume w block left right fun l r w ↦ stands_start w block (next l r)

theorem measure_poll_notAbove (run : Run α) :
    NotAbove (run.poll block w).1.measure run.measure := by
  cases run with
  | done result => exact .refl _
  | sleeping flight rest =>
    simp only [poll]
    split
    · exact Or.inl (Nat.lt_succ_of_le (roundsLeft_start _ block rest))
    · exact .refl _
  | lanes left right next =>
    rw [poll_lanes]
    rcases measure_resume block fun l r w ↦ roundsLeft_start w block (next l r) with
      hfewer | ⟨l, r, hpending, hlanes⟩
    · exact Or.inl hfewer
    · rw [hlanes]
      exact Or.inr ⟨rfl, stepsLeft_visit_le w block hpending⟩

theorem measure_poll_below {run : Run α} {others : Stake}
    (hholds : w.Holds capacity (run.stake capacity ++ others)) (hawake : run.isAwake w = true) :
    Below (run.poll block w).1.measure run.measure := by
  cases run with
  | done result => cases hawake
  | sleeping flight rest =>
    have hdue : flight.due ≤ w.now := by simpa [isAwake] using hawake
    simp only [poll]
    rw [if_pos hdue]
    exact Or.inl (Nat.lt_succ_of_le (roundsLeft_start _ block rest))
  | lanes left right next =>
    have hlanes : left.isAwake w = true ∨ right.isAwake w = true := by
      simpa [isAwake, Bool.or_eq_true] using hawake
    rw [poll_lanes]
    rcases measure_resume block fun l r w ↦ roundsLeft_start w block (next l r) with
      hfewer | ⟨l, r, hpending, hrun⟩
    · exact Or.inl hfewer
    · rw [hrun]
      exact Or.inr ⟨rfl, stepsLeft_visit_lt w block hpending hholds hlanes⟩

theorem isAwake_of_spares {w w₁ : World σ} {run : Run α}
    (hspares : w.Spares w₁ (run.stake capacity)) (hawake : run.isAwake w = true) :
    run.isAwake w₁ = true := by
  cases run with
  | done result => cases hawake
  | sleeping flight rest =>
    rw [isAwake, hspares.1]
    exact hawake
  | lanes left right next =>
    simp only [isAwake, Bool.or_eq_true] at hawake ⊢
    rcases hawake with hawake | hawake
    · exact Or.inl (LaneRun.isAwake_of_spares hspares.left hawake)
    · exact Or.inr (LaneRun.isAwake_of_spares hspares.right hawake)

end Run

/-! ### Tasks -/

namespace Progress

variable (w : World σ) (block : Option String)

/-- A running request is not at its end. -/
def Stands : Progress α → Prop
  | running (.done _) => False
  | running run => run.Stands
  | _ => True

def measure (progress : Progress α) : Nat × Nat := (progress.roundsLeft, progress.stepsLeft)

theorem measure_ofRun (run : Run α) : (ofRun run).measure = run.measure := by
  cases run <;> rfl

theorem stands_ofRun {run : Run α} (hstands : run.Stands) : (ofRun run).Stands := by
  cases run with
  | done result => trivial
  | _ => exact hstands

theorem stands_poll {progress : Progress α} (hstands : progress.Stands) :
    (progress.poll block w).1.Stands := by
  cases progress with
  | planned plan => exact stands_ofRun (Run.stands_start w block plan)
  | running run =>
    cases run with
    | done result => exact hstands.elim
    | sleeping flight rest =>
      have hrun : (Run.sleeping flight rest).Stands := trivial
      exact stands_ofRun (Run.stands_poll w block hrun)
    | lanes left right next =>
      have hrun : (Run.lanes left right next).Stands := hstands
      exact stands_ofRun (Run.stands_poll w block hrun)
  | finished result => trivial

theorem measure_poll_notAbove (progress : Progress α) :
    NotAbove (progress.poll block w).1.measure progress.measure := by
  cases progress with
  | planned plan =>
    have hrounds := Run.roundsLeft_start w block plan
    simp only [poll, measure_ofRun]
    exact Or.inl (Nat.lt_succ_of_le (Nat.le_succ_of_le hrounds))
  | running run =>
    simp only [poll, measure_ofRun]
    exact run.measure_poll_notAbove w block
  | finished result => exact .refl _

theorem measure_poll_below {progress : Progress α} {others : Stake}
    (hholds : w.Holds capacity (progress.stake capacity ++ others))
    (hawake : progress.isAwake w = true) :
    Below (progress.poll block w).1.measure progress.measure := by
  cases progress with
  | planned plan =>
    have hrounds := Run.roundsLeft_start w block plan
    simp only [poll, measure_ofRun]
    exact Or.inl (Nat.lt_succ_of_le (Nat.le_succ_of_le hrounds))
  | running run =>
    simp only [poll, measure_ofRun]
    exact Run.measure_poll_below w block hholds hawake
  | finished result => cases hawake

theorem roundsLeft_pos {progress : Progress α} (hstands : progress.Stands)
    (hpending : progress.isFinished = false) : 0 < progress.roundsLeft := by
  cases progress with
  | planned plan => exact Nat.succ_pos _
  | running run =>
    cases run with
    | done result => exact hstands.elim
    | sleeping flight rest => exact Nat.succ_pos _
    | lanes left right next => exact Nat.succ_pos _
  | finished result => cases hpending

end Progress

namespace Task

variable (w : World σ) (tokens : Tokens)

def Stands : Task α → Prop
  | request _ _ progress => progress.Stands
  | guard .. => True

def measure (task : Task α) : Nat × Nat := (task.roundsLeft, task.stepsLeft)

theorem stands_poll {task : Task α} (hstands : task.Stands) :
    (task.poll tokens w).1.Stands := by
  unfold poll
  split
  · exact hstands
  · cases task.context.verdict tokens w.now with
    | some why =>
      cases task with
      | request context block progress => trivial
      | guard context units hold => cases hold <;> trivial
    | none =>
      cases task with
      | request context block progress => exact Progress.stands_poll w block hstands
      | guard context units hold => trivial

theorem measure_abandon (why : Abandonment) (task : Task α) :
    (task.abandon w why).1.measure = (0, 0) := by
  cases task with
  | request context block progress => rfl
  | guard context units hold => cases hold <;> rfl

/-- A pending task has something before it. -/
theorem measure_pos {task : Task α} (hstands : task.Stands) (hpending : task.isPending = true) :
    Below (0, 0) task.measure := by
  cases task with
  | request context block progress =>
    have hunfinished : progress.isFinished = false := by simpa [isPending] using hpending
    exact Or.inl (Progress.roundsLeft_pos hstands hunfinished)
  | guard context units hold =>
    cases hold with
    | wanted => exact Or.inr ⟨rfl, Nat.succ_pos _⟩
    | waiting ticket => exact Or.inr ⟨rfl, Nat.succ_pos _⟩
    | _ => cases hpending

theorem measure_hold_poll (units : Nat) (hold : Hold) :
    (hold.poll w units).1.stepsLeft ≤ hold.stepsLeft ∧
      (hold.isAwake w = true → (hold.poll w units).1.stepsLeft < hold.stepsLeft) := by
  cases hold with
  | wanted =>
    simp only [Hold.poll]
    split <;> simp [Hold.stepsLeft]
  | waiting ticket =>
    simp only [Hold.poll, Hold.isAwake]
    split <;> simp_all [Hold.stepsLeft]
  | _ => simp [Hold.poll, Hold.isAwake]

theorem measure_poll_notAbove {task : Task α} (hstands : task.Stands) :
    NotAbove (task.poll tokens w).1.measure task.measure := by
  by_cases hpending : task.isPending = true
  · unfold poll
    rw [if_neg (by simp [hpending])]
    cases task.context.verdict tokens w.now with
    | some why =>
      simp only [measure_abandon]
      exact (measure_pos hstands hpending).notAbove
    | none =>
      cases task with
      | request context block progress => exact progress.measure_poll_notAbove w block
      | guard context units hold => exact Or.inr ⟨rfl, (measure_hold_poll w units hold).1⟩
  · unfold poll
    rw [if_pos (by simpa using hpending)]
    exact .refl _

theorem measure_poll_below {task : Task α} (hstands : task.Stands) {others : Stake}
    (hholds : w.Holds capacity (task.stake capacity ++ others))
    (hawake : task.isAwake tokens w = true) :
    Below (task.poll tokens w).1.measure task.measure := by
  have hpending : task.isPending = true := by
    simp only [isAwake, Bool.and_eq_true] at hawake
    exact hawake.1
  unfold poll
  rw [if_neg (by simp [hpending])]
  unfold isAwake at hawake
  cases hverdict : task.context.verdict tokens w.now with
  | some why =>
    simp only [measure_abandon]
    exact measure_pos hstands hpending
  | none =>
    rw [hpending, hverdict, Bool.true_and, Option.isSome_none, Bool.false_or] at hawake
    cases task with
    | request context block progress => exact Progress.measure_poll_below w block hholds hawake
    | guard context units hold => exact Or.inr ⟨rfl, (measure_hold_poll w units hold).2 hawake⟩

theorem isAwake_of_spares {w w₁ : World σ} {task : Task α}
    (hspares : w.Spares w₁ (task.stake capacity)) (hawake : task.isAwake tokens w = true) :
    task.isAwake tokens w₁ = true := by
  unfold isAwake at hawake ⊢
  rw [hspares.1]
  rw [Bool.and_eq_true, Bool.or_eq_true] at hawake ⊢
  refine ⟨hawake.1, hawake.2.imp_right fun hawake ↦ ?_⟩
  cases task with
  | request context block progress =>
    cases progress with
    | running run => exact Run.isAwake_of_spares hspares hawake
    | _ => exact hawake
  | guard context units hold =>
    cases hold with
    | waiting ticket => exact hspares.2 ⟨ticket, _⟩ List.mem_cons_self hawake
    | _ => exact hawake

end Task

/-! ### Systems -/

namespace System

variable (tokens : Tokens)

def tasksMeasure (tasks : List (Task α)) : Nat × Nat :=
  (sumOf Task.roundsLeft tasks, sumOf Task.stepsLeft tasks)

theorem tasksMeasure_cons (task : Task α) (rest : List (Task α)) :
    tasksMeasure (task :: rest) =
      (task.measure.1 + (tasksMeasure rest).1, task.measure.2 + (tasksMeasure rest).2) := rfl

theorem tasksMeasure_pollAll_notAbove (w : World σ) {tasks : List (Task α)}
    (hstands : ∀ task ∈ tasks, task.Stands) :
    NotAbove (tasksMeasure (pollAll tokens w tasks).1) (tasksMeasure tasks) := by
  induction tasks generalizing w with
  | nil => exact .refl _
  | cons task rest ih =>
    rw [pollAll_cons, tasksMeasure_cons, tasksMeasure_cons]
    exact (Task.measure_poll_notAbove w tokens (hstands task List.mem_cons_self)).add
      (ih _ fun other hother ↦ hstands other (List.mem_cons_of_mem task hother))

theorem exists_isAwake_of_spares {w w₁ : World σ} {tasks : List (Task α)}
    (hspares : w.Spares w₁ (tasksStake capacity tasks))
    (hawake : ∃ task ∈ tasks, task.isAwake tokens w = true) :
    ∃ task ∈ tasks, task.isAwake tokens w₁ = true := by
  obtain ⟨task, htask, hawake⟩ := hawake
  refine ⟨task, htask, ?_⟩
  induction tasks with
  | nil => cases htask
  | cons head rest ih =>
    rcases List.mem_cons.mp htask with rfl | htask
    · exact Task.isAwake_of_spares tokens hspares.left hawake
    · exact ih hspares.right htask

theorem tasksMeasure_pollAll_below (w : World σ) {tasks : List (Task α)}
    (hstands : ∀ task ∈ tasks, task.Stands) {others : Stake}
    (hholds : w.Holds capacity (tasksStake capacity tasks ++ others))
    (hawake : ∃ task ∈ tasks, task.isAwake tokens w = true) :
    Below (tasksMeasure (pollAll tokens w tasks).1) (tasksMeasure tasks) := by
  induction tasks generalizing w others with
  | nil =>
    obtain ⟨task, htask, -⟩ := hawake
    cases htask
  | cons task rest ih =>
    have htask := hstands task List.mem_cons_self
    have hrest (other : Task α) (hother : other ∈ rest) : other.Stands :=
      hstands other (List.mem_cons_of_mem task hother)
    have hmine : w.Holds capacity
        (task.stake capacity ++ (tasksStake capacity rest ++ others)) := by
      rw [← Stake.append_assoc]
      exact hholds
    rw [pollAll_cons, tasksMeasure_cons, tasksMeasure_cons]
    obtain ⟨other, hother, hawake⟩ := hawake
    rcases List.mem_cons.mp hother with rfl | hother
    · exact (Task.measure_poll_below w tokens htask hmine hawake).add_notAbove
        (tasksMeasure_pollAll_notAbove tokens _ hrest)
    · have htrade : Trade capacity w _ (task.stake capacity) _ := task.trade_poll w tokens
      have hyours := (htrade.holds _ hmine).comm
      rw [Stake.append_assoc] at hyours
      have hstill := exists_isAwake_of_spares tokens (htrade.spares hmine) ⟨other, hother, hawake⟩
      exact (Task.measure_poll_notAbove w tokens htask).add_below (ih _ hrest hyours hstill)

theorem stands_pollAll (w : World σ) {tasks : List (Task α)}
    (hstands : ∀ task ∈ tasks, task.Stands) :
    ∀ task ∈ (pollAll tokens w tasks).1, task.Stands := by
  induction tasks generalizing w with
  | nil => exact hstands
  | cons task rest ih =>
    rw [pollAll_cons, List.forall_mem_cons]
    exact ⟨Task.stands_poll w tokens (hstands task List.mem_cons_self),
      ih _ fun other hother ↦ hstands other (List.mem_cons_of_mem task hother)⟩

/-- The tickets of the gate are those of the tasks, and what runs is not at its end. -/
structure Orderly (capacity : Nat) (s : System α σ) : Prop where
  kept : s.Kept capacity
  stands : ∀ task ∈ s.tasks, task.Stands

theorem orderly_pass {s : System α σ} (horderly : s.Orderly capacity) :
    s.pass.Orderly capacity where
  kept := kept_pass horderly.kept
  stands := by
    rw [pass_eq]
    exact stands_pollAll s.tokens s.world horderly.stands

theorem orderly_elapse {s : System α σ} (horderly : s.Orderly capacity) (time : Nat) :
    (s.elapse time).Orderly capacity where
  kept := kept_elapse horderly.kept time
  stands := horderly.stands

theorem rank_pass_notAbove {s : System α σ} (horderly : s.Orderly capacity) :
    NotAbove s.pass.rank s.rank := by
  have htasks := tasksMeasure_pollAll_notAbove s.tokens s.world horderly.stands
  rw [pass_eq]
  simp only [NotAbove, tasksMeasure, rank] at htasks ⊢
  omega

theorem rank_pass_below {s : System α σ} (horderly : s.Orderly capacity)
    (hawake : s.isAwake = true) : Below s.pass.rank s.rank := by
  have hkept := horderly.kept
  rw [Kept, ← Stake.append_empty (tasksStake _ _)] at hkept
  have htasks := tasksMeasure_pollAll_below s.tokens s.world horderly.stands hkept
    (by simpa [isAwake] using hawake)
  rw [pass_eq]
  simp only [Below, tasksMeasure, rank] at htasks ⊢
  omega

end System

end RollupLedger
