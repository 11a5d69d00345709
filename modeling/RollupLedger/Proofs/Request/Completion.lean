import RollupLedger.Proofs.Request.Progress

/-!
# Driven requests come to an end

When no request of a system is awake and one is pending, there is a time at which something happens
(`System.exists_time`): who waits for the gate waits for an admitted ticket, and whoever has that is
either awake or under way. So every turn lowers the rank, and driving a system of requests ends with
all of them finished (`System.isIdle_drive`), and with the gate at rest.
-/

set_option autoImplicit false
set_option relaxedAutoImplicit false

namespace RollupLedger

open World

variable {σ α : Type} {capacity : Nat} {w : World σ}

/-! ### What sleeps -/

namespace LaneRun

variable {run : LaneRun}

theorem slot_not_awake (hasleep : run.isAwake w = false) {s : Job × Slot} (hs : s ∈ run.slots) :
    s.2.isAwake w = false := by
  simp only [isAwake, List.any_eq_false, Bool.not_eq_true] at hasleep
  exact hasleep s hs

theorem mem_dues {flight : Flight} {reply : BatchReply} {job : Job}
    (hs : (job, Slot.flying flight reply) ∈ run.slots) : flight.due ∈ run.dues :=
  List.mem_filterMap.mpr ⟨_, hs, rfl⟩

theorem exists_due_of_flying (hasleep : run.isAwake w = false) {job : Job} {flight : Flight}
    {reply : BatchReply} (hs : (job, Slot.flying flight reply) ∈ run.slots) :
    ∃ due ∈ run.dues, w.now < due := by
  have hslot := slot_not_awake hasleep hs
  exact ⟨flight.due, mem_dues hs, by simpa [Slot.isAwake] using hslot⟩

theorem exists_due_of_mem_flown (hasleep : run.isAwake w = false) {claim : Admitted}
    (hclaim : claim ∈ (run.stake capacity).flown) : ∃ due ∈ run.dues, w.now < due := by
  obtain ⟨stake, hstake, hclaim⟩ := Stake.mem_flown_all.mp hclaim
  obtain ⟨⟨job, slot⟩, hs, rfl⟩ := List.mem_map.mp hstake
  cases slot with
  | flying flight reply => exact exists_due_of_flying hasleep hs
  | _ => cases hclaim

theorem isAdmitted_of_mem_queued (hasleep : run.isAwake w = false) {claim : Admitted}
    (hclaim : claim ∈ (run.stake capacity).queued) :
    w.gate.isAdmitted claim.ticket = false := by
  obtain ⟨stake, hstake, hclaim⟩ := Stake.mem_queued_all.mp hclaim
  obtain ⟨⟨job, slot⟩, hs, rfl⟩ := List.mem_map.mp hstake
  have hslot := slot_not_awake hasleep hs
  cases slot with
  | waiting ticket =>
    rw [List.mem_singleton.mp hclaim]
    exact hslot
  | flying flight reply =>
    rw [Slot.stake, Flight.queued_stake] at hclaim
    cases hclaim
  | _ => cases hclaim

/-- A job that sleeps without its reply is under way or waits for the gate. -/
theorem exists_due_or_queued (hasleep : run.isAwake w = false) {s : Job × Slot}
    (hs : s ∈ run.slots) (hnone : s.2.reply? = none) :
    (∃ due ∈ run.dues, w.now < due) ∨ ∃ claim, claim ∈ (run.stake capacity).queued := by
  have hslot := slot_not_awake hasleep hs
  obtain ⟨job, slot⟩ := s
  cases slot with
  | idle => cases hslot
  | waiting ticket =>
    refine Or.inr ⟨⟨ticket, job.share capacity⟩, Stake.mem_queued_all.mpr ?_⟩
    exact ⟨_, List.mem_map_of_mem hs, List.mem_cons_self⟩
  | flying flight reply => exact Or.inl (exists_due_of_flying hasleep hs)
  | finished reply => cases hnone

theorem isAwake_of_mem_dues {due : Nat} (hdue : due ∈ run.dues) (hle : due ≤ w.now) :
    run.isAwake w = true := by
  obtain ⟨⟨job, slot⟩, hs, hslot⟩ := List.mem_filterMap.mp hdue
  refine (isAwake_iff w run).mpr ⟨_, hs, ?_⟩
  cases slot with
  | flying flight reply =>
    cases hslot
    simpa [Slot.isAwake] using hle
  | _ => cases hslot

end LaneRun

namespace Run

variable {run : Run α}

theorem exists_due_of_mem_flown (hasleep : run.isAwake w = false) {claim : Admitted}
    (hclaim : claim ∈ (run.stake capacity).flown) : ∃ due ∈ run.dues, w.now < due := by
  cases run with
  | done result => cases hclaim
  | sleeping flight rest =>
    exact ⟨flight.due, List.mem_singleton.mpr rfl, by simpa [isAwake] using hasleep⟩
  | lanes left right next =>
    simp only [isAwake, Bool.or_eq_false_iff] at hasleep
    simp only [dues, List.mem_append]
    rw [stake, Stake.flown_append, List.mem_append] at hclaim
    rcases hclaim with hclaim | hclaim
    · obtain ⟨due, hdue, hlt⟩ := LaneRun.exists_due_of_mem_flown hasleep.1 hclaim
      exact ⟨due, Or.inl hdue, hlt⟩
    · obtain ⟨due, hdue, hlt⟩ := LaneRun.exists_due_of_mem_flown hasleep.2 hclaim
      exact ⟨due, Or.inr hdue, hlt⟩

theorem isAdmitted_of_mem_queued (hasleep : run.isAwake w = false) {claim : Admitted}
    (hclaim : claim ∈ (run.stake capacity).queued) :
    w.gate.isAdmitted claim.ticket = false := by
  cases run with
  | done result => cases hclaim
  | sleeping flight rest =>
    rw [stake, Flight.queued_stake] at hclaim
    cases hclaim
  | lanes left right next =>
    simp only [isAwake, Bool.or_eq_false_iff] at hasleep
    rw [stake, Stake.queued_append, List.mem_append] at hclaim
    rcases hclaim with hclaim | hclaim
    · exact LaneRun.isAdmitted_of_mem_queued hasleep.1 hclaim
    · exact LaneRun.isAdmitted_of_mem_queued hasleep.2 hclaim

theorem exists_due_or_queued (hasleep : run.isAwake w = false) (hstands : run.Stands)
    (hruns : ∀ result, run ≠ done result) :
    (∃ due ∈ run.dues, w.now < due) ∨ ∃ claim, claim ∈ (run.stake capacity).queued := by
  cases run with
  | done result => exact absurd rfl (hruns result)
  | sleeping flight rest =>
    exact Or.inl ⟨flight.due, List.mem_singleton.mpr rfl, by simpa [isAwake] using hasleep⟩
  | lanes left right next =>
    simp only [isAwake, Bool.or_eq_false_iff] at hasleep
    obtain ⟨s, hs, hnone⟩ := hstands
    simp only [dues, List.mem_append, stake, Stake.queued_append]
    rcases List.mem_append.mp hs with hs | hs
    · have hleft : _ ∨ ∃ claim, claim ∈ (left.stake capacity).queued :=
        LaneRun.exists_due_or_queued hasleep.1 hs hnone
      rcases hleft with ⟨due, hdue, hlt⟩ | ⟨claim, hclaim⟩
      · exact Or.inl ⟨due, Or.inl hdue, hlt⟩
      · exact Or.inr ⟨claim, Or.inl hclaim⟩
    · have hright : _ ∨ ∃ claim, claim ∈ (right.stake capacity).queued :=
        LaneRun.exists_due_or_queued hasleep.2 hs hnone
      rcases hright with ⟨due, hdue, hlt⟩ | ⟨claim, hclaim⟩
      · exact Or.inl ⟨due, Or.inr hdue, hlt⟩
      · exact Or.inr ⟨claim, Or.inr hclaim⟩

theorem isAwake_of_mem_dues {due : Nat} (hdue : due ∈ run.dues) (hle : due ≤ w.now) :
    run.isAwake w = true := by
  cases run with
  | done result => cases hdue
  | sleeping flight rest =>
    rw [List.mem_singleton.mp hdue] at hle
    simpa [isAwake] using hle
  | lanes left right next =>
    simp only [isAwake, Bool.or_eq_true]
    rcases List.mem_append.mp hdue with hdue | hdue
    · exact Or.inl (LaneRun.isAwake_of_mem_dues hdue hle)
    · exact Or.inr (LaneRun.isAwake_of_mem_dues hdue hle)

end Run

/-! ### Tasks -/

namespace Task

variable {tokens : Tokens} {task : Task α}

def IsRequest : Task α → Prop
  | request .. => True
  | guard .. => False

theorem isRequest_poll (hrequest : task.IsRequest) : (task.poll tokens w).1.IsRequest := by
  cases task with
  | guard context units hold => exact hrequest.elim
  | request context block progress =>
    unfold poll
    split
    · trivial
    · cases (request context block progress).context.verdict tokens w.now <;> trivial

/-- A running request that sleeps, as a run. -/
theorem run_not_awake {context : Context} {block : Option String} {run : Run α}
    (hasleep : (request context block (.running run)).isAwake tokens w = false) :
    run.isAwake w = false := by
  simp only [isAwake, isPending, Progress.isFinished, Bool.not_false, Bool.true_and,
    Bool.or_eq_false_iff] at hasleep
  exact hasleep.2

theorem mem_times_of_mem_dues {context : Context} {block : Option String} {run : Run α}
    {due : Nat} (hdue : due ∈ run.dues) : due ∈ (request context block (.running run)).times := by
  simp [times, isPending, Progress.isFinished, Progress.dues, hdue]

theorem exists_time_of_mem_flown (hrequest : task.IsRequest)
    (hasleep : task.isAwake tokens w = false) {claim : Admitted}
    (hclaim : claim ∈ (task.stake capacity).flown) : ∃ time ∈ task.times, w.now < time := by
  cases task with
  | guard context units hold => exact hrequest.elim
  | request context block progress =>
    cases progress with
    | running run =>
      obtain ⟨due, hdue, hlt⟩ := Run.exists_due_of_mem_flown (run_not_awake hasleep) hclaim
      exact ⟨due, mem_times_of_mem_dues hdue, hlt⟩
    | _ => cases hclaim

theorem isAdmitted_of_mem_queued (hrequest : task.IsRequest)
    (hasleep : task.isAwake tokens w = false) {claim : Admitted}
    (hclaim : claim ∈ (task.stake capacity).queued) :
    w.gate.isAdmitted claim.ticket = false := by
  cases task with
  | guard context units hold => exact hrequest.elim
  | request context block progress =>
    cases progress with
    | running run => exact Run.isAdmitted_of_mem_queued (run_not_awake hasleep) hclaim
    | _ => cases hclaim

/-- A pending request that sleeps is under way or waits for the gate. -/
theorem exists_time_or_queued (hrequest : task.IsRequest) (hstands : task.Stands)
    (hpending : task.isPending = true) (hasleep : task.isAwake tokens w = false) :
    (∃ time ∈ task.times, w.now < time) ∨ ∃ claim, claim ∈ (task.stake capacity).queued := by
  cases task with
  | guard context units hold => exact hrequest.elim
  | request context block progress =>
    cases progress with
    | planned plan => simp [isAwake, isPending, Progress.isFinished, Progress.isAwake] at hasleep
    | running run =>
      have hruns : ∀ result, run ≠ .done result := by
        rintro result rfl
        exact hstands
      have hrun : run.Stands := by
        cases run with
        | done result => trivial
        | _ => exact hstands
      rcases Run.exists_due_or_queued (run_not_awake hasleep) hrun hruns with
        ⟨due, hdue, hlt⟩ | hqueued
      · exact Or.inl ⟨due, mem_times_of_mem_dues hdue, hlt⟩
      · exact Or.inr hqueued
    | finished result => cases hpending

/-- When its time has come, a task is awake. -/
theorem isAwake_of_mem_times {time : Nat} (htime : time ∈ task.times) (hle : time ≤ w.now) :
    task.isAwake tokens w = true := by
  unfold times at htime
  split at htime
  · cases htime
  · rename_i hpending
    have hpending : task.isPending = true := by simpa using hpending
    unfold isAwake
    rw [hpending, Bool.true_and, Bool.or_eq_true]
    rcases List.mem_append.mp htime with hdeadline | hdue
    · left
      have hexpired : task.context.isExpired w.now = true := by
        rw [Option.mem_toList] at hdeadline
        simp [Context.isExpired, Option.mem_def.mp hdeadline, hle]
      unfold Context.verdict
      by_cases hcancelled : tokens.isCancelled task.context.token = true
      · rw [if_pos hcancelled]
        rfl
      · rw [if_neg hcancelled, if_pos hexpired]
        rfl
    · right
      cases task with
      | guard context units hold => cases hdue
      | request context block progress =>
        cases progress with
        | running run => exact Run.isAwake_of_mem_dues hdue hle
        | _ => cases hdue

end Task

/-! ### Systems -/

namespace System

variable {s : System α σ}

theorem task_not_awake (hasleep : s.isAwake = false) {task : Task α} (htask : task ∈ s.tasks) :
    task.isAwake s.tokens s.world = false := by
  simp only [isAwake, List.any_eq_false, Bool.not_eq_true] at hasleep
  exact hasleep task htask

/-- While a request is pending, something happens now or at a time to come. -/
theorem exists_time (horderly : s.Orderly capacity) (hrequests : ∀ task ∈ s.tasks, task.IsRequest)
    (hasleep : s.isAwake = false) (hidle : s.isIdle = false) :
    ∃ time ∈ s.tasks.flatMap Task.times, s.world.now < time := by
  obtain ⟨task, htask, hpending⟩ : ∃ task ∈ s.tasks, task.isPending = true := by
    simpa [isIdle] using hidle
  have htime (other : Task α) (hother : other ∈ s.tasks)
      (hexists : ∃ time ∈ other.times, s.world.now < time) :
      ∃ time ∈ s.tasks.flatMap Task.times, s.world.now < time := by
    obtain ⟨time, htime, hlt⟩ := hexists
    exact ⟨time, List.mem_flatMap.mpr ⟨other, hother, htime⟩, hlt⟩
  have hdecide : _ ∨ ∃ claim, claim ∈ (task.stake capacity).queued :=
    Task.exists_time_or_queued (hrequests task htask) (horderly.stands task htask) hpending
      (task_not_awake hasleep htask)
  rcases hdecide with hexists | ⟨claim, hclaim⟩
  · exact htime task htask hexists
  · -- Somebody's ticket is admitted. Its holder does not wait, so it is under way.
    have hqueued : claim ∈ (tasksStake capacity s.tasks).queued :=
      Stake.mem_queued_all.mpr ⟨_, List.mem_map_of_mem htask, hclaim⟩
    obtain ⟨holder, hholder, hadmitted⟩ := horderly.kept.2.exists_isAdmitted
      (List.ne_nil_of_mem (List.mem_append_right _ hqueued))
    rcases List.mem_append.mp hholder with hflown | hwaiting
    · obtain ⟨stake, hstake, hmem⟩ := Stake.mem_flown_all.mp hflown
      obtain ⟨other, hother, rfl⟩ := List.mem_map.mp hstake
      exact htime other hother (Task.exists_time_of_mem_flown (hrequests other hother)
        (task_not_awake hasleep hother) hmem)
    · obtain ⟨stake, hstake, hmem⟩ := Stake.mem_queued_all.mp hwaiting
      obtain ⟨other, hother, rfl⟩ := List.mem_map.mp hstake
      have hrefused := Task.isAdmitted_of_mem_queued (hrequests other hother)
        (task_not_awake hasleep hother) hmem
      rw [hadmitted] at hrefused
      cases hrefused

theorem nextTime?_eq_some {time : Nat} (hnext : s.nextTime? = some time) :
    (∃ task ∈ s.tasks, time ∈ task.times) ∨ ∃ alarm ∈ s.alarms, alarm.time = time := by
  have hmem := List.min?_mem hnext
  rw [List.mem_filter, List.mem_append, List.mem_flatMap, List.mem_map] at hmem
  exact hmem.1

/-- The pass at the next time lowers the rank: an alarm has gone off or a task is awake. -/
theorem rank_elapse_pass (horderly : s.Orderly capacity) {time : Nat}
    (hnext : s.nextTime? = some time) : Below (s.elapse time).pass.rank s.rank := by
  have horderly' := orderly_elapse horderly time
  have halarms : (s.elapse time).alarms.length ≤ s.alarms.length := List.length_filter_le _ _
  have helapse : (s.elapse time).rank =
      (s.rank.1, sumOf Task.stepsLeft s.tasks + (s.elapse time).alarms.length) := rfl
  have hrank : s.rank.2 = sumOf Task.stepsLeft s.tasks + s.alarms.length := rfl
  rcases nextTime?_eq_some hnext with ⟨task, htask, htime⟩ | ⟨alarm, halarm, rfl⟩
  · have hawake : (s.elapse time).isAwake = true := by
      refine List.any_eq_true.mpr ⟨task, htask, ?_⟩
      exact Task.isAwake_of_mem_times htime (Nat.le_max_right _ _)
    have hbelow := rank_pass_below horderly' hawake
    rw [helapse] at hbelow
    simp only [Below] at hbelow ⊢
    omega
  · have hfewer : (s.elapse alarm.time).alarms.length < s.alarms.length :=
      List.length_filter_lt_length_iff_exists.mpr ⟨alarm, halarm, by simp⟩
    have hnot := rank_pass_notAbove horderly'
    rw [helapse] at hnot
    simp only [Below, NotAbove] at hnot ⊢
    omega

theorem rank_turn (horderly : s.Orderly capacity) (hrequests : ∀ task ∈ s.tasks, task.IsRequest)
    (hidle : s.isIdle = false) : Below s.turn.rank s.rank := by
  unfold turn
  by_cases hawake : s.isAwake = true
  · rw [if_pos hawake]
    exact rank_pass_below horderly hawake
  · rw [if_neg hawake]
    cases hnext : s.nextTime? with
    | some time => exact rank_elapse_pass horderly hnext
    | none =>
      obtain ⟨time, htime, hlt⟩ :=
        exists_time horderly hrequests (Bool.not_eq_true _ ▸ hawake) hidle
      rw [nextTime?, List.min?_eq_none_iff, List.filter_eq_nil_iff] at hnext
      exact absurd (decide_eq_true hlt) (hnext time (List.mem_append_left _ htime))

/-- A system of requests that run in order. -/
structure Runs (capacity : Nat) (s : System α σ) : Prop where
  orderly : s.Orderly capacity
  requests : ∀ task ∈ s.tasks, task.IsRequest

theorem requests_pollAll (tokens : Tokens) (w : World σ) {tasks : List (Task α)}
    (hrequests : ∀ task ∈ tasks, task.IsRequest) :
    ∀ task ∈ (pollAll tokens w tasks).1, task.IsRequest := by
  induction tasks generalizing w with
  | nil => exact hrequests
  | cons task rest ih =>
    rw [pollAll_cons, List.forall_mem_cons]
    exact ⟨Task.isRequest_poll (hrequests task List.mem_cons_self),
      ih _ fun other hother ↦ hrequests other (List.mem_cons_of_mem task hother)⟩

theorem runs_pass (s : System α σ) (hruns : s.Runs capacity) : s.pass.Runs capacity where
  orderly := orderly_pass hruns.orderly
  requests := by
    rw [pass_eq]
    exact requests_pollAll s.tokens s.world hruns.requests

theorem runs_elapse (s : System α σ) (time : Nat) (hruns : s.Runs capacity) :
    (s.elapse time).Runs capacity where
  orderly := orderly_elapse hruns.orderly time
  requests := hruns.requests

theorem runs_drive (hruns : s.Runs capacity) : s.drive.Runs capacity :=
  drive_rec runs_pass runs_elapse s hruns

theorem isIdle_drive (hruns : s.Runs capacity) : s.drive.isIdle = true := by
  induction s using drive.induct with
  | case1 s hidle => rwa [drive, if_pos hidle]
  | case2 s hidle next hrank ih =>
    rw [drive, if_neg hidle]
    simp only
    rw [dif_pos hrank]
    exact ih (turn_rec runs_pass runs_elapse s hruns)
  | case3 s hidle next hrank =>
    have hbelow := rank_turn hruns.orderly hruns.requests (Bool.not_eq_true _ ▸ hidle)
    exact absurd (rankBelow_iff.mpr hbelow) hrank

/-- All tickets have been given up when the requests have come to their ends. -/
theorem holds_drive (hruns : s.Runs capacity) : s.drive.world.Holds capacity ∅ := by
  have hdriven := runs_drive hruns
  have hidle := isIdle_drive hruns
  have hkept := hdriven.orderly.kept
  have hnothing : tasksStake capacity s.drive.tasks = ∅ := by
    refine Stake.all_eq_empty fun stake hstake ↦ ?_
    obtain ⟨task, htask, rfl⟩ := List.mem_map.mp hstake
    have hended : task.isPending = false := by
      simpa using List.all_eq_true.mp hidle task htask
    cases task with
    | request context block progress => exact Task.stake_of_not_isPending hended
    | guard context units hold => exact (hdriven.requests _ htask).elim
  rwa [Kept, hnothing] at hkept

end System

end RollupLedger
