import RollupLedger.Proofs.Request.Retrying

/-!
# Requests on their way at the same time

Calls of a service and its clones share the clock and nothing else. Every move keeps each errand to
its policy (`Switchboard.Serves.act`) and leaves every service as it was (`Switchboard.Fresh.act`),
so a request begins with all its retries and is served by its own outcomes alone
(`RetryPolicy.retried_afresh`). Nobody holds it up: the clock can be moved on to the end of any
pause (`Switchboard.Tended.exists_run_now`).
-/

set_option autoImplicit false
set_option relaxedAutoImplicit false

namespace RollupLedger

variable {ρ β σ : Type}

namespace Errand

variable {policy : RetryPolicy} {request : ρ} {begun now due : ℕ} {errand : Errand ρ β}

theorem receive_of_asking (hasking : errand.stage = .asking) (outcome : Except SendFailure β)
    (now : ℕ) : errand.receive outcome now = errand.hear outcome now := by
  rw [receive, hasking]

theorem receive_of_not_asking (hasking : errand.stage ≠ .asking) (outcome : Except SendFailure β)
    (now : ℕ) : errand.receive outcome now = errand := by
  unfold receive
  split
  · exact absurd ‹_› hasking
  · rfl

theorem wake_of_pausing (hpausing : errand.stage = .pausing due) (hover : due ≤ now) :
    errand.wake now = errand.resume now := by
  rw [wake, hpausing]
  exact if_pos hover

theorem due?_eq_some_iff : errand.due? = some due ↔ errand.stage = .pausing due := by
  unfold due?
  cases errand.stage <;> simp

theorem wake_eq_self_or (errand : Errand ρ β) (now : ℕ) : errand.wake now = errand ∨
    ∃ due, errand.stage = .pausing due ∧ due ≤ now ∧ errand.wake now = errand.resume now := by
  cases hstage : errand.stage with
  | asking => exact .inl (by rw [wake, hstage])
  | ended outcome time => exact .inl (by rw [wake, hstage])
  | pausing due =>
    by_cases hover : due ≤ now
    · exact .inr ⟨due, rfl, hover, wake_of_pausing hstage hover⟩
    · refine .inl ?_
      rw [wake, hstage]
      exact if_neg hover

/-- An errand that keeps to its policy, and does not pause beyond its time. -/
def Follows (policy : RetryPolicy) (request : ρ) (begun now : ℕ) (errand : Errand ρ β) : Prop :=
  ∃ past, errand.Keeps policy request begun past ∧ ∀ due, errand.stage = .pausing due → now ≤ due

theorem Follows.receive (hfollows : errand.Follows policy request begun now)
    (outcome : Except SendFailure β) :
    (errand.receive outcome now).Follows policy request begun now := by
  by_cases hasking : errand.stage = .asking
  · obtain ⟨past, hkeeps, -⟩ := hfollows
    rw [receive_of_asking hasking]
    refine ⟨past, hkeeps.hear hasking outcome now, fun due hpausing ↦ ?_⟩
    rcases errand.stage_hear outcome now with hpause | hended
    · cases hpausing.symm.trans hpause
      exact Nat.le_add_right _ _
    · cases hpausing.symm.trans hended
  · rw [receive_of_not_asking hasking]
    exact hfollows

/-- A pause is over when it is due, neither before nor later. -/
theorem Follows.wake (hfollows : errand.Follows policy request begun now) :
    (errand.wake now).Follows policy request begun now := by
  rcases errand.wake_eq_self_or now with hsame | ⟨due, hpausing, hover, hresumed⟩
  · rw [hsame]
    exact hfollows
  · obtain ⟨past, hkeeps, hahead⟩ := hfollows
    obtain rfl : now = due := Nat.le_antisymm (hahead due hpausing) hover
    rw [hresumed]
    exact ⟨errand.answers, hkeeps.resume hpausing, nofun⟩

end Errand

namespace Switchboard

/-- The errand at a place is for a request that was called at a time. -/
def Serves (policy : RetryPolicy) (request : ρ) (begun : ℕ) (board : Switchboard ρ β)
    (place : ℕ) : Prop :=
  ∃ errand, board.errands[place]? = some errand ∧
    errand.Follows policy request begun board.now

variable {policy : RetryPolicy} {request : ρ} {begun place : ℕ} {board : Switchboard ρ β}

theorem Serves.stepAt {step : Errand ρ β → Errand ρ β} (other : ℕ)
    (hserves : board.Serves policy request begun place)
    (hstep : ∀ errand, errand.Follows policy request begun board.now →
      (step errand).Follows policy request begun board.now) :
    (board.stepAt other step).Serves policy request begun place := by
  obtain ⟨errand, hat, hfollows⟩ := hserves
  by_cases hhere : other = place
  · refine ⟨step errand, ?_, hstep errand hfollows⟩
    simp [Switchboard.stepAt, hhere, hat]
  · refine ⟨errand, ?_, hfollows⟩
    simp [Switchboard.stepAt, hhere, hat]

/-- No pause of an errand is over before a time. -/
def Allows (board : Switchboard ρ β) (time : ℕ) : Prop :=
  ∀ errand ∈ board.errands, ∀ due, errand.stage = .pausing due → time ≤ due

theorem allows_iff {time : ℕ} : board.Allows time ↔
    (board.errands.all fun errand ↦ errand.due?.all fun due ↦ decide (time ≤ due)) = true := by
  simp only [Allows, List.all_eq_true, Option.all_eq_true, Errand.due?_eq_some_iff,
    decide_eq_true_iff]

theorem elapse_of_allows {time : ℕ} (hallows : board.Allows time) :
    board.elapse time = { board with now := max board.now time } :=
  if_pos (allows_iff.mp hallows)

theorem elapse_of_not_allows {time : ℕ} (hallows : ¬ board.Allows time) :
    board.elapse time = board :=
  if_neg fun hall ↦ hallows (allows_iff.mpr hall)

theorem Serves.elapse (time : ℕ) (hserves : board.Serves policy request begun place) :
    (board.elapse time).Serves policy request begun place := by
  by_cases hallows : board.Allows time
  · obtain ⟨errand, hat, past, hkeeps, hahead⟩ := hserves
    rw [elapse_of_allows hallows]
    refine ⟨errand, hat, past, hkeeps, fun due hpausing ↦ ?_⟩
    exact max_le (hahead due hpausing) (hallows errand (List.mem_of_getElem? hat) due hpausing)
  · rw [elapse_of_not_allows hallows]
    exact hserves

theorem Serves.act (move : Move ρ β) (hserves : board.Serves policy request begun place) :
    (board.act move).Serves policy request begun place := by
  cases move with
  | clone service => exact hserves
  | call service other =>
    obtain ⟨errand, hat, hfollows⟩ := hserves
    have hlt : place < board.errands.length := (List.getElem?_eq_some_iff.mp hat).1
    exact ⟨errand, (List.getElem?_append_left hlt).trans hat, hfollows⟩
  | answer other outcome => exact hserves.stepAt other fun _ hfollows ↦ hfollows.receive outcome
  | resume other => exact hserves.stepAt other fun _ hfollows ↦ hfollows.wake
  | elapse time => exact hserves.elapse time

theorem Serves.run (moves : List (Move ρ β))
    (hserves : board.Serves policy request begun place) :
    (board.run moves).Serves policy request begun place := by
  induction moves generalizing board with
  | nil => exact hserves
  | cons move rest ih => exact ih (hserves.act move)

theorem services_elapse (board : Switchboard ρ β) (time : ℕ) :
    (board.elapse time).services = board.services := by
  unfold Switchboard.elapse
  split <;> rfl

theorem errands_elapse (board : Switchboard ρ β) (time : ℕ) :
    (board.elapse time).errands = board.errands := by
  unfold Switchboard.elapse
  split <;> rfl

/-- No service has begun to count. -/
def Fresh (policy : RetryPolicy) (board : Switchboard ρ β) : Prop :=
  ∀ trial ∈ board.services, trial = .fresh policy

theorem Fresh.act (move : Move ρ β) (hfresh : board.Fresh policy) :
    (board.act move).Fresh policy := by
  cases move with
  | clone service =>
    intro trial hmem
    rcases List.mem_append.mp hmem with hold | hnew
    · exact hfresh trial hold
    · exact hfresh trial (List.mem_of_getElem? (Option.mem_toList.mp hnew))
  | call service other => exact hfresh
  | answer other outcome => exact hfresh
  | resume other => exact hfresh
  | elapse time =>
    show ∀ trial ∈ (board.elapse time).services, trial = .fresh policy
    rw [services_elapse]
    exact hfresh

theorem fresh_opened (policy : RetryPolicy) (now : ℕ) :
    (opened policy now : Switchboard ρ β).Fresh policy := by
  intro trial hmem
  exact List.mem_singleton.mp hmem

theorem call_of_none {service : ℕ} (hnone : board.services[service]? = none) :
    board.call service request = board := by
  simp [Switchboard.call, hnone]

theorem call_of_some {service : ℕ} {trial : Trial}
    (htrial : board.services[service]? = some trial) :
    board.call service request =
      { board with errands := board.errands ++ [.begin trial request board.now] } := by
  simp [Switchboard.call, htrial]

theorem Fresh.serves_call (hfresh : board.Fresh policy) {service : ℕ}
    (hservice : service < board.services.length) (request : ρ) :
    (board.call service request).Serves policy request board.now board.errands.length := by
  have htrial : board.services[service]? = some (.fresh policy) := by
    rw [List.getElem?_eq_getElem hservice, hfresh _ (List.getElem_mem hservice)]
  rw [call_of_some htrial]
  refine ⟨.begin (.fresh policy) request board.now, List.getElem?_concat_length, [],
    Errand.keeps_begin _ _ _, fun due hpausing ↦ ?_⟩
  cases hpausing

/-- The services are fresh and all errands keep to the policy, as on every switchboard that was
opened with it. -/
structure Tended (policy : RetryPolicy) (board : Switchboard ρ β) : Prop where
  fresh : board.Fresh policy
  serves : ∀ place < board.errands.length, ∃ request begun,
    board.Serves policy request begun place

/-- Only a call adds an errand. -/
theorem exists_call_of_length_lt {move : Move ρ β}
    (hlt : board.errands.length < (board.act move).errands.length) :
    ∃ service request, move = .call service request ∧ service < board.services.length ∧
      (board.act move).errands.length = board.errands.length + 1 := by
  cases move with
  | clone service => exact absurd hlt (lt_irrefl _)
  | call service request =>
    cases hservice : board.services[service]? with
    | none =>
      rw [Switchboard.act, call_of_none hservice] at hlt
      exact absurd hlt (lt_irrefl _)
    | some trial =>
      refine ⟨service, request, rfl, (List.getElem?_eq_some_iff.mp hservice).1, ?_⟩
      rw [Switchboard.act, call_of_some hservice, List.length_append, List.length_singleton]
  | answer place outcome =>
    exact absurd hlt (by simp [Switchboard.act, Switchboard.answer, Switchboard.stepAt])
  | resume place =>
    exact absurd hlt (by simp [Switchboard.act, Switchboard.resume, Switchboard.stepAt])
  | elapse time =>
    rw [Switchboard.act, errands_elapse] at hlt
    exact absurd hlt (lt_irrefl _)

theorem Tended.act (move : Move ρ β) (htended : board.Tended policy) :
    (board.act move).Tended policy := by
  refine ⟨htended.fresh.act move, fun place hplace ↦ ?_⟩
  by_cases hold : place < board.errands.length
  · obtain ⟨request, begun, hserves⟩ := htended.serves place hold
    exact ⟨request, begun, hserves.act move⟩
  · obtain ⟨service, request, rfl, hservice, hlength⟩ :=
      exists_call_of_length_lt (Nat.lt_of_le_of_lt (not_lt.mp hold) hplace)
    obtain rfl : place = board.errands.length := by omega
    exact ⟨request, board.now, htended.fresh.serves_call hservice request⟩

theorem Tended.run (moves : List (Move ρ β)) (htended : board.Tended policy) :
    (board.run moves).Tended policy := by
  induction moves generalizing board with
  | nil => exact htended
  | cons move rest ih => exact ih (htended.act move)

theorem tended_opened (policy : RetryPolicy) (now : ℕ) :
    (opened policy now : Switchboard ρ β).Tended policy :=
  ⟨fresh_opened policy now, fun _ hplace ↦ absurd hplace (Nat.not_lt_zero _)⟩

/-! ### No request is held up by others -/

/-- Whether an errand pauses, but not up to a time. -/
def isEarly (time : ℕ) (errand : Errand ρ β) : Bool := errand.due?.any fun due ↦ decide (due < time)

theorem isEarly_iff {errand : Errand ρ β} {time : ℕ} :
    isEarly time errand = true ↔ ∃ due, errand.stage = .pausing due ∧ due < time := by
  simp only [isEarly, Option.any_eq_true, Errand.due?_eq_some_iff, decide_eq_true_iff]

/-- If there are early pauses, one of them is the first of all pauses to be over. -/
theorem exists_first_due {time : ℕ} {errand : Errand ρ β} (hmem : errand ∈ board.errands)
    (hearly : isEarly time errand = true) :
    ∃ (place : ℕ) (first : Errand ρ β) (due : ℕ), board.errands[place]? = some first ∧
      first.stage = .pausing due ∧ due < time ∧ board.Allows due := by
  classical
  obtain ⟨soon, hpausing, hlt⟩ := isEarly_iff.mp hearly
  have hpauses : ∃ due, ∃ other ∈ board.errands, other.stage = .pausing due :=
    ⟨soon, errand, hmem, hpausing⟩
  obtain ⟨first, hfirst, hdue⟩ := Nat.find_spec hpauses
  obtain ⟨place, hat⟩ := List.mem_iff_getElem?.mp hfirst
  refine ⟨place, first, Nat.find hpauses, hat, hdue, ?_, fun other hother later hlater ↦ ?_⟩
  · exact (Nat.find_min' hpauses ⟨errand, hmem, hpausing⟩).trans_lt hlt
  · exact Nat.find_min' hpauses ⟨other, hother, hlater⟩

/-- What counts is changed at one place to what does not. -/
theorem countP_modify_lt {α : Type} {p : α → Bool} {f : α → α} {x : α} :
    ∀ {xs : List α} {place : ℕ}, xs[place]? = some x → p x = true → p (f x) = false →
      (xs.modify place f).countP p < xs.countP p
  | y :: xs, 0, hat, hold, hnew => by
    obtain rfl : y = x := by simpa using hat
    simp [hold, hnew]
  | y :: xs, place + 1, hat, hold, hnew => by
    have hrest : (xs.modify place f).countP p < xs.countP p :=
      countP_modify_lt (by simpa using hat) hold hnew
    simp only [List.modify_succ_cons, List.countP_cons]
    omega

theorem Tended.now_le (htended : board.Tended policy) {errand : Errand ρ β} {due : ℕ}
    (hat : board.errands[place]? = some errand) (hpausing : errand.stage = .pausing due) :
    board.now ≤ due := by
  obtain ⟨request, begun, other, hother, past, -, hahead⟩ :=
    htended.serves place (List.getElem?_eq_some_iff.mp hat).1
  cases hat.symm.trans hother
  exact hahead due hpausing

theorem run_append (board : Switchboard ρ β) (first later : List (Move ρ β)) :
    board.run (first ++ later) = (board.run first).run later := List.foldl_append

/-- The first pause to be over can be brought to its end. What does not pause so early stays. -/
theorem Tended.exists_run_fewer (htended : board.Tended policy) {time : ℕ} {errand : Errand ρ β}
    (hmem : errand ∈ board.errands) (hearly : isEarly time errand = true) :
    ∃ moves, (board.run moves).now ≤ time ∧
      (board.run moves).errands.countP (isEarly time) < board.errands.countP (isEarly time) ∧
      ∀ (place : ℕ) (other : Errand ρ β), board.errands[place]? = some other →
        isEarly time other = false → (board.run moves).errands[place]? = some other := by
  obtain ⟨place, first, due, hat, hpausing, hlt, hfirst⟩ := exists_first_due hmem hearly
  have hbefore : isEarly time first = true := isEarly_iff.mpr ⟨due, hpausing, hlt⟩
  have hwake : first.wake due = first.resume due := Errand.wake_of_pausing hpausing le_rfl
  have hnext : board.run [.elapse due, .resume place] =
      ({ board with now := due } : Switchboard ρ β).resume place := by
    show (board.elapse due).resume place = _
    rw [elapse_of_allows hfirst, max_eq_right (htended.now_le hat hpausing)]
  refine ⟨[.elapse due, .resume place], ?_, ?_, fun later other hother hlate ↦ ?_⟩
  · rw [hnext]
    exact hlt.le
  · rw [hnext]
    exact countP_modify_lt hat hbefore (by rw [hwake]; rfl)
  · have hne : place ≠ later := by
      rintro rfl
      cases hat.symm.trans hother
      cases hbefore.symm.trans hlate
    rw [hnext]
    exact (List.getElem?_modify_ne _ _ hne).trans hother

/-- The clock can be moved on to any time, if whoever pauses no longer is resumed on the way. The
induction is on how many pause that are early. -/
theorem Tended.exists_run_now (htended : board.Tended policy) {time : ℕ}
    (hle : board.now ≤ time) :
    ∃ moves, (board.run moves).now = time ∧
      ∀ (place : ℕ) (errand : Errand ρ β), board.errands[place]? = some errand →
        isEarly time errand = false → (board.run moves).errands[place]? = some errand := by
  induction hcount : board.errands.countP (isEarly time) using Nat.strong_induction_on
    generalizing board with
  | _ count ih =>
    by_cases hearly : ∃ errand ∈ board.errands, isEarly time errand = true
    · obtain ⟨errand, hmem, hbefore⟩ := hearly
      obtain ⟨first, hnow, hfewer, hfirst⟩ := htended.exists_run_fewer hmem hbefore
      obtain ⟨moves, hmoves, hstays⟩ := ih _ (hcount ▸ hfewer) (htended.run first) hnow rfl
      refine ⟨first ++ moves, by rw [run_append, hmoves], fun place other hother hlate ↦ ?_⟩
      rw [run_append]
      exact hstays place other (hfirst place other hother hlate) hlate
    · have hallows : board.Allows time := by
        intro errand hmem due hpausing
        by_contra hlt
        exact hearly ⟨errand, hmem, isEarly_iff.mpr ⟨due, hpausing, not_le.mp hlt⟩⟩
      refine ⟨[.elapse time], ?_, fun place errand hat _ ↦ ?_⟩
      · show (board.elapse time).now = time
        rw [elapse_of_allows hallows]
        exact max_eq_right hle
      · show (board.elapse time).errands[place]? = some errand
        rw [errands_elapse]
        exact hat

/-- An errand that pauses can be brought to its next call. -/
theorem Tended.exists_run_resumed (htended : board.Tended policy) {errand : Errand ρ β} {due : ℕ}
    (hat : board.errands[place]? = some errand) (hpausing : errand.stage = .pausing due) :
    ∃ moves, (board.run moves).errands[place]? = some (errand.resume due) := by
  have hlate : isEarly due errand = false := by
    rw [Bool.eq_false_iff, Ne, isEarly_iff]
    rintro ⟨other, hother, hlt⟩
    cases hpausing.symm.trans hother
    exact lt_irrefl due hlt
  obtain ⟨moves, hnow, hstays⟩ := htended.exists_run_now (htended.now_le hat hpausing)
  refine ⟨moves ++ [.resume place], ?_⟩
  rw [run_append]
  show ((board.run moves).errands.modify place _)[place]? = _
  rw [List.getElem?_modify_eq, hstays place errand hat hlate, hnow]
  exact congrArg some (Errand.wake_of_pausing hpausing le_rfl)

theorem Tended.exists_run_ended_of_asking (htended : board.Tended policy)
    {outcomes : ℕ → Except SendFailure β} {errand : Errand ρ β}
    (hat : board.errands[place]? = some errand) (hhears : errand.Hears outcomes)
    (hasking : errand.stage = .asking) :
    ∃ moves served, (board.run moves).errands[place]? = some served ∧ served.Hears outcomes ∧
      ∃ outcome time, served.stage = .ended outcome time := by
  induction hleft : errand.trial.left using Nat.strong_induction_on generalizing board errand with
  | _ left ih =>
    let outcome := outcomes errand.answers.length
    have hheard : (board.answer place outcome).errands[place]? =
        some (errand.hear outcome board.now) := by
      show (board.errands.modify place _)[place]? = _
      rw [List.getElem?_modify_eq, hat]
      exact congrArg some (Errand.receive_of_asking hasking outcome board.now)
    have htended' := htended.act (.answer place outcome)
    have hhears' := hhears.hear board.now
    rcases errand.stage_hear outcome board.now with hpausing | hended
    · obtain ⟨first, hfirst⟩ := htended'.exists_run_resumed hheard hpausing
      have hless : ((errand.hear outcome board.now).resume
          (board.now + errand.trial.policy.backoff)).trial.left < left := by
        show (errand.hear outcome board.now).trial.next.left < left
        rw [Errand.trial_hear, ← hleft]
        exact Trial.left_next_lt (Errand.attempt_lt_of_pausing hpausing)
      obtain ⟨moves, served, hserved, hrest⟩ :=
        ih _ hless (htended'.run first) hfirst hhears' rfl rfl
      refine ⟨.answer place outcome :: (first ++ moves), served, ?_, hrest⟩
      show (((board.answer place outcome).run (first ++ moves))).errands[place]? = _
      rw [run_append]
      exact hserved
    · exact ⟨[.answer place outcome], _, hheard, hhears', outcome, board.now, hended⟩

/-- Whatever is still to come of its outcomes, an errand can be brought to its end. -/
theorem Tended.exists_run_ended (htended : board.Tended policy)
    {outcomes : ℕ → Except SendFailure β} {errand : Errand ρ β}
    (hat : board.errands[place]? = some errand) (hhears : errand.Hears outcomes) :
    ∃ moves served, (board.run moves).errands[place]? = some served ∧ served.Hears outcomes ∧
      ∃ outcome time, served.stage = .ended outcome time := by
  cases hstage : errand.stage with
  | ended outcome time => exact ⟨[], errand, hat, hhears, outcome, time, hstage⟩
  | asking => exact htended.exists_run_ended_of_asking hat hhears hstage
  | pausing due =>
    obtain ⟨first, hfirst⟩ := htended.exists_run_resumed hat hstage
    obtain ⟨moves, served, hserved, hrest⟩ :=
      (htended.run first).exists_run_ended_of_asking hfirst hhears rfl
    exact ⟨first ++ moves, served, by rw [run_append, hserved], hrest⟩

end Switchboard

/-! ### Every request begins with all its retries -/

/-- A request by itself is sent once, and again for each loss among its first outcomes as far as
retries go, each time a pause after the answer before; its outcome is the last one. A request of a
service among others, or of one of its clones, is served by its own outcomes in the same way,
whatever was sent before and whatever is on its way at the same time, and there is always a way to
its end. -/
theorem RetryPolicy.retried_afresh (policy : RetryPolicy) :
    (∀ (service : Service ρ β σ) (request : ρ) (time : ℕ) (state : σ),
      let course := policy.send service request time state
      let outcomes := service.outcomes request state
      (course.calls.length : ℕ∞) =
          1 + min (policy.retries.toNat : ℕ∞) (leadingLosses outcomes) ∧
        course.calls = ((List.range course.calls.length).map fun i ↦
          (request, time + i * policy.backoff)) ∧
        course.outcome = outcomes (course.calls.length - 1) ∧
        course.time = time + (course.calls.length - 1) * policy.backoff ∧
        course.errand.trial.attempt.toNat + 1 = course.calls.length) ∧
    ∀ (start : ℕ) (before : List (Move ρ β)) (service : ℕ) (request : ρ)
      (after : List (Move ρ β)),
      let board := (Switchboard.opened policy start).run before
      let called := board.call service request
      let place := board.errands.length
      service < board.services.length →
        ∃ errand, (called.run after).errands[place]? = some errand ∧
          ∀ outcomes, errand.Hears outcomes →
            errand.Obeys policy request board.now outcomes ∧
              ∃ more served, (called.run (after ++ more)).errands[place]? = some served ∧
                served.Hears outcomes ∧ ∃ outcome time, served.stage = .ended outcome time := by
  constructor
  · intro service request time state course outcomes
    obtain ⟨last, hends⟩ := policy.exists_send_ends service request time state
    have hobeys := hends.keeps.obeys hends.hears
    obtain ⟨hcount, -, -, houtcome⟩ := hobeys.ended _ _ hends.stage_eq
    have hcalls : course.calls.length = last + 1 := by
      show course.errand.asked.length = last + 1
      rw [hends.keeps.length_asked, length_history]
    refine ⟨hcount, ?_, houtcome, ?_, hobeys.counted⟩
    · rw [hcalls, ← sentAgain_history policy request time outcomes]
      exact hends.keeps.asked_eq
    · rw [hcalls, Nat.add_sub_cancel]
      exact hends.time_eq
  · intro start before service request after board called place hservice
    have htended : board.Tended policy := (Switchboard.tended_opened policy start).run before
    have hserves := (htended.fresh.serves_call hservice request).run after
    obtain ⟨errand, hat, past, hkeeps, -⟩ := hserves
    refine ⟨errand, hat, fun outcomes hhears ↦ ⟨hkeeps.obeys hhears, ?_⟩⟩
    obtain ⟨more, served, hserved, hrest⟩ :=
      ((htended.act (.call service request)).run after).exists_run_ended hat hhears
    exact ⟨more, served, by rw [Switchboard.run_append]; exact hserved, hrest⟩

/-- A request of a clone, called while the service it is a clone of waits to send its own again, is
lost once and then answered. -/
theorem RetryPolicy.retried_afresh_clone :
    let before : List (Move String Unit) :=
      [.call 0 "first", .answer 0 (.error .gone), .clone 0, .elapse 4]
    let board := (Switchboard.opened ⟨10, 1⟩ 0).run before
    let after : List (Move String Unit) :=
      [.answer 1 (.error .gone), .elapse 10, .resume 0, .elapse 14, .resume 1, .answer 1 (.ok ())]
    let outcomes : ℕ → Except SendFailure Unit := fun i ↦ if i = 0 then .error .gone else .ok ()
    1 < board.services.length ∧
      ∃ errand, ((board.call 1 "second").run after).errands[board.errands.length]? = some errand ∧
        errand.asked = [("second", 4), ("second", 14)] ∧ errand.Hears outcomes ∧
        errand.Obeys ⟨10, 1⟩ "second" 4 outcomes := by
  intro before board after outcomes
  have hservice : 1 < board.services.length := by decide
  obtain ⟨errand, hat, hserved⟩ :=
    (@retried_afresh String Unit Unit ⟨10, 1⟩).2 0 before 1 "second" after hservice
  have hanswers : errand.answers = [(.error .gone, 4), (.ok (), 14)] := by
    cases hat
    rfl
  have hhears : errand.Hears outcomes := by
    intro i answer hanswer
    rw [hanswers] at hanswer
    rcases i with _ | _ | i
    · cases hanswer
      rfl
    · cases hanswer
      rfl
    · cases hanswer
  refine ⟨hservice, errand, hat, ?_, hhears, (hserved outcomes hhears).1⟩
  cases hat
  rfl

end RollupLedger
