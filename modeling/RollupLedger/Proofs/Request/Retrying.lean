import RollupLedger.Proofs.Word
import RollupLedger.Request.Retry
import Mathlib.Data.ENat.Lattice

/-!
# Requests that are sent again

What becomes of a request depends on its own outcomes only. `Errand.Keeps` says so for an errand
that is on its way: the answers in its past were all losses, each was followed by one more call a
pause later, and the trial has counted them. The steps of an errand keep it (`Keeps.hear`,
`Keeps.resume`). From it follows how many calls there are: one, and one more for each loss among the
first outcomes, as far as retries go (`Errand.Obeys`). By itself, an errand comes to such an end
(`RetryPolicy.exists_send_ends`).
-/

set_option autoImplicit false
set_option relaxedAutoImplicit false

namespace RollupLedger

variable {ρ β σ : Type}

/-- The request did not reach the node. -/
def Lost (outcome : Except SendFailure β) : Prop := ∃ text, outcome = .error (.transport text)

/-- How many outcomes come before the first that is no loss; infinitely many if all are losses. -/
noncomputable def leadingLosses (outcomes : ℕ → Except SendFailure β) : ℕ∞ :=
  ⨅ (i : ℕ) (_ : ¬ Lost (outcomes i)), (i : ℕ∞)

theorem le_leadingLosses {outcomes : ℕ → Except SendFailure β} {n : ℕ}
    (hlost : ∀ i < n, Lost (outcomes i)) : (n : ℕ∞) ≤ leadingLosses outcomes := by
  refine le_iInf₂ fun i hfound ↦ Nat.cast_le.mpr ?_
  by_contra hlt
  exact hfound (hlost i (by omega))

theorem leadingLosses_le {outcomes : ℕ → Except SendFailure β} {n : ℕ}
    (hfound : ¬ Lost (outcomes n)) : leadingLosses outcomes ≤ n := iInf₂_le n hfound

/-- A number of losses after which no retry follows is the most that both the outcomes and the
retries allow. -/
theorem eq_min_leadingLosses {outcomes : ℕ → Except SendFailure β} {n retries : ℕ}
    (hwithin : n ≤ retries) (hlost : ∀ i < n, Lost (outcomes i))
    (hfinal : ¬ (Lost (outcomes n) ∧ n < retries)) :
    (n : ℕ∞) = min (retries : ℕ∞) (leadingLosses outcomes) := by
  refine le_antisymm (le_min (Nat.cast_le.mpr hwithin) (le_leadingLosses hlost)) ?_
  by_cases hnext : Lost (outcomes n)
  · have hspent : retries ≤ n := not_lt.mp fun hlt ↦ hfinal ⟨hnext, hlt⟩
    exact (min_le_left _ _).trans (Nat.cast_le.mpr hspent)
  · exact (min_le_right _ _).trans (leadingLosses_le hnext)

theorem Trial.retries_iff {trial : Trial} {outcome : Except SendFailure β} :
    trial.retries outcome = true ↔
      Lost outcome ∧ trial.attempt.toNat < trial.policy.retries.toNat := by
  rcases outcome with failure | response
  · cases failure with
    | transport text =>
      simp only [retries, SendFailure.isRetried, Bool.true_and, decide_eq_true_iff]
      exact ⟨fun hlt ↦ ⟨⟨text, rfl⟩, hlt⟩, fun h ↦ h.2⟩
    | usage text => simp [retries, SendFailure.isRetried, Lost]
  · simp [retries, Lost]

/-! ### One errand -/

/-- The calls that follow answers, each a pause after its answer. -/
def sentAgain (policy : RetryPolicy) (request : ρ) (past : List (Except SendFailure β × ℕ)) :
    List (ρ × ℕ) :=
  past.map fun answer ↦ (request, answer.2 + policy.backoff)

/-- Where an errand stands by its answers, of which those of the past were followed by a call. -/
inductive Stands (policy : RetryPolicy) (past : List (Except SendFailure β × ℕ)) :
    Stage β → List (Except SendFailure β × ℕ) → Prop
  | asking : Stands policy past .asking past
  | pausing {outcome : Except SendFailure β} {time : ℕ} (hlost : Lost outcome)
      (hroom : past.length < policy.retries.toNat) :
      Stands policy past (.pausing (time + policy.backoff)) (past ++ [(outcome, time)])
  | ended {outcome : Except SendFailure β} {time : ℕ}
      (hfinal : ¬ (Lost outcome ∧ past.length < policy.retries.toNat)) :
      Stands policy past (.ended outcome time) (past ++ [(outcome, time)])

namespace Errand

/-- An errand that began at a time with all retries, and has had one for each answer of its past. -/
structure Keeps (policy : RetryPolicy) (request : ρ) (begun : ℕ) (errand : Errand ρ β)
    (past : List (Except SendFailure β × ℕ)) : Prop where
  request_eq : errand.request = request
  policy_eq : errand.trial.policy = policy
  asked_eq : errand.asked = (request, begun) :: sentAgain policy request past
  attempt_eq : errand.trial.attempt.toNat = past.length
  within : past.length ≤ policy.retries.toNat
  lost : ∀ answer ∈ past, Lost answer.1
  stands : Stands policy past errand.stage errand.answers

variable {policy : RetryPolicy} {request : ρ} {begun time due : ℕ} {errand : Errand ρ β}
  {past : List (Except SendFailure β × ℕ)} {outcome : Except SendFailure β}

theorem keeps_begin (policy : RetryPolicy) (request : ρ) (time : ℕ) :
    Keeps policy request time (begin (β := β) (.fresh policy) request time) [] where
  request_eq := rfl
  policy_eq := rfl
  asked_eq := rfl
  attempt_eq := rfl
  within := Nat.zero_le _
  lost := by simp
  stands := .asking

theorem hear_of_retries (hretries : errand.trial.retries outcome = true) :
    errand.hear outcome time =
      { errand with
        answers := errand.answers ++ [(outcome, time)]
        events := errand.events ++ errand.trial.remarks outcome
        stage := .pausing (time + errand.trial.policy.backoff) } := if_pos hretries

theorem hear_of_final (hfinal : ¬ errand.trial.retries outcome = true) :
    errand.hear outcome time =
      { errand with
        answers := errand.answers ++ [(outcome, time)]
        stage := .ended outcome time } := if_neg hfinal

theorem answers_hear (errand : Errand ρ β) (outcome : Except SendFailure β) (time : ℕ) :
    (errand.hear outcome time).answers = errand.answers ++ [(outcome, time)] := by
  by_cases hretries : errand.trial.retries outcome = true
  · rw [hear_of_retries hretries]
  · rw [hear_of_final hretries]

theorem stage_hear (errand : Errand ρ β) (outcome : Except SendFailure β) (time : ℕ) :
    (errand.hear outcome time).stage = .pausing (time + errand.trial.policy.backoff) ∨
      (errand.hear outcome time).stage = .ended outcome time := by
  by_cases hretries : errand.trial.retries outcome = true
  · rw [hear_of_retries hretries]
    exact .inl rfl
  · rw [hear_of_final hretries]
    exact .inr rfl

namespace Keeps

theorem retries_iff (hkeeps : Keeps policy request begun errand past) :
    errand.trial.retries outcome = true ↔
      Lost outcome ∧ past.length < policy.retries.toNat := by
  rw [Trial.retries_iff, hkeeps.attempt_eq, hkeeps.policy_eq]

theorem answers_of_asking (hkeeps : Keeps policy request begun errand past)
    (hasking : errand.stage = .asking) : errand.answers = past := by
  have hstands := hkeeps.stands
  rw [hasking] at hstands
  generalize errand.answers = answers at hstands ⊢
  cases hstands
  rfl

theorem exists_of_pausing (hkeeps : Keeps policy request begun errand past)
    (hpausing : errand.stage = .pausing due) :
    ∃ outcome time, errand.answers = past ++ [(outcome, time)] ∧ Lost outcome ∧
      past.length < policy.retries.toNat ∧ due = time + policy.backoff := by
  have hstands := hkeeps.stands
  rw [hpausing] at hstands
  generalize errand.answers = answers at hstands ⊢
  cases hstands with
  | pausing hlost hroom => exact ⟨_, _, rfl, hlost, hroom, rfl⟩

theorem final_of_ended (hkeeps : Keeps policy request begun errand past)
    (hended : errand.stage = .ended outcome time) :
    errand.answers = past ++ [(outcome, time)] ∧
      ¬ (Lost outcome ∧ past.length < policy.retries.toNat) := by
  have hstands := hkeeps.stands
  rw [hended] at hstands
  generalize errand.answers = answers at hstands ⊢
  cases hstands with
  | ended hfinal => exact ⟨rfl, hfinal⟩

/-- An answer leaves the past as it is: whether it belongs to it is open until the next call. -/
theorem hear (hkeeps : Keeps policy request begun errand past)
    (hasking : errand.stage = .asking) (outcome : Except SendFailure β) (time : ℕ) :
    Keeps policy request begun (errand.hear outcome time) past := by
  have hanswers := hkeeps.answers_of_asking hasking
  by_cases hretries : errand.trial.retries outcome = true
  · obtain ⟨hlost, hroom⟩ := hkeeps.retries_iff.mp hretries
    rw [hear_of_retries hretries]
    refine { hkeeps with stands := ?_ }
    rw [hanswers, hkeeps.policy_eq]
    exact .pausing hlost hroom
  · rw [hear_of_final hretries]
    refine { hkeeps with stands := ?_ }
    rw [hanswers]
    exact .ended fun h ↦ hretries (hkeeps.retries_iff.mpr h)

/-- A retry puts the last answer into the past, and counts it. -/
theorem resume (hkeeps : Keeps policy request begun errand past)
    (hpausing : errand.stage = .pausing due) :
    Keeps policy request begun (errand.resume due) errand.answers := by
  obtain ⟨outcome, time, hanswers, hlost, hroom, rfl⟩ := hkeeps.exists_of_pausing hpausing
  have hcount : errand.trial.next.attempt.toNat = errand.trial.attempt.toNat + 1 := by
    apply Trial.toNat_attempt_next
    rw [hkeeps.attempt_eq, hkeeps.policy_eq]
    exact hroom
  refine ⟨hkeeps.request_eq, hkeeps.policy_eq, ?_, ?_, ?_, ?_, .asking⟩
  · show errand.asked ++ [(errand.request, time + policy.backoff)] = _
    rw [hkeeps.asked_eq, hkeeps.request_eq, hanswers]
    simp only [sentAgain, List.map_append, List.map_cons, List.map_nil, List.cons_append]
  · show errand.trial.next.attempt.toNat = errand.answers.length
    rw [hcount, hkeeps.attempt_eq, hanswers, List.length_append, List.length_singleton]
  · rw [hanswers, List.length_append, List.length_singleton]
    exact hroom
  · rw [hanswers]
    intro answer hmem
    rcases List.mem_append.mp hmem with hold | hnew
    · exact hkeeps.lost answer hold
    · rw [List.mem_singleton.mp hnew]
      exact hlost

end Keeps

/-! ### What an errand comes to -/

/-- The outcomes that an errand has heard are the first of a sequence. -/
def Hears (outcomes : ℕ → Except SendFailure β) (errand : Errand ρ β) : Prop :=
  ∀ (i : ℕ) (answer : Except SendFailure β × ℕ),
    errand.answers[i]? = some answer → answer.1 = outcomes i

theorem Hears.hear {outcomes : ℕ → Except SendFailure β} (hhears : errand.Hears outcomes)
    (time : ℕ) : (errand.hear (outcomes errand.answers.length) time).Hears outcomes := by
  intro i answer hanswer
  rw [answers_hear] at hanswer
  rcases Nat.lt_trichotomy i errand.answers.length with hold | rfl | hbeyond
  · rw [List.getElem?_append_left hold] at hanswer
    exact hhears i answer hanswer
  · rw [List.getElem?_concat_length] at hanswer
    cases hanswer
    rfl
  · rw [List.getElem?_eq_none (by rw [List.length_append, List.length_singleton]; omega)] at hanswer
    cases hanswer

/-- How an errand for a request stands that began with all its retries. -/
structure Obeys (policy : RetryPolicy) (request : ρ) (begun : ℕ)
    (outcomes : ℕ → Except SendFailure β) (errand : Errand ρ β) : Prop where
  /-- Every call is for the request: the first at once, each other one a pause after the answer to
  the one before. -/
  asked_eq : errand.asked =
    (request, begun) :: sentAgain policy request (errand.answers.take errand.trial.attempt.toNat)
  /-- The calls are counted as they are, the first apart. -/
  counted : errand.trial.attempt.toNat + 1 = errand.asked.length
  within : errand.trial.attempt ≤ policy.retries
  atMost : (errand.asked.length : ℕ∞) ≤
    1 + min (policy.retries.toNat : ℕ∞) (leadingLosses outcomes)
  /-- A pause begins with an answer and is followed by a call that can still be counted. -/
  pausing : ∀ due, errand.stage = .pausing due → errand.trial.attempt < policy.retries ∧
    ∃ outcome time, errand.answers.getLast? = some (outcome, time) ∧ due = time + policy.backoff
  /-- The end comes with the answer to the last call. -/
  ended : ∀ outcome time, errand.stage = .ended outcome time →
    (errand.asked.length : ℕ∞) = 1 + min (policy.retries.toNat : ℕ∞) (leadingLosses outcomes) ∧
      errand.answers.length = errand.asked.length ∧
      errand.answers.getLast? = some (outcome, time) ∧
      outcome = outcomes (errand.asked.length - 1)

namespace Keeps

variable {outcomes : ℕ → Except SendFailure β}

theorem length_asked (hkeeps : Keeps policy request begun errand past) :
    errand.asked.length = past.length + 1 := by
  rw [hkeeps.asked_eq, sentAgain, List.length_cons, List.length_map]

theorem isPrefix (hkeeps : Keeps policy request begun errand past) :
    past <+: errand.answers := by
  have hstands := hkeeps.stands
  generalize errand.answers = answers, errand.stage = stage at hstands ⊢
  cases hstands with
  | asking => exact List.prefix_rfl
  | pausing => exact List.prefix_append _ _
  | ended => exact List.prefix_append _ _

theorem lost_outcomes (hkeeps : Keeps policy request begun errand past)
    (hhears : errand.Hears outcomes) : ∀ i < past.length, Lost (outcomes i) := by
  intro i hi
  have hheard : errand.answers[i]? = some past[i] := by
    obtain ⟨later, hlater⟩ := hkeeps.isPrefix
    rw [← hlater, List.getElem?_append_left hi, List.getElem?_eq_getElem hi]
  rw [← hhears i past[i] hheard]
  exact hkeeps.lost _ (List.getElem_mem hi)

/-- An errand ends when there are no more losses among its outcomes, or no more retries. -/
theorem length_past_of_ended (hkeeps : Keeps policy request begun errand past)
    (hhears : errand.Hears outcomes) (hended : errand.stage = .ended outcome time) :
    outcome = outcomes past.length ∧
      (past.length : ℕ∞) = min (policy.retries.toNat : ℕ∞) (leadingLosses outcomes) := by
  obtain ⟨hanswers, hfinal⟩ := hkeeps.final_of_ended hended
  have hlast : outcome = outcomes past.length := by
    refine hhears past.length (outcome, time) ?_
    rw [hanswers, List.getElem?_concat_length]
  exact ⟨hlast, eq_min_leadingLosses hkeeps.within (hkeeps.lost_outcomes hhears) (hlast ▸ hfinal)⟩

theorem obeys (hkeeps : Keeps policy request begun errand past)
    (hhears : errand.Hears outcomes) : Obeys policy request begun outcomes errand := by
  have htake : errand.answers.take errand.trial.attempt.toNat = past := by
    rw [hkeeps.attempt_eq]
    exact (List.prefix_iff_eq_take.mp hkeeps.isPrefix).symm
  have hlost := hkeeps.lost_outcomes hhears
  refine ⟨?_, ?_, ?_, ?_, ?_, ?_⟩
  · rw [htake]
    exact hkeeps.asked_eq
  · rw [hkeeps.attempt_eq, hkeeps.length_asked]
  · show errand.trial.attempt.toNat ≤ policy.retries.toNat
    rw [hkeeps.attempt_eq]
    exact hkeeps.within
  · rw [hkeeps.length_asked, add_comm, Nat.cast_add, Nat.cast_one]
    gcongr
    exact le_min (Nat.cast_le.mpr hkeeps.within) (le_leadingLosses hlost)
  · intro due hpausing
    obtain ⟨outcome, time, hanswers, -, hroom, hdue⟩ := hkeeps.exists_of_pausing hpausing
    refine ⟨?_, outcome, time, ?_, hdue⟩
    · show errand.trial.attempt.toNat < policy.retries.toNat
      rw [hkeeps.attempt_eq]
      exact hroom
    · rw [hanswers, List.getLast?_concat]
  · intro outcome time hended
    obtain ⟨hanswers, -⟩ := hkeeps.final_of_ended hended
    obtain ⟨hlast, hcount⟩ := hkeeps.length_past_of_ended hhears hended
    refine ⟨?_, ?_, ?_, ?_⟩
    · rw [hkeeps.length_asked, add_comm, Nat.cast_add, Nat.cast_one, hcount]
    · rw [hanswers, hkeeps.length_asked, List.length_append, List.length_singleton]
    · rw [hanswers, List.getLast?_concat]
    · rw [hkeeps.length_asked, Nat.add_sub_cancel]
      exact hlast

end Keeps

end Errand

/-! ### An errand by itself -/

namespace Service

/-- The state of a service that was asked the same again and again. -/
def stateAfter (service : Service ρ β σ) (request : ρ) (state : σ) : ℕ → σ
  | 0 => state
  | n + 1 => (service request (service.stateAfter request state n)).2

/-- The outcomes that a service brings when it is asked the same again and again. -/
def outcomes (service : Service ρ β σ) (request : ρ) (state : σ) (n : ℕ) : Except SendFailure β :=
  (service request (service.stateAfter request state n)).1

end Service

/-- The first answers of a service that answers at once, when it is asked after every pause. -/
def history (policy : RetryPolicy) (begun : ℕ) (outcomes : ℕ → Except SendFailure β) (n : ℕ) :
    List (Except SendFailure β × ℕ) :=
  (List.range n).map fun i ↦ (outcomes i, begun + i * policy.backoff)

theorem history_succ (policy : RetryPolicy) (begun : ℕ) (outcomes : ℕ → Except SendFailure β)
    (n : ℕ) : history policy begun outcomes (n + 1) =
      history policy begun outcomes n ++ [(outcomes n, begun + n * policy.backoff)] := by
  simp only [history, List.range_succ, List.map_append, List.map_cons, List.map_nil]

theorem length_history (policy : RetryPolicy) (begun : ℕ)
    (outcomes : ℕ → Except SendFailure β) (n : ℕ) :
    (history policy begun outcomes n).length = n := by
  rw [history, List.length_map, List.length_range]

theorem outcome_of_mem_history {policy : RetryPolicy} {begun : ℕ}
    {outcomes : ℕ → Except SendFailure β} {n i : ℕ} {answer : Except SendFailure β × ℕ}
    (hanswer : (history policy begun outcomes n)[i]? = some answer) :
    answer.1 = outcomes i := by
  obtain ⟨hi, rfl⟩ := List.getElem?_eq_some_iff.mp hanswer
  simp only [history, List.getElem_map, List.getElem_range]

/-- Where answers take no time, calls are a pause apart. -/
theorem sentAgain_history (policy : RetryPolicy) (request : ρ) (begun : ℕ)
    (outcomes : ℕ → Except SendFailure β) (n : ℕ) :
    (request, begun) :: sentAgain policy request (history policy begun outcomes n) =
      (List.range (n + 1)).map fun i ↦ (request, begun + i * policy.backoff) := by
  rw [List.range_succ_eq_map, List.map_cons, Nat.zero_mul, Nat.add_zero, sentAgain, history,
    List.map_map, List.map_map]
  congr 1
  refine List.map_congr_left fun i _ ↦ ?_
  simp only [Function.comp_apply, Nat.succ_eq_add_one, Nat.add_one_mul, Nat.add_assoc]

namespace Errand

variable {policy : RetryPolicy} {request : ρ} {begun time due : ℕ} {errand : Errand ρ β}
  {outcome : Except SendFailure β} {service : Service ρ β σ} {state next : σ}

theorem drive_of_pausing (hservice : service errand.request state = (outcome, next))
    (hpausing : (errand.hear outcome time).stage = .pausing due) :
    errand.drive service time state =
      ((errand.hear outcome time).resume due).drive service due next := by
  rw [drive, hservice]
  simp only
  split
  · rename_i hsame
    cases hpausing.symm.trans hsame
    rfl
  · rename_i hnot
    exact absurd hpausing (hnot due)

theorem drive_of_ended {last : Except SendFailure β} {stop : ℕ}
    (hservice : service errand.request state = (outcome, next))
    (hended : (errand.hear outcome time).stage = .ended last stop) :
    errand.drive service time state = ⟨outcome, errand.hear outcome time, time, next⟩ := by
  rw [drive, hservice]
  simp only
  split
  · rename_i hpausing
    cases hended.symm.trans hpausing
  · rfl

end Errand

/-- How a request went that was sent by itself and came to its end with the answer at a place. -/
structure Course.Ends (policy : RetryPolicy) (service : Service ρ β σ) (request : ρ) (begun : ℕ)
    (start : σ) (course : Course ρ β σ) (last : ℕ) : Prop where
  keeps : course.errand.Keeps policy request begun
    (history policy begun (service.outcomes request start) last)
  stage_eq : course.errand.stage = .ended course.outcome course.time
  outcome_eq : course.outcome = service.outcomes request start last
  time_eq : course.time = begun + last * policy.backoff
  state_eq : course.state = service.stateAfter request start (last + 1)

/-- The induction follows the calls: each makes the past one answer longer. -/
theorem Errand.exists_ends (policy : RetryPolicy) (service : Service ρ β σ) (request : ρ)
    (begun : ℕ) (start : σ) (errand : Errand ρ β) (time : ℕ) (state : σ) :
    ∀ n, errand.Keeps policy request begun
        (history policy begun (service.outcomes request start) n) →
      errand.stage = .asking → time = begun + n * policy.backoff →
      state = service.stateAfter request start n →
      ∃ last, (errand.drive service time state).Ends policy service request begun start last := by
  induction errand, time, state using Errand.drive.induct service with
  | case1 errand time state outcome next hservice heard due hpausing ih =>
    rintro n hkeeps hasking rfl rfl
    have hanswer : service request (service.stateAfter request start n) = (outcome, next) := by
      rw [← hservice, hkeeps.request_eq]
    have hanswers : heard.answers =
        history policy begun (service.outcomes request start) (n + 1) := by
      rw [answers_hear, hkeeps.answers_of_asking hasking, history_succ, Service.outcomes, hanswer]
    have hdue : due = begun + (n + 1) * policy.backoff := by
      have hstage := hkeeps.policy_eq ▸ stage_hear errand outcome (begun + n * policy.backoff)
      rcases hstage with hpause | hended
      · cases hpausing.symm.trans hpause
        rw [Nat.add_one_mul, Nat.add_assoc]
      · cases hpausing.symm.trans hended
    have hheard := hkeeps.hear hasking outcome (begun + n * policy.backoff)
    rw [drive_of_pausing hservice hpausing]
    exact ih (n + 1) (hanswers ▸ hheard.resume hpausing) rfl hdue (congrArg Prod.snd hanswer).symm
  | case2 errand time state outcome next hservice heard hnot =>
    rintro n hkeeps hasking rfl rfl
    have hanswer : service request (service.stateAfter request start n) = (outcome, next) := by
      rw [← hservice, hkeeps.request_eq]
    have hended : heard.stage = .ended outcome (begun + n * policy.backoff) :=
      (stage_hear errand outcome _).resolve_left (hnot _)
    rw [drive_of_ended hservice hended]
    exact ⟨n, hkeeps.hear hasking outcome _, hended, (congrArg Prod.fst hanswer).symm, rfl,
      (congrArg Prod.snd hanswer).symm⟩

/-- A request that is sent by itself comes to an end. -/
theorem RetryPolicy.exists_send_ends (policy : RetryPolicy) (service : Service ρ β σ)
    (request : ρ) (time : ℕ) (state : σ) :
    ∃ last, (policy.send service request time state).Ends policy service request time state
      last := by
  refine Errand.exists_ends policy service request time state _ time state 0 ?_ rfl ?_ rfl
  · exact Errand.keeps_begin policy request time
  · rw [Nat.zero_mul, Nat.add_zero]

theorem Course.Ends.hears {policy : RetryPolicy} {service : Service ρ β σ} {request : ρ}
    {begun : ℕ} {start : σ} {course : Course ρ β σ} {last : ℕ}
    (hends : course.Ends policy service request begun start last) :
    course.errand.Hears (service.outcomes request start) := by
  intro i answer hanswer
  rw [(hends.keeps.final_of_ended hends.stage_eq).1, hends.outcome_eq, hends.time_eq,
    ← history_succ] at hanswer
  exact outcome_of_mem_history hanswer

end RollupLedger
