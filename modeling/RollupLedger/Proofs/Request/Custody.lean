import RollupLedger.Proofs.Request.Stake
import RollupLedger.Proofs.Request.Steps

/-!
# Tasks keep what they hold

Every step of a job, a lane, a run or a task is a passage of its own stake: tickets are held by the
slots that wait with them or that were sent under them, and by the guards that wait for or hold
units; traces are held by what is on its way. Whatever ends a run, a result, an error or giving it
up, leaves it with nothing.

Which traces may be asked for under how many units is a condition on plans (`Plan.Fits`), which is
carried along. Without a condition a passage is a trade of tickets, and so the tickets of the gate
are always those of the tasks (`System.Kept`).
-/

set_option autoImplicit false
set_option relaxedAutoImplicit false

namespace RollupLedger

open World

variable {σ α β : Type} {allowed : Nat → Nat → Prop} {capacity : Nat} (w : World σ)
  (block : Option String)

/-- No condition on how many traces are asked for. -/
def Anything (_traces _units : Nat) : Prop := True

/-! ### Jobs -/

/-- The units that a job has to be granted. -/
def Job.share (capacity : Nat) (job : Job) : Nat := max 1 (min (job.units.getD 0) capacity)

/-- The traces of a job are allowed under its units. -/
structure Job.Fits (allowed : Nat → Nat → Prop) (capacity : Nat) (job : Job) : Prop where
  admitted : allowed (Request.batch job.calls).traces (job.share capacity)
  unpaid : job.units = none → allowed (Request.batch job.calls).traces 0

theorem Job.fits_anything (job : Job) : job.Fits Anything capacity := ⟨trivial, fun _ ↦ trivial⟩

theorem World.passage_sendJob (job : Job) {mine mine₁ : Stake}
    (hdeparts : Departs allowed (Request.batch job.calls).traces mine mine₁) :
    Passage allowed capacity w (w.sendJob block job).2 mine mine₁ := by
  obtain ⟨units, batched, calls⟩ := job
  cases batched with
  | true => exact .step (.batch w block calls hdeparts)
  | false =>
    cases calls with
    | nil => exact .step (.batch w block [] hdeparts)
    | cons c rest =>
      cases rest with
      | nil => exact .step (.call w block c hdeparts)
      | cons other others => exact .step (.batch w block _ hdeparts)

namespace Slot

variable {job : Job}

def stake (capacity : Nat) (job : Job) : Slot → Stake
  | idle => ∅
  | waiting ticket => ⟨[.queued ⟨ticket, job.share capacity⟩]⟩
  | flying flight _ => flight.stake (job.share capacity)
  | finished _ => ∅

theorem passage_launch {ticket : Option Nat} {mine : Stake}
    (hdeparts : ∀ due, Departs allowed (Request.batch job.calls).traces mine
      (Flight.stake (job.share capacity) ⟨ticket, (Request.batch job.calls).traces, due⟩)) :
    Passage allowed capacity w (launch w block job ticket).2 mine
      ((launch w block job ticket).1.stake capacity job) := by
  unfold launch
  simp only
  split
  · exact (passage_sendJob w block job (hdeparts _)).trans (.step (.land _ _ _))
  · exact passage_sendJob w block job (hdeparts _)

/-- A job with a ticket that is found to be admitted is sent. -/
theorem passage_granted (hfits : job.Fits allowed capacity) {ticket : Nat}
    (hadmitted : w.gate.isAdmitted ticket = true) :
    Passage allowed capacity w (launch w block job (some ticket)).2
      ⟨[.queued ⟨ticket, job.share capacity⟩]⟩
      ((launch w block job (some ticket)).1.stake capacity job) := by
  have hgrant : Passage allowed capacity w w ⟨[.queued ⟨ticket, job.share capacity⟩]⟩ _ :=
    .step (.grant w ⟨ticket, job.share capacity⟩ hadmitted)
  exact hgrant.trans (passage_launch w block fun _ ↦ .flown ⟨ticket, _⟩ hfits.admitted)

theorem passage_enter (hfits : job.Fits allowed capacity) {units : Nat}
    (hunits : job.units = some units) :
    Passage allowed capacity w (enter w block job units).2 ∅
      ((enter w block job units).1.stake capacity job) := by
  have hshare : max 1 (min units capacity) = job.share capacity := by simp [Job.share, hunits]
  have hacquire : Passage allowed capacity w { w with gate := (w.gate.acquire units).2 } ∅
      ⟨[.queued ⟨(w.gate.acquire units).1, job.share capacity⟩]⟩ :=
    hshare ▸ .step (.acquire w units)
  unfold enter
  simp only
  split
  · rename_i hadmitted
    exact hacquire.trans (passage_granted _ block hfits hadmitted)
  · exact hacquire

theorem passage_poll (hfits : job.Fits allowed capacity) (slot : Slot) :
    Passage allowed capacity w (slot.poll w block job).2 (slot.stake capacity job)
      ((slot.poll w block job).1.stake capacity job) := by
  cases slot with
  | idle =>
    cases hunits : job.units with
    | none =>
      simp only [poll, hunits]
      exact passage_launch w block fun _ ↦ .loose (hfits.unpaid hunits)
    | some units =>
      simp only [poll, hunits]
      exact passage_enter w block hfits hunits
  | waiting ticket =>
    by_cases hadmitted : w.gate.isAdmitted ticket = true
    · rw [poll, if_pos hadmitted]
      exact passage_granted w block hfits hadmitted
    · rw [poll, if_neg hadmitted]
      exact .refl w _
  | flying flight reply =>
    by_cases hdue : flight.due ≤ w.now
    · rw [poll, if_pos hdue]
      exact .step (.land w flight _)
    · rw [poll, if_neg hdue]
      exact .refl w _
  | finished reply => exact .refl w ∅

theorem passage_drop (job : Job) (slot : Slot) :
    Passage allowed capacity w (slot.drop w) (slot.stake capacity job) ∅ := by
  cases slot with
  | idle => exact .refl w ∅
  | waiting ticket => exact .step (.release w ⟨ticket, job.share capacity⟩)
  | flying flight reply => exact .step (.land w flight _)
  | finished reply => exact .refl w ∅

theorem trade_poll (job : Job) (slot : Slot) :
    Trade capacity w (slot.poll w block job).2 (slot.stake capacity job)
      ((slot.poll w block job).1.stake capacity job) :=
  (passage_poll w block job.fits_anything slot).trade

theorem stake_of_reply? {slot : Slot} {reply : BatchReply} (hreply : slot.reply? = some reply) :
    slot.stake capacity job = ∅ := by
  cases slot with
  | finished _ => rfl
  | _ => cases hreply

end Slot

/-! ### Lanes -/

namespace LaneRun

def slotsStake (capacity : Nat) (slots : List (Job × Slot)) : Stake :=
  .all (slots.map fun s ↦ s.2.stake capacity s.1)

def stake (capacity : Nat) (run : LaneRun) : Stake := slotsStake capacity run.slots

def SlotsFit (allowed : Nat → Nat → Prop) (capacity : Nat) (slots : List (Job × Slot)) : Prop :=
  ∀ job ∈ slots.map Prod.fst, job.Fits allowed capacity

def Fits (allowed : Nat → Nat → Prop) (capacity : Nat) (run : LaneRun) : Prop :=
  SlotsFit allowed capacity run.slots

theorem slotsFit_anything (slots : List (Job × Slot)) : SlotsFit Anything capacity slots :=
  fun job _ ↦ job.fits_anything

theorem fits_start {lane : Lane} (hfits : ∀ job ∈ lane.jobs, job.Fits allowed capacity) :
    (start lane).Fits allowed capacity := by
  intro job hjob
  simp only [start, List.map_map] at hjob
  exact hfits job (by simpa [Function.comp_def] using hjob)

theorem fits_poll {run : LaneRun} (hfits : run.Fits allowed capacity) :
    (run.poll w block).1.Fits allowed capacity := by
  unfold Fits SlotsFit
  rw [slots_poll, map_fst_pollSlots]
  exact hfits

theorem passage_pollSlots (reject : Job → BatchReply → Option ClientError) (isOpen : Bool)
    {slots : List (Job × Slot)} (hfits : SlotsFit allowed capacity slots) :
    Passage allowed capacity w (pollSlots reject block isOpen w slots).2.2
      (slotsStake capacity slots)
      (slotsStake capacity (pollSlots reject block isOpen w slots).1) := by
  revert hfits
  refine pollSlots_rec (motive := fun _ w slots polled ↦ SlotsFit allowed capacity slots →
    Passage allowed capacity w polled.2.2 (slotsStake capacity slots)
      (slotsStake capacity polled.1)) ?_ ?_ ?_ isOpen w slots
  · exact fun _ w _ ↦ .refl w _
  · intro w job slot rest reply e _ _ hfits
    exact (slot.passage_poll w block (hfits job List.mem_cons_self)).right
      (slotsStake capacity rest)
  · intro _ w job slot rest polled _ ih hfits
    have hrest : SlotsFit allowed capacity rest :=
      fun other hother ↦ hfits other (List.mem_cons_of_mem job hother)
    exact (slot.passage_poll w block (hfits job List.mem_cons_self)).append (ih hrest)

theorem passage_poll {run : LaneRun} (hfits : run.Fits allowed capacity) :
    Passage allowed capacity w (run.poll w block).2.2 (run.stake capacity)
      ((run.poll w block).1.stake capacity) := by
  have hslots : Passage allowed capacity w _ (slotsStake capacity run.slots) _ :=
    passage_pollSlots w block run.lane.reject true hfits
  unfold poll
  simp only
  split <;> exact hslots

theorem passage_drop (run : LaneRun) :
    Passage allowed capacity w (run.drop w) (run.stake capacity) ∅ := by
  have hslots (slots : List (Job × Slot)) (w : World σ) :
      Passage allowed capacity w (slots.foldl (fun w s ↦ s.2.drop w) w) (slotsStake capacity slots)
        ∅ := by
    induction slots generalizing w with
    | nil => exact .refl w ∅
    | cons head rest ih =>
      have hboth := (head.2.passage_drop w head.1).append (ih (head.2.drop w))
      rwa [Stake.empty_append] at hboth
  exact hslots run.slots w

theorem trade_poll (run : LaneRun) :
    Trade capacity w (run.poll w block).2.2 (run.stake capacity)
      ((run.poll w block).1.stake capacity) :=
  (passage_poll w block (slotsFit_anything run.slots)).trade

theorem stake_start (lane : Lane) : (start lane).stake capacity = ∅ := by
  refine Stake.all_eq_empty fun stake hstake ↦ ?_
  obtain ⟨s, hs, rfl⟩ := List.mem_map.mp hstake
  obtain ⟨job, -, rfl⟩ := List.mem_map.mp hs
  rfl

theorem stake_of_replies? {run : LaneRun} {replies : List BatchReply}
    (hreplies : run.replies? = some replies) : run.stake capacity = ∅ := by
  refine Stake.all_eq_empty fun stake hstake ↦ ?_
  obtain ⟨s, hs, rfl⟩ := List.mem_map.mp hstake
  have hreply : s.2.reply? ∈ run.slots.map fun s ↦ s.2.reply? := List.mem_map_of_mem hs
  rw [replies?_eq_some_iff.mp hreplies] at hreply
  obtain ⟨reply, -, hreply⟩ := List.mem_map.mp hreply
  exact Slot.stake_of_reply? hreply.symm

end LaneRun

/-! ### Plans -/

namespace Plan

/-- Whatever the replies, the traces that a plan asks for are allowed. -/
def Fits (allowed : Nat → Nat → Prop) (capacity : Nat) : {rounds : Nat} → Plan α rounds → Prop
  | _, done _ => True
  | _, note _ next => next.Fits allowed capacity
  | _, call c next =>
    allowed (Request.call c).traces 0 ∧ ∀ reply, (next reply).Fits allowed capacity
  | _, batch cs next =>
    allowed (Request.batch cs).traces 0 ∧ ∀ reply, (next reply).Fits allowed capacity
  | _, query document next =>
    allowed (Request.query document).traces 0 ∧ ∀ reply, (next reply).Fits allowed capacity
  | _, both left right next => (∀ job ∈ left.jobs, job.Fits allowed capacity) ∧
      (∀ job ∈ right.jobs, job.Fits allowed capacity) ∧ ∀ l r, (next l r).Fits allowed capacity

variable {rounds : Nat}

theorem fits_anything (plan : Plan α rounds) : plan.Fits Anything capacity := by
  induction plan with
  | done result => trivial
  | note event next ih => exact ih
  | call c next ih => exact ⟨trivial, ih⟩
  | batch cs next ih => exact ⟨trivial, ih⟩
  | query document next ih => exact ⟨trivial, ih⟩
  | both left right next ih =>
    exact ⟨fun job _ ↦ job.fits_anything, fun job _ ↦ job.fits_anything, ih⟩

end Plan

/-! ### Runs -/

namespace Run

def Visit.stake (capacity : Nat) : Visit → Stake
  | .failed _ => ∅
  | .complete _ _ => ∅
  | .pending left right => left.stake capacity ++ right.stake capacity

def stake (capacity : Nat) : Run α → Stake
  | done _ => ∅
  | sleeping flight _ => flight.stake 0
  | lanes left right _ => left.stake capacity ++ right.stake capacity

def Fits (allowed : Nat → Nat → Prop) (capacity : Nat) : Run α → Prop
  | done _ => True
  | sleeping _ rest => rest.Fits allowed capacity
  | lanes left right next => left.Fits allowed capacity ∧ right.Fits allowed capacity ∧
      ∀ l r, (next l r).Fits allowed capacity

theorem fits_anything (run : Run α) : run.Fits Anything capacity := by
  cases run with
  | done result => trivial
  | sleeping flight rest => exact rest.fits_anything
  | lanes left right next =>
    exact ⟨LaneRun.slotsFit_anything _, LaneRun.slotsFit_anything _, fun l r ↦
      (next l r).fits_anything⟩

theorem passage_drop_lanes (left right : LaneRun) :
    Passage allowed capacity w (right.drop (left.drop w))
      (left.stake capacity ++ right.stake capacity) ∅ := by
  have hleft : Passage allowed capacity w _ (left.stake capacity) ∅ := left.passage_drop w
  have hboth := hleft.append (right.passage_drop (left.drop w))
  rwa [Stake.empty_append] at hboth

theorem passage_visit {left right : LaneRun} (hleft : left.Fits allowed capacity)
    (hright : right.Fits allowed capacity) :
    Passage allowed capacity w (visit w block left right).2
      (left.stake capacity ++ right.stake capacity)
      ((visit w block left right).1.stake capacity) := by
  have hfirst : Passage allowed capacity w _ (left.stake capacity) _ :=
    left.passage_poll w block hleft
  unfold visit
  simp only
  cases hstop : (left.poll w block).2.1 with
  | some e =>
    simp only
    exact (hfirst.right _).trans (passage_drop_lanes _ _ _)
  | none =>
    have hboth := hfirst.append (right.passage_poll (left.poll w block).2.2 block hright)
    simp only
    cases hend : (right.poll (left.poll w block).2.2 block).2.1 with
    | some e =>
      simp only
      exact hboth.trans (passage_drop_lanes _ _ _)
    | none =>
      simp only
      cases hl : (left.poll w block).1.replies? with
      | none => exact hboth
      | some l =>
        cases hr : (right.poll (left.poll w block).2.2 block).1.replies? with
        | none => exact hboth
        | some r =>
          rw [LaneRun.stake_of_replies? hl, LaneRun.stake_of_replies? hr] at hboth
          exact hboth

theorem trade_visit (left right : LaneRun) :
    Trade capacity w (visit w block left right).2 (left.stake capacity ++ right.stake capacity)
      ((visit w block left right).1.stake capacity) :=
  (passage_visit w block (LaneRun.slotsFit_anything _) (LaneRun.slotsFit_anything _)).trade

/-- A run that is made of what someone has, with what it holds then. -/
structure Made (allowed : Nat → Nat → Prop) (capacity : Nat) (w : World σ) (mine : Stake)
    (made : Run α × World σ) : Prop where
  passage : Passage allowed capacity w made.2 mine (made.1.stake capacity)
  fits : made.1.Fits allowed capacity

variable {rounds : Nat} {w}

theorem Made.after {w₁ : World σ} {mine mine₁ : Stake} {made : Run α × World σ}
    (hmade : Made allowed capacity w₁ mine₁ made)
    (hpassage : Passage allowed capacity w w₁ mine mine₁) : Made allowed capacity w mine made :=
  ⟨hpassage.trans hmade.passage, hmade.fits⟩

theorem made_await (isThere : Bool) (flight : Flight) {rest : Plan α rounds}
    (hfits : rest.Fits allowed capacity)
    (hrest : ∀ w : World σ, Made allowed capacity w ∅ (start block rest w)) :
    Made allowed capacity w (flight.stake 0) (await block isThere flight rest w) := by
  cases isThere with
  | true => exact (hrest _).after (.step (.land w flight 0))
  | false => exact ⟨.refl w _, hfits⟩

theorem made_receive {sent : Answer β × World σ} {traces : Nat} {next : β → Plan α rounds}
    (hsent : Passage allowed capacity w sent.2 ∅ ⟨[.loose traces]⟩)
    (hfits : (next sent.1.reply).Fits allowed capacity)
    (hrest : ∀ w : World σ, Made allowed capacity w ∅ (start block (next sent.1.reply) w)) :
    Made allowed capacity w ∅ (receive block traces next sent) :=
  (made_await block _ _ hfits hrest).after hsent

theorem made_resume {next : List BatchReply → List BatchReply → Plan α rounds}
    {left right : LaneRun} (hleft : left.Fits allowed capacity)
    (hright : right.Fits allowed capacity) (hfits : ∀ l r, (next l r).Fits allowed capacity)
    (hnext : ∀ l r, ∀ w : World σ, Made allowed capacity w ∅ (start block (next l r) w)) :
    Made allowed capacity w (left.stake capacity ++ right.stake capacity)
      (resume block next (visit w block left right)) := by
  have hpassage := passage_visit w block hleft hright
  have hpending (l r : LaneRun) (hvisit : (visit w block left right).1 = .pending l r) :
      l.Fits allowed capacity ∧ r.Fits allowed capacity := by
    obtain ⟨-, -, -, rfl, rfl⟩ := visit_eq_pending hvisit
    exact ⟨LaneRun.fits_poll w block hleft, LaneRun.fits_poll _ block hright⟩
  generalize visit w block left right = visited at hpassage hpending
  obtain ⟨outcome, w₁⟩ := visited
  cases outcome with
  | failed e => exact ⟨hpassage, trivial⟩
  | complete l r => exact (hnext l r w₁).after hpassage
  | pending l r => exact ⟨hpassage, (hpending l r rfl).1, (hpending l r rfl).2, hfits⟩

theorem made_start {plan : Plan α rounds} (hfits : plan.Fits allowed capacity) :
    Made allowed capacity w ∅ (start block plan w) := by
  induction plan generalizing w with
  | done result => exact ⟨.refl w ∅, trivial⟩
  | note event next ih => exact (ih hfits).after (.step (.note w block event))
  | call c next ih =>
    rw [start_call]
    exact made_receive block (.step (.call w block c (.loose hfits.1))) (hfits.2 _) fun w ↦
      ih _ (hfits.2 _)
  | batch cs next ih =>
    rw [start_batch]
    exact made_receive block (.step (.batch w block cs (.loose hfits.1))) (hfits.2 _) fun w ↦
      ih _ (hfits.2 _)
  | query document next ih =>
    rw [start_query]
    exact made_receive block (.step (.query w block document (.loose hfits.1))) (hfits.2 _) fun w ↦
      ih _ (hfits.2 _)
  | both left right next ih =>
    obtain ⟨hleft, hright, hnext⟩ := hfits
    have hmade : Made allowed capacity w _ _ := made_resume block (LaneRun.fits_start hleft)
      (LaneRun.fits_start hright) hnext fun l r w ↦ ih l r (hnext l r)
    rw [LaneRun.stake_start, LaneRun.stake_start, Stake.empty_append] at hmade
    rw [start_both]
    exact hmade

theorem made_poll {run : Run α} (hfits : run.Fits allowed capacity) :
    Made allowed capacity w (run.stake capacity) (run.poll block w) := by
  cases run with
  | done result => exact ⟨.refl w ∅, trivial⟩
  | sleeping flight rest =>
    rw [poll_sleeping]
    exact made_await block _ flight hfits fun w ↦ made_start block hfits
  | lanes left right next =>
    obtain ⟨hleft, hright, hnext⟩ := hfits
    rw [poll_lanes]
    exact made_resume block hleft hright hnext fun l r w ↦ made_start block (hnext l r)

theorem passage_drop (w : World σ) (run : Run α) :
    Passage allowed capacity w (run.drop w) (run.stake capacity) ∅ := by
  cases run with
  | done result => exact .refl w ∅
  | sleeping flight rest => exact .step (.land w flight 0)
  | lanes left right next => exact passage_drop_lanes w left right

end Run

/-! ### Tasks -/

namespace Progress

def stake (capacity : Nat) : Progress α → Stake
  | running run => run.stake capacity
  | _ => ∅

def Fits (allowed : Nat → Nat → Prop) (capacity : Nat) : Progress α → Prop
  | planned plan => plan.Fits allowed capacity
  | running run => run.Fits allowed capacity
  | finished _ => True

theorem fits_anything (progress : Progress α) : progress.Fits Anything capacity := by
  cases progress with
  | planned plan => exact plan.fits_anything
  | running run => exact run.fits_anything
  | finished result => trivial

theorem stake_ofRun (run : Run α) : (ofRun run).stake capacity = run.stake capacity := by
  cases run <;> rfl

theorem fits_ofRun {run : Run α} (hfits : run.Fits allowed capacity) :
    (ofRun run).Fits allowed capacity := by
  cases run with
  | done result => trivial
  | _ => exact hfits

theorem passage_poll {progress : Progress α} (hfits : progress.Fits allowed capacity) :
    Passage allowed capacity w (progress.poll block w).2 (progress.stake capacity)
      ((progress.poll block w).1.stake capacity) := by
  cases progress with
  | planned plan =>
    simp only [poll, stake_ofRun]
    exact (Run.made_start block hfits).passage
  | running run =>
    simp only [poll, stake_ofRun]
    exact (Run.made_poll block hfits).passage
  | finished result => exact .refl w ∅

theorem fits_poll {progress : Progress α} (hfits : progress.Fits allowed capacity) :
    (progress.poll block w).1.Fits allowed capacity := by
  cases progress with
  | planned plan => exact fits_ofRun (Run.made_start block hfits).fits
  | running run => exact fits_ofRun (Run.made_poll block hfits).fits
  | finished result => trivial

theorem passage_drop (progress : Progress α) :
    Passage allowed capacity w (progress.drop w) (progress.stake capacity) ∅ := by
  cases progress with
  | running run => exact run.passage_drop w
  | _ => exact .refl w ∅

end Progress

namespace Hold

def stake (capacity units : Nat) : Hold → Stake
  | waiting ticket => ⟨[.queued ⟨ticket, max 1 (min units capacity)⟩]⟩
  | holding ticket _ => ⟨[.flown ⟨ticket, max 1 (min units capacity)⟩ 0]⟩
  | _ => ∅

theorem passage_poll (units : Nat) (hold : Hold) :
    Passage allowed capacity w (hold.poll w units).2 (hold.stake capacity units)
      ((hold.poll w units).1.stake capacity units) := by
  cases hold with
  | wanted =>
    have hacquire : Passage allowed capacity w _ ∅ _ := .step (.acquire w units)
    simp only [poll]
    split
    · rename_i hadmitted
      exact hacquire.trans (.step (.grant _ _ hadmitted))
    · exact hacquire
  | waiting ticket =>
    simp only [poll]
    split
    · rename_i hadmitted
      exact .step (.grant w ⟨ticket, _⟩ hadmitted)
    · exact .refl w _
  | _ => exact .refl w _

end Hold

namespace Task

def stake (capacity : Nat) : Task α → Stake
  | request _ _ progress => progress.stake capacity
  | guard _ units hold => hold.stake capacity units

def Fits (allowed : Nat → Nat → Prop) (capacity : Nat) : Task α → Prop
  | request _ _ progress => progress.Fits allowed capacity
  | guard .. => True

theorem fits_anything (task : Task α) : task.Fits Anything capacity := by
  cases task with
  | request context block progress => exact progress.fits_anything
  | guard context units hold => trivial

/-- A pending task that is given up, for whatever reason, has nothing left. -/
theorem passage_abandon {task : Task α} (hpending : task.isPending = true) (why : Abandonment) :
    Passage allowed capacity w (task.abandon w why).2 (task.stake capacity)
      ((task.abandon w why).1.stake capacity) := by
  cases task with
  | request context block progress => exact progress.passage_drop w
  | guard context units hold =>
    cases hold with
    | waiting ticket => exact .step (.release w ⟨ticket, _⟩)
    | holding ticket held => cases hpending
    | _ => exact .refl w ∅

theorem passage_poll (tokens : Tokens) {task : Task α} (hfits : task.Fits allowed capacity) :
    Passage allowed capacity w (task.poll tokens w).2 (task.stake capacity)
      ((task.poll tokens w).1.stake capacity) := by
  by_cases hpending : task.isPending = true
  · unfold poll
    rw [if_neg (by simp [hpending])]
    cases hverdict : task.context.verdict tokens w.now with
    | some why => exact passage_abandon w hpending why
    | none =>
      cases task with
      | request context block progress => exact progress.passage_poll w block hfits
      | guard context units hold => exact hold.passage_poll w units
  · unfold poll
    rw [if_pos (by simpa using hpending)]
    exact .refl w _

theorem fits_poll (tokens : Tokens) {task : Task α} (hfits : task.Fits allowed capacity) :
    (task.poll tokens w).1.Fits allowed capacity := by
  unfold poll
  split
  · exact hfits
  · cases task.context.verdict tokens w.now with
    | some why =>
      cases task with
      | request context block progress => trivial
      | guard context units hold => cases hold <;> trivial
    | none =>
      cases task with
      | request context block progress => exact progress.fits_poll w block hfits
      | guard context units hold => trivial

theorem passage_release (task : Task α) :
    Passage allowed capacity w (task.release w).2 (task.stake capacity)
      ((task.release w).1.stake capacity) := by
  unfold release
  split
  · exact .step (.land w ⟨some _, 0, 0⟩ _)
  · exact .refl w _

theorem fits_release {task : Task α} (hfits : task.Fits allowed capacity) :
    (task.release w).1.Fits allowed capacity := by
  unfold release
  split
  · trivial
  · exact hfits

theorem trade_poll (tokens : Tokens) (task : Task α) :
    Trade capacity w (task.poll tokens w).2 (task.stake capacity)
      ((task.poll tokens w).1.stake capacity) :=
  (passage_poll w tokens task.fits_anything).trade

theorem stake_of_not_isPending {context : Context} {name : Option String}
    {progress : Progress α} (hfinished : (request context name progress).isPending = false) :
    (request context name progress).stake capacity = ∅ := by
  cases progress with
  | finished result => rfl
  | _ => cases hfinished

end Task

/-! ### Systems -/

namespace System

def tasksStake (capacity : Nat) (tasks : List (Task α)) : Stake :=
  .all (tasks.map (Task.stake capacity))

/-- The tickets of the gate are those of the tasks. -/
def Kept (capacity : Nat) (s : System α σ) : Prop :=
  s.world.Holds capacity (tasksStake capacity s.tasks)

theorem passage_pollAll (tokens : Tokens) {tasks : List (Task α)}
    (hfits : ∀ task ∈ tasks, task.Fits allowed capacity) :
    Passage allowed capacity w (pollAll tokens w tasks).2 (tasksStake capacity tasks)
      (tasksStake capacity (pollAll tokens w tasks).1) := by
  induction tasks generalizing w with
  | nil => exact .refl w ∅
  | cons task rest ih =>
    exact (Task.passage_poll w tokens (hfits task List.mem_cons_self)).append
      (ih _ fun other hother ↦ hfits other (List.mem_cons_of_mem task hother))

theorem trade_pollAll (tokens : Tokens) (tasks : List (Task α)) :
    Trade capacity w (pollAll tokens w tasks).2 (tasksStake capacity tasks)
      (tasksStake capacity (pollAll tokens w tasks).1) :=
  (passage_pollAll w tokens fun task _ ↦ task.fits_anything).trade

theorem kept_pass {s : System α σ} (hkept : s.Kept capacity) : s.pass.Kept capacity := by
  have htrade : Trade capacity s.world _ _ _ := trade_pollAll s.world s.tokens s.tasks
  have hpass := htrade.holds ∅
  rw [Stake.append_empty, Stake.append_empty] at hpass
  rw [Kept, pass_eq]
  exact hpass hkept

theorem kept_elapse {s : System α σ} (hkept : s.Kept capacity) (time : Nat) :
    (s.elapse time).Kept capacity := hkept

end System

end RollupLedger
