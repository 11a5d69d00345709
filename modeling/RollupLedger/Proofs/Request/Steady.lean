import RollupLedger.Proofs.Client.Plans

/-!
# Nodes that always say the same

A node of the manner `Manner.steady answer` answers each call in one way, alone or in a batch. Every
job then has one possible reply (`Job.brings_steady`), and a plan yields one outcome or fails,
however it is carried out (`Plan.Yields`); which error it fails with may depend on what comes first.
-/

set_option autoImplicit false
set_option relaxedAutoImplicit false

namespace RollupLedger

/-- Each call has its answer, alone or in a batch, and batches make their round trip. -/
def Manner.steady (answer : Call → CallReply) : Manner where
  call c reply := reply = answer c
  batch cs reply := reply = .ok (cs.map answer)
  query _ _ := True

variable {α β : Type} {manner : Manner} (answer : Call → CallReply)

/-- The reply that a job has. -/
def Job.steadyReply (job : Job) : BatchReply :=
  match job.batched, job.calls with
  | false, [c] => (answer c).map fun value ↦ [.ok value]
  | _, cs => .ok (cs.map answer)

theorem Job.brings_steady {job : Job} {x : Exchange} {reply : BatchReply}
    (hallows : (Manner.steady answer).Allows x) (hbrings : job.Brings x reply) :
    reply = job.steadyReply answer := by
  obtain ⟨units, batched, calls⟩ := job
  cases batched with
  | true =>
    cases hbrings
    exact hallows
  | false =>
    cases calls with
    | nil =>
      cases hbrings
      exact hallows
    | cons c rest =>
      cases rest with
      | nil =>
        obtain ⟨single, rfl, rfl⟩ := hbrings
        rw [show single = answer c from hallows]
        rfl
      | cons other others =>
        cases hbrings
        exact hallows

theorem replies_steady {jobs : List Job} {xs : List Exchange} {replies : List BatchReply}
    (hallows : ∀ x ∈ xs, (Manner.steady answer).Allows x)
    (hbrings : jobs.Forall₂ (fun job reply ↦ ∃ x ∈ xs, job.Brings x reply) replies) :
    replies = jobs.map (Job.steadyReply answer) := by
  induction hbrings with
  | nil => rfl
  | cons hfirst _ ih =>
    obtain ⟨x, hx, hbrings⟩ := hfirst
    rw [List.map_cons, ← ih, Job.brings_steady answer (hallows x hx) hbrings]

theorem Lane.Passes.replies_eq {lane : Lane} {xs : List Exchange} {replies : List BatchReply}
    (hpasses : lane.Passes xs replies) (hallows : ∀ x ∈ xs, (Manner.steady answer).Allows x) :
    replies = lane.jobs.map (Job.steadyReply answer) := by
  obtain ⟨ys, hperm, hbrings⟩ := hpasses.brings
  exact replies_steady answer (fun y hy ↦ hallows y (hperm.mem_iff.mpr hy))
    hbrings.forall₂

namespace Plan

variable {rounds : Nat}

/-- Whatever results a plan can end with, they agree in the value, if there is one. -/
def Yields (manner : Manner) (plan : Plan α rounds) (outcome : Option α) : Prop :=
  ∀ result, plan.Ends manner result → result.toOption = outcome

theorem yields_done (result : Except ClientError α) :
    (done result : Plan α rounds).Yields manner result.toOption := by
  rintro other ⟨xs, hcomes, -⟩
  cases hcomes
  rfl

theorem yields_note {event : Event} {next : Plan α rounds} {outcome : Option α}
    (hnext : next.Yields manner outcome) : (note event next).Yields manner outcome := by
  rintro result ⟨xs, hcomes, hallows⟩
  cases hcomes with
  | note hcomes => exact hnext result ⟨xs, hcomes, hallows⟩

theorem yields_notes {events : List Event} {next : Plan α rounds} {outcome : Option α}
    (hnext : next.Yields manner outcome) : (notes events next).Yields manner outcome := by
  induction events with
  | nil => exact hnext
  | cons event rest ih => exact yields_note ih

theorem yields_andThen (result : Except ClientError β) {next : β → Plan α rounds}
    {outcome : β → Option α} (hnext : ∀ b, (next b).Yields manner (outcome b)) :
    (andThen result next).Yields manner (result.toOption.bind outcome) := by
  cases result with
  | ok b => exact hnext b
  | error e => exact yields_done (.error e)

theorem yields_ask (c : Call) {next : Json → Plan α rounds} {outcome : Json → Option α}
    (hnext : ∀ value, (next value).Yields (.steady answer) (outcome value)) :
    (ask c next).Yields (.steady answer) ((answer c).toOption.bind outcome) := by
  rintro result ⟨xs, hcomes, hallows⟩
  cases hcomes with
  | call hcomes =>
    obtain ⟨hreply, hallows⟩ := List.forall_mem_cons.mp hallows
    rw [show _ = answer c from hreply] at hcomes
    cases hanswer : answer c with
    | ok value =>
      rw [hanswer] at hcomes
      exact hnext value result ⟨_, hcomes, hallows⟩
    | error message =>
      rw [hanswer] at hcomes
      exact yields_done _ result ⟨_, hcomes, hallows⟩

theorem yields_batch (cs : List Call) {next : BatchReply → Plan α rounds} {outcome : Option α}
    (hnext : (next (.ok (cs.map answer))).Yields (.steady answer) outcome) :
    (batch cs next).Yields (.steady answer) outcome := by
  rintro result ⟨xs, hcomes, hallows⟩
  cases hcomes with
  | batch hcomes =>
    obtain ⟨hreply, hallows⟩ := List.forall_mem_cons.mp hallows
    rw [show _ = Except.ok (cs.map answer) from hreply] at hcomes
    exact hnext result ⟨_, hcomes, hallows⟩

/-- Two lanes yield what their replies make, or nothing if a lane can fail. -/
theorem yields_both {left right : Lane} {next : List BatchReply → List BatchReply → Plan α rounds}
    {outcome : Option α}
    (hleft : ∀ xs e, (∀ x ∈ xs, (Manner.steady answer).Allows x) → left.Fails xs e → outcome = none)
    (hright : ∀ xs e, (∀ x ∈ xs, (Manner.steady answer).Allows x) → right.Fails xs e →
      outcome = none)
    (hnext : (next (left.jobs.map (Job.steadyReply answer))
      (right.jobs.map (Job.steadyReply answer))).Yields (.steady answer) outcome) :
    (both left right next).Yields (.steady answer) outcome := by
  rintro result ⟨xs, hcomes, hallows⟩
  cases hcomes with
  | left hfails => exact (hleft _ _ hallows hfails).symm
  | right hfails => exact (hright _ _ hallows hfails).symm
  | both hperm hl hr hcomes =>
    obtain ⟨hlanes, hafter⟩ := List.forall_mem_append.mp hallows
    have hsplit := List.forall_mem_append.mp fun x hx ↦ hlanes x (hperm.mem_iff.mpr hx)
    rw [hl.replies_eq answer hsplit.1, hr.replies_eq answer hsplit.2] at hcomes
    exact hnext result ⟨_, hcomes, hafter⟩

theorem ends_map {f : α → β} {plan : Plan α rounds} {result : Except ClientError β}
    (hends : (plan.map f).Ends manner result) :
    ∃ before, plan.Ends manner before ∧ result = before.map f := by
  obtain ⟨xs, hcomes, hallows⟩ := hends
  obtain ⟨before, hbefore, rfl⟩ := comes_map hcomes
  exact ⟨before, ⟨xs, hbefore, hallows⟩, rfl⟩

end Plan

end RollupLedger
