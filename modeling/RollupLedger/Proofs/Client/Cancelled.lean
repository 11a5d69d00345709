import RollupLedger.Proofs.Client.Rounds
import RollupLedger.Proofs.Request.Deciding

/-!
# Rounds that were cancelled before they began

A round of a session is one way in which its system may be run (`System.exists_run_drive`). One that
was cancelled before it began sends nothing and notes nothing (`Session.ask_of_cancelled`).
-/

set_option autoImplicit false
set_option relaxedAutoImplicit false

namespace RollupLedger

variable {σ α : Type}

/-! ### Rounds as runs -/

/-- What a system does by itself: it polls its tasks and waits. -/
def Action.IsTurn : Action α → Prop
  | poll _ => True
  | elapse _ => True
  | _ => False

namespace System

theorem exists_run_pass (s : System α σ) :
    ∃ actions : List (Action α), (∀ action ∈ actions, action.IsTurn) ∧ s.pass = s.run actions := by
  refine ⟨(List.range s.tasks.length).map .poll, ?_, ?_⟩
  · intro action haction
    obtain ⟨index, -, rfl⟩ := List.mem_map.mp haction
    trivial
  · rw [pass, run, List.foldl_map]
    rfl

/-- A system that is driven to its end takes turns. -/
theorem exists_run_drive (s : System α σ) :
    ∃ actions : List (Action α), (∀ action ∈ actions, action.IsTurn) ∧ s.drive = s.run actions := by
  refine drive_rec (motive := fun last ↦ ∃ actions : List (Action α),
    (∀ action ∈ actions, action.IsTurn) ∧ last = s.run actions) ?_ ?_ s ⟨[], by simp, rfl⟩
  · rintro last ⟨actions, hturns, rfl⟩
    obtain ⟨more, hmore, hpass⟩ := exists_run_pass (s.run actions)
    refine ⟨actions ++ more, ?_, by rw [hpass, run_append]⟩
    exact List.forall_mem_append.mpr ⟨hturns, hmore⟩
  · rintro last time ⟨actions, hturns, rfl⟩
    refine ⟨actions ++ [.elapse time], ?_, by rw [run_append]; rfl⟩
    exact List.forall_mem_append.mpr ⟨hturns, by simp [Action.IsTurn]⟩

end System

/-- A request whose context was cancelled before it began. -/
def Task.Unbegun (tokens : Tokens) : Task α → Prop
  | request context _ progress =>
    tokens.isCancelled context.token = true ∧ ∀ run, progress ≠ .running run
  | guard .. => False

theorem Task.poll_unbegun {tokens : Tokens} (w : World σ) {task : Task α}
    (hunbegun : task.Unbegun tokens) :
    (task.poll tokens w).2 = w ∧ (task.poll tokens w).1.Unbegun tokens := by
  cases task with
  | guard context units hold => exact hunbegun.elim
  | request context block progress =>
    obtain ⟨hcancelled, hrunning⟩ := hunbegun
    have hverdict : context.verdict tokens w.now = some .canceled := by
      simp [Context.verdict, hcancelled]
    cases progress with
    | planned plan =>
      have hpending : (Progress.planned plan).isFinished = false := rfl
      rw [poll_of_verdict hpending hverdict]
      exact ⟨rfl, hcancelled, by simp⟩
    | running run => exact absurd rfl (hrunning run)
    | finished result => exact ⟨rfl, hcancelled, by simp⟩

namespace System

/-- A system of requests that were cancelled before they began, with what it has sent and noted. -/
structure Unbegun (journal : List JournalEntry) (s : System α σ) : Prop where
  tasks : ∀ task ∈ s.tasks, task.Unbegun s.tokens
  journal : s.world.journal = journal

variable {journal : List JournalEntry}

theorem unbegun_pollAt {s : System α σ} (hunbegun : s.Unbegun journal) (index : Nat) :
    (s.pollAt index).Unbegun journal := by
  unfold pollAt
  cases htask : s.tasks[index]? with
  | none => exact hunbegun
  | some task =>
    obtain ⟨hworld, hpolled⟩ :=
      Task.poll_unbegun s.world (hunbegun.tasks task (List.mem_of_getElem? htask))
    refine ⟨fun other hother ↦ ?_, ?_⟩
    · rcases List.mem_or_eq_of_mem_set hother with hother | rfl
      · exact hunbegun.tasks other hother
      · exact hpolled
    · simp only [hworld]
      exact hunbegun.journal

theorem unbegun_drive {s : System α σ} (hunbegun : s.Unbegun journal) :
    s.drive.Unbegun journal := by
  refine drive_rec (motive := Unbegun journal) ?_ ?_ s hunbegun
  · intro s hunbegun
    unfold pass
    induction List.range s.tasks.length generalizing s with
    | nil => exact hunbegun
    | cons index rest ih => exact ih _ (unbegun_pollAt hunbegun index)
  · intro s time hunbegun
    refine ⟨fun task htask ↦ ?_, hunbegun.journal⟩
    have hbefore := hunbegun.tasks task htask
    cases task with
    | guard context units hold => exact hbefore
    | request context block progress =>
      exact ⟨isCancelled_elapse s time context.token hbefore.1, hbefore.2⟩

end System

namespace Session

variable {client : Client} {node : Responder σ} {session : Session σ}

/-- A round that was cancelled before it began sends nothing and notes nothing, and every inquiry of
it that passes its check is cancelled. -/
theorem ask_of_cancelled (hreached : Reached client node session) (limits : Limits)
    (hnow : limits.cancelAfter = some 0) (inquiries : List Inquiry) :
    (session.ask limits inquiries).1.journal = [] ∧
      ∀ (place : Nat) (inquiry : Inquiry), inquiries[place]? = some inquiry →
        ∀ (rounds : Nat) (plan : Plan Response rounds), client.begin inquiry = .planned plan →
          (session.ask limits inquiries).1.results[place]? =
            some (some (Except.error (.abandoned .canceled))) := by
  have hrests := rests_of_reached hreached
  have hcancelled : (session.opening limits inquiries).tokens.isCancelled
      (session.context limits).token = true := by
    have htoken : (session.context limits).token = session.token := by
      unfold context
      cases limits.timeout <;> rfl
    rw [htoken]
    simp [opening, hnow, Tokens.fresh, Tokens.cancel, Tokens.isCancelled, Token.isWithin, token]
  constructor
  · have hunbegun : (session.opening limits inquiries).Unbegun [] := by
      refine ⟨fun task htask ↦ ?_, rfl⟩
      rw [tasks_opening] at htask
      obtain ⟨inquiry, -, rfl⟩ := List.mem_map.mp htask
      refine ⟨hcancelled, fun run hrun ↦ ?_⟩
      rcases begin_cases session.client inquiry with ⟨rounds, plan, hplan⟩ | ⟨result, hresult⟩
      · rw [hplan] at hrun
        cases hrun
      · rw [hresult] at hrun
        cases hrun
    exact (System.unbegun_drive hunbegun).journal
  · intro place inquiry hplace rounds plan hplan
    rw [← hrests.of_client] at hplan
    have hrequest : (session.opening limits inquiries).HasRequest place (session.context limits)
        (Client.span inquiry) (.planned plan) := by
      rw [System.HasRequest, tasks_opening, List.getElem?_map, hplace]
      simp [Client.task, hplan]
    obtain ⟨actions, -, hdrive⟩ := System.exists_run_drive (session.opening limits inquiries)
    obtain ⟨later, hlater⟩ := System.exists_hasRequest_run hrequest actions
    obtain ⟨result, _, hresult, -⟩ := exists_exchanges hreached limits inquiries hplace
    have htask := hlater
    rw [System.HasRequest, ← hdrive] at htask
    simp only [ask, List.getElem?_map, htask, Option.map_some, Option.some.injEq] at hresult ⊢
    cases later with
    | finished first =>
      have hdecided := System.decided_of_planned
        (session.opening limits inquiries).world.node.keeps_manner hrequest
      have hfirst := hdecided.canceled [] _ hrequest rfl hcancelled actions first hlater
      rw [hfirst]
      rfl
    | _ => cases hresult

end Session

end RollupLedger
