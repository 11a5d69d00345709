import RollupLedger.Proofs.Request.Deciding

/-!
# Requests that ask once

`System.sentBy` collects what one task sends in its polls, whatever else happens to the system in
between. A plan that has one document to send and then is done with the reply (`Plan.IsQuery`) sends
that document in the first poll that finds its context live, and nothing ever after
(`System.sentBy_of_isQuery`): from then on it is spent (`Progress.IsSpent`), and a request that is
spent stays so and sends nothing.
-/

set_option autoImplicit false
set_option relaxedAutoImplicit false

namespace RollupLedger

variable {σ α β : Type}

/-! ### What one task sends -/

namespace System

variable {s : System α σ} {place : Nat}

/-- What an action sends if it polls the task at a place: what it adds to the journal's requests. -/
def sentNow (s : System α σ) (place : Nat) : Action α → List Request
  | .poll index =>
    if index = place then
      (sentRequests (s.act (.poll index)).world.journal).drop (sentRequests s.world.journal).length
    else []
  | _ => []

/-- What is sent in the polls of the task at a place, in the course of some actions. -/
def sentBy (s : System α σ) (place : Nat) : List (Action α) → List Request
  | [] => []
  | action :: rest => s.sentNow place action ++ (s.act action).sentBy place rest

theorem sentNow_of_ne {action : Action α} (haction : action ≠ .poll place) :
    s.sentNow place action = [] := by
  cases action with
  | poll index => exact if_neg fun hindex ↦ haction (congrArg Action.poll hindex)
  | _ => rfl

theorem sentNow_eq {xs : List Exchange} (htold : s.world.Says xs (s.act (.poll place)).world) :
    s.sentNow place (.poll place) = xs.map Exchange.request := by
  rw [sentNow, if_pos rfl, htold.asked, List.drop_left]

end System

/-! ### Spent requests -/

/-- A request that has nothing left to ask: it has its result, or waits for the reply that it makes
its result of. -/
inductive Progress.IsSpent : Progress α → Prop
  | finished (result : Except ClientError α) : IsSpent (.finished result)
  | waiting (flight : Flight) (rest : Plan α 0) : IsSpent (.running (.sleeping flight rest))

/-- A plan without a round left only notes events before its result. -/
theorem Run.start_last (block : Option String) : (plan : Plan α 0) → (w : World σ) →
    ∃ result, (start block plan w).1 = .done result ∧ w.Says [] (start block plan w).2
  | .done result, w => ⟨result, rfl, w.says_refl⟩
  | .note event next, w => by
    obtain ⟨result, hdone, htold⟩ := start_last block next (w.note block event)
    exact ⟨result, hdone, (w.says_note block event).trans htold⟩

/-- What is waited for is the last that happens, however long it takes. -/
theorem Run.spent_await (block : Option String) (isThere : Bool) (flight : Flight) (rest : Plan α 0)
    (w : World σ) :
    (Progress.ofRun (await block isThere flight rest w).1).IsSpent ∧
      w.Says [] (await block isThere flight rest w).2 := by
  cases isThere with
  | false => exact ⟨.waiting flight rest, w.says_refl⟩
  | true =>
    obtain ⟨result, hdone, htold⟩ := start_last block rest (w.land flight)
    rw [await, if_pos rfl, hdone]
    exact ⟨.finished result, (w.says_land flight).trans htold⟩

theorem Progress.spent_poll {progress : Progress α} (hspent : progress.IsSpent)
    (block : Option String) (w : World σ) :
    (progress.poll block w).1.IsSpent ∧ w.Says [] (progress.poll block w).2 := by
  cases hspent with
  | finished result => exact ⟨.finished result, w.says_refl⟩
  | waiting flight rest =>
    rw [poll, Run.poll_sleeping]
    exact Run.spent_await block _ flight rest w

/-- A spent request stays spent and sends nothing, whatever its context says. -/
theorem Task.spent_poll {progress : Progress α} (hspent : progress.IsSpent) (context : Context)
    (block : Option String) (tokens : Tokens) (w : World σ) :
    (∃ later, later.IsSpent ∧
        ((request context block progress).poll tokens w).1 = request context block later) ∧
      w.Says [] ((request context block progress).poll tokens w).2 := by
  cases hpending : progress.isFinished with
  | true =>
    have hdone : (request context block progress).poll tokens w =
        (request context block progress, w) := by
      simp [poll, isPending, hpending]
    rw [hdone]
    exact ⟨⟨progress, hspent, rfl⟩, w.says_refl⟩
  | false =>
    cases hverdict : context.verdict tokens w.now with
    | some why =>
      rw [poll_of_verdict hpending hverdict]
      exact ⟨⟨_, .finished _, rfl⟩, progress.says_drop w⟩
    | none =>
      rw [poll_of_live hpending hverdict]
      obtain ⟨hlater, htold⟩ := Progress.spent_poll hspent block w
      exact ⟨⟨_, hlater, rfl⟩, htold⟩

namespace System

variable {s : System α σ} {place : Nat} {context : Context} {block : Option String}
  {progress : Progress α}

theorem sentBy_of_spent (hrequest : s.HasRequest place context block progress)
    (hspent : progress.IsSpent) (actions : List (Action α)) : s.sentBy place actions = [] := by
  induction actions generalizing s progress with
  | nil => rfl
  | cons action rest ih =>
    rw [sentBy]
    by_cases haction : action = .poll place
    · subst haction
      obtain ⟨hpolled, hworld⟩ := hasRequest_poll hrequest
      obtain ⟨⟨later, hlater, htask⟩, htold⟩ :=
        Task.spent_poll hspent context block s.tokens s.world
      rw [← hworld] at htold
      rw [htask] at hpolled
      rw [sentNow_eq htold, ih hpolled hlater]
      rfl
    · rw [sentNow_of_ne haction, ih (hasRequest_act hrequest haction) hspent]
      rfl

end System

/-! ### Plans that ask once -/

/-- A plan that sends one document, and has its result from the reply. -/
inductive Plan.IsQuery (document : String) : {rounds : Nat} → Plan α rounds → Prop
  | query (next : Except String String → Plan α 0) : IsQuery document (.query document next)
  | note {rounds : Nat} (event : Event) {next : Plan α rounds} (hnext : IsQuery document next) :
    IsQuery document (.note event next)

namespace Plan

variable {document : String} {rounds : Nat} {plan : Plan α rounds}

theorem IsQuery.map (f : α → β) (hquery : plan.IsQuery document) :
    (plan.map f).IsQuery document := by
  induction hquery with
  | query next => exact .query _
  | note event _ ih => exact .note event ih

theorem IsQuery.start (hquery : plan.IsQuery document) (block : Option String) (w : World σ) :
    (∃ reply, w.Says [.query document reply] (Run.start block plan w).2) ∧
      (Progress.ofRun (Run.start block plan w).1).IsSpent := by
  induction hquery generalizing w with
  | query next =>
    rw [Run.start_query]
    obtain ⟨hspent, htold⟩ := Run.spent_await block
      ((w.sendQuery block document).1.latency == 0) _ (next (w.sendQuery block document).1.reply)
      (w.sendQuery block document).2
    exact ⟨⟨_, (w.says_sendQuery block document).trans htold⟩, hspent⟩
  | note event hnext ih =>
    obtain ⟨⟨reply, htold⟩, hspent⟩ := ih (w.note block event)
    exact ⟨⟨reply, (w.says_note block event).trans htold⟩, hspent⟩

end Plan

/-- A request that asks once sends its document when it is first polled, if its context is live
then, and nothing else, whatever happens to it later. -/
theorem System.sentBy_of_isQuery {s : System α σ} {place rounds : Nat} {context : Context}
    {block : Option String} {document : String} {plan : Plan α rounds}
    (hrequest : s.HasRequest place context block (.planned plan)) (hquery : plan.IsQuery document)
    (hlive : context.verdict s.tokens s.world.now = none) (actions : List (Action α)) :
    s.sentBy place (.poll place :: actions) = [.query document] := by
  obtain ⟨hpolled, hworld⟩ := hasRequest_poll hrequest
  obtain ⟨⟨reply, htold⟩, hspent⟩ := hquery.start block s.world
  have hpending : (Progress.planned plan).isFinished = false := rfl
  rw [Task.poll_of_live hpending hlive] at hpolled hworld
  have hsaid : s.world.Says [.query document reply] (s.act (.poll place)).world := hworld ▸ htold
  rw [sentBy, sentNow_eq hsaid, sentBy_of_spent hpolled hspent]
  rfl

end RollupLedger
