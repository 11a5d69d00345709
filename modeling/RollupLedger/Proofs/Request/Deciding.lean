import RollupLedger.Proofs.Request.Nested
import RollupLedger.Proofs.Request.Outcome

/-!
# What decides a request

A poll looks for a cancellation, then for the end of the time, then for what the work has come to;
the first of them that is there decides (`Decides`). Whatever else happens to a system, a request
has its result from the first of its own polls that finds one of them
(`System.exists_deciding_poll`), and none before. Cancellations and the time do not go back, so
neither one that is there before the request has its result is ever overtaken by the work
(`System.Decided`).
-/

set_option autoImplicit false
set_option relaxedAutoImplicit false

namespace RollupLedger

variable {σ α : Type}

/-- What a poll of a request finds, under a context and with what its work would come to. -/
inductive Decides (context : Context) (tokens : Tokens) (now : Nat) (work : Progress α) :
    Except ClientError α → Prop
  | canceled (hcancelled : tokens.isCancelled context.token = true) :
    Decides context tokens now work (.error (.abandoned .canceled))
  | expired (hlive : tokens.isCancelled context.token = false)
    (hlate : context.isExpired now = true) :
    Decides context tokens now work (.error (.abandoned .expired))
  | completed {result : Except ClientError α} (hlive : tokens.isCancelled context.token = false)
    (hearly : context.isExpired now = false) (hwork : work = .finished result) :
    Decides context tokens now work result

/-! ### One poll -/

namespace Task

variable {context : Context} {tokens : Tokens} {w : World σ} {block : Option String}
  {progress : Progress α}

theorem isPending_request (hpending : progress.isFinished = false) :
    (request context block progress).isPending = true := by
  simp [isPending, hpending]

theorem poll_of_verdict (hpending : progress.isFinished = false) {why : Abandonment}
    (hverdict : context.verdict tokens w.now = some why) :
    (request context block progress).poll tokens w =
      (request context block (.finished (.error (.abandoned why))), progress.drop w) := by
  have htask : (request context block progress).context.verdict tokens w.now = some why := hverdict
  unfold poll
  rw [if_neg (by simp [isPending_request hpending])]
  simp only [htask]
  rfl

theorem poll_of_live (hpending : progress.isFinished = false)
    (hlive : context.verdict tokens w.now = none) :
    (request context block progress).poll tokens w =
      (request context block (progress.poll block w).1, (progress.poll block w).2) := by
  have htask : (request context block progress).context.verdict tokens w.now = none := hlive
  unfold poll
  rw [if_neg (by simp [isPending_request hpending])]
  simp only [htask]

theorem verdict_eq_none_iff {now : Nat} :
    context.verdict tokens now = none ↔
      tokens.isCancelled context.token = false ∧ context.isExpired now = false := by
  unfold Context.verdict
  cases tokens.isCancelled context.token <;> cases context.isExpired now <;> simp

/-- A poll of a pending request gives it the result that decides, or leaves it pending if nothing
does. -/
theorem poll_request (context : Context) (block : Option String) (tokens : Tokens) (w : World σ)
    (hpending : progress.isFinished = false) :
    (∃ result, Decides context tokens w.now (progress.poll block w).1 result ∧
      ((request context block progress).poll tokens w).1 =
        request context block (.finished result)) ∨
    ((∀ result, ¬ Decides context tokens w.now (progress.poll block w).1 result) ∧
      (progress.poll block w).1.isFinished = false ∧
      ((request context block progress).poll tokens w).1 =
        request context block (progress.poll block w).1) := by
  by_cases hcancelled : tokens.isCancelled context.token = true
  · have hverdict : context.verdict tokens w.now = some .canceled := by
      simp [Context.verdict, hcancelled]
    rw [poll_of_verdict hpending hverdict]
    exact Or.inl ⟨_, .canceled hcancelled, rfl⟩
  · rw [Bool.not_eq_true] at hcancelled
    by_cases hlate : context.isExpired w.now = true
    · have hverdict : context.verdict tokens w.now = some .expired := by
        simp [Context.verdict, hcancelled, hlate]
      rw [poll_of_verdict hpending hverdict]
      exact Or.inl ⟨_, .expired hcancelled hlate, rfl⟩
    · rw [Bool.not_eq_true] at hlate
      rw [poll_of_live hpending (verdict_eq_none_iff.mpr ⟨hcancelled, hlate⟩)]
      cases hwork : (progress.poll block w).1 with
      | finished result => exact Or.inl ⟨result, .completed hcancelled hlate rfl, rfl⟩
      | planned plan =>
        refine Or.inr ⟨fun result hdecides ↦ ?_, rfl, rfl⟩
        cases hdecides <;> simp_all
      | running run =>
        refine Or.inr ⟨fun result hdecides ↦ ?_, rfl, rfl⟩
        cases hdecides <;> simp_all

end Task

theorem Decides.unique {context : Context} {tokens : Tokens} {now : Nat} {work : Progress α}
    {result other : Except ClientError α} (hresult : Decides context tokens now work result)
    (hother : Decides context tokens now work other) : result = other := by
  cases hresult <;> cases hother <;> simp_all

/-! ### Many actions -/

namespace System

variable {s : System α σ} {index : Nat} {context : Context} {block : Option String}
  {progress : Progress α}

/-- A request that is at a place under a context, with its progress. -/
def HasRequest (s : System α σ) (index : Nat) (context : Context) (block : Option String)
    (progress : Progress α) : Prop :=
  s.tasks[index]? = some (.request context block progress)

theorem run_append (s : System α σ) (first rest : List (Action α)) :
    s.run (first ++ rest) = (s.run first).run rest := List.foldl_append

theorem run_cons (s : System α σ) (action : Action α) (rest : List (Action α)) :
    s.run (action :: rest) = (s.act action).run rest := rfl

/-- The poll of a request puts it where it was, with the progress it has made. -/
theorem hasRequest_poll (hrequest : s.HasRequest index context block progress) :
    (s.act (.poll index)).tasks[index]? =
        some ((Task.request context block progress).poll s.tokens s.world).1 ∧
      (s.act (.poll index)).world =
        ((Task.request context block progress).poll s.tokens s.world).2 := by
  obtain ⟨hlt, -⟩ := List.getElem?_eq_some_iff.mp hrequest
  unfold HasRequest at hrequest
  simp only [act, pollAt, hrequest]
  exact ⟨List.getElem?_set_self hlt, trivial⟩

/-- Whatever else happens leaves a request as it is. -/
theorem hasRequest_act (hrequest : s.HasRequest index context block progress) {action : Action α}
    (haction : action ≠ .poll index) : (s.act action).HasRequest index context block progress := by
  obtain ⟨hlt, -⟩ := List.getElem?_eq_some_iff.mp hrequest
  unfold HasRequest at hrequest ⊢
  cases action with
  | spawn task =>
    simp only [act, spawn]
    rw [List.getElem?_append_left hlt]
    exact hrequest
  | poll other =>
    have hother : other ≠ index := fun heq ↦ haction (congrArg Action.poll heq)
    simp only [act, pollAt]
    cases s.tasks[other]? with
    | none => exact hrequest
    | some task =>
      simp only
      rw [List.getElem?_set_ne hother]
      exact hrequest
  | release other =>
    simp only [act, releaseAt]
    cases htask : s.tasks[other]? with
    | none => exact hrequest
    | some task =>
      simp only
      by_cases hother : other = index
      · subst hother
        rw [hrequest, Option.some.injEq] at htask
        subst htask
        rw [List.getElem?_set_self hlt]
        rfl
      · rw [List.getElem?_set_ne hother]
        exact hrequest
  | cancel token => exact hrequest
  | elapse time => exact hrequest

/-- A request that has its result keeps it. -/
theorem hasRequest_run_finished {result : Except ClientError α}
    (hrequest : s.HasRequest index context block (.finished result)) (actions : List (Action α)) :
    (s.run actions).HasRequest index context block (.finished result) := by
  induction actions generalizing s with
  | nil => exact hrequest
  | cons action rest ih =>
    rw [run_cons]
    apply ih
    by_cases haction : action = .poll index
    · rw [haction, HasRequest, (hasRequest_poll hrequest).1]
      rfl
    · exact hasRequest_act hrequest haction

theorem hasRequest_inj {other : Progress α} (hrequest : s.HasRequest index context block progress)
    (hother : s.HasRequest index context block other) : progress = other := by
  unfold HasRequest at hrequest hother
  rw [hrequest] at hother
  cases hother
  rfl

/-- A request stays where it is, under its context. -/
theorem exists_hasRequest_run (hrequest : s.HasRequest index context block progress)
    (actions : List (Action α)) :
    ∃ later, (s.run actions).HasRequest index context block later := by
  induction actions generalizing s progress with
  | nil => exact ⟨progress, hrequest⟩
  | cons action rest ih =>
    rw [run_cons]
    by_cases haction : action = .poll index
    · subst haction
      have hpolled := (hasRequest_poll hrequest).1
      cases hpending : progress.isFinished with
      | false =>
        rcases Task.poll_request context block s.tokens s.world hpending with
          ⟨_, -, htask⟩ | ⟨-, -, htask⟩ <;>
        · rw [htask] at hpolled
          exact ih hpolled
      | true =>
        cases progress with
        | finished result => exact ih hpolled
        | _ => cases hpending
    · exact ih (hasRequest_act hrequest haction)

/-- A request that has its result was pending until one of its polls found what decides. -/
theorem exists_deciding_poll (hrequest : s.HasRequest index context block progress)
    (hpending : progress.isFinished = false) {actions : List (Action α)}
    {result : Except ClientError α}
    (hresult : (s.run actions).HasRequest index context block (.finished result)) :
    ∃ before after work, actions = before ++ .poll index :: after ∧
      (s.run before).HasRequest index context block work ∧ work.isFinished = false ∧
      Decides context (s.run before).tokens (s.run before).world.now
        (work.poll block (s.run before).world).1 result := by
  induction actions generalizing s progress with
  | nil =>
    have hsame := hasRequest_inj hrequest hresult
    rw [hsame] at hpending
    cases hpending
  | cons action rest ih =>
    rw [run_cons] at hresult
    by_cases haction : action = .poll index
    · subst haction
      have hpolled := (hasRequest_poll hrequest).1
      rcases Task.poll_request context block s.tokens s.world hpending with
        ⟨first, hdecides, htask⟩ | ⟨-, hwork, htask⟩
      · rw [htask] at hpolled
        have hkept := hasRequest_run_finished hpolled rest
        cases hasRequest_inj hkept hresult
        exact ⟨[], rest, progress, rfl, hrequest, hpending, hdecides⟩
      · rw [htask] at hpolled
        obtain ⟨before, after, later, rfl, hlater⟩ := ih hpolled hwork hresult
        exact ⟨.poll index :: before, after, later, rfl, hlater⟩
    · obtain ⟨before, after, later, rfl, hlater⟩ :=
        ih (hasRequest_act hrequest haction) hpending hresult
      exact ⟨action :: before, after, later, rfl, hlater⟩

/-- A poll that finds what decides gives the request its result. -/
theorem hasRequest_of_decides (hrequest : s.HasRequest index context block progress)
    (hpending : progress.isFinished = false) {result : Except ClientError α}
    (hdecides : Decides context s.tokens s.world.now (progress.poll block s.world).1 result)
    (rest : List (Action α)) :
    (s.run (.poll index :: rest)).HasRequest index context block (.finished result) := by
  rw [run_cons]
  apply hasRequest_run_finished
  have hpolled := (hasRequest_poll hrequest).1
  rcases Task.poll_request context block s.tokens s.world hpending with
    ⟨first, hfirst, htask⟩ | ⟨hnothing, -⟩
  · rw [htask, hfirst.unique hdecides] at hpolled
    exact hpolled
  · exact absurd hdecides (hnothing result)

/-! ### Neither cancellations nor the clock go back -/

theorem isCancelled_run (token : Token) (actions : List (Action α))
    (hcancelled : s.tokens.isCancelled token = true) :
    (s.run actions).tokens.isCancelled token = true := by
  induction actions generalizing s with
  | nil => exact hcancelled
  | cons action rest ih =>
    rw [run_cons]
    apply ih
    cases action with
    | spawn task => exact hcancelled
    | poll other =>
      simp only [act, pollAt]
      split <;> exact hcancelled
    | release other =>
      simp only [act, releaseAt]
      split <;> exact hcancelled
    | cancel other =>
      simp only [act, cancel, Tokens.cancel, Tokens.isCancelled, List.any_cons, Bool.or_eq_true]
      exact Or.inr hcancelled
    | elapse time => exact isCancelled_elapse s time token hcancelled

theorem world_act (s : System α σ) (action : Action α) :
    (s.act action).world.node = s.world.node ∧ s.world.now ≤ (s.act action).world.now := by
  cases action with
  | spawn task => exact ⟨rfl, Nat.le_refl _⟩
  | poll other =>
    simp only [act, pollAt]
    split
    · exact ⟨rfl, Nat.le_refl _⟩
    · rename_i task _
      have htrade : World.Trade 0 s.world (task.poll s.tokens s.world).2 _ _ :=
        task.trade_poll s.world s.tokens
      exact ⟨htrade.node, Nat.le_of_eq htrade.now.symm⟩
  | release other =>
    simp only [act, releaseAt]
    split
    · exact ⟨rfl, Nat.le_refl _⟩
    · rename_i task _
      have hpassage : World.Passage Anything 0 s.world (task.release s.world).2 _ _ :=
        task.passage_release s.world
      exact ⟨hpassage.node, Nat.le_of_eq hpassage.now.symm⟩
  | cancel token => exact ⟨rfl, Nat.le_refl _⟩
  | elapse time => exact ⟨rfl, Nat.le_max_left _ _⟩

theorem world_run (s : System α σ) (actions : List (Action α)) :
    (s.run actions).world.node = s.world.node ∧ s.world.now ≤ (s.run actions).world.now := by
  induction actions generalizing s with
  | nil => exact ⟨rfl, Nat.le_refl _⟩
  | cons action rest ih =>
    obtain ⟨hnode, hnow⟩ := world_act s action
    obtain ⟨hrest, hlater⟩ := ih (s.act action)
    exact ⟨hrest.trans hnode, Nat.le_trans hnow hlater⟩

theorem isExpired_run (actions : List (Action α))
    (hlate : context.isExpired s.world.now = true) :
    context.isExpired (s.run actions).world.now = true := by
  have hnow := (world_run s actions).2
  unfold Context.isExpired at hlate ⊢
  cases hdeadline : context.deadline with
  | none => simp [hdeadline] at hlate
  | some deadline =>
    have hle : deadline ≤ s.world.now := by simpa [hdeadline] using hlate
    exact decide_eq_true (Nat.le_trans hle hnow)

/-! ### Requests that have not begun -/

variable {manner : Manner} {possible : List Exchange → Except ClientError α → Prop}
  {xs : List Exchange} {rounds : Nat} {plan : Plan α rounds}

/-- What a pending request can come to stays what was possible when it was begun, and whatever it
exchanges is of the manner of the node. -/
theorem follows_run (hkeeps : s.world.node.Keeps manner)
    (hrequest : s.HasRequest index context block progress) (hpending : progress.isFinished = false)
    (hfollows : progress.Follows possible (fun _ ↦ False) xs) (hallowed : ∀ x ∈ xs, manner.Allows x)
    {actions : List (Action α)} {work : Progress α}
    (hwork : (s.run actions).HasRequest index context block work)
    (hunfinished : work.isFinished = false) :
    ∃ ys, work.Follows possible (fun _ ↦ False) ys ∧ ∀ y ∈ ys, manner.Allows y := by
  induction actions generalizing s progress xs with
  | nil =>
    cases hasRequest_inj hrequest hwork
    exact ⟨xs, hfollows, hallowed⟩
  | cons action rest ih =>
    rw [run_cons] at hwork
    have hnode : (s.act action).world.node.Keeps manner := by
      rw [(world_act s action).1]
      exact hkeeps
    by_cases haction : action = .poll index
    · subst haction
      have hpolled := (hasRequest_poll hrequest).1
      rcases Task.poll_request context block s.tokens s.world hpending with
        ⟨first, -, htask⟩ | ⟨-, hgoes, htask⟩
      · rw [htask] at hpolled
        cases hasRequest_inj (hasRequest_run_finished hpolled rest) hwork
        cases hunfinished
      · rw [htask] at hpolled
        obtain ⟨more, hspoken, hnext⟩ := Progress.follows_poll (w := s.world) block hfollows
        exact ih hnode hpolled hgoes hnext
          (List.forall_mem_append.mpr ⟨hallowed, hspoken.allows hkeeps⟩) hwork
    · exact ih hnode (hasRequest_act hrequest haction) hpending hfollows hallowed hwork

/-- A request whose context was cancelled before it began never begins, and none of its polls
changes anything in the world. -/
theorem world_poll_of_cancelled (hrequest : s.HasRequest index context block (.planned plan))
    (hcancelled : s.tokens.isCancelled context.token = true) (actions : List (Action α)) :
    ((s.run actions).act (.poll index)).world = (s.run actions).world := by
  have hstill : (s.run actions).HasRequest index context block (.planned plan) ∨
      ∃ result, (s.run actions).HasRequest index context block (.finished result) := by
    induction actions generalizing s with
    | nil => exact Or.inl hrequest
    | cons action rest ih =>
      rw [run_cons]
      by_cases haction : action = .poll index
      · subst haction
        have hnow : Decides context s.tokens s.world.now
            ((Progress.planned plan).poll block s.world).1 (.error (.abandoned .canceled)) :=
          .canceled hcancelled
        exact Or.inr ⟨_, hasRequest_of_decides hrequest rfl hnow rest⟩
      · exact ih (hasRequest_act hrequest haction)
          (isCancelled_run context.token [action] hcancelled)
  have hlater := isCancelled_run context.token actions hcancelled
  rcases hstill with hplanned | ⟨result, hfinished⟩
  · have hverdict : context.verdict (s.run actions).tokens (s.run actions).world.now =
        some .canceled := by simp [Context.verdict, hlater]
    have hunfinished : (Progress.planned plan).isFinished = false := rfl
    rw [(hasRequest_poll hplanned).2, Task.poll_of_verdict hunfinished hverdict]
    rfl
  · rw [(hasRequest_poll hfinished).2]
    rfl

/-- How a request comes to its result, whatever happens to the system from now on; `possible` says
what its work can come to. -/
structure Decided (s : System α σ) (index : Nat) (context : Context) (block : Option String)
    (possible : Except ClientError α → Prop) : Prop where
  by_first : ∀ actions result, (s.run actions).HasRequest index context block (.finished result) →
    ∃ before after work, actions = before ++ .poll index :: after ∧
      (s.run before).HasRequest index context block work ∧ work.isFinished = false ∧
      Decides context (s.run before).tokens (s.run before).world.now
        (work.poll block (s.run before).world).1 result
  at_once : ∀ before work result, (s.run before).HasRequest index context block work →
    work.isFinished = false →
    Decides context (s.run before).tokens (s.run before).world.now
      (work.poll block (s.run before).world).1 result →
    ∀ after, (s.run (before ++ .poll index :: after)).HasRequest index context block
      (.finished result)
  canceled : ∀ before work, (s.run before).HasRequest index context block work →
    work.isFinished = false → (s.run before).tokens.isCancelled context.token = true →
    ∀ after result, (s.run (before ++ after)).HasRequest index context block (.finished result) →
      result = .error (.abandoned .canceled)
  expired : ∀ before work, (s.run before).HasRequest index context block work →
    work.isFinished = false → context.isExpired (s.run before).world.now = true →
    ∀ after result, (s.run (before ++ after)).HasRequest index context block (.finished result) →
      result = .error (.abandoned .expired) ∨ result = .error (.abandoned .canceled) ∧
        (s.run (before ++ after)).tokens.isCancelled context.token = true
  own : ∀ before work, (s.run before).HasRequest index context block work →
    work.isFinished = false → ∀ result,
      (work.poll block (s.run before).world).1 = .finished result → possible result
  silent : s.tokens.isCancelled context.token = true → ∀ before,
    ((s.run before).act (.poll index)).world = (s.run before).world
  nested : ∀ actions, s.runNested actions = s.run actions

theorem decided_of_planned (hkeeps : s.world.node.Keeps manner)
    (hrequest : s.HasRequest index context block (.planned plan)) :
    s.Decided index context block (plan.Ends manner) where
  by_first := fun actions result hresult ↦ exists_deciding_poll hrequest rfl hresult
  at_once := by
    intro before work result hwork hpending hdecides after
    rw [run_append]
    exact hasRequest_of_decides hwork hpending hdecides after
  canceled := by
    intro before work hwork hpending hcancelled after result hresult
    rw [run_append] at hresult
    obtain ⟨earlier, _, _, -, -, -, hdecides⟩ := exists_deciding_poll hwork hpending hresult
    exact hdecides.unique (.canceled (isCancelled_run _ earlier hcancelled))
  expired := by
    intro before work hwork hpending hlate after result hresult
    rw [run_append] at hresult ⊢
    obtain ⟨earlier, later, _, rfl, -, -, hdecides⟩ := exists_deciding_poll hwork hpending hresult
    have hstill := isExpired_run earlier hlate
    cases hdecides with
    | canceled hcancelled =>
      rw [run_append]
      exact Or.inr ⟨rfl, isCancelled_run _ _ hcancelled⟩
    | expired _ _ => exact Or.inl rfl
    | completed _ hearly _ =>
      rw [hstill] at hearly
      cases hearly
  own := by
    intro before work hwork hpending result hresult
    have hplanned : (Progress.planned plan).Follows plan.Comes (fun _ ↦ False) [] :=
      fun _ _ hcomes ↦ hcomes
    obtain ⟨xs, hfollows, hallowed⟩ :=
      follows_run hkeeps hrequest rfl hplanned nofun hwork hpending
    have hnode : (s.run before).world.node.Keeps manner := by
      rw [(world_run s before).1]
      exact hkeeps
    obtain ⟨ys, hspoken, hpolled⟩ :=
      Progress.follows_poll (w := (s.run before).world) block hfollows
    rw [hresult] at hpolled
    exact ⟨xs ++ ys, hpolled.resolve_right id,
      List.forall_mem_append.mpr ⟨hallowed, hspoken.allows hnode⟩⟩
  silent := fun hcancelled before ↦ world_poll_of_cancelled hrequest hcancelled before
  nested := s.runNested_eq

end System

end RollupLedger
