import RollupLedger.Proofs.Request.Custody

/-!
# Waiting for capacity under a run of its own

A job that waits for the gate races its context once more: before the gate is looked at, the job
gives up with the context's verdict. The functions here poll with these inner races. When they are
reached the outer race has been decided in favour of the work, at the same time and with the same
tokens, so that an inner race never ends otherwise, and polling is what it is without them
(`System.runNested_eq`).
-/

set_option autoImplicit false
set_option relaxedAutoImplicit false

namespace RollupLedger

variable {σ α : Type}

/-! ### Polling with inner races -/

/-- Whether a job waits for capacity or is about to. -/
def Slot.waits (job : Job) : Slot → Bool
  | idle => job.units.isSome
  | waiting _ => true
  | _ => false

section Nested

variable (context : Context) (tokens : Tokens)

/-- What the inner race of a job says, if it has one. -/
def Slot.innerVerdict (w : World σ) (job : Job) (slot : Slot) : Option Abandonment :=
  if slot.waits job then context.verdict tokens w.now else none

namespace LaneRun

/-- A job that gives up ends the visit once all earlier jobs have replies. -/
def pollSlotsNested (reject : Job → BatchReply → Option ClientError) (block : Option String) :
    (isOpen : Bool) → World σ → List (Job × Slot) →
    List (Job × Slot) × Option ClientError × World σ
  | _, w, [] => ([], none, w)
  | isOpen, w, (job, slot) :: rest =>
    match slot.innerVerdict context tokens w job, isOpen with
    | some why, true => ((job, slot) :: rest, some (.abandoned why), w)
    | some _, false =>
      let (rest, e, w) := pollSlotsNested reject block false w rest
      ((job, slot) :: rest, e, w)
    | none, _ =>
      let (slot, w) := slot.poll w block job
      match slot.reply?, isOpen with
      | some reply, true =>
        match reject job reply with
        | some e => ((job, slot) :: rest, some e, w)
        | none =>
          let (rest, e, w) := pollSlotsNested reject block true w rest
          ((job, slot) :: rest, e, w)
      | _, _ =>
        let (rest, e, w) := pollSlotsNested reject block false w rest
        ((job, slot) :: rest, e, w)

def pollNested (w : World σ) (block : Option String) (run : LaneRun) :
    LaneRun × Option ClientError × World σ :=
  let (slots, e, w) := pollSlotsNested context tokens run.lane.reject block true w run.slots
  let run : LaneRun := { run with slots := slots }
  match e with
  | some e => (run, some e, w)
  | none => (run, run.replies?.bind run.lane.close, w)

end LaneRun

namespace Run

def visitNested (w : World σ) (block : Option String) (left right : LaneRun) : Visit × World σ :=
  let (left, e, w) := left.pollNested context tokens w block
  match e with
  | some e => (.failed e, right.drop (left.drop w))
  | none =>
    let (right, e, w) := right.pollNested context tokens w block
    match e with
    | some e => (.failed e, right.drop (left.drop w))
    | none =>
      match left.replies?, right.replies? with
      | some l, some r => (.complete l r, w)
      | _, _ => (.pending left right, w)

def startNested (block : Option String) :
    {rounds : Nat} → Plan α rounds → World σ → Run α × World σ
  | _, .done result, w => (done result, w)
  | _, .note event next, w => startNested block next (w.note block event)
  | _, .call c next, w =>
    let (answer, w) := w.sendCall block c
    let flight : Flight := ⟨none, (Request.call c).traces, w.now + answer.latency⟩
    if answer.latency = 0 then startNested block (next answer.reply) (w.land flight)
    else (sleeping flight (next answer.reply), w)
  | _, .batch cs next, w =>
    let (answer, w) := w.sendBatch block cs
    let flight : Flight := ⟨none, (Request.batch cs).traces, w.now + answer.latency⟩
    if answer.latency = 0 then startNested block (next answer.reply) (w.land flight)
    else (sleeping flight (next answer.reply), w)
  | _, .query document next, w =>
    let (answer, w) := w.sendQuery block document
    let flight : Flight := ⟨none, 0, w.now + answer.latency⟩
    if answer.latency = 0 then startNested block (next answer.reply) (w.land flight)
    else (sleeping flight (next answer.reply), w)
  | _, .both left right next, w =>
    match visitNested context tokens w block (.start left) (.start right) with
    | (.failed e, w) => (done (.error e), w)
    | (.complete l r, w) => startNested block (next l r) w
    | (.pending l r, w) => (lanes l r next, w)

def pollNested (block : Option String) (w : World σ) : Run α → Run α × World σ
  | done result => (done result, w)
  | sleeping flight rest =>
    if flight.due ≤ w.now then startNested context tokens block rest (w.land flight)
    else (sleeping flight rest, w)
  | lanes left right next =>
    match visitNested context tokens w block left right with
    | (.failed e, w) => (done (.error e), w)
    | (.complete l r, w) => startNested context tokens block (next l r) w
    | (.pending l r, w) => (lanes l r next, w)

end Run

def Progress.pollNested (block : Option String) (w : World σ) : Progress α → Progress α × World σ
  | planned plan =>
    let (run, w) := Run.startNested context tokens block plan w
    (ofRun run, w)
  | running run =>
    let (run, w) := run.pollNested context tokens block w
    (ofRun run, w)
  | finished result => (finished result, w)

end Nested

/-- Looks at a pending task's context, and lets its jobs look at it again before the gate. A guard
does nothing else than wait for the gate, so its inner race is the outer one. -/
def Task.pollNested (tokens : Tokens) (w : World σ) (task : Task α) : Task α × World σ :=
  if !task.isPending then (task, w)
  else
    match task.context.verdict tokens w.now, task with
    | some why, task => task.abandon w why
    | none, request context block progress =>
      let (progress, w) := progress.pollNested context tokens block w
      (request context block progress, w)
    | none, guard context units hold =>
      let (hold, w) := hold.poll w units
      (guard context units hold, w)

namespace System

def pollAtNested (s : System α σ) (index : Nat) : System α σ :=
  match s.tasks[index]? with
  | none => s
  | some task =>
    let (task, world) := task.pollNested s.tokens s.world
    { s with tasks := s.tasks.set index task, world := world }

def actNested (s : System α σ) : Action α → System α σ
  | .poll index => s.pollAtNested index
  | action => s.act action

/-- What comes of actions in order. -/
def run (s : System α σ) (actions : List (Action α)) : System α σ := actions.foldl act s

/-- What comes of actions in order if jobs race their contexts on their own. -/
def runNested (s : System α σ) (actions : List (Action α)) : System α σ :=
  actions.foldl actNested s

end System

/-! ### Inner races decide nothing -/

section Equal

variable {context : Context} {tokens : Tokens} {w : World σ} (block : Option String)

theorem Slot.innerVerdict_eq_none (hlive : context.verdict tokens w.now = none) (job : Job)
    (slot : Slot) : slot.innerVerdict context tokens w job = none := by
  unfold innerVerdict
  rw [hlive, ite_self]

namespace LaneRun

theorem pollSlotsNested_eq (reject : Job → BatchReply → Option ClientError) (isOpen : Bool)
    (slots : List (Job × Slot)) (hlive : context.verdict tokens w.now = none) :
    pollSlotsNested context tokens reject block isOpen w slots =
      pollSlots reject block isOpen w slots := by
  induction slots generalizing isOpen w with
  | nil => rfl
  | cons head rest ih =>
    obtain ⟨job, slot⟩ := head
    have htrade : World.Trade 0 w (slot.poll w block job).2 _ _ := slot.trade_poll w block job
    have hlater : context.verdict tokens (slot.poll w block job).2.now = none := by
      rwa [htrade.now]
    unfold pollSlotsNested
    rw [Slot.innerVerdict_eq_none hlive]
    simp only [ih _ hlater]
    rfl

variable {block}

theorem pollNested_eq (run : LaneRun) (hlive : context.verdict tokens w.now = none) :
    run.pollNested context tokens w block = run.poll w block := by
  unfold pollNested
  rw [pollSlotsNested_eq block _ _ _ hlive]
  rfl

end LaneRun

namespace Run

theorem visitNested_eq (left right : LaneRun) (hlive : context.verdict tokens w.now = none) :
    visitNested context tokens w block left right = visit w block left right := by
  have htrade : World.Trade 0 w (left.poll w block).2.2 _ _ := left.trade_poll w block
  have hlater : context.verdict tokens (left.poll w block).2.2.now = none := by rwa [htrade.now]
  unfold visitNested
  rw [left.pollNested_eq hlive]
  simp only [right.pollNested_eq hlater]
  rfl

theorem startNested_eq {rounds : Nat} (plan : Plan α rounds)
    (hlive : context.verdict tokens w.now = none) :
    startNested context tokens block plan w = start block plan w := by
  induction plan generalizing w with
  | done result => rfl
  | note event next ih => exact ih hlive
  | call c next ih =>
    unfold startNested start
    simp only
    rw [ih _ (by exact hlive)]
  | batch cs next ih =>
    unfold startNested start
    simp only
    rw [ih _ (by exact hlive)]
  | query document next ih =>
    unfold startNested start
    simp only
    rw [ih _ (by exact hlive)]
  | both left right next ih =>
    have htrade : World.Trade 0 w (visit w block (.start left) (.start right)).2 _ _ :=
      trade_visit w block (.start left) (.start right)
    unfold startNested start
    rw [visitNested_eq block _ _ hlive]
    generalize visit w block (.start left) (.start right) = visited at htrade
    obtain ⟨outcome, w₁⟩ := visited
    cases outcome with
    | complete l r => exact ih l r (by rwa [htrade.now])
    | _ => rfl

theorem pollNested_eq (run : Run α) (hlive : context.verdict tokens w.now = none) :
    run.pollNested context tokens block w = run.poll block w := by
  cases run with
  | done result => rfl
  | sleeping flight rest =>
    have hlanded : context.verdict tokens (w.land flight).now = none := hlive
    simp only [pollNested, poll, startNested_eq block rest hlanded]
  | lanes left right next =>
    have htrade : World.Trade 0 w (visit w block left right).2 _ _ := trade_visit w block left right
    simp only [pollNested, poll, visitNested_eq block _ _ hlive]
    generalize visit w block left right = visited at htrade
    obtain ⟨outcome, w₁⟩ := visited
    cases outcome with
    | complete l r => exact startNested_eq block (next l r) (by rwa [htrade.now])
    | _ => rfl

end Run

theorem Progress.pollNested_eq (progress : Progress α)
    (hlive : context.verdict tokens w.now = none) :
    progress.pollNested context tokens block w = progress.poll block w := by
  cases progress with
  | planned plan => simp only [pollNested, poll, Run.startNested_eq block plan hlive]
  | running run => simp only [pollNested, poll, run.pollNested_eq block hlive]
  | finished result => rfl

end Equal

theorem Task.pollNested_eq (tokens : Tokens) (w : World σ) (task : Task α) :
    task.pollNested tokens w = task.poll tokens w := by
  unfold pollNested poll
  split
  · rfl
  · cases hverdict : task.context.verdict tokens w.now with
    | some why => rfl
    | none =>
      cases task with
      | request context block progress =>
        have hlive : context.verdict tokens w.now = none := hverdict
        simp only [progress.pollNested_eq block hlive]
      | guard context units hold => rfl

/-- Inner races change nothing, whatever happens to a system. -/
theorem System.runNested_eq (s : System α σ) (actions : List (Action α)) :
    s.runNested actions = s.run actions := by
  have hact (s : System α σ) (action : Action α) : s.actNested action = s.act action := by
    cases action with
    | poll index =>
      simp only [actNested, pollAtNested, Task.pollNested_eq]
      rfl
    | _ => rfl
  unfold runNested run
  induction actions generalizing s with
  | nil => rfl
  | cons action rest ih => rw [List.foldl_cons, List.foldl_cons, hact, ih]

end RollupLedger
