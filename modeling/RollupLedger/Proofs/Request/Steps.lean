import RollupLedger.Proofs.Optional
import RollupLedger.Request.System

/-!
# Steps of lanes and systems taken apart

The visit of a lane goes from slot to slot and ends with the first rejected reply that has all
earlier replies before it. `LaneRun.pollSlots_rec` is the induction along it. A run waits for what a
request brings or goes on with it (`Run.await`), and it goes on as the visit of its lanes says
(`Run.resume`), whether it has just begun or is polled again.

A pass polls one task after another (`System.pass_eq`), and what every pass and every move of the
clock preserves holds when a system has been driven (`System.drive_rec`).
-/

set_option autoImplicit false
set_option relaxedAutoImplicit false

namespace RollupLedger

variable {σ α : Type}

namespace LaneRun

variable {reject : Job → BatchReply → Option ClientError} {block : Option String}

/-- What holds of the visit of no slots, of a visit that ends with a rejected reply, and of a visit
that goes on if it holds of the rest of it, holds of every visit. -/
theorem pollSlots_rec
    {motive : Bool → World σ → List (Job × Slot) →
      List (Job × Slot) × Option ClientError × World σ → Prop}
    (hnil : ∀ isOpen w, motive isOpen w [] ([], none, w))
    (hstop : ∀ w job slot rest reply e, (slot.poll w block job).1.reply? = some reply →
      reject job reply = some e →
      motive true w ((job, slot) :: rest)
        ((job, (slot.poll w block job).1) :: rest, some e, (slot.poll w block job).2))
    (hgo : ∀ isOpen w job slot rest polled,
      (isOpen = true → ∀ reply, (slot.poll w block job).1.reply? = some reply →
        reject job reply = none) →
      motive (isOpen && (slot.poll w block job).1.reply?.isSome) (slot.poll w block job).2 rest
        polled →
      motive isOpen w ((job, slot) :: rest)
        ((job, (slot.poll w block job).1) :: polled.1, polled.2))
    (isOpen : Bool) (w : World σ) (slots : List (Job × Slot)) :
    motive isOpen w slots (pollSlots reject block isOpen w slots) := by
  induction slots generalizing isOpen w with
  | nil => exact hnil isOpen w
  | cons head rest ih =>
    obtain ⟨job, slot⟩ := head
    have hrest (still : Bool) := ih still (slot.poll w block job).2
    unfold pollSlots
    simp only
    cases hreply : (slot.poll w block job).1.reply? with
    | none =>
      refine hgo isOpen w job slot rest _ (fun _ reply hsome ↦ ?_) ?_
      · rw [hreply] at hsome
        cases hsome
      · rw [hreply, Option.isSome_none, Bool.and_false]
        exact hrest false
    | some reply =>
      cases isOpen with
      | false =>
        refine hgo false w job slot rest _ (fun hopen ↦ nomatch hopen) ?_
        exact hrest false
      | true =>
        cases hreject : reject job reply with
        | some e => simpa only [hreject] using hstop w job slot rest reply e hreply hreject
        | none =>
          simp only [hreject]
          refine hgo true w job slot rest _ (fun _ other hother ↦ ?_) ?_
          · rw [hreply] at hother
            cases hother
            exact hreject
          · rw [hreply]
            exact hrest true

/-- A visit leaves the jobs of the slots as they are. -/
theorem map_fst_pollSlots (isOpen : Bool) (w : World σ) (slots : List (Job × Slot)) :
    (pollSlots reject block isOpen w slots).1.map Prod.fst = slots.map Prod.fst := by
  refine pollSlots_rec (motive := fun _ _ slots polled ↦
    polled.1.map Prod.fst = slots.map Prod.fst) ?_ ?_ ?_ isOpen w slots
  · exact fun _ _ ↦ rfl
  · exact fun _ _ _ _ _ _ _ _ ↦ rfl
  · intro _ _ job _ rest polled _ hrest
    rw [List.map_cons, hrest, List.map_cons]

/-- A lane has all replies exactly if every slot has its own. -/
theorem replies?_eq_some_iff {run : LaneRun} {replies : List BatchReply} :
    run.replies? = some replies ↔ run.slots.map (fun s ↦ s.2.reply?) = replies.map some :=
  mapM_eq_some_iff

theorem replies?_eq_none_iff {run : LaneRun} :
    run.replies? = none ↔ ∃ s ∈ run.slots, s.2.reply? = none :=
  mapM_eq_none_iff

variable (w : World σ) (run : LaneRun)

theorem slots_poll :
    (run.poll w block).1.slots = (pollSlots run.lane.reject block true w run.slots).1 := by
  simp only [poll]
  split <;> rfl

theorem lane_poll : (run.poll w block).1.lane = run.lane := by
  simp only [poll]
  split <;> rfl

theorem world_poll :
    (run.poll w block).2.2 = (pollSlots run.lane.reject block true w run.slots).2.2 := by
  simp only [poll]
  split <;> rfl

/-- A polled lane fails with the error of a rejected reply or, once all replies are there, with that
of its end. -/
theorem poll_error :
    (run.poll w block).2.1 =
      ((pollSlots run.lane.reject block true w run.slots).2.1).or
        ((run.poll w block).1.replies?.bind run.lane.close) := by
  unfold poll
  simp only
  cases (pollSlots run.lane.reject block true w run.slots).2.1 with
  | none => rfl
  | some e => rfl

end LaneRun

namespace Run

/-- What comes of the visit of two lanes. -/
theorem visit_cases (w : World σ) (block : Option String) (left right : LaneRun) :
    (∃ e, (left.poll w block).2.1 = some e ∧ (visit w block left right).1 = .failed e ∧
      (visit w block left right).2 =
        right.drop ((left.poll w block).1.drop (left.poll w block).2.2)) ∨
    ((left.poll w block).2.1 = none ∧
      ((∃ e, (right.poll (left.poll w block).2.2 block).2.1 = some e ∧
          (visit w block left right).1 = .failed e ∧
          (visit w block left right).2 = (right.poll (left.poll w block).2.2 block).1.drop
            ((left.poll w block).1.drop (right.poll (left.poll w block).2.2 block).2.2)) ∨
        ((right.poll (left.poll w block).2.2 block).2.1 = none ∧
          (visit w block left right).2 = (right.poll (left.poll w block).2.2 block).2.2 ∧
          ((∃ l r, (left.poll w block).1.replies? = some l ∧
              (right.poll (left.poll w block).2.2 block).1.replies? = some r ∧
              (visit w block left right).1 = .complete l r) ∨
            (((left.poll w block).1.replies? = none ∨
                (right.poll (left.poll w block).2.2 block).1.replies? = none) ∧
              (visit w block left right).1 =
                .pending (left.poll w block).1
                  (right.poll (left.poll w block).2.2 block).1))))) := by
  unfold visit
  simp only
  cases (left.poll w block).2.1 with
  | some e => exact Or.inl ⟨e, rfl, rfl, rfl⟩
  | none =>
    refine Or.inr ⟨rfl, ?_⟩
    cases (right.poll (left.poll w block).2.2 block).2.1 with
    | some e => exact Or.inl ⟨e, rfl, rfl, rfl⟩
    | none =>
      cases (left.poll w block).1.replies? with
      | none => exact Or.inr ⟨rfl, rfl, Or.inr ⟨Or.inl rfl, rfl⟩⟩
      | some l =>
        cases (right.poll (left.poll w block).2.2 block).1.replies? with
        | none => exact Or.inr ⟨rfl, rfl, Or.inr ⟨Or.inr rfl, rfl⟩⟩
        | some r => exact Or.inr ⟨rfl, rfl, Or.inl ⟨l, r, rfl, rfl, rfl⟩⟩

theorem visit_eq_pending {w : World σ} {block : Option String} {left right l r : LaneRun}
    (hpending : (visit w block left right).1 = .pending l r) :
    (left.poll w block).2.1 = none ∧ (right.poll (left.poll w block).2.2 block).2.1 = none ∧
      (l.replies? = none ∨ r.replies? = none) ∧ l = (left.poll w block).1 ∧
      r = (right.poll (left.poll w block).2.2 block).1 := by
  rcases visit_cases w block left right with ⟨_, -, hvisit, -⟩ | ⟨hleft, ⟨_, -, hvisit, -⟩ |
    ⟨hright, -, ⟨_, _, -, -, hvisit⟩ | ⟨hmissing, hvisit⟩⟩⟩ <;>
    rw [hpending] at hvisit <;> cases hvisit
  exact ⟨hleft, hright, hmissing, rfl, rfl⟩

variable {β : Type} {rounds : Nat} (block : Option String)

/-- Goes on with a plan if what it waits for is there. -/
def await (isThere : Bool) (flight : Flight) (rest : Plan α rounds) (w : World σ) :
    Run α × World σ :=
  if isThere then start block rest (w.land flight) else (sleeping flight rest, w)

/-- Waits for an answer, which may take no time. -/
def receive (traces : Nat) (next : β → Plan α rounds) (sent : Answer β × World σ) :
    Run α × World σ :=
  await block (sent.1.latency == 0) ⟨none, traces, sent.2.now + sent.1.latency⟩
    (next sent.1.reply) sent.2

/-- Goes on with a plan as the visit of its lanes says. -/
def resume (next : List BatchReply → List BatchReply → Plan α rounds) :
    Visit × World σ → Run α × World σ
  | (.failed e, w) => (done (.error e), w)
  | (.complete l r, w) => start block (next l r) w
  | (.pending l r, w) => (lanes l r next, w)

theorem start_call (w : World σ) (c : Call) (next : CallReply → Plan α rounds) :
    start block (.call c next) w =
      receive block (Request.call c).traces next (w.sendCall block c) := by
  simp [start, receive, await]

theorem start_batch (w : World σ) (cs : List Call) (next : BatchReply → Plan α rounds) :
    start block (.batch cs next) w =
      receive block (Request.batch cs).traces next (w.sendBatch block cs) := by
  simp [start, receive, await]

theorem start_query (w : World σ) (document : String)
    (next : Except String String → Plan α rounds) :
    start block (.query document next) w =
      receive block 0 next (w.sendQuery block document) := by
  simp [start, receive, await]

theorem start_both (w : World σ) (left right : Lane)
    (next : List BatchReply → List BatchReply → Plan α rounds) :
    start block (.both left right next) w =
      resume block next (visit w block (.start left) (.start right)) := by
  rw [start]
  rfl

theorem poll_sleeping (w : World σ) (flight : Flight) (rest : Plan α rounds) :
    (sleeping flight rest).poll block w = await block (flight.due ≤ w.now) flight rest w := by
  simp [poll, await]

theorem poll_lanes (w : World σ) (left right : LaneRun)
    (next : List BatchReply → List BatchReply → Plan α rounds) :
    (lanes left right next).poll block w = resume block next (visit w block left right) := rfl

end Run

namespace System

/-- Polls tasks one after another. -/
def pollAll (tokens : Tokens) : World σ → List (Task α) → List (Task α) × World σ
  | w, [] => ([], w)
  | w, task :: rest =>
    let (task, w) := task.poll tokens w
    let (rest, w) := pollAll tokens w rest
    (task :: rest, w)

theorem pollAll_cons (tokens : Tokens) (w : World σ) (task : Task α) (rest : List (Task α)) :
    pollAll tokens w (task :: rest) =
      ((task.poll tokens w).1 :: (pollAll tokens (task.poll tokens w).2 rest).1,
        (pollAll tokens (task.poll tokens w).2 rest).2) := rfl

theorem foldl_pollAt (rest before : List (Task α)) (s : System α σ)
    (htasks : s.tasks = before ++ rest) :
    (List.range' before.length rest.length).foldl pollAt s =
      { s with
        tasks := before ++ (pollAll s.tokens s.world rest).1
        world := (pollAll s.tokens s.world rest).2 } := by
  induction rest generalizing before s with
  | nil =>
    rw [List.append_nil] at htasks
    simp [pollAll, ← htasks]
  | cons task rest ih =>
    have hpolled : s.pollAt before.length =
        { s with
          tasks := before ++ [(task.poll s.tokens s.world).1] ++ rest
          world := (task.poll s.tokens s.world).2 } := by
      simp [pollAt, htasks]
    have hrest := ih (before ++ [(task.poll s.tokens s.world).1]) (s.pollAt before.length)
      (by rw [hpolled])
    rw [List.length_append, List.length_singleton] at hrest
    rw [List.length_cons, List.range'_succ, List.foldl_cons, hrest, hpolled, pollAll_cons]
    simp

theorem pass_eq (s : System α σ) :
    s.pass =
      { s with
        tasks := (pollAll s.tokens s.world s.tasks).1
        world := (pollAll s.tokens s.world s.tasks).2 } := by
  rw [pass, List.range_eq_range']
  exact foldl_pollAt s.tasks [] s rfl

theorem mem_foldl_cancel (alarms : List Alarm) (tokens : Tokens) (token : Token) :
    token ∈ (alarms.foldl (fun tokens alarm ↦ tokens.cancel alarm.token) tokens).cancelled ↔
      token ∈ tokens.cancelled ∨ ∃ alarm ∈ alarms, alarm.token = token := by
  induction alarms generalizing tokens with
  | nil => simp
  | cons alarm rest ih =>
    rw [List.foldl_cons, ih]
    simp [Tokens.cancel, or_assoc, or_left_comm, eq_comm (a := token)]

theorem next_foldl_cancel (alarms : List Alarm) (tokens : Tokens) :
    (alarms.foldl (fun tokens alarm ↦ tokens.cancel alarm.token) tokens).next = tokens.next := by
  induction alarms generalizing tokens with
  | nil => rfl
  | cons alarm rest ih => exact ih _

section Induction

variable {motive : System α σ → Prop} (hpass : ∀ s, motive s → motive s.pass)
  (helapse : ∀ s time, motive s → motive (s.elapse time))
include hpass helapse

theorem turn_rec (s : System α σ) (hs : motive s) : motive s.turn := by
  unfold turn
  split
  · exact hpass s hs
  · split
    · exact hpass _ (helapse s _ hs)
    · exact hs

/-- What passes and moves of the clock preserve holds when a system has been driven. -/
theorem drive_rec (s : System α σ) (hs : motive s) : motive s.drive := by
  induction s using drive.induct with
  | case1 s hidle => rwa [drive, if_pos hidle]
  | case2 s hidle next hrank ih =>
    rw [drive, if_neg hidle]
    simp only
    rw [dif_pos hrank]
    exact ih (turn_rec hpass helapse s hs)
  | case3 s hidle next hrank =>
    rw [drive, if_neg hidle]
    simp only
    rw [dif_neg hrank]
    exact turn_rec hpass helapse s hs

end Induction

end System

end RollupLedger
