import RollupLedger.Client.Session
import RollupLedger.Proofs.Request.Completion
import RollupLedger.Proofs.Request.Outcome

/-!
# Rounds of inquiries

A session that is reached through any rounds begins the next one with its gate at rest and with a
context of which nothing has been cancelled. A round therefore brings a result for each inquiry
(`Session.exists_exchanges`): one to which its plan comes by exchanges of its own, as long as the
round was neither cancelled nor beyond its time.
-/

set_option autoImplicit false
set_option relaxedAutoImplicit false

namespace RollupLedger

variable {σ α : Type}

/-! ### Clock, tokens and alarms -/

namespace System

/-- What has happened to node, clock and tokens since a system was started with given tokens and
alarms: only alarms whose time has come have cancelled anything. -/
structure Since (first s : System α σ) : Prop where
  node : s.world.node = first.world.node
  later : first.world.now ≤ s.world.now
  next : s.tokens.next = first.tokens.next
  alarms : ∀ alarm ∈ s.alarms, alarm ∈ first.alarms
  cancelled : ∀ token ∈ s.tokens.cancelled, token ∈ first.tokens.cancelled ∨
    ∃ alarm ∈ first.alarms, alarm.time ≤ s.world.now ∧ alarm.token = token

theorem Since.refl (s : System α σ) : s.Since s :=
  ⟨rfl, Nat.le_refl _, rfl, fun _ halarm ↦ halarm, fun _ htoken ↦ Or.inl htoken⟩

variable {first : System α σ}

theorem since_pass (s : System α σ) (hsince : first.Since s) : first.Since s.pass := by
  have htrade : World.Trade 0 s.world (pollAll s.tokens s.world s.tasks).2 _ _ :=
    trade_pollAll s.world s.tokens s.tasks
  rw [pass_eq]
  refine ⟨htrade.node.trans hsince.node, ?_, hsince.next, hsince.alarms, fun token htoken ↦ ?_⟩
  · simp only [htrade.now]
    exact hsince.later
  · simp only [htrade.now]
    exact hsince.cancelled token htoken

theorem since_elapse (s : System α σ) (time : Nat) (hsince : first.Since s) :
    first.Since (s.elapse time) where
  node := hsince.node
  later := Nat.le_trans hsince.later (Nat.le_max_left _ _)
  next := (next_foldl_cancel _ _).trans hsince.next
  alarms := fun alarm halarm ↦ hsince.alarms alarm (List.mem_filter.mp halarm).1
  cancelled := by
    intro token htoken
    rcases (mem_foldl_cancel _ _ _).mp htoken with hearlier | ⟨alarm, halarm, rfl⟩
    · refine (hsince.cancelled token hearlier).imp_right fun ⟨alarm, halarm, hle, htoken⟩ ↦ ?_
      exact ⟨alarm, halarm, Nat.le_trans hle (Nat.le_max_left _ _), htoken⟩
    · rw [List.mem_filter] at halarm
      have hle : alarm.time ≤ time := by simpa using halarm.2
      exact Or.inr ⟨alarm, hsince.alarms alarm halarm.1, Nat.le_trans hle (Nat.le_max_right _ _),
        rfl⟩

theorem since_drive (s : System α σ) : s.Since s.drive :=
  drive_rec since_pass since_elapse s (.refl s)

end System

/-! ### Sessions -/

namespace Session

/-- A session that a client has over a node after any rounds and any changes of the node's state. -/
inductive Reached (client : Client) (node : Responder σ) : Session σ → Prop
  | new (state : σ) : Reached client node (new client node state)
  | ask {session : Session σ} (limits : Limits) (inquiries : List Inquiry) :
    Reached client node session → Reached client node (session.ask limits inquiries).2
  | update {session : Session σ} (change : σ → σ) :
    Reached client node session → Reached client node (session.update change)

/-- Between rounds all units are free, and only tokens of earlier rounds are cancelled. -/
structure Rests (client : Client) (node : Responder σ) (session : Session σ) : Prop where
  of_client : session.client = client
  of_node : session.system.world.node = node
  gate : session.system.world.Holds client.gate.capacity ∅
  named : ∀ token ∈ session.system.tokens.cancelled,
    ∃ name < session.system.tokens.next, token.path = [name]

/-- The token of the next round. -/
def token (session : Session σ) : Token := ⟨[session.system.tokens.next]⟩

/-- The context of the next round. -/
def context (session : Session σ) (limits : Limits) : Context :=
  match limits.timeout with
  | some timeout => (Context.ofToken session.token).withTimeout session.system.world.now timeout
  | none => .ofToken session.token

variable {client : Client} {node : Responder σ} {session : Session σ}

theorem tasks_opening (limits : Limits) (inquiries : List Inquiry) :
    (session.opening limits inquiries).tasks =
      inquiries.map (session.client.task (session.context limits)) := rfl

theorem cancelled_opening (limits : Limits) (inquiries : List Inquiry) {token : Token}
    (htoken : token ∈ (session.opening limits inquiries).tokens.cancelled) :
    token ∈ session.system.tokens.cancelled ∨
      (limits.cancelAfter = some 0 ∧ token = session.token) := by
  by_cases hnow : limits.cancelAfter = some 0
  · simp only [opening, Tokens.fresh, if_pos hnow, Tokens.cancel, List.mem_cons] at htoken
    rcases htoken with rfl | htoken
    · exact Or.inr ⟨hnow, rfl⟩
    · exact Or.inl htoken
  · simp only [opening, Tokens.fresh, if_neg hnow] at htoken
    exact Or.inl htoken

theorem next_opening (limits : Limits) (inquiries : List Inquiry) :
    (session.opening limits inquiries).tokens.next = session.system.tokens.next + 1 := by
  simp only [opening, Tokens.fresh]
  split <;> rfl

theorem alarms_opening (limits : Limits) (inquiries : List Inquiry) {alarm : Alarm}
    (halarm : alarm ∈ (session.opening limits inquiries).alarms) :
    ∃ time, limits.cancelAfter = some time ∧
      alarm = ⟨session.system.world.now + time, session.token⟩ := by
  obtain ⟨time, htime, rfl⟩ := List.mem_map.mp halarm
  exact ⟨time, Option.mem_toList.mp htime, rfl⟩

/-- An inquiry has either its result or a plan of which nothing has been carried out. -/
theorem begin_cases (client : Client) (inquiry : Inquiry) :
    (∃ rounds, ∃ plan : Plan Response rounds, client.begin inquiry = .planned plan) ∨
      ∃ result, client.begin inquiry = .finished result := by
  cases inquiry with
  | balance account requested =>
    rw [Client.begin]
    cases Balance.plan client account requested with
    | ok plan => exact Or.inl ⟨_, _, rfl⟩
    | error e => exact Or.inr ⟨_, rfl⟩
  | call request =>
    rw [Client.begin]
    cases Proxy.plan request with
    | ok plan => exact Or.inl ⟨_, _, rfl⟩
    | error e => exact Or.inr ⟨_, rfl⟩
  | _ => exact Or.inl ⟨_, _, rfl⟩

theorem runs_opening (hrests : session.Rests client node) (limits : Limits)
    (inquiries : List Inquiry) :
    (session.opening limits inquiries).Runs client.gate.capacity := by
  have hbegin (inquiry : Inquiry) :
      (session.client.begin inquiry).stake client.gate.capacity = ∅ ∧
        (session.client.begin inquiry).Stands := by
    rcases begin_cases session.client inquiry with ⟨rounds, plan, hplan⟩ | ⟨result, hresult⟩
    · rw [hplan]
      exact ⟨rfl, trivial⟩
    · rw [hresult]
      exact ⟨rfl, trivial⟩
  refine ⟨⟨?_, fun task htask ↦ ?_⟩, fun task htask ↦ ?_⟩
  · have hnothing : System.tasksStake client.gate.capacity
        (session.opening limits inquiries).tasks = ∅ := by
      refine Stake.all_eq_empty fun stake hstake ↦ ?_
      obtain ⟨task, htask, rfl⟩ := List.mem_map.mp hstake
      obtain ⟨inquiry, -, rfl⟩ := List.mem_map.mp htask
      exact (hbegin inquiry).1
    rw [System.Kept, hnothing]
    exact hrests.gate
  · obtain ⟨inquiry, -, rfl⟩ := List.mem_map.mp htask
    exact (hbegin inquiry).2
  · obtain ⟨inquiry, -, rfl⟩ := List.mem_map.mp htask
    trivial

theorem rests_ask (hrests : session.Rests client node) (limits : Limits)
    (inquiries : List Inquiry) : (session.ask limits inquiries).2.Rests client node where
  of_client := hrests.of_client
  of_node := (System.since_drive _).node.trans hrests.of_node
  gate := System.holds_drive (runs_opening hrests limits inquiries)
  named := by
    intro token htoken
    have hsince := System.since_drive (session.opening limits inquiries)
    have hnext : (session.opening limits inquiries).drive.tokens.next =
        session.system.tokens.next + 1 := hsince.next.trans (next_opening limits inquiries)
    have hnew : ∃ name < session.system.tokens.next + 1, session.token.path = [name] :=
      ⟨_, Nat.lt_succ_self _, rfl⟩
    show ∃ name < (session.opening limits inquiries).drive.tokens.next, token.path = [name]
    rw [hnext]
    rcases hsince.cancelled token htoken with hopening | ⟨alarm, halarm, -, rfl⟩
    · rcases cancelled_opening limits inquiries hopening with hearlier | ⟨-, rfl⟩
      · obtain ⟨name, hname, hpath⟩ := hrests.named token hearlier
        exact ⟨name, Nat.lt_succ_of_lt hname, hpath⟩
      · exact hnew
    · obtain ⟨time, -, rfl⟩ := alarms_opening limits inquiries halarm
      exact hnew

theorem rests_of_reached (hreached : Reached client node session) : session.Rests client node := by
  induction hreached with
  | new state =>
    exact ⟨rfl, rfl, ⟨rfl, Gate.custody_new client.capacity⟩, by simp [new, Tokens.empty]⟩
  | ask limits inquiries _ ih => exact rests_ask ih limits inquiries
  | update change _ ih => exact ⟨ih.of_client, ih.of_node, ih.gate, ih.named⟩

/-- Nothing has given a round up that ended before its time and before it was to be cancelled. -/
theorem verdict_drive (hrests : session.Rests client node) (limits : Limits)
    (inquiries : List Inquiry)
    (hlive : ∀ time, limits.timeout = some time ∨ limits.cancelAfter = some time →
      (session.ask limits inquiries).1.time < session.system.world.now + time) :
    (session.context limits).verdict (session.opening limits inquiries).drive.tokens
      (session.ask limits inquiries).1.time = none := by
  have hsince := System.since_drive (session.opening limits inquiries)
  have hlater : session.system.world.now ≤ (session.ask limits inquiries).1.time := hsince.later
  have htoken : (session.context limits).token = session.token := by
    unfold context
    cases limits.timeout <;> rfl
  have hcancelled : (session.opening limits inquiries).drive.tokens.isCancelled session.token =
      false := by
    refine List.any_eq_false.mpr fun ancestor hancestor hwithin ↦ ?_
    rcases hsince.cancelled ancestor hancestor with hopening | ⟨alarm, halarm, hle, rfl⟩
    · rcases cancelled_opening limits inquiries hopening with hearlier | ⟨hnow, -⟩
      · -- The token of this round descends from none of an earlier one.
        obtain ⟨name, hname, hpath⟩ := hrests.named ancestor hearlier
        rw [Token.isWithin, hpath, List.isSuffixOf_iff_suffix,
          List.singleton_suffix_iff_getLast?_eq_some] at hwithin
        have hsame : session.system.tokens.next = name := Option.some.inj hwithin
        omega
      · have hshort := hlive 0 (Or.inr hnow)
        omega
    · obtain ⟨time, htime, rfl⟩ := alarms_opening limits inquiries halarm
      have hshort := hlive time (Or.inr htime)
      exact absurd hle (Nat.not_le.mpr hshort)
  have hexpired : (session.context limits).isExpired (session.ask limits inquiries).1.time =
      false := by
    unfold context
    cases htimeout : limits.timeout with
    | none => rfl
    | some timeout =>
      have hshort := hlive timeout (Or.inl htimeout)
      exact decide_eq_false (Nat.not_le.mpr hshort)
  rw [Context.verdict, htoken, hcancelled, hexpired]
  rfl

/-- What the inquiries of a round can come to. -/
def prospects (session : Session σ) (limits : Limits) (inquiries : List Inquiry) :
    List (Prospect Response) :=
  inquiries.map fun inquiry ↦ ⟨session.context limits, (session.client.begin inquiry).Comes⟩

theorem follows_begin (client : Client) (inquiry : Inquiry)
    (cut : Except ClientError Response → Prop) :
    (client.begin inquiry).Follows (client.begin inquiry).Comes cut [] := by
  rcases begin_cases client inquiry with ⟨rounds, plan, hplan⟩ | ⟨result, hresult⟩
  · rw [hplan]
    exact fun _ _ hcomes ↦ hcomes
  · rw [hresult]
    exact Or.inl ⟨rfl, rfl⟩

theorem follows_opening (limits : Limits) (inquiries : List Inquiry) :
    (session.opening limits inquiries).Follows (session.prospects limits inquiries)
      (session.opening limits inquiries).world := by
  refine ⟨[], inquiries.map fun _ ↦ [], World.says_refl _, ?_, by simp, ?_⟩
  · rw [List.flatten_eq_nil_iff.mpr (by simp)]
  · rw [tasks_opening, prospects]
    induction inquiries with
    | nil => exact .nil
    | cons inquiry rest ih => exact .cons ⟨rfl, follows_begin session.client inquiry _⟩ ih

/-- What passes between a client and its node in a round: the requests that the journal records as
sent, with the replies that the node gives to them one after another. -/
def transcript (session : Session σ) (limits : Limits) (inquiries : List Inquiry) : List Exchange :=
  (session.system.world.node.converse session.system.world.state
    (sentRequests (session.ask limits inquiries).1.journal)).1

theorem transcript_eq {limits : Limits} {inquiries : List Inquiry} {xs : List Exchange}
    (hspoken : (session.opening limits inquiries).world.Says xs
      (session.opening limits inquiries).drive.world) :
    session.transcript limits inquiries = xs := by
  have hasked : sentRequests (session.ask limits inquiries).1.journal =
      xs.map Exchange.request := hspoken.asked
  rw [transcript, hasked]
  exact congrArg Prod.fst hspoken.told

/-- Every inquiry of a round has a result. It tells of a context that has given the round up, or the
inquiry comes to it by exchanges of its own; an inquiry that is alone has all exchanges of the
round. -/
theorem exists_exchanges (hreached : Reached client node session) (limits : Limits)
    (inquiries : List Inquiry) {place : Nat} {inquiry : Inquiry}
    (hplace : inquiries[place]? = some inquiry) :
    ∃ result xs, (session.ask limits inquiries).1.results[place]? = some (some result) ∧
      xs.Sublist (session.transcript limits inquiries) ∧
      (inquiries = [inquiry] → xs = session.transcript limits inquiries) ∧
      ((client.begin inquiry).Comes xs result ∨
        (session.context limits).CutsOff (session.opening limits inquiries).drive.tokens
          (session.ask limits inquiries).1.time result) := by
  have hrests := rests_of_reached hreached
  have hruns := runs_opening hrests limits inquiries
  obtain ⟨all, own, hspoken, hshares⟩ := System.follows_drive (follows_opening limits inquiries)
  rw [transcript_eq hspoken]
  have hprospect : (session.prospects limits inquiries)[place]? =
      some ⟨session.context limits, (session.client.begin inquiry).Comes⟩ := by
    rw [prospects, List.getElem?_map, hplace]
    rfl
  obtain ⟨xs, task, hxs, htask, hfollows⟩ := hshares.tasks.exists_of_getElem? hprospect
  have halone (hone : inquiries = [inquiry]) : xs = all := by
    have hlength : own.length = 1 := by
      rw [← hshares.tasks.length_left, hone]
      rfl
    obtain ⟨ys, rfl⟩ := List.length_eq_one_iff.mp hlength
    obtain rfl : xs = ys := by simpa using List.mem_of_getElem? hxs
    have hperm : all.Perm xs := by simpa using hshares.all
    exact (hshares.ordered xs List.mem_cons_self).eq_of_length hperm.length_eq.symm
  have hmem := List.mem_of_getElem? htask
  have hended : task.isPending = false := by
    simpa using List.all_eq_true.mp (System.isIdle_drive hruns) task hmem
  cases task with
  | guard context units hold => exact ((System.runs_drive hruns).requests _ hmem).elim
  | request context block progress =>
    cases progress with
    | finished result =>
      refine ⟨result, xs, ?_, hshares.ordered xs (List.mem_of_getElem? hxs), halone, ?_⟩
      · simp only [ask, List.getElem?_map, htask]
        rfl
      · rw [← hrests.of_client]
        obtain ⟨rfl, hresult⟩ := hfollows
        exact hresult
    | _ => cases hended

/-- All that passes in a round is of the manner that the node keeps to. -/
theorem allows_transcript (hreached : Reached client node session) {manner : Manner}
    (hkeeps : node.Keeps manner) (limits : Limits) (inquiries : List Inquiry) :
    ∀ x ∈ session.transcript limits inquiries, manner.Allows x := by
  have hnode : session.system.world.node.Keeps manner :=
    (rests_of_reached hreached).of_node ▸ hkeeps
  exact Responder.allows_converse hnode _ _

/-- Every inquiry of a round has a result, and one that its plan can end with if the round was
neither cancelled nor beyond its time. -/
theorem exists_result (hreached : Reached client node session) {manner : Manner}
    (hkeeps : node.Keeps manner) (limits : Limits) (inquiries : List Inquiry)
    (hlive : ∀ time, limits.timeout = some time ∨ limits.cancelAfter = some time →
      (session.ask limits inquiries).1.time < session.system.world.now + time)
    {place : Nat} {inquiry : Inquiry} (hplace : inquiries[place]? = some inquiry) :
    ∃ result, (session.ask limits inquiries).1.results[place]? = some (some result) ∧
      (client.begin inquiry).Possible manner result := by
  have hrests := rests_of_reached hreached
  obtain ⟨result, xs, hresult, hsub, -, hcomes | ⟨why, -, hcut⟩⟩ :=
    exists_exchanges hreached limits inquiries hplace
  · refine ⟨result, hresult, xs, hcomes, fun x hx ↦ ?_⟩
    exact allows_transcript hreached hkeeps limits inquiries x (hsub.subset hx)
  · have hverdict := verdict_drive hrests limits inquiries hlive
    rw [hverdict] at hcut
    cases hcut

end Session

end RollupLedger
