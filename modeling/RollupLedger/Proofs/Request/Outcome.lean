import RollupLedger.Proofs.Lists
import RollupLedger.Proofs.Request.Exchanges

/-!
# What a request can come to

`Plan.Comes plan xs result` says that a plan can come to a result by the exchanges `xs`. It knows
nothing of time, of the gate or of other requests; of two lanes it says only that their exchanges
took place in some order. Whatever a request is doing, what it has exchanged so far and what its
plan can still exchange make a way in which its plan comes to its result (`Run.follows_poll`), and
in a system that is driven to its end every request has come to its result by exchanges of its own,
unless its context gave it up (`System.follows_drive`).
-/

set_option autoImplicit false
set_option relaxedAutoImplicit false

namespace RollupLedger

variable {σ α β : Type}

/-! ### Plans -/

namespace Lane

/-- An error that a lane can end with after some exchanges. -/
def Fails (lane : Lane) (xs : List Exchange) (e : ClientError) : Prop :=
  (∃ job ∈ lane.jobs, ∃ x ∈ xs, ∃ reply, job.Brings x reply ∧ lane.reject job reply = some e) ∨
    ∃ replies, lane.jobs.Forall₂ (fun job reply ↦ ∃ x ∈ xs, job.Brings x reply) replies ∧
      lane.close replies = some e

theorem Fails.mono {lane : Lane} {xs ys : List Exchange} {e : ClientError}
    (hfails : lane.Fails xs e) (hsub : xs ⊆ ys) : lane.Fails ys e := by
  rcases hfails with ⟨job, hjob, x, hx, hreply⟩ | ⟨replies, hbrings, hclose⟩
  · exact Or.inl ⟨job, hjob, x, hsub hx, hreply⟩
  · exact Or.inr ⟨replies, hbrings.imp fun _ _ ⟨x, hx, hbrings⟩ ↦ ⟨x, hsub hx, hbrings⟩, hclose⟩

/-- Replies with which a lane can come to its end, after one exchange for each job. -/
structure Passes (lane : Lane) (xs : List Exchange) (replies : List BatchReply) : Prop where
  brings : ∃ ys, xs.Perm ys ∧ Forall₃ Job.Brings lane.jobs ys replies
  accepted : ∀ s ∈ lane.jobs.zip replies, lane.reject s.1 s.2 = none
  closed : lane.close replies = none

end Lane

/-- A plan can come to a result by the given exchanges, those of two lanes in any order. -/
inductive Plan.Comes : {rounds : Nat} → Plan α rounds → List Exchange → Except ClientError α → Prop
  | done {rounds : Nat} {result : Except ClientError α} :
    Comes (.done result : Plan α rounds) [] result
  | note {rounds : Nat} {event : Event} {next : Plan α rounds} {xs : List Exchange}
    {result : Except ClientError α} : Comes next xs result → Comes (.note event next) xs result
  | call {rounds : Nat} {c : Call} {next : CallReply → Plan α rounds} {reply : CallReply}
    {xs : List Exchange} {result : Except ClientError α} : Comes (next reply) xs result →
    Comes (.call c next) (.call c reply :: xs) result
  | batch {rounds : Nat} {cs : List Call} {next : BatchReply → Plan α rounds} {reply : BatchReply}
    {xs : List Exchange} {result : Except ClientError α} : Comes (next reply) xs result →
    Comes (.batch cs next) (.batch cs reply :: xs) result
  | query {rounds : Nat} {document : String} {next : Except String String → Plan α rounds}
    {reply : Except String String} {xs : List Exchange} {result : Except ClientError α} :
    Comes (next reply) xs result → Comes (.query document next) (.query document reply :: xs) result
  | left {rounds : Nat} {left right : Lane}
    {next : List BatchReply → List BatchReply → Plan α rounds} {xs : List Exchange}
    {e : ClientError} : left.Fails xs e → Comes (.both left right next) xs (.error e)
  | right {rounds : Nat} {left right : Lane}
    {next : List BatchReply → List BatchReply → Plan α rounds} {xs : List Exchange}
    {e : ClientError} : right.Fails xs e → Comes (.both left right next) xs (.error e)
  | both {rounds : Nat} {left right : Lane}
    {next : List BatchReply → List BatchReply → Plan α rounds} {l r : List BatchReply}
    {xs ls rs ys : List Exchange} {result : Except ClientError α} : xs.Perm (ls ++ rs) →
    left.Passes ls l → right.Passes rs r → Comes (next l r) ys result →
    Comes (.both left right next) (xs ++ ys) result

/-! ### Jobs -/

namespace Slot

variable {w : World σ} (block : Option String) {job : Job} {xs : List Exchange}

/-- A job that has been sent has made one exchange, whose reply is on its way or there. -/
def Follows (job : Job) (xs : List Exchange) : Slot → Prop
  | flying _ reply => ∃ x, xs = [x] ∧ job.Brings x reply
  | finished reply => ∃ x, xs = [x] ∧ job.Brings x reply
  | _ => xs = []

theorem follows_launch (w : World σ) (job : Job) (ticket : Option Nat) :
    ∃ ys, w.Says ys (launch w block job ticket).2 ∧
      (launch w block job ticket).1.Follows job ys := by
  obtain ⟨x, hspoken, hbrings⟩ := w.says_sendJob block job
  simp only [launch]
  split
  · exact ⟨[x], hspoken.trans (World.says_land _ _), x, rfl, hbrings⟩
  · exact ⟨[x], hspoken, x, rfl, hbrings⟩

theorem follows_poll {slot : Slot} (hfollows : slot.Follows job xs) :
    ∃ ys, w.Says ys (slot.poll w block job).2 ∧
      (slot.poll w block job).1.Follows job (xs ++ ys) := by
  cases slot with
  | idle =>
    cases hfollows
    cases hunits : job.units with
    | none =>
      simp only [poll, hunits]
      exact follows_launch block w job none
    | some units =>
      simp only [poll, hunits, enter]
      split
      · obtain ⟨ys, hspoken, hlaunched⟩ := follows_launch block
          { w with gate := (w.gate.acquire units).2 } job (some (w.gate.acquire units).1)
        exact ⟨ys, (w.says_gate _).trans hspoken, hlaunched⟩
      · exact ⟨[], w.says_gate _, rfl⟩
  | waiting ticket =>
    cases hfollows
    rw [poll]
    split
    · exact follows_launch block w job (some ticket)
    · exact ⟨[], World.says_refl w, rfl⟩
  | flying flight reply =>
    refine ⟨[], ?_, ?_⟩ <;> simp only [poll, List.append_nil]
    · split
      · exact World.says_land w flight
      · exact World.says_refl w
    · split <;> exact hfollows
  | finished reply =>
    refine ⟨[], World.says_refl w, ?_⟩
    rwa [List.append_nil]

theorem brings_of_reply? {slot : Slot} {reply : BatchReply} (hfollows : slot.Follows job xs)
    (hreply : slot.reply? = some reply) : ∃ x, xs = [x] ∧ job.Brings x reply := by
  cases slot with
  | finished other =>
    cases hreply
    exact hfollows
  | _ => cases hreply

end Slot

/-! ### Lanes -/

namespace LaneRun

variable {w : World σ} (block : Option String) {xs ys : List Exchange}

/-- The exchanges of jobs, in the order of the jobs. -/
inductive SlotsFollow : List (Job × Slot) → List Exchange → Prop
  | nil : SlotsFollow [] []
  | cons {job : Job} {slot : Slot} {rest : List (Job × Slot)} {xs ys : List Exchange}
    (hfirst : slot.Follows job xs) (hrest : SlotsFollow rest ys) :
    SlotsFollow ((job, slot) :: rest) (xs ++ ys)

/-- The slots are those of the lane's jobs, and their exchanges took place in some order. -/
structure Follows (run : LaneRun) (xs : List Exchange) : Prop where
  jobs : run.slots.map Prod.fst = run.lane.jobs
  slots : ∃ ys, SlotsFollow run.slots ys ∧ xs.Perm ys

theorem follows_start (lane : Lane) : (start lane).Follows [] where
  jobs := by
    rw [start, List.map_map]
    exact List.map_id _
  slots := by
    refine ⟨[], ?_, .refl []⟩
    rw [start]
    induction lane.jobs with
    | nil => exact .nil
    | cons job rest ih =>
      have hidle : Slot.idle.Follows job [] := rfl
      exact .cons hidle ih

theorem follows_pollSlots (reject : Job → BatchReply → Option ClientError) (isOpen : Bool)
    (w : World σ) {slots : List (Job × Slot)} (hslots : SlotsFollow slots xs) :
    ∃ ys zs, w.Says ys (pollSlots reject block isOpen w slots).2.2 ∧
      SlotsFollow (pollSlots reject block isOpen w slots).1 zs ∧ zs.Perm (xs ++ ys) ∧
      ∀ e, (pollSlots reject block isOpen w slots).2.1 = some e →
        ∃ job ∈ slots.map Prod.fst, ∃ x ∈ zs, ∃ reply, job.Brings x reply ∧
          reject job reply = some e := by
  revert hslots
  refine pollSlots_rec (motive := fun _ w slots polled ↦ ∀ xs, SlotsFollow slots xs →
    ∃ ys zs, w.Says ys polled.2.2 ∧ SlotsFollow polled.1 zs ∧ zs.Perm (xs ++ ys) ∧
      ∀ e, polled.2.1 = some e → ∃ job ∈ slots.map Prod.fst, ∃ x ∈ zs, ∃ reply,
        job.Brings x reply ∧ reject job reply = some e) ?_ ?_ ?_ isOpen w slots xs
  · rintro _ w _ ⟨⟩
    exact ⟨[], [], World.says_refl w, .nil, .refl [], fun e he ↦ nomatch he⟩
  · intro w job slot rest reply e hreply hreject _ hslots
    cases hslots with
    | @cons _ _ _ mine others hfirst hrest =>
      obtain ⟨ys, hspoken, hpolled⟩ := Slot.follows_poll (w := w) block hfirst
      refine ⟨ys, mine ++ ys ++ others, hspoken, .cons hpolled hrest, ?_, fun other hother ↦ ?_⟩
      · rw [List.append_assoc, List.append_assoc]
        exact List.perm_append_comm.append_left mine
      · cases hother
        obtain ⟨x, hx, hbrings⟩ := Slot.brings_of_reply? hpolled hreply
        exact ⟨job, List.mem_cons_self, x, by simp [hx], reply, hbrings, hreject⟩
  · intro _ w job slot rest polled _ ih _ hslots
    cases hslots with
    | @cons _ _ _ mine others hfirst hrest =>
      obtain ⟨ys, hspoken, hpolled⟩ := Slot.follows_poll (w := w) block hfirst
      obtain ⟨more, zs, hmore, hall, hperm, hfails⟩ := ih others hrest
      refine ⟨ys ++ more, mine ++ ys ++ zs, hspoken.trans hmore, .cons hpolled hall, ?_,
        fun e he ↦ ?_⟩
      · exact (hperm.append_left (mine ++ ys)).trans (perm_append_swap mine ys others more)
      · obtain ⟨other, hother, x, hx, hreply⟩ := hfails e he
        exact ⟨other, List.mem_cons_of_mem job hother, x, List.mem_append_right _ hx, hreply⟩

/-- A visit that goes on to its end with all replies there has rejected none of them. -/
theorem accepted_pollSlots (reject : Job → BatchReply → Option ClientError)
    (slots : List (Job × Slot)) (hgoes : (pollSlots reject block true w slots).2.1 = none)
    (hreplies : ∀ s ∈ (pollSlots reject block true w slots).1, s.2.reply?.isSome = true) :
    ∀ s ∈ (pollSlots reject block true w slots).1, ∀ reply, s.2.reply? = some reply →
      reject s.1 reply = none := by
  have hopen : true = true := rfl
  revert hopen hgoes hreplies
  refine pollSlots_rec (motive := fun isOpen _ _ polled ↦ polled.2.1 = none →
    (∀ s ∈ polled.1, s.2.reply?.isSome = true) → isOpen = true →
    ∀ s ∈ polled.1, ∀ reply, s.2.reply? = some reply → reject s.1 reply = none)
    ?_ ?_ ?_ true w slots
  · exact fun _ _ _ _ _ s hs ↦ nomatch hs
  · intro w job slot rest reply e _ _ hgoes
    cases hgoes
  · intro isOpen w job slot rest polled hreject ih hgoes hreplies hopen
    obtain ⟨hreply, hrest⟩ := List.forall_mem_cons.mp hreplies
    refine List.forall_mem_cons.mpr ⟨hreject hopen, ih hgoes hrest ?_⟩
    rw [hopen, hreply]
    rfl

/-- The replies of a lane that has all of them are replies to its jobs. -/
theorem brings_of_replies? {run : LaneRun} (hfollows : run.Follows xs) {replies : List BatchReply}
    (hreplies : run.replies? = some replies) :
    (∃ ys, xs.Perm ys ∧ Forall₃ Job.Brings run.lane.jobs ys replies) ∧
      ∀ s ∈ run.lane.jobs.zip replies, ∃ slot : Slot, (s.1, slot) ∈ run.slots ∧
        slot.reply? = some s.2 := by
  obtain ⟨ys, hslots, hperm⟩ := hfollows.slots
  rw [← hfollows.jobs]
  suffices hall : Forall₃ Job.Brings (run.slots.map Prod.fst) ys replies ∧
      ∀ s ∈ (run.slots.map Prod.fst).zip replies, ∃ slot : Slot, (s.1, slot) ∈ run.slots ∧
        slot.reply? = some s.2 from ⟨⟨ys, hperm, hall.1⟩, hall.2⟩
  rw [replies?_eq_some_iff] at hreplies
  generalize run.slots = slots at hslots hreplies
  clear hperm
  induction hslots generalizing replies with
  | nil =>
    rw [List.map_nil, eq_comm, List.map_eq_nil_iff] at hreplies
    subst hreplies
    exact ⟨.nil, fun s hs ↦ nomatch hs⟩
  | @cons job slot rest _ _ hfirst _ ih =>
    cases replies with
    | nil => cases hreplies
    | cons reply others =>
      rw [List.map_cons, List.map_cons, List.cons.injEq] at hreplies
      obtain ⟨x, rfl, hbrings⟩ := Slot.brings_of_reply? hfirst hreplies.1
      obtain ⟨hall, hfrom⟩ := ih hreplies.2
      refine ⟨.cons hbrings hall, ?_⟩
      rw [List.map_cons, List.zip_cons_cons, List.forall_mem_cons]
      refine ⟨⟨slot, List.mem_cons_self, hreplies.1⟩, fun s hs ↦ ?_⟩
      obtain ⟨other, hother, hreply⟩ := hfrom s hs
      exact ⟨other, List.mem_cons_of_mem _ hother, hreply⟩

theorem passes_of_poll {run : LaneRun} (hpolled : (run.poll w block).1.Follows xs)
    (hgoes : (run.poll w block).2.1 = none)
    {replies : List BatchReply} (hreplies : (run.poll w block).1.replies? = some replies) :
    run.lane.Passes xs replies := by
  obtain ⟨hbrings, hfrom⟩ := brings_of_replies? hpolled hreplies
  rw [poll_error, Option.or_eq_none_iff, hreplies] at hgoes
  rw [lane_poll] at hbrings hfrom
  refine ⟨hbrings, fun s hs ↦ ?_, hgoes.2⟩
  obtain ⟨slot, hslot, hreply⟩ := hfrom s hs
  have hall : ∀ s ∈ (run.poll w block).1.slots, s.2.reply?.isSome = true := by
    intro s hs
    have hmem : s.2.reply? ∈ (run.poll w block).1.slots.map fun s ↦ s.2.reply? :=
      List.mem_map_of_mem hs
    rw [replies?_eq_some_iff.mp hreplies] at hmem
    obtain ⟨reply, -, hsome⟩ := List.mem_map.mp hmem
    rw [← hsome]
    rfl
  rw [slots_poll] at hall hslot
  exact accepted_pollSlots block run.lane.reject run.slots hgoes.1 hall _ hslot s.2 hreply

/-- A polled lane has made some more exchanges; an error is one that the lane can end with. -/
theorem follows_poll {run : LaneRun} (hfollows : run.Follows xs) :
    ∃ ys, w.Says ys (run.poll w block).2.2 ∧ (run.poll w block).1.Follows (xs ++ ys) ∧
      ∀ e, (run.poll w block).2.1 = some e → run.lane.Fails (xs ++ ys) e := by
  obtain ⟨before, hslots, hperm⟩ := hfollows.slots
  obtain ⟨ys, zs, hspoken, hpolled, hafter, hfails⟩ :=
    follows_pollSlots block run.lane.reject true w hslots
  have hsame : (xs ++ ys).Perm zs := (hperm.append_right ys).trans hafter.symm
  have hjobs : (run.poll w block).1.slots.map Prod.fst = (run.poll w block).1.lane.jobs := by
    rw [slots_poll, lane_poll, ← hfollows.jobs]
    exact map_fst_pollSlots true w run.slots
  have hall : (run.poll w block).1.Follows (xs ++ ys) := by
    refine ⟨hjobs, zs, ?_, hsame⟩
    rwa [slots_poll]
  refine ⟨ys, ?_, hall, fun e he ↦ ?_⟩
  · rwa [world_poll]
  · rw [poll_error, Option.or_eq_some_iff] at he
    rcases he with he | ⟨-, he⟩
    · obtain ⟨job, hjob, x, hx, hreply⟩ := hfails e he
      rw [hfollows.jobs] at hjob
      exact Or.inl ⟨job, hjob, x, hsame.mem_iff.mpr hx, hreply⟩
    · obtain ⟨replies, hreplies, hclose⟩ := Option.bind_eq_some_iff.mp he
      obtain ⟨ordered, hordered, hbrings⟩ := (brings_of_replies? hall hreplies).1
      rw [lane_poll] at hbrings
      refine Or.inr ⟨replies, hbrings.forall₂.imp fun _ _ ⟨x, hx, hbrings⟩ ↦ ?_, hclose⟩
      exact ⟨x, hordered.mem_iff.mpr hx, hbrings⟩

end LaneRun

/-! ### Runs -/

namespace Run

variable {w : World σ} (block : Option String)
  {possible : List Exchange → Except ClientError α → Prop} {xs : List Exchange}

/-- However a run goes on after its exchanges so far, what it comes to is possible. -/
def Follows (possible : List Exchange → Except ClientError α → Prop) (xs : List Exchange) :
    Run α → Prop
  | done result => possible xs result
  | sleeping _ rest => ∀ ys result, rest.Comes ys result → possible (xs ++ ys) result
  | lanes left right next => ∃ before ls rs, left.Follows ls ∧ right.Follows rs ∧
      (∃ zs, xs = before ++ zs ∧ zs.Perm (ls ++ rs)) ∧
      ∀ ys result, (Plan.both left.lane right.lane next).Comes ys result →
        possible (before ++ ys) result

/-- What the visit of two lanes leaves to be done, after the exchanges `xs` of both lanes. -/
def Visit.Follows (left right : LaneRun) (xs : List Exchange) : Visit → Prop
  | failed e => left.lane.Fails xs e ∨ right.lane.Fails xs e
  | complete l r => ∃ ls rs, xs.Perm (ls ++ rs) ∧ left.lane.Passes ls l ∧ right.lane.Passes rs r
  | pending l r => ∃ ls rs, xs.Perm (ls ++ rs) ∧ (l.Follows ls ∧ l.lane = left.lane) ∧
      r.Follows rs ∧ r.lane = right.lane

theorem follows_visit {left right : LaneRun} {ls rs : List Exchange} (hleft : left.Follows ls)
    (hright : right.Follows rs) (hxs : xs.Perm (ls ++ rs)) :
    ∃ ys, w.Says ys (visit w block left right).2 ∧
      (visit w block left right).1.Follows left right (xs ++ ys) := by
  obtain ⟨first, hfirst, hleft₁, hfailsLeft⟩ := LaneRun.follows_poll (w := w) block hleft
  obtain ⟨second, hsecond, hright₁, hfailsRight⟩ :=
    LaneRun.follows_poll (w := (left.poll w block).2.2) block hright
  have hdrop (w : World σ) (l r : LaneRun) : w.Says [] (r.drop (l.drop w)) :=
    (l.says_drop w).trans (r.says_drop (l.drop w))
  have hboth : (xs ++ (first ++ second)).Perm (ls ++ first ++ (rs ++ second)) :=
    (hxs.append_right _).trans (perm_append_swap ls rs first second)
  rcases visit_cases w block left right with ⟨e, he, hvisit, hworld⟩ |
    ⟨hgoes, ⟨e, he, hvisit, hworld⟩ |
      ⟨hends, hworld, ⟨l, r, hl, hr, hvisit⟩ | ⟨-, hvisit⟩⟩⟩ <;> rw [hvisit, hworld]
  · refine ⟨first, ?_, Or.inl ((hfailsLeft e he).mono fun x hx ↦ ?_)⟩
    · rw [← List.append_nil first]
      exact hfirst.trans (hdrop _ _ _)
    · simp only [List.mem_append, hxs.mem_iff] at hx ⊢
      tauto
  · refine ⟨first ++ second, ?_, Or.inr ((hfailsRight e he).mono fun x hx ↦ ?_)⟩
    · rw [← List.append_nil (first ++ second)]
      exact (hfirst.trans hsecond).trans (hdrop _ _ _)
    · simp only [List.mem_append, hxs.mem_iff] at hx ⊢
      tauto
  · exact ⟨first ++ second, hfirst.trans hsecond, _, _, hboth,
      LaneRun.passes_of_poll block hleft₁ hgoes hl, LaneRun.passes_of_poll block hright₁ hends hr⟩
  · exact ⟨first ++ second, hfirst.trans hsecond, _, _, hboth,
      ⟨hleft₁, LaneRun.lane_poll w left⟩, hright₁, LaneRun.lane_poll _ right⟩

variable {rounds : Nat}

/-- Going on with a plan from any world keeps to what is possible after the exchanges so far. -/
def StartFollows (possible : List Exchange → Except ClientError α → Prop) (block : Option String)
    (plan : Plan α rounds) : Prop :=
  ∀ (w : World σ) (xs : List Exchange),
    (∀ ys result, plan.Comes ys result → possible (xs ++ ys) result) →
    ∃ ys, w.Says ys (start block plan w).2 ∧ (start block plan w).1.Follows possible (xs ++ ys)

theorem follows_await {isThere : Bool} {flight : Flight} {rest : Plan α rounds}
    (hrest : ∀ ys result, rest.Comes ys result → possible (xs ++ ys) result)
    (hstart : StartFollows (σ := σ) possible block rest) :
    ∃ ys, w.Says ys (await block isThere flight rest w).2 ∧
      (await block isThere flight rest w).1.Follows possible (xs ++ ys) := by
  cases isThere with
  | true =>
    obtain ⟨ys, hspoken, hfollows⟩ := hstart (w.land flight) xs hrest
    exact ⟨ys, (w.says_land flight).trans hspoken, hfollows⟩
  | false =>
    refine ⟨[], World.says_refl w, ?_⟩
    rwa [List.append_nil]

/-- A request that is sent and what comes after it. -/
theorem follows_receive {traces : Nat} {next : β → Plan α rounds} {sent : Answer β × World σ}
    {x : Exchange} (hsent : w.Says [x] sent.2)
    (hnext : ∀ ys result, (next sent.1.reply).Comes ys result → possible (xs ++ x :: ys) result)
    (hstart : StartFollows (σ := σ) possible block (next sent.1.reply)) :
    ∃ ys, w.Says ys (receive block traces next sent).2 ∧
      (receive block traces next sent).1.Follows possible (xs ++ ys) := by
  have hafter (ys : List Exchange) (result : Except ClientError α)
      (hcomes : (next sent.1.reply).Comes ys result) : possible (xs ++ [x] ++ ys) result := by
    rw [List.append_assoc]
    exact hnext ys result hcomes
  obtain ⟨ys, hspoken, hfollows⟩ : ∃ ys, sent.2.Says ys (receive block traces next sent).2 ∧
      (receive block traces next sent).1.Follows possible (xs ++ [x] ++ ys) :=
    follows_await block hafter hstart
  refine ⟨[x] ++ ys, hsent.trans hspoken, ?_⟩
  rwa [← List.append_assoc]

/-- Whatever two lanes and what comes after them can come to is possible after a visit of them. -/
theorem follows_resume {left right : LaneRun} {before ls rs zs : List Exchange}
    (hleft : left.Follows ls) (hright : right.Follows rs) (hzs : zs.Perm (ls ++ rs))
    {next : List BatchReply → List BatchReply → Plan α rounds}
    (hplan : ∀ ys result, (Plan.both left.lane right.lane next).Comes ys result →
      possible (before ++ ys) result)
    (hstart : ∀ l r, StartFollows (σ := σ) possible block (next l r)) :
    ∃ ys, w.Says ys (resume block next (visit w block left right)).2 ∧
      (resume block next (visit w block left right)).1.Follows possible (before ++ zs ++ ys) := by
  obtain ⟨ys, hspoken, hvisit⟩ := follows_visit (w := w) block hleft hright hzs
  generalize visit w block left right = visited at hvisit hspoken
  obtain ⟨outcome, w₁⟩ := visited
  cases outcome with
  | failed e =>
    refine ⟨ys, hspoken, ?_⟩
    rw [List.append_assoc]
    rcases hvisit with hfails | hfails
    · exact hplan _ _ (.left hfails)
    · exact hplan _ _ (.right hfails)
  | complete l r =>
    obtain ⟨ls, rs, hperm, hl, hr⟩ := hvisit
    have hafter (after : List Exchange) (result : Except ClientError α)
        (hcomes : (next l r).Comes after result) :
        possible (before ++ (zs ++ ys) ++ after) result := by
      rw [List.append_assoc]
      exact hplan _ _ (.both hperm hl hr hcomes)
    obtain ⟨more, hmore, hfollows⟩ := hstart l r w₁ (before ++ (zs ++ ys)) hafter
    have hsame : before ++ (zs ++ ys) ++ more = before ++ zs ++ (ys ++ more) := by
      simp only [List.append_assoc]
    rw [hsame] at hfollows
    exact ⟨ys ++ more, hspoken.trans hmore, hfollows⟩
  | pending l r =>
    obtain ⟨ls, rs, hperm, ⟨hl, hlaneLeft⟩, hr, hlaneRight⟩ := hvisit
    refine ⟨ys, hspoken, before, ls, rs, hl, hr, ⟨zs ++ ys, by rw [List.append_assoc], hperm⟩, ?_⟩
    rwa [hlaneLeft, hlaneRight]

theorem follows_start (plan : Plan α rounds) : StartFollows (σ := σ) possible block plan := by
  induction plan with
  | done result =>
    intro w xs hplan
    exact ⟨[], World.says_refl w, hplan [] result .done⟩
  | note event next ih =>
    intro w xs hplan
    obtain ⟨ys, hspoken, hfollows⟩ :=
      ih (w.note block event) xs fun ys result hcomes ↦ hplan ys result (.note hcomes)
    exact ⟨ys, (w.says_note block event).trans hspoken, hfollows⟩
  | call c next ih =>
    intro w xs hplan
    rw [start_call]
    exact follows_receive block (w.says_sendCall block c)
      (fun ys result hcomes ↦ hplan _ result (.call hcomes)) (ih _)
  | batch cs next ih =>
    intro w xs hplan
    rw [start_batch]
    exact follows_receive block (w.says_sendBatch block cs)
      (fun ys result hcomes ↦ hplan _ result (.batch hcomes)) (ih _)
  | query document next ih =>
    intro w xs hplan
    rw [start_query]
    exact follows_receive block (w.says_sendQuery block document)
      (fun ys result hcomes ↦ hplan _ result (.query hcomes)) (ih _)
  | both left right next ih =>
    intro w xs hplan
    rw [start_both]
    obtain ⟨ys, hspoken, hfollows⟩ := follows_resume (w := w) block (LaneRun.follows_start left)
      (LaneRun.follows_start right) (.refl []) hplan ih
    refine ⟨ys, hspoken, ?_⟩
    rwa [List.append_nil] at hfollows

theorem follows_poll {run : Run α} (hfollows : run.Follows possible xs) :
    ∃ ys, w.Says ys (run.poll block w).2 ∧ (run.poll block w).1.Follows possible (xs ++ ys) := by
  cases run with
  | done result =>
    refine ⟨[], World.says_refl w, ?_⟩
    rwa [List.append_nil]
  | sleeping flight rest =>
    rw [poll_sleeping]
    exact follows_await block hfollows (follows_start block rest)
  | lanes left right next =>
    obtain ⟨before, ls, rs, hleft, hright, ⟨zs, rfl, hzs⟩, hplan⟩ := hfollows
    rw [poll_lanes]
    exact follows_resume block hleft hright hzs hplan fun l r ↦ follows_start block (next l r)

end Run

/-! ### Tasks -/

/-- A result that tells of a context which has given its request up. -/
def Context.CutsOff (context : Context) (tokens : Tokens) (now : Nat)
    (result : Except ClientError α) : Prop :=
  ∃ why, result = .error (.abandoned why) ∧ (context.verdict tokens now).isSome = true

namespace Progress

variable {w : World σ} (block : Option String)
  {possible : List Exchange → Except ClientError α → Prop}
  {cut cut' : Except ClientError α → Prop} {xs : List Exchange}

/-- Whatever a request can still come to after its exchanges so far is possible; one that has its
result may instead have been cut off. -/
def Follows (possible : List Exchange → Except ClientError α → Prop)
    (cut : Except ClientError α → Prop) (xs : List Exchange) : Progress α → Prop
  | planned plan => ∀ ys result, plan.Comes ys result → possible (xs ++ ys) result
  | running run => run.Follows possible xs
  | finished result => possible xs result ∨ cut result

theorem follows_ofRun {run : Run α} (hfollows : run.Follows possible xs) :
    (ofRun run).Follows possible cut xs := by
  cases run with
  | done result => exact Or.inl hfollows
  | _ => exact hfollows

theorem follows_poll {progress : Progress α} (hfollows : progress.Follows possible cut xs) :
    ∃ ys, w.Says ys (progress.poll block w).2 ∧
      (progress.poll block w).1.Follows possible cut (xs ++ ys) := by
  cases progress with
  | planned plan =>
    obtain ⟨ys, hspoken, hrun⟩ := Run.follows_start block plan w xs hfollows
    exact ⟨ys, hspoken, follows_ofRun hrun⟩
  | running run =>
    obtain ⟨ys, hspoken, hrun⟩ := Run.follows_poll (w := w) block hfollows
    exact ⟨ys, hspoken, follows_ofRun hrun⟩
  | finished result =>
    refine ⟨[], World.says_refl w, ?_⟩
    rwa [List.append_nil]

theorem follows_mono (hcut : ∀ result, cut result → cut' result) {progress : Progress α}
    (hfollows : progress.Follows possible cut xs) : progress.Follows possible cut' xs := by
  cases progress with
  | finished result => exact hfollows.imp_right (hcut result)
  | _ => exact hfollows

/-- What a request that has not begun can come to, and by which exchanges. -/
def Comes : Progress α → List Exchange → Except ClientError α → Prop
  | planned plan => plan.Comes
  | running _ => fun _ _ ↦ True
  | finished result => fun xs other ↦ xs = [] ∧ other = result

end Progress

/-- The context of a request, and what it can come to by which exchanges. -/
structure Prospect (α : Type) where
  context : Context
  possible : List Exchange → Except ClientError α → Prop

namespace Task

variable {w : World σ} {tokens : Tokens} {prospect : Prospect α} {xs : List Exchange}

/-- A request that is cut off is so because of its context, which stays cancelled or expired. -/
def Follows (tokens : Tokens) (now : Nat) (prospect : Prospect α) (xs : List Exchange) :
    Task α → Prop
  | request context _ progress => context = prospect.context ∧
      progress.Follows prospect.possible (context.CutsOff tokens now) xs
  | guard .. => True

theorem follows_poll {task : Task α} (hfollows : task.Follows tokens w.now prospect xs) :
    ∃ ys, w.Says ys (task.poll tokens w).2 ∧
      (task.poll tokens w).1.Follows tokens w.now prospect (xs ++ ys) := by
  unfold poll
  by_cases hpending : task.isPending = true
  · rw [if_neg (by simp [hpending])]
    cases hverdict : task.context.verdict tokens w.now with
    | some why =>
      refine ⟨[], task.says_abandon w why, ?_⟩
      cases task with
      | request context block progress =>
        have hcut : (context.verdict tokens w.now).isSome = true := by
          rw [show context.verdict tokens w.now = some why from hverdict]
          rfl
        exact ⟨hfollows.1, Or.inr ⟨why, rfl, hcut⟩⟩
      | guard context units hold => cases hold <;> trivial
    | none =>
      cases task with
      | request context block progress =>
        obtain ⟨ys, hspoken, hpolled⟩ := Progress.follows_poll (w := w) block hfollows.2
        exact ⟨ys, hspoken, hfollows.1, hpolled⟩
      | guard context units hold => exact ⟨[], hold.says_poll w units, trivial⟩
  · rw [if_pos (by simpa using hpending)]
    refine ⟨[], World.says_refl w, ?_⟩
    rwa [List.append_nil]

end Task

/-! ### Systems -/

/-- A context that has given a task up would do so at any later time. -/
theorem Context.verdict_mono {context : Context} {tokens tokens' : Tokens} {now now' : Nat}
    (htokens : ∀ token, tokens.isCancelled token = true → tokens'.isCancelled token = true)
    (hnow : now ≤ now') (hcut : (context.verdict tokens now).isSome = true) :
    (context.verdict tokens' now').isSome = true := by
  unfold verdict at hcut ⊢
  by_cases hcancelled : tokens.isCancelled context.token = true
  · rw [if_pos (htokens _ hcancelled)]
    rfl
  · rw [if_neg hcancelled] at hcut
    have hexpired : context.isExpired now' = true := by
      unfold isExpired at hcut ⊢
      cases hdeadline : context.deadline with
      | none => simp [hdeadline] at hcut
      | some deadline =>
        have hle : deadline ≤ now := by simpa [hdeadline] using hcut
        exact decide_eq_true (Nat.le_trans hle hnow)
    rw [if_pos hexpired]
    split <;> rfl

namespace System

theorem isCancelled_elapse (s : System α σ) (time : Nat) (token : Token)
    (hcancelled : s.tokens.isCancelled token = true) :
    (s.elapse time).tokens.isCancelled token = true := by
  obtain ⟨ancestor, hancestor, hwithin⟩ := List.any_eq_true.mp hcancelled
  exact List.any_eq_true.mpr
    ⟨ancestor, (mem_foldl_cancel _ _ _).mpr (Or.inl hancestor), hwithin⟩

/-- The exchanges `xs` with the node are those of the tasks, each of which keeps to its prospect by
exchanges of its own. -/
structure Shares (prospects : List (Prospect α)) (tokens : Tokens) (now : Nat)
    (tasks : List (Task α)) (xs : List Exchange) (own : List (List Exchange)) : Prop where
  all : xs.Perm own.flatten
  ordered : ∀ ys ∈ own, ys.Sublist xs
  tasks : Forall₃ (Task.Follows tokens now) prospects own tasks

/-- Since the world was `first`, just the exchanges of the tasks took place. -/
def Follows (prospects : List (Prospect α)) (first : World σ) (s : System α σ) : Prop :=
  ∃ xs own, first.Says xs s.world ∧ Shares prospects s.tokens s.world.now s.tasks xs own

variable {prospects : List (Prospect α)} {first : World σ}

theorem follows_pollAll (tokens : Tokens) (w : World σ) {tasks : List (Task α)}
    {own : List (List Exchange)}
    (htasks : Forall₃ (Task.Follows tokens w.now) prospects own tasks) :
    ∃ ys after, w.Says ys (pollAll tokens w tasks).2 ∧
      Forall₃ (Task.Follows tokens w.now) prospects after (pollAll tokens w tasks).1 ∧
      after.flatten.Perm (own.flatten ++ ys) ∧
      ∀ xs, (∀ zs ∈ own, zs.Sublist xs) → ∀ zs ∈ after, zs.Sublist (xs ++ ys) := by
  induction tasks generalizing w prospects own with
  | nil =>
    cases htasks
    exact ⟨[], [], World.says_refl w, .nil, .refl [], fun _ _ zs hzs ↦ nomatch hzs⟩
  | cons task rest ih =>
    cases htasks with
    | @cons prospect mine _ _ others _ hfirst hrest =>
      have htrade : World.Trade 0 w (task.poll tokens w).2 _ _ := task.trade_poll w tokens
      obtain ⟨ys, hspoken, hpolled⟩ := Task.follows_poll hfirst
      obtain ⟨more, after, hmore, hall, hperm, hordered⟩ :=
        ih (task.poll tokens w).2 (by rwa [htrade.now])
      rw [htrade.now] at hall
      refine ⟨ys ++ more, (mine ++ ys) :: after, hspoken.trans hmore, .cons hpolled hall, ?_,
        fun xs hxs ↦ ?_⟩
      · rw [List.flatten_cons, List.flatten_cons]
        exact (hperm.append_left (mine ++ ys)).trans (perm_append_swap mine ys others.flatten more)
      · obtain ⟨hmine, hothers⟩ := List.forall_mem_cons.mp hxs
        rw [← List.append_assoc]
        refine List.forall_mem_cons.mpr ⟨?_, hordered (xs ++ ys) fun zs hzs ↦ ?_⟩
        · exact (hmine.append (List.Sublist.refl ys)).trans (List.sublist_append_left _ more)
        · exact (hothers zs hzs).trans (List.sublist_append_left xs ys)

theorem follows_pass (s : System α σ) (hfollows : s.Follows prospects first) :
    s.pass.Follows prospects first := by
  obtain ⟨xs, own, hspoken, hshares⟩ := hfollows
  have htrade : World.Trade 0 s.world (pollAll s.tokens s.world s.tasks).2 _ _ :=
    trade_pollAll s.world s.tokens s.tasks
  obtain ⟨ys, after, hpolled, htasks, hperm, hordered⟩ :=
    follows_pollAll s.tokens s.world hshares.tasks
  rw [pass_eq]
  refine ⟨xs ++ ys, after, hspoken.trans hpolled, ?_, hordered xs hshares.ordered, ?_⟩
  · exact (hshares.all.append_right ys).trans hperm.symm
  · simp only [htrade.now]
    exact htasks

theorem follows_elapse (s : System α σ) (time : Nat) (hfollows : s.Follows prospects first) :
    (s.elapse time).Follows prospects first := by
  obtain ⟨xs, own, hspoken, hshares⟩ := hfollows
  refine ⟨xs, own, ?_, hshares.all, hshares.ordered,
    hshares.tasks.imp fun prospect _ task htask ↦ ?_⟩
  · have hwaits : s.world.Says [] (s.elapse time).world := World.says_nil rfl rfl rfl
    rw [← List.append_nil xs]
    exact hspoken.trans hwaits
  · cases task with
    | guard context units hold => trivial
    | request context block progress =>
      refine ⟨htask.1,
        Progress.follows_mono (fun result ⟨why, hwhy, hcut⟩ ↦ ⟨why, hwhy, ?_⟩) htask.2⟩
      exact Context.verdict_mono (fun token ↦ isCancelled_elapse s time token)
        (Nat.le_max_left _ _) hcut

theorem follows_drive {s : System α σ} (hfollows : s.Follows prospects first) :
    s.drive.Follows prospects first :=
  drive_rec follows_pass follows_elapse s hfollows

end System

/-! ### Nodes of a manner -/

/-- Which replies a node gives. -/
structure Manner where
  call : Call → CallReply → Prop
  batch : List Call → BatchReply → Prop
  query : String → Except String String → Prop

/-- The reply of an exchange is of a manner. -/
def Manner.Allows (manner : Manner) : Exchange → Prop
  | .call c reply => manner.call c reply
  | .batch cs reply => manner.batch cs reply
  | .query document reply => manner.query document reply

/-- The replies of a node are of a manner, in every state and however long they take. -/
structure Responder.Keeps (node : Responder σ) (manner : Manner) : Prop where
  call : ∀ c state, manner.call c (node.call c state).1.reply
  batch : ∀ cs state, manner.batch cs (node.batch cs state).1.reply
  query : ∀ document state, manner.query document (node.query document state).1.reply

/-- The replies that a node can give. -/
def Responder.manner (node : Responder σ) : Manner where
  call c reply := ∃ state, (node.call c state).1.reply = reply
  batch cs reply := ∃ state, (node.batch cs state).1.reply = reply
  query document reply := ∃ state, (node.query document state).1.reply = reply

theorem Responder.keeps_manner (node : Responder σ) : node.Keeps node.manner where
  call := fun _ state ↦ ⟨state, rfl⟩
  batch := fun _ state ↦ ⟨state, rfl⟩
  query := fun _ state ↦ ⟨state, rfl⟩

variable {manner : Manner}

theorem Responder.allows_converse {node : Responder σ} (hkeeps : node.Keeps manner) (state : σ)
    (requests : List Request) : ∀ x ∈ (node.converse state requests).1, manner.Allows x := by
  induction requests generalizing state with
  | nil => exact nofun
  | cons request rest ih =>
    refine List.forall_mem_cons.mpr ⟨?_, ih _⟩
    cases request with
    | call c => exact hkeeps.call c state
    | batch cs => exact hkeeps.batch cs state
    | query document => exact hkeeps.query document state

theorem World.Says.allows {w w₁ : World σ} {xs : List Exchange} (hspoken : w.Says xs w₁)
    (hkeeps : w.node.Keeps manner) : ∀ x ∈ xs, manner.Allows x := by
  have hall := Responder.allows_converse hkeeps w.state (xs.map Exchange.request)
  rwa [hspoken.told] at hall

/-- The node gives only replies of its manners. -/
theorem Responder.Keeps.allows {node : Responder σ} (hkeeps : node.Keeps manner)
    {x : Exchange} (hallows : node.manner.Allows x) : manner.Allows x := by
  cases x with
  | call c reply =>
    obtain ⟨state, rfl⟩ := hallows
    exact hkeeps.call c state
  | batch cs reply =>
    obtain ⟨state, rfl⟩ := hallows
    exact hkeeps.batch cs state
  | query document reply =>
    obtain ⟨state, rfl⟩ := hallows
    exact hkeeps.query document state

/-- A plan can end with a result if replies are of a manner. -/
def Plan.Ends (manner : Manner) {rounds : Nat} (plan : Plan α rounds)
    (result : Except ClientError α) : Prop :=
  ∃ xs, plan.Comes xs result ∧ ∀ x ∈ xs, manner.Allows x

/-- A request that has not begun can end with a result if replies are of a manner. -/
def Progress.Possible (manner : Manner) (progress : Progress α) (result : Except ClientError α) :
    Prop :=
  ∃ xs, progress.Comes xs result ∧ ∀ x ∈ xs, manner.Allows x

end RollupLedger
