import RollupLedger.Client.Session
import RollupLedger.Client.Settings
import RollupLedger.Proofs.Request.Admission

/-!
# The gate admits no more than its capacity

Whatever is asked of a client at the same time, however its requests end and whoever asks its gate
for units directly: the guards that are alive have no more units than the gate's capacity, and no
more traces are in flight than they have units (`Client.admits_of_reaches`). When nobody waits, all
other units are free, and when everything has come to its end, all of them are.

That traces are asked for under enough units is a property of the client's plans. Only a block asks
for traces at all, one under a unit or a batch under as many units as it has calls, and no batch is
larger than the gate's capacity.
-/

set_option autoImplicit false
set_option relaxedAutoImplicit false

namespace RollupLedger

variable {σ α β : Type} {capacity : Nat}

/-! ### Requests that ask for no traces -/

theorem Request.traces_eq_zero {request : Request}
    (hother : ∀ c ∈ request.calls, c.method ≠ traceMethod) : request.traces = 0 := by
  unfold traces
  rw [List.countP_eq_zero]
  intro c hc hmethod
  exact hother c hc (beq_iff_eq.mp hmethod)

/-- The traces of a call of another method are covered without a unit. -/
theorem covered_call {c : Call} (hother : c.method ≠ traceMethod) :
    Covered (Request.call c).traces 0 := by
  have hzero : (Request.call c).traces = 0 :=
    Request.traces_eq_zero fun other hmem ↦ List.mem_singleton.mp hmem ▸ hother
  exact Nat.le_of_eq hzero

theorem covered_batch {cs : List Call} (hother : ∀ c ∈ cs, c.method ≠ traceMethod) :
    Covered (Request.batch cs).traces 0 := by
  have hzero : (Request.batch cs).traces = 0 := Request.traces_eq_zero hother
  exact Nat.le_of_eq hzero

theorem Job.fits_of_other {job : Job} (hother : ∀ c ∈ job.calls, c.method ≠ traceMethod) :
    job.Fits Covered capacity where
  admitted := Nat.le_trans (covered_batch hother) (Nat.zero_le _)
  unpaid := fun _ ↦ covered_batch hother

/-- A job whose calls are not more than the units that it has to be granted. -/
theorem Job.fits_of_length {job : Job} (hlength : job.calls.length ≤ job.share capacity)
    (hpaid : job.units ≠ none) : job.Fits Covered capacity where
  admitted := Nat.le_trans List.countP_le_length hlength
  unpaid := fun hnone ↦ absurd hnone hpaid

/-! ### Plans made of parts -/

namespace Plan

variable {rounds : Nat} {allowed : Nat → Nat → Prop}

theorem fits_andThen {result : Except ClientError β} {next : β → Plan α rounds}
    (hnext : ∀ b, (next b).Fits allowed capacity) :
    (andThen result next).Fits allowed capacity := by
  cases result with
  | ok b => exact hnext b
  | error e => trivial

theorem fits_notes {events : List Event} {next : Plan α rounds}
    (hnext : next.Fits allowed capacity) : (notes events next).Fits allowed capacity := by
  induction events with
  | nil => exact hnext
  | cons event rest ih => exact ih

theorem fits_ask {c : Call} (hcall : allowed (Request.call c).traces 0)
    {next : Json → Plan α rounds}
    (hnext : ∀ value, (next value).Fits allowed capacity) : (ask c next).Fits allowed capacity := by
  refine ⟨hcall, fun reply ↦ ?_⟩
  cases reply with
  | ok value => exact hnext value
  | error message => trivial

theorem fits_fetch {c : Call} (hcall : allowed (Request.call c).traces 0)
    {decode : Json.Decoder β} {next : β → Plan α rounds}
    (hnext : ∀ b, (next b).Fits allowed capacity) : (fetch c decode next).Fits allowed capacity :=
  fits_ask hcall fun _ ↦ fits_andThen hnext

theorem fits_map (f : α → β) {plan : Plan α rounds} (hfits : plan.Fits allowed capacity) :
    (plan.map f).Fits allowed capacity := by
  induction plan with
  | done result => trivial
  | note event next ih => exact ih hfits
  | call c next ih => exact ⟨hfits.1, fun reply ↦ ih reply (hfits.2 reply)⟩
  | batch cs next ih => exact ⟨hfits.1, fun reply ↦ ih reply (hfits.2 reply)⟩
  | query document next ih => exact ⟨hfits.1, fun reply ↦ ih reply (hfits.2 reply)⟩
  | both left right next ih => exact ⟨hfits.1, hfits.2.1, fun l r ↦ ih l r (hfits.2.2 l r)⟩

end Plan

/-! ### Plans for a block -/

namespace BlockAssembly

theorem length_of_mem_chunks (size : Nat) (items piece : List α)
    (hpiece : piece ∈ chunks size items) :
    piece.length ≤ max 1 size := by
  induction items using chunks.induct size with
  | case1 =>
    rw [chunks] at hpiece
    cases hpiece
  | case2 item rest ih =>
    rw [chunks, List.mem_cons] at hpiece
    rcases hpiece with rfl | hpiece
    · have htake := List.length_take_le (size - 1) rest
      rw [List.length_cons]
      omega
    · exact ih hpiece

/-- Each trace is asked for under a unit, and no batch of them needs more units than there are. -/
theorem fits_traceJobs (client : Client) (txs : List Wire.SignedTransaction) :
    ∀ job ∈ traceJobs client txs, job.Fits Covered client.capacity := by
  unfold traceJobs
  split
  · intro job hjob
    obtain ⟨piece, hpiece, rfl⟩ := List.mem_map.mp hjob
    have hlength := length_of_mem_chunks _ _ _ hpiece
    refine Job.fits_of_length ?_ (by simp)
    simp only [Job.share, Option.getD_some]
    omega
  · intro job hjob
    obtain ⟨c, -, rfl⟩ := List.mem_map.mp hjob
    refine Job.fits_of_length ?_ (by simp)
    exact Nat.le_max_left _ _

theorem fits_receiptLane (block : Hash) (txs : List Wire.SignedTransaction) :
    ∀ job ∈ (receiptLane block txs).jobs, job.Fits Covered capacity := by
  intro job hjob
  simp only [receiptLane] at hjob
  split at hjob
  · cases hjob
  · rw [List.mem_singleton.mp hjob]
    apply Job.fits_of_other
    intro c hc
    obtain ⟨t, -, rfl⟩ := List.mem_map.mp hc
    simp [receiptMethod, traceMethod]

theorem fits_bodyPlan {rounds : Nat} (client : Client) (block : Wire.NodeBlock)
    (uncles : List Wire.Header) :
    (bodyPlan client block uncles : Plan Ledger.Block (rounds + 1)).Fits Covered
      client.capacity := by
  unfold bodyPlan
  simp only
  split
  · trivial
  · refine ⟨fits_receiptLane _ _, fits_traceJobs client _, fun left right ↦ ?_⟩
    exact Plan.fits_andThen fun _ ↦ Plan.fits_andThen fun _ ↦ Plan.fits_notes <|
      Plan.fits_andThen fun _ ↦ trivial

theorem fits_unclePlan (client : Client) (block : Wire.NodeBlock) :
    (unclePlan client block).Fits Covered client.capacity := by
  unfold unclePlan
  split
  · exact fits_bodyPlan client block []
  · refine ⟨covered_batch fun c hc ↦ ?_, fun _ ↦ Plan.fits_andThen (fits_bodyPlan client block)⟩
    obtain ⟨index, -, rfl⟩ := List.mem_map.mp hc
    simp [uncleMethod, traceMethod]

theorem fits_plan (client : Client) (requested : Option Ledger.PartialBlockIdentifier) :
    (plan client requested).Fits Covered client.capacity := by
  refine Plan.fits_andThen fun reference ↦ Plan.fits_ask (covered_call ?_) fun value ↦ ?_
  · cases reference <;> simp [lookup, traceMethod]
  · split
    · trivial
    · exact Plan.fits_andThen fun block ↦ Plan.fits_andThen fun _ ↦ fits_unclePlan client block

end BlockAssembly

/-! ### All inquiries -/

theorem Status.fits_plan (client : Client) : (Status.plan client).Fits Covered capacity := by
  have hlane {β : Type} (method : String) (decode : List BatchReply → Except ClientError β)
      (hother : method ≠ traceMethod) :
      ∀ job ∈ (Status.lane method decode).jobs, job.Fits Covered capacity := by
    intro job hjob
    rw [List.mem_singleton.mp hjob]
    exact Job.fits_of_other fun c hc ↦ List.mem_singleton.mp hc ▸ hother
  refine Plan.fits_ask (covered_call (by simp [traceMethod])) fun value ↦ ?_
  split
  · trivial
  · refine Plan.fits_andThen fun head ↦ ?_
    unfold Status.headPlan
    split
    · trivial
    · refine ⟨hlane _ _ ?_, hlane _ _ ?_, fun left right ↦ ?_⟩
      · simp [Status.syncingMethod, traceMethod]
      · simp [Status.peersMethod, traceMethod]
      · exact Plan.fits_andThen fun _ ↦ Plan.fits_andThen fun _ ↦ trivial

theorem Balance.fits_plan {client : Client} {account : Ledger.AccountIdentifier}
    {requested : Option Ledger.PartialBlockIdentifier} {plan : Plan Ledger.AccountBalance 1}
    (hplan : Balance.plan client account requested = .ok plan) : plan.Fits Covered capacity := by
  unfold Balance.plan at hplan
  cases haddress : Balance.readAccount account with
  | error e => simp [haddress, bind, Except.bind] at hplan
  | ok address =>
    cases hreference : BlockReference.read requested with
    | error e => simp [haddress, hreference, bind, Except.bind] at hplan
    | ok reference =>
      simp only [haddress, hreference, bind, Except.bind, pure, Except.pure,
        Except.ok.injEq] at hplan
      subst hplan
      exact ⟨Nat.le_refl 0, fun _ ↦ trivial⟩

theorem Proxy.fits_plan {request : Ledger.CallRequest} {plan : Plan Ledger.CallResponse 1}
    (hplan : Proxy.plan request = .ok plan) : plan.Fits Covered capacity := by
  unfold Proxy.plan at hplan
  cases hvalid : Proxy.validate request with
  | error e => simp [hvalid, bind, Except.bind] at hplan
  | ok validated =>
    simp only [hvalid, bind, Except.bind, pure, Except.pure, Except.ok.injEq] at hplan
    subst hplan
    refine Plan.fits_ask (covered_call ?_) fun _ ↦ trivial
    cases validated.method <;> simp [Method.name, traceMethod]

namespace Client

theorem fits_begin (client : Client) (inquiry : Inquiry) :
    (client.begin inquiry).Fits Covered client.capacity := by
  cases inquiry with
  | block requested => exact Plan.fits_map _ (BlockAssembly.fits_plan client requested)
  | status => exact Plan.fits_map _ (Status.fits_plan client)
  | balance account requested =>
    rw [begin]
    cases hplan : Balance.plan client account requested with
    | ok plan => exact Plan.fits_map _ (Balance.fits_plan hplan)
    | error e => trivial
  | call request =>
    rw [begin]
    cases hplan : Proxy.plan request with
    | ok plan => exact Plan.fits_map _ (Proxy.fits_plan hplan)
    | error e => trivial
  | pendingNonce account =>
    exact Plan.fits_map _ (Plan.fits_fetch
      (covered_call (by simp [Wallet.nonceMethod, traceMethod]))
      fun _ ↦ trivial)
  | nonceAt account block =>
    exact Plan.fits_map _ (Plan.fits_fetch
      (covered_call (by simp [Wallet.nonceMethod, traceMethod]))
      fun _ ↦ trivial)
  | gasPrice =>
    exact Plan.fits_map _ (Plan.fits_fetch (covered_call (by simp [traceMethod])) fun _ ↦ trivial)
  | send raw =>
    exact Plan.fits_map _ (Plan.fits_fetch (covered_call (by simp [traceMethod])) fun _ ↦ trivial)

theorem stake_begin (client : Client) (inquiry : Inquiry) :
    (client.begin inquiry).stake capacity = ∅ := by
  cases inquiry with
  | balance account requested =>
    rw [begin]
    cases Balance.plan client account requested <;> rfl
  | call request =>
    rw [begin]
    cases Proxy.plan request <;> rfl
  | _ => rfl

end Client

/-! ### Everything that can happen -/

/-- What may be started: an inquiry, or a guard that wants units for its own sake. -/
inductive Client.Starts (client : Client) : Task Response → Prop
  | inquiry (context : Context) (inquiry : Inquiry) : Starts client (client.task context inquiry)
  | units (context : Context) (units : Nat) : Starts client (.guard context units .wanted)

/-- A state that is reached from a client over some node that has not been asked anything, whatever
is started, polled, released, cancelled and waited for, in whatever order, and whatever tokens and
alarms there are. -/
inductive Client.Reaches (client : Client) : System Response σ → Prop
  | new (node : Responder σ) (state : σ) : Reaches client (Session.new client node state).system
  | act {s : System Response σ} (action : Action Response)
    (hstarts : ∀ task, action = .spawn task → client.Starts task) :
    Reaches client s → Reaches client (s.act action)
  | arm {s : System Response σ} (tokens : Tokens) (alarms : List Alarm) :
    Reaches client s → Reaches client { s with tokens := tokens, alarms := alarms }

/-- A task that has come to its end and holds no units for its own sake. -/
def Task.IsOver (task : Task α) : Prop :=
  task.isPending = false ∧
    ∀ context units ticket held, task ≠ .guard context units (.holding ticket held)

namespace System

/-- The guards that are alive, with their units: those under which something is on its way, and
those that hold units for their own sake. -/
def guards (capacity : Nat) (s : System α σ) : List Admitted := (tasksStake capacity s.tasks).flown

/-- The units asked for by those that do not know yet that they have them. -/
def pending (capacity : Nat) (s : System α σ) : List Admitted :=
  (tasksStake capacity s.tasks).queued

/-- The traces asked for by what is on its way. -/
def traces (capacity : Nat) (s : System α σ) : Nat := (tasksStake capacity s.tasks).traces

/-- What a gate of the given capacity guarantees. -/
structure Admits (capacity : Nat) (s : System α σ) : Prop where
  gate : s.world.gate.capacity = capacity
  given : ∀ guard ∈ s.guards capacity, guard ∈ s.world.gate.admitted
  bounded : sumOf Admitted.units (s.guards capacity) ≤ capacity
  counted : s.world.tracesInFlight = s.traces capacity
  covered : s.world.tracesInFlight ≤ sumOf Admitted.units (s.guards capacity)
  peak : s.world.peak ≤ capacity
  asks : ∀ claim ∈ s.pending capacity, claim.units ≤ capacity
  whole : s.pending capacity = [] →
    s.world.gate.available + sumOf Admitted.units (s.guards capacity) = capacity
  restored : (∀ task ∈ s.tasks, task.IsOver) → s.world.gate.available = capacity

theorem stake_of_isOver {task : Task α} (hover : task.IsOver) : task.stake capacity = ∅ := by
  obtain ⟨hended, hheld⟩ := hover
  cases task with
  | request context block progress => exact Task.stake_of_not_isPending hended
  | guard context units hold =>
    cases hold with
    | holding ticket held => exact absurd rfl (hheld context units ticket held)
    | given => rfl
    | abandoned why => rfl
    | wanted => cases hended
    | waiting ticket => cases hended

theorem Within.admits {s : System α σ} (hwithin : s.Within capacity) : s.Admits capacity := by
  have hunits := hwithin.world.units_le
  have htraces := hwithin.world.tracesInFlight_le
  have hpeak := hwithin.world.peak
  obtain ⟨hgate, hcustody⟩ := hwithin.world.holds
  have hwhole (hpending : s.pending capacity = []) :
      s.world.gate.available + sumOf Admitted.units (s.guards capacity) = capacity := by
    unfold pending at hpending
    rw [hpending] at hcustody
    exact hcustody.available_add.trans hgate
  refine ⟨hgate, hcustody.admitted, hunits, hwithin.world.counted, htraces, hpeak, ?_, hwhole, ?_⟩
  · intro claim hclaim
    rw [← hgate]
    exact hcustody.units_le (List.mem_append_right _ hclaim)
  · intro hover
    have hnothing : tasksStake capacity s.tasks = ∅ := by
      refine Stake.all_eq_empty fun stake hstake ↦ ?_
      obtain ⟨task, htask, rfl⟩ := List.mem_map.mp hstake
      exact stake_of_isOver (hover task htask)
    have hguards : s.guards capacity = [] := by rw [guards, hnothing, Stake.flown_empty]
    have hpending : s.pending capacity = [] := by rw [pending, hnothing, Stake.queued_empty]
    have hall := hwhole hpending
    rwa [hguards, sumOf_nil, Nat.add_zero] at hall

end System

namespace Client

theorem clampCapacity_clampCapacity (capacity : Nat) :
    Gate.clampCapacity (Gate.clampCapacity capacity) = Gate.clampCapacity capacity := by
  unfold Gate.clampCapacity
  have hsize : 1 ≤ UInt32.size - 1 := by decide
  omega

theorem within_of_reaches (settings : Settings) {s : System Response σ}
    (hreaches : settings.client.Reaches s) : s.Within settings.client.capacity := by
  induction hreaches with
  | new node state =>
    refine ⟨⟨⟨clampCapacity_clampCapacity _, Gate.custody_new _⟩, rfl, ?_, Nat.zero_le _⟩, ?_⟩
    · intro holding hholding
      cases hholding
    · intro task htask
      cases htask
  | act action hstarts _ ih =>
    refine System.within_act ih action fun task htask ↦ ?_
    cases hstarts task htask with
    | inquiry context inquiry =>
      exact ⟨stake_begin settings.client inquiry, fits_begin settings.client inquiry⟩
    | units context units => exact ⟨rfl, trivial⟩
  | arm tokens alarms _ ih => exact ⟨ih.world, ih.fits⟩

/-- In every state that is reached from a client with any settings, the gate has the configured
capacity within its bounds and admits no more than that. -/
theorem admits_of_reaches (settings : Settings) {s : System Response σ}
    (hreaches : settings.client.Reaches s) :
    s.Admits (Gate.clampCapacity settings.traceCapacity.toNat) :=
  (within_of_reaches settings hreaches).admits

namespace Sample

def settings : Settings := { Settings.standard with traceCapacity := 3 }

/-- Fails every call after a second. -/
def node : Responder Unit where
  call _ _ := (⟨.error "the method does not exist", 1000⟩, ())
  batch _ _ := (⟨.error "the method does not exist", 1000⟩, ())
  query _ _ := (⟨.error "no endpoint", 1000⟩, ())

/-- A context that nobody cancels. -/
def context : Context := ⟨⟨[0]⟩, none⟩

def actions : List (Action Response) :=
  [.spawn (.guard context 2 .wanted), .spawn (.guard context 2 .wanted),
    .spawn (settings.client.task context (.block none)), .poll 0, .poll 1, .poll 2]

def system : System Response Unit :=
  actions.foldl System.act (Session.new settings.client node ()).system

theorem reaches_system : settings.client.Reaches system := by
  have hrun (actions : List (Action Response)) (s : System Response Unit)
      (hs : settings.client.Reaches s)
      (hstarts : ∀ action ∈ actions, ∀ task, action = .spawn task → settings.client.Starts task) :
      settings.client.Reaches (actions.foldl System.act s) := by
    induction actions generalizing s with
    | nil => exact hs
    | cons action rest ih =>
      obtain ⟨hfirst, hrest⟩ := List.forall_mem_cons.mp hstarts
      exact ih _ (.act action hfirst hs) hrest
  apply hrun _ _ (.new node ())
  simp only [actions, List.forall_mem_cons, Action.spawn.injEq, reduceCtorEq]
  refine ⟨?_, ?_, ?_, by simp⟩
  · rintro task rfl
    exact .units context 2
  · rintro task rfl
    exact .units context 2
  · rintro task rfl
    exact .inquiry context (.block none)

end Sample

/-- Of two guards that want two units each one has them, and the other waits with the third unit of
the gate, which leaves none while a block is looked up. -/
theorem admits_of_reaches_waiting :
    Sample.system.guards 3 = [⟨0, 2⟩] ∧ Sample.system.pending 3 = [⟨1, 2⟩] ∧
      Sample.system.world.gate.available = 0 ∧ Sample.system.Admits 3 := by
  have hadmits := admits_of_reaches Sample.settings Sample.reaches_system
  have hcapacity : Gate.clampCapacity Sample.settings.traceCapacity.toNat = 3 := by decide
  rw [hcapacity] at hadmits
  exact ⟨by decide, by decide, by decide, hadmits⟩

end Client

end RollupLedger
