import Mathlib.Algebra.Ring.Int.Defs
import RollupLedger.Client.Session
import RollupLedger.Proofs.Block.Faithful
import RollupLedger.Proofs.Client.Reference
import RollupLedger.Proofs.Wire.RoundTrip
import RollupLedger.Proofs.Word

/-!
# Timestamps in milliseconds

A header counts seconds, a block and a status count milliseconds. Both take them from the header
that the node sent first (`Session.dated_result`). Below `2 ^ 63` seconds the milliseconds are exact
until they are cut off at the largest signed number, and so they keep the order of the seconds. From
there on the seconds are read as negative (`Session.dated_before_epoch`).
-/

set_option autoImplicit false
set_option relaxedAutoImplicit false

namespace RollupLedger

open Ledger Wire

/-! ### The milliseconds of a header -/

namespace Wire.Header

theorem toInt_clampInt64 (n : Int) :
    (clampInt64 n).toInt = max (-2 ^ 63) (min n (2 ^ 63 - 1)) := by
  have hmin : Int64.minValue.toInt = -2 ^ 63 := by decide
  have hmax : Int64.maxValue.toInt = 2 ^ 63 - 1 := by decide
  rw [clampInt64, hmin, hmax]
  apply Int64.toInt_ofInt_of_le <;> omega

variable {h earlier later : Header}

theorem toInt_timestampMillis_of_lt (hlt : h.timestamp.toNat < 2 ^ 63) :
    h.timestampMillis.toInt = min (1000 * (h.timestamp.toNat : Int)) (2 ^ 63 - 1) := by
  have hsigned : (h.timestamp.toNat : Int).bmod UInt64.size = h.timestamp.toNat := by
    apply Int.bmod_eq_of_le <;> simp only [UInt64.size] <;> omega
  rw [timestampMillis, toInt_clampInt64, hsigned]
  omega

theorem toInt_timestampMillis_of_le (hle : 2 ^ 63 ≤ h.timestamp.toNat) :
    h.timestampMillis.toInt = max (1000 * ((h.timestamp.toNat : Int) - 2 ^ 64)) (-2 ^ 63) := by
  have hbound : h.timestamp.toNat < 2 ^ 64 := h.timestamp.toNat_lt
  have hsigned : (h.timestamp.toNat : Int).bmod UInt64.size = h.timestamp.toNat - 2 ^ 64 := by
    rw [← Int.sub_bmod_right]
    apply Int.bmod_eq_of_le <;> simp only [UInt64.size] <;> omega
  rw [timestampMillis, toInt_clampInt64, hsigned]
  omega

/-- Milliseconds before the epoch are those of seconds that are read as negative. -/
theorem timestampMillis_nonneg_iff : 0 ≤ h.timestampMillis ↔ h.timestamp.toNat < 2 ^ 63 := by
  rw [Int64.le_iff_toInt_le]
  by_cases hlt : h.timestamp.toNat < 2 ^ 63
  · rw [toInt_timestampMillis_of_lt hlt]
    simp only [Int64.toInt_zero]
    omega
  · have hbound : h.timestamp.toNat < 2 ^ 64 := h.timestamp.toNat_lt
    rw [toInt_timestampMillis_of_le (by omega)]
    simp only [Int64.toInt_zero]
    omega

/-- Milliseconds keep the order of seconds that are read with the same sign. -/
theorem timestampMillis_mono (hle : earlier.timestamp ≤ later.timestamp)
    (hsame : later.timestamp.toNat < 2 ^ 63 ∨ 2 ^ 63 ≤ earlier.timestamp.toNat) :
    earlier.timestampMillis ≤ later.timestampMillis := by
  have hseconds : earlier.timestamp.toNat ≤ later.timestamp.toNat := hle
  rw [Int64.le_iff_toInt_le]
  rcases hsame with hlt | hge
  · rw [toInt_timestampMillis_of_lt hlt, toInt_timestampMillis_of_lt (by omega)]
    omega
  · rw [toInt_timestampMillis_of_le hge, toInt_timestampMillis_of_le (by omega)]
    omega

end Wire.Header

/-! ### Blocks -/

namespace BlockAssembly

variable {client : Client} {fetched : NodeBlock} {uncles : List Header} {block : Block}
  {xs : List Exchange}

/-- A block that has been put together of a header and of other parts. -/
def MadeOf (header : Header) (block : Block) : Prop :=
  ∃ uncles parent made, block = assembled header uncles parent made

theorem madeOf_bodyPlan {rounds : Nat}
    (hcomes : (bodyPlan client fetched uncles : Plan Block (rounds + 1)).Comes xs (.ok block)) :
    MadeOf fetched.header block := by
  unfold bodyPlan at hcomes
  simp only at hcomes
  split at hcomes
  · rw [reread_eq_ok] at hcomes
    cases hcomes
    exact ⟨_, _, _, rfl⟩
  · cases hcomes with
    | both _ _ _ hcomes =>
      obtain ⟨receipts, -, hcomes⟩ := Plan.comes_andThen_ok hcomes
      obtain ⟨traces, -, hcomes⟩ := Plan.comes_andThen_ok hcomes
      obtain ⟨made, -, hcomes⟩ := Plan.comes_andThen_ok (Plan.comes_notes hcomes)
      rw [reread_eq_ok] at hcomes
      cases hcomes
      exact ⟨_, _, _, rfl⟩

theorem madeOf_unclePlan (hcomes : (unclePlan client fetched).Comes xs (.ok block)) :
    MadeOf fetched.header block := by
  unfold unclePlan at hcomes
  split at hcomes
  · exact madeOf_bodyPlan hcomes
  · cases hcomes with
    | batch hcomes =>
      obtain ⟨uncles, -, hcomes⟩ := Plan.comes_andThen_ok hcomes
      exact madeOf_bodyPlan hcomes

/-- Every block, also the one of number zero, is made of the header that was fetched first. -/
theorem exists_madeOf_of_comes {requested : Option PartialBlockIdentifier}
    (hcomes : (plan client requested).Comes xs (.ok block)) :
    ∃ fetched, Fetches requested xs fetched ∧ MadeOf fetched.header block := by
  obtain ⟨reference, value, fetched, ys, hnames, hfetched, rfl, hrest⟩ :=
    exists_unclePlan_of_comes hcomes
  exact ⟨fetched, ⟨reference, value, hnames, rfl, hfetched⟩, madeOf_unclePlan hrest⟩

end BlockAssembly

/-! ### The status -/

namespace Status

variable {client : Client} {xs : List Exchange}

/-- The call for the header of the head block. -/
def headCall : Call := ⟨"eth_getBlockByNumber", .arr [.str "latest", .bool false]⟩

/-- The first exchange brought the header of the head block. -/
def Fetches (xs : List Exchange) (head : Header) : Prop :=
  ∃ value, xs.head? = some (.call headCall (.ok value)) ∧ Header.decode.run value = .ok head

theorem eq_ofHead_of_headPlan {head : Header} {status : NodeStatus}
    (hcomes : (headPlan client head).Comes xs (.ok status)) :
    ∃ sync peers, status = ofHead head sync peers := by
  unfold headPlan at hcomes
  split at hcomes
  · cases hcomes
    exact ⟨_, _, rfl⟩
  · cases hcomes with
    | both _ _ _ hcomes =>
      obtain ⟨syncing, -, hcomes⟩ := Plan.comes_andThen_ok hcomes
      obtain ⟨peers, -, hcomes⟩ := Plan.comes_andThen_ok hcomes
      cases hcomes with
      | note hcomes =>
        cases hcomes
        exact ⟨_, _, rfl⟩

theorem exists_head_of_comes {status : NodeStatus} (hcomes : (plan client).Comes xs (.ok status)) :
    ∃ head, Fetches xs head ∧ ∃ sync peers, status = ofHead head sync peers := by
  obtain ⟨value, ys, rfl, hanswered⟩ := Plan.comes_ask_ok hcomes
  split at hanswered
  · cases hanswered
  · obtain ⟨head, hhead, hrest⟩ := Plan.comes_andThen_ok hanswered
    exact ⟨head, ⟨value, rfl, decodeAs_eq_ok hhead⟩, eq_ofHead_of_headPlan hrest⟩

end Status

/-! ### Responses -/

/-- Blocks and the status bear a timestamp. -/
def Inquiry.IsDated : Inquiry → Prop
  | .block _ => True
  | .status => True
  | _ => False

/-- The first exchange brought this header: that of the requested block, or that of the head block.
-/
def Inquiry.Heads (inquiry : Inquiry) (xs : List Exchange) (header : Header) : Prop :=
  match inquiry with
  | .block requested =>
    ∃ fetched, BlockAssembly.Fetches requested xs fetched ∧ fetched.header = header
  | .status => Status.Fetches xs header
  | _ => False

/-- The timestamp that a response reports. -/
def Response.timestamp? : Response → Option Int64
  | .block b => some b.timestamp
  | .status s => some s.timestamp
  | _ => none

section Responses

variable {client : Client} {inquiry : Inquiry} {xs : List Exchange} {response : Response}

theorem Client.exists_heads_of_comes (hdated : inquiry.IsDated)
    (hcomes : (client.begin inquiry).Comes xs (.ok response)) :
    ∃ header, inquiry.Heads xs header ∧ response.timestamp? = some header.timestampMillis := by
  cases inquiry with
  | block requested =>
    obtain ⟨result, hbefore, hmapped⟩ := Plan.comes_map hcomes
    cases result with
    | error e => cases hmapped
    | ok block =>
      cases hmapped
      obtain ⟨fetched, hfetches, _, _, _, rfl⟩ := BlockAssembly.exists_madeOf_of_comes hbefore
      exact ⟨fetched.header, ⟨fetched, hfetches, rfl⟩, rfl⟩
  | status =>
    obtain ⟨result, hbefore, hmapped⟩ := Plan.comes_map hcomes
    cases result with
    | error e => cases hmapped
    | ok status =>
      cases hmapped
      obtain ⟨head, hfetches, _, _, rfl⟩ := Status.exists_head_of_comes hbefore
      exact ⟨head, hfetches, rfl⟩
  | _ => exact hdated.elim

namespace Session

/-- Whatever a node says, in whatever round and whatever else is asked for at the same time, a block
and a status report the milliseconds of the header that the node sent first for them. Of a header
below `2 ^ 63` seconds these are a thousand times the seconds, cut off at the largest signed number.
Of one from there on they are negative: a thousand times the seconds less `2 ^ 64`, cut off at the
least. Of two headers on the same side the later one never has fewer. -/
theorem dated_result {σ : Type} {node : Responder σ} {session : Session σ}
    (hreached : Reached client node session) (limits : Limits) (inquiries : List Inquiry)
    {place : Nat} (hplace : inquiries[place]? = some inquiry) (hdated : inquiry.IsDated) :
    (∃ result xs, (session.ask limits inquiries).1.results[place]? = some (some result) ∧
      xs.Sublist (session.transcript limits inquiries) ∧
      (inquiries = [inquiry] → xs = session.transcript limits inquiries) ∧
      ∀ response, result = .ok response → ∃ header,
        inquiry.Heads xs header ∧ response.timestamp? = some header.timestampMillis) ∧
    (∀ h : Header,
      (h.timestamp.toNat < 2 ^ 63 →
        h.timestampMillis.toInt = min (1000 * (h.timestamp.toNat : Int)) (2 ^ 63 - 1)) ∧
      (2 ^ 63 ≤ h.timestamp.toNat →
        h.timestampMillis.toInt = max (1000 * ((h.timestamp.toNat : Int) - 2 ^ 64)) (-2 ^ 63)) ∧
      (0 ≤ h.timestampMillis ↔ h.timestamp.toNat < 2 ^ 63)) ∧
    ∀ earlier later : Header, earlier.timestamp ≤ later.timestamp →
      (later.timestamp.toNat < 2 ^ 63 ∨ 2 ^ 63 ≤ earlier.timestamp.toNat) →
      earlier.timestampMillis ≤ later.timestampMillis := by
  refine ⟨?_, fun h ↦ ⟨Header.toInt_timestampMillis_of_lt, Header.toInt_timestampMillis_of_le,
    Header.timestampMillis_nonneg_iff⟩, fun _ _ ↦ Header.timestampMillis_mono⟩
  obtain ⟨result, xs, hresult, hsub, halone, hcomes | ⟨why, rfl, -⟩⟩ :=
    exists_exchanges hreached limits inquiries hplace
  · refine ⟨result, xs, hresult, hsub, halone, ?_⟩
    rintro response rfl
    exact Client.exists_heads_of_comes hdated hcomes
  · exact ⟨_, xs, hresult, hsub, halone, nofun⟩

end Session

end Responses

/-! ### A chain of one block -/

namespace Session.Genesis

variable (seconds : Word 64)

/-- The header of the block of number zero. -/
def header : Header where
  hash := .zero 32
  parentHash := .zero 32
  number := 0
  timestamp := seconds
  miner := .zero 20
  stateRoot := .zero 32
  transactionsRoot := .zero 32
  receiptsRoot := .zero 32
  difficulty := 0
  gasLimit := 0
  gasUsed := 0
  baseFeePerGas := none
  uncles := []

def answer (c : Call) : CallReply :=
  if c = Status.headCall then .ok (header seconds).encode
  else if c = (Question.block .latest).call then .ok (NodeBlock.encode ⟨header seconds, []⟩)
  else .error "nothing is known of this"

def node : Responder Unit where
  call c _ := (⟨answer seconds c, 0⟩, ())
  batch cs _ := (⟨.ok (cs.map (answer seconds)), 0⟩, ())
  query _ _ := (⟨.error "no endpoint", 0⟩, ())

theorem keeps_node : (node seconds).Keeps (.steady (answer seconds)) :=
  ⟨fun _ _ ↦ rfl, fun _ _ ↦ rfl, fun _ _ ↦ trivial⟩

def client : Client := { Settings.standard with skipAdminCalls := true }.client

def session : Session Unit := .new client (node seconds) ()

/-- The results of a round in which the block and the status are asked for. -/
def results : List (Option (Except ClientError Response)) :=
  ((session seconds).ask ⟨none, none⟩ [.block none, .status]).1.results

theorem reached_session : Reached client (node seconds) (session seconds) := .new ()

theorem answer_head : answer seconds Status.headCall = .ok (header seconds).encode := if_pos rfl

theorem answer_block : answer seconds (Question.block .latest).call =
    .ok (NodeBlock.encode ⟨header seconds, []⟩) := by
  have hother : (Question.block .latest).call ≠ Status.headCall := by decide
  rw [answer, if_neg hother, if_pos rfl]

/-- What brings a block or a status to this round is the header of the only block. -/
theorem heads_eq {inquiry : Inquiry} {xs : List Exchange} {found : Header}
    (hinquiry : inquiry ∈ [.block none, .status])
    (hallows : ∀ x ∈ xs, (Manner.steady (answer seconds)).Allows x)
    (hheads : inquiry.Heads xs found) : found = header seconds := by
  rcases List.mem_pair.mp hinquiry with rfl | rfl
  · obtain ⟨fetched, ⟨reference, value, hnames, hhead, hdecode⟩, rfl⟩ := hheads
    cases hnames with
    | unnamed =>
      have hvalue : .ok value = answer seconds (Question.block .latest).call :=
        hallows _ (List.mem_of_head? hhead)
      rw [answer_block] at hvalue
      cases hvalue
      cases (NodeBlock.inverts.run_encode _).symm.trans hdecode
      rfl
  · obtain ⟨value, hhead, hdecode⟩ := hheads
    have hvalue : .ok value = answer seconds Status.headCall :=
      hallows _ (List.mem_of_head? hhead)
    rw [answer_head] at hvalue
    cases hvalue
    cases (Header.inverts.run_encode _).symm.trans hdecode
    rfl

/-- The look-up of the block brings it, and it has all that belongs to it. -/
theorem exists_block {result : Except ClientError Response}
    (hpossible : (client.begin (.block none)).Possible (.steady (answer seconds)) result) :
    ∃ block, result = .ok (.block block) := by
  obtain ⟨before, hends, rfl⟩ := Plan.ends_map hpossible
  have hvalue := BlockAssembly.yields_plan (answer seconds) client none before hends
  have hdecoded : NodeBlock.decode.run (NodeBlock.encode ⟨header seconds, []⟩) =
      .ok ⟨header seconds, []⟩ := NodeBlock.inverts.run_encode _
  have hread : BlockReference.read none = .ok .latest := rfl
  have hcomplete : BlockAssembly.Complete (answer seconds) client.chain client.traceTimeout
      ⟨header seconds, []⟩ := ⟨nofun, nofun, nofun⟩
  obtain ⟨made, hmade, -⟩ := BlockAssembly.exists_answeredBlock hread (answer_block seconds)
    (Json.isNull_of_splitRecord hdecoded) hdecoded rfl hcomplete
  cases before with
  | error e => cases hvalue.trans hmade
  | ok block => exact ⟨block, rfl⟩

theorem exists_status {result : Except ClientError Response}
    (hpossible : (client.begin .status).Possible (.steady (answer seconds)) result) :
    ∃ status, result = .ok (.status status) := by
  obtain ⟨before, ⟨xs, hcomes, hallows⟩, rfl⟩ := Plan.ends_map hpossible
  rcases Plan.comes_ask hcomes with ⟨value, ys, rfl, hanswered⟩ | ⟨message, rfl, -⟩
  · have hvalue : .ok value = answer seconds Status.headCall := hallows _ List.mem_cons_self
    rw [answer_head] at hvalue
    cases hvalue
    rw [if_neg (by exact Bool.false_ne_true)] at hanswered
    rcases Plan.comes_andThen hanswered with ⟨head, -, hrest⟩ | ⟨e, he, -⟩
    · cases hrest
      exact ⟨_, rfl⟩
    · cases (BlockAssembly.decodeAs_of_run _ (Header.inverts.run_encode _)).symm.trans he
  · have hvalue : .error message = answer seconds Status.headCall := hallows _ List.mem_cons_self
    cases hvalue

/-- What is reported in this round are the milliseconds of the header of the only block. -/
theorem timestamp?_of_possible {inquiry : Inquiry} {response : Response}
    (hinquiry : inquiry ∈ [.block none, .status]) (hdated : inquiry.IsDated)
    (hpossible : (client.begin inquiry).Possible (.steady (answer seconds)) (.ok response)) :
    response.timestamp? = some (header seconds).timestampMillis := by
  obtain ⟨xs, hcomes, hallows⟩ := hpossible
  obtain ⟨found, hheads, htimestamp⟩ := Client.exists_heads_of_comes hdated hcomes
  rw [htimestamp, heads_eq seconds hinquiry hallows hheads]

theorem exists_results : ∃ block status,
    (results seconds)[0]? = some (some (.ok (.block block))) ∧
    (results seconds)[1]? = some (some (.ok (.status status))) ∧
    block.timestamp = (header seconds).timestampMillis ∧
    status.timestamp = (header seconds).timestampMillis := by
  have hplace : ([.block none, .status] : List Inquiry)[0]? = some (.block none) := rfl
  have hnext : ([.block none, .status] : List Inquiry)[1]? = some .status := rfl
  obtain ⟨first, hfirst, hpossible⟩ := exists_result (reached_session seconds) (keeps_node seconds)
    ⟨none, none⟩ [.block none, .status] (by simp) hplace
  obtain ⟨second, hsecond, hlikewise⟩ := exists_result (reached_session seconds)
    (keeps_node seconds) ⟨none, none⟩ [.block none, .status] (by simp) hnext
  obtain ⟨block, rfl⟩ := exists_block seconds hpossible
  obtain ⟨status, rfl⟩ := exists_status seconds hlikewise
  have hblock := timestamp?_of_possible seconds (List.mem_of_getElem? hplace) trivial hpossible
  have hstatus := timestamp?_of_possible seconds (List.mem_of_getElem? hnext) trivial hlikewise
  exact ⟨block, status, hfirst, hsecond, Option.some.inj hblock, Option.some.inj hstatus⟩

/-- The last second of which the milliseconds are not negative. -/
def lastSecond : Word 64 := ⟨2 ^ 63 - 1, by decide⟩

def nextSecond : Word 64 := ⟨2 ^ 63, by decide⟩

end Session.Genesis

open Session.Genesis in
/-- At the last second both reports are cut off at the largest number. -/
theorem Session.dated_result_cut_off : ∃ block status found head xs ys,
    (results lastSecond)[0]? = some (some (.ok (.block block))) ∧
    (results lastSecond)[1]? = some (some (.ok (.status status))) ∧
    (Inquiry.block none).Heads xs found ∧ Inquiry.status.Heads ys head ∧
    block.timestamp = found.timestampMillis ∧ status.timestamp = head.timestampMillis ∧
    (header lastSecond).timestamp.toNat < 2 ^ 63 ∧
    block.timestamp.toInt = 2 ^ 63 - 1 ∧ status.timestamp.toInt = 2 ^ 63 - 1 := by
  have hplace : ([.block none, .status] : List Inquiry)[0]? = some (.block none) := rfl
  have hnext : ([.block none, .status] : List Inquiry)[1]? = some .status := rfl
  have hlast : (header lastSecond).timestamp.toNat < 2 ^ 63 := by decide
  obtain ⟨block, status, hblock, hstatus, hfirst, hsecond⟩ := exists_results lastSecond
  obtain ⟨⟨_, xs, hresult, -, -, hfound⟩, hmillis, -⟩ :=
    dated_result (reached_session lastSecond) ⟨none, none⟩ _ hplace trivial
  obtain ⟨⟨_, ys, hlikewise, -, -, hhead⟩, -⟩ :=
    dated_result (reached_session lastSecond) ⟨none, none⟩ _ hnext trivial
  cases hblock.symm.trans hresult
  cases hstatus.symm.trans hlikewise
  obtain ⟨found, hfound, hreported⟩ := hfound _ rfl
  obtain ⟨head, hhead, htold⟩ := hhead _ rfl
  have hvalue : (header lastSecond).timestampMillis.toInt = 2 ^ 63 - 1 := (hmillis _).1 hlast
  exact ⟨block, status, found, head, xs, ys, hblock, hstatus, hfound, hhead,
    Option.some.inj hreported, Option.some.inj htold, hlast, hfirst ▸ hvalue, hsecond ▸ hvalue⟩

open Session.Genesis in
/-- One second later both reports are before the epoch, by the largest number of milliseconds, and
before those of the second before. -/
theorem Session.dated_before_epoch : ∃ block status,
    (results nextSecond)[0]? = some (some (.ok (.block block))) ∧
    (results nextSecond)[1]? = some (some (.ok (.status status))) ∧
    (header nextSecond).timestamp.toNat = 2 ^ 63 ∧
    block.timestamp.toInt = -2 ^ 63 ∧ status.timestamp.toInt = -2 ^ 63 ∧
    min (1000 * ((header nextSecond).timestamp.toNat : Int)) (2 ^ 63 - 1) = 2 ^ 63 - 1 ∧
    (header lastSecond).timestamp ≤ (header nextSecond).timestamp ∧
    (header nextSecond).timestampMillis < (header lastSecond).timestampMillis := by
  obtain ⟨block, status, hblock, hstatus, hfirst, hsecond⟩ := exists_results nextSecond
  have hvalue : (header nextSecond).timestampMillis.toInt = -2 ^ 63 :=
    Header.toInt_timestampMillis_of_le (by decide)
  exact ⟨block, status, hblock, hstatus, rfl, hfirst ▸ hvalue, hsecond ▸ hvalue, rfl, by decide,
    by decide⟩

end RollupLedger
