import RollupLedger.Client.Settings
import RollupLedger.Proofs.Block.Complete
import RollupLedger.Proofs.Client.Rounds
import RollupLedger.Proofs.Flatten.Walk
import RollupLedger.Proofs.Wire.RoundTrip

/-!
# Blocks do not depend on timing

Against a node that always says the same, a request for a block comes to what the answers make
(`toOption_result_block`), however long replies take and however traces are asked for.
-/

set_option autoImplicit false
set_option relaxedAutoImplicit false

namespace RollupLedger.Session

/-- Asked for a block, in whatever round and whatever else is asked for at the same time, a client
over a node that answers each call in one way has a result, and its value, if there is one, is the
block that the answers make one after another. It depends neither on the latencies of the node nor
on the capacity of the gate nor on whether traces are asked for in batches. Only a round that ended
after its time or after it was to be cancelled is left out. -/
theorem toOption_result_block (settings : Settings)
    (requested : Option Ledger.PartialBlockIdentifier) (answer : Call → CallReply) {σ : Type}
    {node : Responder σ} (hsteady : node.Keeps (.steady answer)) {session : Session σ}
    (hreached : Reached settings.client node session) (limits : Limits) (inquiries : List Inquiry)
    {place : Nat} (hplace : inquiries[place]? = some (.block requested))
    (hlive : ∀ time, limits.timeout = some time ∨ limits.cancelAfter = some time →
      (session.ask limits inquiries).1.time < session.system.world.now + time) :
    ∃ result, (session.ask limits inquiries).1.results[place]? = some (some result) ∧
      result.toOption =
        (BlockAssembly.answeredBlock answer settings.chain settings.traceTimeout requested).map
          .block := by
  obtain ⟨result, hresult, hpossible⟩ :=
    exists_result hreached hsteady limits inquiries hlive hplace
  obtain ⟨before, hends, rfl⟩ := Plan.ends_map hpossible
  refine ⟨_, hresult, ?_⟩
  rw [toOption_map, BlockAssembly.yields_plan answer settings.client requested before hends]
  rfl

/-! ### A block of three transactions and two uncles -/

namespace Sample

open BlockAssembly Flatten.Sample Trace Wire

/-- A hash that is told by its last byte. -/
def hashOf (last : UInt8) : Hash := ⟨List.replicate 31 0 ++ [last], rfl⟩

def transaction (last : UInt8) : SignedTransaction := { transfer with hash := hashOf last }

def receiptFor (last : UInt8) : Receipt := { receipt with transactionHash := hashOf last }

/-- A call that moves as much as is written. -/
def callTrace (value : String) : Json := .ofMembers
  [("type", .str "CALL"), ("from", encodeFixed (holder 1)), ("to", encodeFixed (holder 2)),
    ("value", .str value), ("gas", .str "0x0"), ("gasUsed", .str "0x0"), ("input", .str "0x")]

def header (hash : Hash) (uncles : List Hash) : Header where
  hash := hash
  parentHash := hashOf 9
  number := 1
  timestamp := 5
  miner := holder 9
  stateRoot := .zero 32
  transactionsRoot := .zero 32
  receiptsRoot := .zero 32
  difficulty := 0
  gasLimit := 0
  gasUsed := 0
  baseFeePerGas := some 1
  uncles := uncles

def nodeBlock : NodeBlock :=
  ⟨header (.zero 32) [hashOf 7, hashOf 8], [transaction 1, transaction 2, transaction 3]⟩

/-- What is known of the block, question by question. -/
def known : List (Question × Json) :=
  [(.block .latest, nodeBlock.encode), (.block (.byHash (.zero 32)), nodeBlock.encode),
    (.uncle (.zero 32) 0, (header (hashOf 7) []).encode),
    (.uncle (.zero 32) 1, (header (hashOf 8) []).encode),
    (.receipt (hashOf 1), (receiptFor 1).encode), (.receipt (hashOf 2), (receiptFor 2).encode),
    (.receipt (hashOf 3), (receiptFor 3).encode), (.trace (hashOf 1) "120s", callTrace "0x1"),
    (.trace (hashOf 2) "120s", callTrace "0x2"), (.trace (hashOf 3) "120s", callTrace "0x3")]

/-- Only what is asked with the right parameters is answered. -/
def answer (c : Call) : CallReply :=
  match known.find? fun entry ↦ entry.1.call = c with
  | some entry => .ok entry.2
  | none => .error "nothing is known of this"

/-- Counts what it has been asked; `latency` says how long each reply takes. -/
def node (latency : Nat → Nat) : Responder Nat where
  call c asked := (⟨answer c, latency asked⟩, asked + 1)
  batch cs asked := (⟨.ok (cs.map answer), latency asked⟩, asked + 1)
  query _ asked := (⟨.error "no endpoint", latency asked⟩, asked + 1)

theorem keeps_node (latency : Nat → Nat) : (node latency).Keeps (.steady answer) :=
  ⟨fun _ _ ↦ rfl, fun _ _ ↦ rfl, fun _ _ ↦ trivial⟩

def settings (capacity : Word 64) (batches : Bool) : Settings :=
  { Settings.standard with traceCapacity := capacity, batchTraces := batches }

def session (capacity : Word 64) (batches : Bool) (latency : Nat → Nat) : Session Nat :=
  .new (settings capacity batches).client (node latency) 0

theorem reached_session (capacity : Word 64) (batches : Bool) (latency : Nat → Nat) :
    Reached (settings capacity batches).client (node latency) (session capacity batches latency) :=
  .new 0

theorem run_decode_nodeBlock : NodeBlock.decode.run nodeBlock.encode = .ok nodeBlock :=
  NodeBlock.inverts.run_encode nodeBlock

theorem served_transaction {last : UInt8} {value : String}
    (hreceipt : answer (Question.receipt (hashOf last)).call = .ok (receiptFor last).encode)
    (htrace : answer (Question.trace (hashOf last) "120s").call = .ok (callTrace value))
    (hread : (Json.Decoder.run CallFrame.decode (callTrace value)).toOption.any (fun frame ↦
      frame.body.type ∈ CallKind.names ∧ frame.calls.isEmpty) = true) :
    Served answer Settings.standard.chain "120s" nodeBlock.header (transaction last) where
  receipt := by
    have hdecoded : Receipt.decode.run (receiptFor last).encode = .ok (receiptFor last) := by
      have hbloom : (receiptFor last).logsBloom = none := rfl
      rw [Json.Decoder.run, Receipt.decode_encode (by simp [hbloom]), Json.Decoding.result_pure]
    exact ⟨_, receiptFor last, some 6, hreceipt, hdecoded, rfl, rfl⟩
  trace := by
    obtain ⟨⟨body, calls⟩, hframe, hknown⟩ := exists_ok_of_any hread
    obtain ⟨hname, hcalls⟩ := of_decide_eq_true hknown
    refine ⟨_, _, htrace, hframe, hname, ?_⟩
    rw [show calls = [] from List.isEmpty_iff.mp hcalls]
    trivial

theorem complete_nodeBlock : Complete answer Settings.standard.chain "120s" nodeBlock where
  uncles := by
    intro place hplace
    match place, hplace with
    | 0, _ => exact ⟨_, _, rfl, Header.inverts.run_encode _⟩
    | 1, _ => exact ⟨_, _, rfl, Header.inverts.run_encode _⟩
  distinct := fun _ ↦ by decide
  served := by
    intro _
    refine List.forall_mem_cons.mpr ⟨served_transaction rfl rfl (by decide +kernel), ?_⟩
    refine List.forall_mem_cons.mpr ⟨served_transaction rfl rfl (by decide +kernel), ?_⟩
    exact List.forall_mem_singleton.mpr (served_transaction rfl rfl (by decide +kernel))

theorem exists_answeredBlock_latest : ∃ made,
    answeredBlock answer Settings.standard.chain Settings.standard.traceTimeout none = some made ∧
      made.identifier = ⟨1, (FixedBytes.zero 32).hex⟩ := by
  have hread : BlockReference.read none = .ok .latest := rfl
  exact exists_answeredBlock hread rfl (Json.isNull_of_splitRecord run_decode_nodeBlock)
    run_decode_nodeBlock rfl complete_nodeBlock

/-- However traces are asked for and however long replies take, the block is found. -/
theorem exists_block (capacity : Word 64) (batches : Bool) (latency : Nat → Nat) : ∃ block,
    ((session capacity batches latency).ask ⟨none, none⟩ [.block none]).1.results[0]? =
        some (some (.ok (.block block))) ∧
      block.identifier = ⟨1, (FixedBytes.zero 32).hex⟩ := by
  have hplace : [Inquiry.block none][0]? = some (.block none) := rfl
  obtain ⟨result, hresult, hpossible⟩ := exists_result (reached_session capacity batches latency)
    (keeps_node latency) ⟨none, none⟩ [.block none] (by simp) hplace
  obtain ⟨before, hends, rfl⟩ := Plan.ends_map hpossible
  have hvalue := yields_plan answer (settings capacity batches).client none before hends
  obtain ⟨block, hblock, hidentifier⟩ := exists_answeredBlock_latest
  cases before with
  | error e => cases hvalue.trans hblock
  | ok made =>
    cases hvalue.trans hblock
    exact ⟨block, hresult, hidentifier⟩

/-- What is fetched as the latest block is what is known of it. -/
theorem eq_nodeBlock {capacity : Word 64} {batches : Bool} {latency : Nat → Nat} {value : Json}
    {fetched : NodeBlock}
    (hmem : .call (Question.block .latest).call (.ok value) ∈
      (session capacity batches latency).transcript ⟨none, none⟩ [.block none])
    (hread : NodeBlock.decode.run value = .ok fetched) : fetched = nodeBlock := by
  have hsaid : .ok value = answer (Question.block .latest).call :=
    allows_transcript (reached_session capacity batches latency) (keeps_node latency) _ _ _ hmem
  have hvalue : value = nodeBlock.encode := Except.ok.inj (hsaid.trans rfl)
  rw [hvalue, run_decode_nodeBlock] at hread
  exact (Except.ok.inj hread).symm

end Sample

/-- One by one through a gate of no capacity against a node that replies at once, and in batches of
two against a node that takes longer the more it is asked: the block is the same. -/
theorem toOption_result_block_twice :
    ∃ block first second,
      ((Sample.session 0 false fun _ ↦ 0).ask ⟨none, none⟩ [.block none]).1.results[0]? =
        some (some first) ∧
      ((Sample.session 2 true fun asked ↦ 20 * asked).ask ⟨none, none⟩
        [.block none]).1.results[0]? = some (some second) ∧
      first.toOption = some (.block block) ∧ second.toOption = some (.block block) := by
  have hplace : [Inquiry.block none][0]? = some (.block none) := rfl
  obtain ⟨first, hfirst, hvalue⟩ := toOption_result_block (Sample.settings 0 false) none
    Sample.answer (Sample.keeps_node _) (Sample.reached_session 0 false fun _ ↦ 0) ⟨none, none⟩ _
    hplace (by simp)
  obtain ⟨second, hsecond, hsame⟩ := toOption_result_block (Sample.settings 2 true) none
    Sample.answer (Sample.keeps_node _) (Sample.reached_session 2 true fun asked ↦ 20 * asked)
    ⟨none, none⟩ _ hplace (by simp)
  obtain ⟨block, hanswered, -⟩ := Sample.exists_answeredBlock_latest
  exact ⟨block, first, second, hfirst, hsecond,
    hvalue.trans (congrArg (Option.map Response.block) hanswered),
    hsame.trans (congrArg (Option.map Response.block) hanswered)⟩

end RollupLedger.Session
