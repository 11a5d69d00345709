import RollupLedger.Proofs.Block.Complete
import RollupLedger.Proofs.Block.Timing
import RollupLedger.Proofs.Client.Naming
import RollupLedger.Proofs.Client.Occasion
import RollupLedger.Proofs.Client.Template

/-!
# Blocks and balances refer to blocks alike

What a request's block means (`BlockReference.Names`) does not depend on what is asked about it. A
hash that spells no 32 bytes is refused before anything is sent; otherwise a request for the block
asks for what is meant in a call (`Question.call`), and one for a balance at it in a document
(`Balance.Fills`). Where both endpoints of the node have the block that is asked for, under one hash
and one number (`Resolves`), both answer for that block, or refuse it alike because another number
was expected (`Occasion.agree_on_reference`).
-/

set_option autoImplicit false
set_option relaxedAutoImplicit false

namespace RollupLedger

open Ledger Wire

/-! ### Nodes with two endpoints -/

/-- Each call and each document has its answer. -/
def Manner.fixed (answer : Call → CallReply) (graph : String → Except String String) : Manner where
  call c reply := reply = answer c
  batch cs reply := reply = .ok (cs.map answer)
  query document reply := reply = graph document

section Endpoints

variable {σ : Type} {node : Responder σ} {client : Client} {answer : Call → CallReply}
  {graph : String → Except String String} {requested : Option PartialBlockIdentifier}
  {reference : BlockReference} {account : AccountIdentifier} {address : Address} {hash : Hash}
  {number : Word 64} {xs : List Exchange}

theorem Manner.Allows.steady {x : Exchange} (hallows : (Manner.fixed answer graph).Allows x) :
    (Manner.steady answer).Allows x := by
  cases x with
  | query document reply => trivial
  | _ => exact hallows

/-- Both endpoints have the block that is referred to, under one hash and one number. The one has
all that belongs to the block, the other the account, and its reply reports no errors. -/
structure Resolves (client : Client) (answer : Call → CallReply)
    (graph : String → Except String String) (address : Address) (reference : BlockReference)
    (hash : Hash) (number : Word 64) : Prop where
  block : ∃ value block, answer (Question.block reference).call = .ok value ∧
    NodeBlock.decode.run value = .ok block ∧ block.header.hash = hash ∧
    block.header.number = number ∧
    BlockAssembly.Complete answer client.chain client.traceTimeout block
  account : ∃ document text value state account nonce, Balance.Fills address reference document ∧
    graph document = .ok text ∧ Json.read text = .ok value ∧
    BalanceReply.decode.run value = .ok ⟨some state, []⟩ ∧ state.hash = hash ∧
    state.number.short? = some number ∧ state.account = some account ∧
    account.transactionCount.short? = some nonce

/-- The document that is sent for a balance has a reply. -/
theorem Resolves.exists_reply
    (hresolves : Resolves client answer graph address reference hash number) :
    ∃ text value state account nonce, graph (Balance.document address reference) = .ok text ∧
      Json.read text = .ok value ∧ BalanceReply.decode.run value = .ok ⟨some state, []⟩ ∧
      state.hash = hash ∧ state.number.short? = some number ∧ state.account = some account ∧
      account.transactionCount.short? = some nonce := by
  obtain ⟨document, text, value, state, account, nonce, hfills, hgraph, hrest⟩ := hresolves.account
  rw [hfills.unique (Balance.fills_document address reference)] at hgraph
  exact ⟨text, value, state, account, nonce, hgraph, hrest⟩

/-! ### Blocks -/

namespace BlockAssembly

variable {result : Except ClientError Block}

/-- The first thing that is sent for a block is the look-up of what the request refers to. -/
theorem head_of_comes (hread : BlockReference.read requested = .ok reference)
    (hcomes : (plan client requested).Comes xs result) :
    xs.head?.map Exchange.request = some (.call (Question.block reference).call) := by
  rcases Plan.comes_andThen hcomes with ⟨same, hsame, hasks⟩ | ⟨e, he, -⟩
  · cases hread.symm.trans hsame
    rw [← lookup_eq]
    rcases Plan.comes_ask hasks with ⟨value, ys, rfl, -⟩ | ⟨message, rfl, -⟩
    · rfl
    · rfl
  · cases hread.symm.trans he

theorem comes_of_error {e : ClientError} (hread : BlockReference.read requested = .error e)
    (hcomes : (plan client requested).Comes xs result) : xs = [] ∧ result = .error e := by
  rcases Plan.comes_andThen hcomes with ⟨reference, hok, -⟩ | ⟨other, hother, rfl, rfl⟩
  · cases hread.symm.trans hok
  · cases hread.symm.trans hother
    exact ⟨rfl, rfl⟩

/-- A block of another number than expected is refused. -/
theorem refused_of_comes {value : Json} {block : NodeBlock} {e : ClientError}
    (hread : BlockReference.read requested = .ok reference)
    (hvalue : answer (Question.block reference).call = .ok value)
    (hblock : NodeBlock.decode.run value = .ok block)
    (hcheck : BlockReference.check requested block.header.number = .error e)
    (hallows : ∀ x ∈ xs, (Manner.steady answer).Allows x)
    (hcomes : (plan client requested).Comes xs result) : result = .error e := by
  rcases Plan.comes_andThen hcomes with ⟨same, hsame, hasks⟩ | ⟨other, hother, -⟩
  · cases hread.symm.trans hsame
    rw [lookup_eq] at hasks
    have hpresent : value.isNull = false := Json.isNull_of_splitRecord hblock
    rcases Plan.comes_ask hasks with ⟨told, ys, rfl, hanswered⟩ | ⟨message, rfl, -⟩
    · have htold : .ok told = answer (Question.block reference).call :=
        hallows _ List.mem_cons_self
      cases htold.trans hvalue
      rw [if_neg (by simp [hpresent])] at hanswered
      rcases Plan.comes_andThen hanswered with ⟨fetched, hfetched, hchecks⟩ | ⟨other, hother, -⟩
      · cases hblock.symm.trans (decodeAs_eq_ok hfetched)
        rcases Plan.comes_andThen hchecks with ⟨_, hok, -⟩ | ⟨other, hother, -, rfl⟩
        · cases hcheck.symm.trans hok
        · cases hcheck.symm.trans hother
          rfl
      · cases (decodeAs_of_run _ hblock).symm.trans hother
    · have htold : .error message = answer (Question.block reference).call :=
        hallows _ List.mem_cons_self
      cases htold.trans hvalue
  · cases hread.symm.trans hother

/-- What a request for a block comes to where the block can be resolved. -/
theorem resolved_of_comes (hnames : BlockReference.Names requested reference)
    (hresolves : Resolves client answer graph address reference hash number)
    (hallows : ∀ x ∈ xs, (Manner.steady answer).Allows x)
    (hcomes : (plan client requested).Comes xs result) :
    (BlockReference.Agrees requested number ∧
        ∃ block, result = .ok block ∧ block.identifier = ⟨number, hash.hex⟩) ∨
      (¬ BlockReference.Agrees requested number ∧ result = .error
        (.invalidBlock (BlockReference.describe requested) (.otherNumber number))) := by
  obtain ⟨value, fetched, hvalue, hblock, rfl, rfl, hcomplete⟩ := hresolves.block
  have hread := BlockReference.read_of_names hnames
  by_cases hagrees : BlockReference.Agrees requested fetched.header.number
  · obtain ⟨block, hanswered, hidentifier⟩ := exists_answeredBlock hread hvalue
      (Json.isNull_of_splitRecord hblock) hblock (BlockReference.check_of_agrees hagrees) hcomplete
    have hresult := yields_plan answer client requested result ⟨xs, hcomes, hallows⟩
    rw [hanswered] at hresult
    cases result with
    | error e => cases hresult
    | ok made =>
      cases hresult
      exact Or.inl ⟨hagrees, _, rfl, hidentifier⟩
  · exact Or.inr ⟨hagrees, refused_of_comes hread hvalue hblock
      (BlockReference.check_of_not_agrees hagrees) hallows hcomes⟩

end BlockAssembly

/-! ### Balances -/

namespace Balance

theorem readAccount_of_spells (haccount : Hex.Spells account.address address.bytes) :
    readAccount account = .ok address := by
  rw [readAccount, Address.read, Hex.readFixed_eq_ok_iff.mpr haccount]
  rfl

theorem plan_of_account_error {e : ClientError} (haccount : readAccount account = .error e) :
    plan client account requested = .error e := by
  rw [plan, haccount]
  rfl

theorem plan_of_read_error {e : ClientError} (haccount : readAccount account = .ok address)
    (hread : BlockReference.read requested = .error e) :
    plan client account requested = .error e := by
  rw [plan, haccount, hread]
  rfl

theorem plan_of_ok (client : Client) (haccount : readAccount account = .ok address)
    (hread : BlockReference.read requested = .ok reference) :
    plan client account requested = .ok (.note (.balanceQuery address.checksummed) <|
      .query (document address reference) fun body ↦
        .done (ofBody client.chain.currency account.address requested body)) := by
  rw [plan, haccount, hread]
  rfl

variable {result : Except ClientError Response}

theorem comes_of_error (haccount : readAccount account = .ok address) {e : ClientError}
    (hread : BlockReference.read requested = .error e)
    (hcomes : (client.begin (.balance account requested)).Comes xs result) :
    xs = [] ∧ result = .error e := by
  rw [Client.begin, plan_of_read_error haccount hread] at hcomes
  exact hcomes

/-- A balance is asked for by one document. -/
theorem exists_reply_of_comes (haccount : readAccount account = .ok address)
    (hread : BlockReference.read requested = .ok reference)
    (hcomes : (client.begin (.balance account requested)).Comes xs result) :
    ∃ reply, xs = [.query (document address reference) reply] ∧
      result = (ofBody client.chain.currency account.address requested reply).map .balance := by
  rw [Client.begin, plan_of_ok client haccount hread] at hcomes
  obtain ⟨before, hbefore, rfl⟩ := Plan.comes_map hcomes
  cases hbefore with
  | note hrest =>
    cases hrest with
    | @query _ _ _ reply _ _ hdone =>
      cases hdone
      exact ⟨reply, rfl, rfl⟩

/-- What is made of the reply of a node that has the account and the block. -/
theorem ofBody_of_resolves (account : AccountIdentifier) (requested : Option PartialBlockIdentifier)
    (hresolves : Resolves client answer graph address reference hash number) :
    (BlockReference.Agrees requested number ∧ ∃ balance,
        ofBody client.chain.currency account.address requested
          (graph (document address reference)) = .ok balance ∧
        balance.block = ⟨number, hash.hex⟩) ∨
      (¬ BlockReference.Agrees requested number ∧
        ofBody client.chain.currency account.address requested
          (graph (document address reference)) = .error
            (.invalidBlock (BlockReference.describe requested) (.otherNumber number))) := by
  obtain ⟨text, value, state, held, nonce, hgraph, htext, hreply, rfl, hnumber, hheld, hnonce⟩ :=
    hresolves.exists_reply
  have hdecoded := BlockAssembly.decodeAs_of_run .balance hreply
  have hbody : ofBody client.chain.currency account.address requested
      (graph (document address reference)) =
        ofState client.chain.currency account.address requested state := by
    simp only [ofBody, hgraph, htext, hdecoded]
    rfl
  rw [hbody]
  by_cases hagrees : BlockReference.Agrees requested number
  · refine Or.inl ⟨hagrees, ?_⟩
    simp only [ofState, hnumber, BlockReference.check_of_agrees hagrees, hheld, hnonce]
    exact ⟨_, rfl, rfl⟩
  · refine Or.inr ⟨hagrees, ?_⟩
    simp only [ofState, hnumber, BlockReference.check_of_not_agrees hagrees]
    rfl

end Balance

/-! ### Both -/

/-- A request for a block and one for a balance at it, each in whatever round, mean the same block.
A misspelled hash is refused by both with nothing sent. Otherwise the one begins with the question
for the block that is meant and the other sends the document for it, and where the node has the
block under some hash and number, both bring it under these, or both refuse it for its number, which
they do exactly if another one was expected. -/
theorem Occasion.agree_on_reference (haccount : Hex.Spells account.address address.bytes)
    (assembling : Occasion client node (.block requested))
    (balancing : Occasion client node (.balance account requested)) :
    ∃ made xs held ys, assembling.Brings made xs ∧ balancing.Brings held ys ∧
      ((∃ text fault, BlockReference.Misspells requested text ∧ xs = [] ∧ ys = [] ∧
          made = .error (.invalidBlock text (.malformed fault)) ∧
          held = .error (.invalidBlock text (.malformed fault))) ∨
        ∃ reference document, BlockReference.Names requested reference ∧
          Balance.Fills address reference document ∧
          xs.head?.map Exchange.request = some (.call (Question.block reference).call) ∧
          ys.map Exchange.request = [.query document] ∧
          ∀ answer graph hash number, node.Keeps (.fixed answer graph) →
            Resolves client answer graph address reference hash number →
              (BlockReference.Agrees requested number ∧ ∃ block balance,
                made = .ok (.block block) ∧ block.identifier = ⟨number, hash.hex⟩ ∧
                held = .ok (.balance balance) ∧ balance.block = ⟨number, hash.hex⟩) ∨
              (¬ BlockReference.Agrees requested number ∧
                made = .error
                  (.invalidBlock (BlockReference.describe requested) (.otherNumber number)) ∧
                held = .error
                  (.invalidBlock (BlockReference.describe requested) (.otherNumber number)))) := by
  obtain ⟨made, xs, hmade, hassembled, hallows⟩ := assembling.exists_brings node.keeps_manner
  obtain ⟨held, ys, hheld, hbalanced, hallowed⟩ := balancing.exists_brings node.keeps_manner
  obtain ⟨before, hcomes, rfl⟩ := Plan.comes_map hassembled
  have haddress := Balance.readAccount_of_spells haccount
  refine ⟨_, xs, held, ys, hmade, hheld, ?_⟩
  rcases BlockReference.names_or_misspells requested with ⟨reference, hnames⟩ | ⟨text, hmisspells⟩
  · have hread := BlockReference.read_of_names hnames
    obtain ⟨reply, rfl, rfl⟩ := Balance.exists_reply_of_comes haddress hread hbalanced
    refine Or.inr ⟨reference, _, hnames, Balance.fills_document address reference,
      BlockAssembly.head_of_comes hread hcomes, rfl,
      fun answer graph hash number hkeeps hresolves ↦ ?_⟩
    have hreply : reply = graph (Balance.document address reference) :=
      hkeeps.allows (hallowed _ List.mem_cons_self)
    have hblock := BlockAssembly.resolved_of_comes hnames hresolves
      (fun x hx ↦ (hkeeps.allows (hallows x hx)).steady) hcomes
    have hbalance := Balance.ofBody_of_resolves account requested hresolves
    rw [hreply]
    rcases hblock with ⟨hagrees, block, rfl, hidentifier⟩ | ⟨hdiffers, rfl⟩
    · rcases hbalance with ⟨-, balance, hbalance, hsame⟩ | ⟨hdiffers, -⟩
      · exact Or.inl ⟨hagrees, block, balance, rfl, hidentifier, by rw [hbalance]; rfl, hsame⟩
      · exact absurd hagrees hdiffers
    · rcases hbalance with ⟨hagrees, -⟩ | ⟨-, hbalance⟩
      · exact absurd hagrees hdiffers
      · exact Or.inr ⟨hdiffers, rfl, by rw [hbalance]; rfl⟩
  · obtain ⟨fault, hread⟩ := BlockReference.read_of_misspells hmisspells
    obtain ⟨hxs, rfl⟩ := BlockAssembly.comes_of_error hread hcomes
    obtain ⟨hys, hrefused⟩ := Balance.comes_of_error haddress hread hbalanced
    exact Or.inl ⟨text, fault, hmisspells, hxs, hys, rfl, hrefused⟩

end Endpoints

/-! ### A block that both endpoints have -/

namespace Occasion.Sample

open Flatten.Sample Session.Sample

/-- What is sent for the first account at the block of the hash that is all zero. -/
def query : String :=
  "\x7b block(hash: \"0x0000000000000000000000000000000000000000000000000000000000000000\") " ++
    "\x7b hash number account(address: \"0x0000000000000000000000000000000000000001\") " ++
    "\x7b balance transactionCount code \x7d \x7d \x7d"

theorem document_eq : Balance.document (holder 1) (.byHash (.zero 32)) = query := by
  rw [Balance.document, checksummed_first]
  decide +kernel

def graphText : String :=
  "\x7b\"data\": \x7b\"block\": \x7b\"hash\": \"" ++ (FixedBytes.zero 32).hex ++
    "\", \"number\": 1, \"account\": \x7b\"balance\": \"0x5\", \"transactionCount\": 3, " ++
    "\"code\": \"0x\"\x7d\x7d\x7d\x7d"

/-- Only the right document is answered, by the given text. -/
def graph (text document : String) : Except String String :=
  if document = query then .ok text else .error "nothing is known of this"

def state : BlockState := ⟨.zero 32, .number 1, some ⟨.big 5, .number 3, []⟩⟩

/-- A node of which the second endpoint answers by the given text. -/
def node (text : String) : Responder Unit where
  call c _ := (⟨answer c, 0⟩, ())
  batch cs _ := (⟨.ok (cs.map answer), 0⟩, ())
  query document _ := (⟨graph text document, 0⟩, ())

theorem keeps_node (text : String) : (node text).Keeps (.fixed answer (graph text)) :=
  ⟨fun _ _ ↦ rfl, fun _ _ ↦ rfl, fun _ _ ↦ rfl⟩

def client : Client := Settings.standard.client

def account : AccountIdentifier := ⟨(holder 1).hex⟩

/-- A block by its hash, whose mark is in the upper case, and by its number. -/
def requested : Option PartialBlockIdentifier :=
  some ⟨some 1, some (String.ofList ('0' :: 'X' :: Hex.digits (FixedBytes.zero 32).bytes))⟩

def occasion (text : String) (inquiry : Inquiry) : Occasion client (node text) inquiry :=
  .sole client (node text) () inquiry

theorem spells_account : Hex.Spells account.address (holder 1).bytes := Hex.spells_write _

theorem names_requested : BlockReference.Names requested (.byHash (.zero 32)) := by
  refine .byHash ⟨['0', 'X'], by decide, Hex.digits (FixedBytes.zero 32).bytes, ?_, by decide⟩
  exact String.toList_ofList

theorem exists_value {text : String} {reply : BalanceReply}
    (hread : (Json.read text).toOption.any (fun value ↦
      (BalanceReply.decode.run value).toOption.any (· = reply)) = true) :
    ∃ value, Json.read text = .ok value ∧ BalanceReply.decode.run value = .ok reply := by
  obtain ⟨value, htext, hvalue⟩ := exists_ok_of_any hread
  exact ⟨value, htext, eq_ok_of_any hvalue⟩

theorem exists_graph : ∃ value, Json.read graphText = .ok value ∧
    BalanceReply.decode.run value = .ok ⟨some state, []⟩ :=
  exists_value (by decide +kernel)

theorem resolves_requested :
    Resolves client answer (graph graphText) (holder 1) (.byHash (.zero 32)) (.zero 32) 1 where
  block := ⟨_, nodeBlock, rfl, run_decode_nodeBlock, rfl, rfl, complete_nodeBlock⟩
  account := by
    obtain ⟨value, htext, hreply⟩ := exists_graph
    exact ⟨query, graphText, value, state, _, 3, document_eq ▸ Balance.fills_document _ _,
      if_pos rfl, htext, hreply, rfl, rfl, rfl, rfl⟩

end Occasion.Sample

/-- For a block of a hash and a number both endpoints are asked by the hash, and bring it. -/
theorem Occasion.agree_on_reference_sample :
    ∃ block balance made held,
      (Sample.occasion Sample.graphText (.block Sample.requested)).Brings
        (.ok (.block block)) made ∧
      (Sample.occasion Sample.graphText (.balance Sample.account Sample.requested)).Brings
        (.ok (.balance balance)) held ∧
      made.head?.map Exchange.request = some (.call ⟨"eth_getBlockByHash",
        .arr [.str "0x0000000000000000000000000000000000000000000000000000000000000000",
          .bool true]⟩) ∧
      held.map Exchange.request = [.query Sample.query] ∧
      block.identifier = ⟨1, (FixedBytes.zero 32).hex⟩ ∧
      balance.block = ⟨1, (FixedBytes.zero 32).hex⟩ := by
  obtain ⟨_, made, _, held, hmade, hheld, ⟨text, fault, hmisspells, -⟩ | hmeant⟩ :=
    Occasion.agree_on_reference Sample.spells_account
      (Sample.occasion Sample.graphText (.block Sample.requested))
      (Sample.occasion Sample.graphText (.balance Sample.account Sample.requested))
  · exact absurd Sample.names_requested hmisspells.not_names
  obtain ⟨reference, document, hnames, hfills, hcall, hquery, hagree⟩ := hmeant
  cases hnames.unique Sample.names_requested
  cases hfills.unique (Sample.document_eq ▸ Balance.fills_document _ _)
  rcases hagree _ _ _ _ (Sample.keeps_node _) Sample.resolves_requested with
    ⟨-, block, balance, rfl, hblock, rfl, hbalance⟩ | ⟨hdiffers, -⟩
  · exact ⟨block, balance, made, held, hmade, hheld, hcall, hquery, hblock, hbalance⟩
  · refine absurd (fun index hindex ↦ ?_) hdiffers
    cases hindex
    rfl

end RollupLedger
