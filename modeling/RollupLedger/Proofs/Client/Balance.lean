import RollupLedger.Proofs.Client.Reference
import RollupLedger.Proofs.Word

/-!
# What a balance request makes of its reply

One reply decides what a request for a balance comes to (`Occasion.settles_balance`). It is a
balance exactly if the reply reports no error and has the account at the block, whose number is the
expected one and fits 64 bits (`Grants`), and then all that it says is what that reply says
(`Shows`). A block that the request names and that is missing is to blame itself; otherwise the
first error that is reported decides by what it mentions (`Blames`).
-/

set_option autoImplicit false
set_option relaxedAutoImplicit false

namespace RollupLedger

open Ledger Wire

namespace Wire.Quantity

theorem short?_eq_some_iff {quantity : Quantity} {n : Word 64} :
    quantity.short? = some n ↔ n.toNat = quantity.value.toNat := by
  cases quantity with
  | number value => exact Option.some_inj.trans (eq_comm.trans Word.ext_iff)
  | big value => exact Word.ofNat?_eq_some_iff

theorem exists_short?_iff {quantity : Quantity} :
    (∃ n, quantity.short? = some n) ↔ quantity.value.toNat < 2 ^ 64 := by
  simp only [short?_eq_some_iff]
  constructor
  · rintro ⟨n, hn⟩
    exact hn ▸ n.isLt
  · exact fun hlt ↦ ⟨⟨_, hlt⟩, rfl⟩

end Wire.Quantity

namespace Balance

/-! ### Messages -/

/-- A word occurs somewhere in a message. -/
def Mentions (message word : String) : Prop := word.toList <:+: message.toList

theorem occursIn_iff {part text : List Char} : occursIn part text = true ↔ part <:+: text := by
  induction text with
  | nil => rw [occursIn, List.isEmpty_iff, List.infix_nil]
  | cons c rest ih =>
    rw [occursIn, Bool.or_eq_true, List.isPrefixOf_iff_prefix, ih, List.infix_cons_iff]

theorem containsText_iff {message word : String} :
    containsText message word = true ↔ Mentions message word := occursIn_iff

/-- Whom a message blames: the account if it mentions one, else the block if it mentions one, else
the endpoint. -/
inductive Blames (address block message : String) : ClientError → Prop
  | account (hmentions : Mentions message "account" ∨ Mentions message "address") :
    Blames address block message (.invalidAccount address (.reported message))
  | block (hno : ¬ (Mentions message "account" ∨ Mentions message "address"))
    (hmentions : Mentions message "block" ∨ Mentions message "hash") :
    Blames address block message (.invalidBlock block (.reported message))
  | endpoint (hno : ¬ (Mentions message "account" ∨ Mentions message "address"))
    (hnone : ¬ (Mentions message "block" ∨ Mentions message "hash")) :
    Blames address block message (.graph (.reported message))

theorem blames_reportedError (address block message : String) :
    Blames address block message (reportedError address block message) := by
  have heither (word other : String) :
      (containsText message word || containsText message other) = true ↔
        Mentions message word ∨ Mentions message other := by
    rw [Bool.or_eq_true, containsText_iff, containsText_iff]
  unfold reportedError
  split_ifs with haccount hblock
  · exact .account ((heither _ _).mp haccount)
  · exact .block (mt (heither _ _).mpr haccount) ((heither _ _).mp hblock)
  · exact .endpoint (mt (heither _ _).mpr haccount) (mt (heither _ _).mpr hblock)

/-! ### Replies -/

/-- The request names its block, by a hash or by a number. -/
def IsNamed (requested : Option PartialBlockIdentifier) : Prop :=
  ∃ reference, requested = some reference ∧ (reference.hash ≠ none ∨ reference.index ≠ none)

/-- A reply grants a balance: it reports no error, and has the account at a block of the number
that is expected, if one is. -/
structure Grants (requested : Option PartialBlockIdentifier) (reply : BalanceReply)
    (block : BlockState) (account : AccountState) : Prop where
  silent : reply.errors = []
  found : reply.block = some block
  holds : block.account = some account
  number : block.number.value.toNat < 2 ^ 64
  expected : ∀ index, requested.bind PartialBlockIdentifier.index = some index →
    index.toNat = block.number.value.toNat
  transactions : account.transactionCount.value.toNat < 2 ^ 64

/-- A balance says of a block and an account what a node's state of them says. -/
structure Shows (currency : Currency) (block : BlockState) (account : AccountState)
    (balance : AccountBalance) : Prop where
  index : balance.block.index.toNat = block.number.value.toNat
  hash : balance.block.hash = block.hash.hex
  amount : balance.balances = [.credit account.balance.value currency]
  metadata : ∃ nonce : Word 64, nonce.toNat = account.transactionCount.value.toNat ∧
    balance.metadata = some [("code", encodeBytes account.code), ("nonce", encodeWord nonce)]

/-- A result that a reply leads to. -/
structure Settles (currency : Currency) (address : String)
    (requested : Option PartialBlockIdentifier) (reply : BalanceReply)
    (result : Except ClientError Response) : Prop where
  granted : (∃ response, result = .ok response) ↔
    ∃ block account, Grants requested reply block account
  shown : ∀ response, result = .ok response → ∃ balance block account,
    response = .balance balance ∧ Grants requested reply block account ∧
      Shows currency block account balance
  missing : IsNamed requested → reply.block = none → ∃ fault,
    result = .error (.invalidBlock (BlockReference.describe requested) fault) ∧
      fault.message = reply.errors.headD "no such block"
  blamed : ∀ message rest, reply.errors = message :: rest →
    ¬ (IsNamed requested ∧ reply.block = none) → ∃ e, result = .error e ∧
      Blames address (BlockReference.describe requested) message e

section Replies

variable {currency : Currency} {address : String} {requested : Option PartialBlockIdentifier}
  {reply : BalanceReply} {block : BlockState} {account : AccountState} {balance : AccountBalance}

theorem isPinned_iff : isPinned requested = true ↔ IsNamed requested := by
  cases requested with
  | none => exact ⟨nofun, nofun⟩
  | some reference =>
    simp only [isPinned, IsNamed, Option.some.injEq, exists_eq_left', Bool.or_eq_true,
      Option.isSome_iff_ne_none]

theorem ofState_of_grants (currency : Currency) (address : String)
    (hgrants : Grants requested reply block account) :
    ∃ balance, ofState currency address requested block = .ok balance := by
  obtain ⟨index, hindex⟩ := Quantity.exists_short?_iff.mpr hgrants.number
  obtain ⟨nonce, hnonce⟩ := Quantity.exists_short?_iff.mpr hgrants.transactions
  have hagrees : BlockReference.Agrees requested index := by
    intro expected hexpected
    rw [Word.ext_iff, hgrants.expected expected hexpected, Quantity.short?_eq_some_iff.mp hindex]
  simp only [ofState, hindex, BlockReference.check_of_agrees hagrees, hgrants.holds, hnonce]
  exact ⟨_, rfl⟩

/-- A balance is made of a block only as the block grants and shows it. -/
theorem grants_of_ofState (herrors : reply.errors = []) (hblock : reply.block = some block)
    (hstate : ofState currency address requested block = .ok balance) :
    ∃ account, Grants requested reply block account ∧ Shows currency block account balance := by
  unfold ofState at hstate
  cases hindex : block.number.short? with
  | none => simp only [hindex] at hstate; cases hstate
  | some index =>
    simp only [hindex] at hstate
    obtain ⟨_, hcheck, hstate⟩ := bind_eq_ok hstate
    have hagrees : BlockReference.Agrees requested index := by
      by_contra hdiffers
      cases hcheck.symm.trans (BlockReference.check_of_not_agrees hdiffers)
    have hnumber := Quantity.short?_eq_some_iff.mp hindex
    cases haccount : block.account with
    | none => simp only [haccount] at hstate; cases hstate
    | some account =>
      simp only [haccount] at hstate
      cases hnonce : account.transactionCount.short? with
      | none => simp only [hnonce] at hstate; cases hstate
      | some nonce =>
        simp only [hnonce] at hstate
        cases hstate
        refine ⟨account, ⟨herrors, hblock, haccount, ?_, fun expected hexpected ↦ ?_, ?_⟩, ?_⟩
        · exact Quantity.exists_short?_iff.mp ⟨index, hindex⟩
        · rw [hagrees expected hexpected, hnumber]
        · exact Quantity.exists_short?_iff.mp ⟨nonce, hnonce⟩
        · exact ⟨hnumber, rfl, rfl, nonce, Quantity.short?_eq_some_iff.mp hnonce, rfl⟩

theorem settles_of_error {e : ClientError} (hrefused : ∀ block account,
      ¬ Grants requested reply block account)
    (hmissing : IsNamed requested → reply.block = none → ∃ fault,
      e = .invalidBlock (BlockReference.describe requested) fault ∧
        fault.message = reply.errors.headD "no such block")
    (hblamed : ∀ message rest, reply.errors = message :: rest →
      ¬ (IsNamed requested ∧ reply.block = none) →
        Blames address (BlockReference.describe requested) message e) :
    Settles currency address requested reply (.error e) where
  granted := ⟨nofun, fun ⟨block, account, hgrants⟩ ↦ absurd hgrants (hrefused block account)⟩
  shown := nofun
  missing := fun hnamed hnone ↦ by
    obtain ⟨fault, rfl, hmessage⟩ := hmissing hnamed hnone
    exact ⟨fault, rfl, hmessage⟩
  blamed := fun message rest herrors hpresent ↦ ⟨e, rfl, hblamed message rest herrors hpresent⟩

/-- Where the reply has a block, only the account or what it reports can be at fault. -/
theorem settles_of_present {e : ClientError} (hblock : reply.block = some block)
    (hrefused : ∀ account, ¬ Grants requested reply block account)
    (hblamed : ∀ message rest, reply.errors = message :: rest →
      Blames address (BlockReference.describe requested) message e) :
    Settles currency address requested reply (.error e) := by
  refine settles_of_error (fun other account hgrants ↦ ?_) (fun _ hnone ↦ ?_) ?_
  · cases hblock.symm.trans hgrants.found
    exact hrefused account hgrants
  · cases hblock.symm.trans hnone
  · exact fun message rest herrors _ ↦ hblamed message rest herrors

/-- Whatever a reply says, it settles the request. -/
theorem settles_ofReply (currency : Currency) (address : String)
    (requested : Option PartialBlockIdentifier) (reply : BalanceReply) :
    Settles currency address requested reply
      ((ofReply currency address requested reply).map .balance) := by
  unfold ofReply
  cases hblock : reply.block with
  | none =>
    have hrefused (block : BlockState) (account : AccountState) :
        ¬ Grants requested reply block account := fun hgrants ↦ by
      cases hblock.symm.trans hgrants.found
    cases herrors : reply.errors with
    | nil =>
      refine settles_of_error hrefused (fun _ _ ↦ ⟨_, rfl, by rw [herrors]; rfl⟩) ?_
      intro message rest hsome
      cases herrors.symm.trans hsome
    | cons first others =>
      simp only
      split
      · rename_i hpinned
        refine settles_of_error hrefused (fun _ _ ↦ ⟨_, rfl, by rw [herrors]; rfl⟩) ?_
        exact fun _ _ _ hpresent ↦ absurd ⟨isPinned_iff.mp hpinned, hblock⟩ hpresent
      · rename_i hpinned
        refine settles_of_error hrefused (fun hnamed ↦ absurd (isPinned_iff.mpr hnamed) hpinned) ?_
        intro message rest hsome _
        cases herrors.symm.trans hsome
        exact blames_reportedError _ _ _
  | some block =>
    cases herrors : reply.errors with
    | nil =>
      simp only
      cases hstate : ofState currency address requested block with
      | ok balance =>
        obtain ⟨account, hgrants, hshows⟩ := grants_of_ofState herrors hblock hstate
        refine ⟨⟨fun _ ↦ ⟨block, account, hgrants⟩, fun _ ↦ ⟨_, rfl⟩⟩, ?_, ?_, ?_⟩
        · rintro _ ⟨⟩
          exact ⟨balance, block, account, rfl, hgrants, hshows⟩
        · intro _ hnone
          cases hblock.symm.trans hnone
        · intro message rest hsome
          cases herrors.symm.trans hsome
      | error e =>
        refine settles_of_present hblock (fun account hgrants ↦ ?_) (fun message rest hsome ↦ ?_)
        · obtain ⟨balance, hok⟩ := ofState_of_grants currency address hgrants
          cases hstate.symm.trans hok
        · cases herrors.symm.trans hsome
    | cons first others =>
      refine settles_of_present hblock (fun account hgrants ↦ ?_) (fun message rest hsome ↦ ?_)
      · cases herrors.symm.trans hgrants.silent
      · cases herrors.symm.trans hsome
        exact blames_reportedError _ _ _

end Replies

end Balance

/-- A request for a balance whose account and block are well formed, in whatever round and of
whatever node. It asks one query, and where what the node says to it can be read, that one reply
settles the request. -/
theorem Occasion.settles_balance {σ : Type} {client : Client} {node : Responder σ}
    {account : AccountIdentifier} {address : Address} {requested : Option PartialBlockIdentifier}
    {reference : BlockReference} (haccount : Hex.Spells account.address address.bytes)
    (hnames : BlockReference.Names requested reference)
    (occasion : Occasion client node (.balance account requested)) :
    ∃ result body,
      occasion.Brings result [.query (Balance.document address reference) body] ∧
        node.manner.Allows (.query (Balance.document address reference) body) ∧
        ∀ text value reply, body = .ok text → Json.read text = .ok value →
          BalanceReply.decode.run value = .ok reply →
            Balance.Settles client.chain.currency account.address requested reply result := by
  obtain ⟨result, xs, hbrings, hcomes, hallows⟩ := occasion.exists_brings node.keeps_manner
  obtain ⟨body, rfl, rfl⟩ := Balance.exists_reply_of_comes
    (Balance.readAccount_of_spells haccount) (BlockReference.read_of_names hnames) hcomes
  refine ⟨_, body, hbrings, hallows _ List.mem_cons_self, ?_⟩
  intro text value reply hbody htext hreply
  have hmade : Balance.ofBody client.chain.currency account.address requested body =
      Balance.ofReply client.chain.currency account.address requested reply := by
    simp only [Balance.ofBody, hbody, htext, BlockAssembly.decodeAs_of_run .balance hreply]
    rfl
  rw [hmade]
  exact Balance.settles_ofReply _ _ _ _

/-! ### A reply that has the account, and one that has no block -/

namespace Occasion.Sample

open Flatten.Sample

/-- What an endpoint says that did not find the block. -/
def missingText : String :=
  "\x7b\"errors\": [\x7b\"message\": \"no such account\"\x7d]\x7d"

/-- The balance is asked for of a node whose endpoint answers by the given text. -/
def balancing (text : String) : Occasion client (node text) (.balance account requested) :=
  occasion text (.balance account requested)

theorem eq_ok_of_allows {text : String} {body : Except String String}
    (hallows : (node text).manner.Allows
      (.query (Balance.document (holder 1) (.byHash (.zero 32))) body)) : body = .ok text := by
  have hbody : body = graph text _ := (keeps_node text).allows hallows
  rw [hbody, graph, if_pos document_eq]

theorem exists_missing : ∃ value, Json.read missingText = .ok value ∧
    BalanceReply.decode.run value = .ok ⟨none, ["no such account"]⟩ :=
  exists_value (by decide +kernel)

end Occasion.Sample

/-- The balance is told from a reply that has the account. A block that was named and is not there
is to blame, although the message speaks of an account. -/
theorem Occasion.settles_balance_sample :
    (∃ response, (Sample.balancing Sample.graphText).result? = some (.ok response)) ∧
      ∃ fault, (Sample.balancing Sample.missingText).result? = some
          (.error (.invalidBlock (BlockReference.describe Sample.requested) fault)) ∧
        fault.message = "no such account" := by
  constructor
  · obtain ⟨value, htext, hreply⟩ := Sample.exists_graph
    obtain ⟨result, body, hbrings, hallows, hsettles⟩ := settles_balance Sample.spells_account
      Sample.names_requested (Sample.balancing Sample.graphText)
    have hgrants : Balance.Grants Sample.requested ⟨some Sample.state, []⟩ Sample.state
        ⟨.big 5, .number 3, []⟩ := by
      refine ⟨rfl, rfl, rfl, by decide, ?_, by decide⟩
      rintro _ ⟨⟩
      rfl
    obtain ⟨response, rfl⟩ := (hsettles _ value _ (Sample.eq_ok_of_allows hallows) htext
      hreply).granted.mpr ⟨_, _, hgrants⟩
    exact ⟨response, hbrings.result⟩
  · obtain ⟨value, htext, hreply⟩ := Sample.exists_missing
    obtain ⟨result, body, hbrings, hallows, hsettles⟩ := settles_balance Sample.spells_account
      Sample.names_requested (Sample.balancing Sample.missingText)
    obtain ⟨fault, rfl, hmessage⟩ := (hsettles _ value _ (Sample.eq_ok_of_allows hallows) htext
      hreply).missing ⟨_, rfl, Or.inr nofun⟩ rfl
    exact ⟨fault, hbrings.result, hmessage⟩

end RollupLedger
