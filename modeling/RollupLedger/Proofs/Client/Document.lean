import RollupLedger.Proofs.Client.Reference
import RollupLedger.Proofs.Request.Single

/-!
# The document of a balance request holds nothing of the caller's text

A request for a balance whose address or hash is malformed is refused without sending anything. Any
other sends one document (`Balance.Handled`), a template filled with the checksummed form of the
address that is meant and with a clause for the block that is meant (`Balance.Fills`). However
address and block are spelled, requests that mean the same send the same document, and no others do
(`Balance.sends_what_is_meant`).
-/

set_option autoImplicit false
set_option relaxedAutoImplicit false

namespace RollupLedger

open Ledger

namespace Balance

/-! ### What becomes of a request -/

/-- What a request means: the account that its text spells, and the block that it names. -/
structure Denotes (account : AccountIdentifier) (requested : Option PartialBlockIdentifier)
    (address : Address) (reference : BlockReference) : Prop where
  account : Hex.Spells account.address address.bytes
  block : BlockReference.Names requested reference

section Plans

variable {account : AccountIdentifier} {requested : Option PartialBlockIdentifier}
  {address : Address} {reference : BlockReference}

theorem Denotes.unique {other : Address} {another : BlockReference}
    (hdenotes : Denotes account requested address reference)
    (hother : Denotes account requested other another) : address = other ∧ reference = another :=
  ⟨FixedBytes.ext (hdenotes.account.unique hother.account), hdenotes.block.unique hother.block⟩

theorem readAccount_of_malformed
    (hmalformed : ∀ address : Address, ¬ Hex.Spells account.address address.bytes) :
    ∃ fault, readAccount account = .error (.invalidAccount account.address (.malformed fault)) := by
  cases hread : Hex.readFixed 20 account.address with
  | ok address => exact absurd (Hex.readFixed_eq_ok_iff.mp hread) (hmalformed address)
  | error fault => exact ⟨fault, by rw [readAccount, Address.read, hread]; rfl⟩

/-- A request is refused for its account, or else for its hash, or it means something. -/
theorem refused_or_denotes (client : Client) (account : AccountIdentifier)
    (requested : Option PartialBlockIdentifier) :
    (∃ fault, (∀ address : Address, ¬ Hex.Spells account.address address.bytes) ∧
        client.begin (.balance account requested) =
          .finished (.error (.invalidAccount account.address (.malformed fault)))) ∨
      (∃ (address : Address) (text : String) (fault : HexFault),
        Hex.Spells account.address address.bytes ∧ BlockReference.Misspells requested text ∧
        client.begin (.balance account requested) =
          .finished (.error (.invalidBlock text (.malformed fault)))) ∨
      ∃ address reference, Denotes account requested address reference := by
  by_cases hspelled : ∃ address : Address, Hex.Spells account.address address.bytes
  · obtain ⟨address, haccount⟩ := hspelled
    rcases BlockReference.names_or_misspells requested with ⟨reference, hnames⟩ | ⟨text, hmisspells⟩
    · exact Or.inr (Or.inr ⟨address, reference, haccount, hnames⟩)
    · obtain ⟨fault, hread⟩ := BlockReference.read_of_misspells hmisspells
      refine Or.inr (Or.inl ⟨address, text, fault, haccount, hmisspells, ?_⟩)
      rw [Client.begin, plan_of_read_error (readAccount_of_spells haccount) hread]
  · have hmalformed := not_exists.mp hspelled
    obtain ⟨fault, hread⟩ := readAccount_of_malformed hmalformed
    refine Or.inl ⟨fault, hmalformed, ?_⟩
    rw [Client.begin, plan_of_account_error hread]

/-- A request that means something asks one query for it. -/
theorem exists_begin_of_denotes (client : Client)
    (hdenotes : Denotes account requested address reference) :
    ∃ plan : Plan Response 1, client.begin (.balance account requested) = .planned plan ∧
      plan.IsQuery (document address reference) := by
  have hplan := plan_of_ok client (readAccount_of_spells hdenotes.account)
    (BlockReference.read_of_names hdenotes.block)
  refine ⟨_, by rw [Client.begin, hplan], ?_⟩
  exact Plan.IsQuery.map _ (.note _ (.query _))

end Plans

end Balance

/-- A request has been refused before anything was asked: it has its error and sends nothing,
whatever happens to the system. -/
def System.Refuses {σ α : Type} (s : System α σ) (place : Nat) (context : Context)
    (e : ClientError) : Prop :=
  ∀ actions, (s.run actions).HasRequest place context none (.finished (.error e)) ∧
    s.sentBy place actions = []

namespace Balance

variable {σ τ : Type} {client other : Client} {context scope : Context}
  {account holder : AccountIdentifier} {requested wanted : Option PartialBlockIdentifier}
  {s : System Response σ} {t : System Response τ} {place spot : Nat} {address : Address}
  {reference : BlockReference}

/-- What becomes of a request for a balance. An address that is malformed is refused first, then a
hash that is; otherwise a document is sent for what the request means, once, and nothing else. -/
inductive Handled (s : System Response σ) (place : Nat) (context : Context)
    (account : AccountIdentifier) (requested : Option PartialBlockIdentifier) : Prop
  | noAddress {fault : HexFault}
    (hmalformed : ∀ address : Address, ¬ Hex.Spells account.address address.bytes)
    (hrefused : s.Refuses place context (.invalidAccount account.address (.malformed fault)))
  | noHash {address : Address} {text : String} {fault : HexFault}
    (haccount : Hex.Spells account.address address.bytes)
    (hmisspells : BlockReference.Misspells requested text)
    (hrefused : s.Refuses place context (.invalidBlock text (.malformed fault)))
  | asked {address : Address} {reference : BlockReference}
    (hdenotes : Denotes account requested address reference)
    (hfills : Fills address reference (document address reference))
    (hsent : ∀ actions, s.sentBy place (.poll place :: actions) =
      [.query (document address reference)])

theorem refuses_of_begin {e : ClientError}
    (htask : s.tasks[place]? = some (client.task context (.balance account requested)))
    (hbegin : client.begin (.balance account requested) = .finished (.error e)) :
    s.Refuses place context e := by
  have hrequest : s.HasRequest place context none (.finished (.error e)) := by
    rw [System.HasRequest, htask, Client.task, hbegin]
    rfl
  exact fun actions ↦ ⟨System.hasRequest_run_finished hrequest actions,
    System.sentBy_of_spent hrequest (.finished _) actions⟩

theorem sentBy_of_denotes
    (htask : s.tasks[place]? = some (client.task context (.balance account requested)))
    (hlive : context.verdict s.tokens s.world.now = none)
    (hdenotes : Denotes account requested address reference) (actions : List (Action Response)) :
    s.sentBy place (.poll place :: actions) = [.query (document address reference)] := by
  obtain ⟨plan, hbegin, hquery⟩ := exists_begin_of_denotes client hdenotes
  have hrequest : s.HasRequest place context none (.planned plan) := by
    rw [System.HasRequest, htask, Client.task, hbegin]
    rfl
  exact System.sentBy_of_isQuery hrequest hquery hlive actions

theorem handled_of_task
    (htask : s.tasks[place]? = some (client.task context (.balance account requested)))
    (hlive : context.verdict s.tokens s.world.now = none) :
    Handled s place context account requested := by
  rcases refused_or_denotes client account requested with ⟨fault, hmalformed, hbegin⟩ |
    ⟨address, text, fault, haccount, hmisspells, hbegin⟩ | ⟨address, reference, hdenotes⟩
  · exact .noAddress hmalformed (refuses_of_begin htask hbegin)
  · exact .noHash haccount hmisspells (refuses_of_begin htask hbegin)
  · exact .asked hdenotes (fills_document address reference)
      (sentBy_of_denotes htask hlive hdenotes)

/-- A document that was sent was made for what the request means. -/
theorem Handled.denotes_of_sent (hhandled : Handled s place context account requested)
    {actions : List (Action Response)} {text : String}
    (hsent : s.sentBy place (.poll place :: actions) = [.query text]) :
    ∃ address reference, Denotes account requested address reference ∧
      text = document address reference := by
  cases hhandled with
  | noAddress _ hrefused => cases (hrefused _).2.symm.trans hsent
  | noHash _ _ hrefused => cases (hrefused _).2.symm.trans hsent
  | asked hdenotes _ hasked =>
    cases (hasked actions).symm.trans hsent
    exact ⟨_, _, hdenotes, rfl⟩

/-- Two requests for balances, of whatever clients in whatever systems, whose contexts are live. Of
what the caller wrote, only what it means gets into what is sent: a request is refused unasked, or
sends one filled template. Another request sends the same document exactly if both mean the same
address and the same block. -/
theorem sends_what_is_meant
    (hfirst : s.tasks[place]? = some (client.task context (.balance account requested)))
    (hlive : context.verdict s.tokens s.world.now = none)
    (hsecond : t.tasks[spot]? = some (other.task scope (.balance holder wanted)))
    (hopen : scope.verdict t.tokens t.world.now = none) :
    Handled s place context account requested ∧
      ∀ actions more text, s.sentBy place (.poll place :: actions) = [.query text] →
        (t.sentBy spot (.poll spot :: more) = [.query text] ↔
          ∃ address reference, Denotes account requested address reference ∧
            Denotes holder wanted address reference) := by
  have hhandled := handled_of_task hfirst hlive
  refine ⟨hhandled, fun actions more text hsent ↦ ?_⟩
  obtain ⟨address, reference, hdenotes, rfl⟩ := hhandled.denotes_of_sent hsent
  constructor
  · intro hsame
    obtain ⟨_, _, hother, hdocument⟩ := (handled_of_task hsecond hopen).denotes_of_sent hsame
    obtain ⟨rfl, rfl⟩ := document_injective hdocument
    exact ⟨address, reference, hdenotes, hother⟩
  · rintro ⟨_, _, hfirst', hother⟩
    obtain ⟨rfl, rfl⟩ := hdenotes.unique hfirst'
    exact sentBy_of_denotes hsecond hopen hother more

end Balance

/-! ### One account and one block in two spellings -/

namespace Occasion.Sample

open Flatten.Sample

/-- The digits of an account in the upper case, without a mark. -/
def shouted : AccountIdentifier :=
  ⟨String.ofList ((Hex.digits (holder 0xab).bytes).map Char.toUpper)⟩

/-- The block by its hash alone. -/
def byHash : Option PartialBlockIdentifier := some ⟨none, some (FixedBytes.zero 32).hex⟩

/-- A round in which one balance is asked for. -/
def asking (account : AccountIdentifier) (requested : Option PartialBlockIdentifier) :
    System Response Unit :=
  (Session.new client (node graphText) ()).opening ⟨none, none⟩ [.balance account requested]

theorem denotes_requested :
    Balance.Denotes ⟨(holder 0xab).hex⟩ requested (holder 0xab) (.byHash (.zero 32)) :=
  ⟨Hex.spells_write _, names_requested⟩

theorem denotes_shouted :
    Balance.Denotes shouted byHash (holder 0xab) (.byHash (.zero 32)) :=
  ⟨⟨[], by decide, _, String.toList_ofList, by decide⟩, .byHash (Hex.spells_write _)⟩

end Occasion.Sample

/-- An account after a mark and without one, and a block by its hash, with its number and without
it: the two requests send the same document. -/
theorem Occasion.sends_what_is_meant_spellings :
    ∃ text, (Sample.asking ⟨(Flatten.Sample.holder 0xab).hex⟩ Sample.requested).sentBy 0 [.poll 0] =
        [.query text] ∧
      (Sample.asking Sample.shouted Sample.byHash).sentBy 0 [.poll 0] = [.query text] := by
  have hfirst : (Sample.asking ⟨(Flatten.Sample.holder 0xab).hex⟩ Sample.requested).tasks[0]? =
      some (Sample.client.task ⟨⟨[0]⟩, none⟩
        (.balance ⟨(Flatten.Sample.holder 0xab).hex⟩ Sample.requested)) := rfl
  have hsecond : (Sample.asking Sample.shouted Sample.byHash).tasks[0]? =
      some (Sample.client.task ⟨⟨[0]⟩, none⟩ (.balance Sample.shouted Sample.byHash)) := rfl
  obtain ⟨hhandled, hsame⟩ := Balance.sends_what_is_meant hfirst rfl hsecond rfl
  cases hhandled with
  | noAddress hmalformed _ => exact absurd Sample.denotes_requested.account (hmalformed _)
  | noHash _ hmisspells _ => exact absurd Sample.names_requested hmisspells.not_names
  | asked _ _ hsent =>
    refine ⟨_, hsent [], (hsame [] [] _ (hsent [])).mpr ?_⟩
    exact ⟨_, _, Sample.denotes_requested, Sample.denotes_shouted⟩

end RollupLedger
