import RollupLedger.Proofs.Client.Document
import RollupLedger.Proofs.Proxy.Requests

/-!
# What is checked before a context is looked at

A balance and a call through the proxy are checked first, and refused if what they are asked with
is unfit (`Inquiry.Unfit`): an account or a hash that spells no bytes of its length, a method that
is not allowed, parameters without a meaning. Nothing else is refused in this way. Every other
inquiry is decided by the first of cancellation, deadline and work (`Client.decided_task`).
-/

set_option autoImplicit false
set_option relaxedAutoImplicit false

namespace RollupLedger

open Ledger

/-- What is unfit about an inquiry, with an error that tells of it. A malformed account is told of
before a malformed hash. -/
inductive Inquiry.Unfit : Inquiry → ClientError → Prop
  | account {account : AccountIdentifier} {requested : Option PartialBlockIdentifier}
    {fault : HexFault}
    (hmalformed : ∀ address : Address, ¬ Hex.Spells account.address address.bytes) :
    Unfit (.balance account requested) (.invalidAccount account.address (.malformed fault))
  | hash {account : AccountIdentifier} {requested : Option PartialBlockIdentifier}
    {address : Address} {text : String} {fault : HexFault}
    (haccount : Hex.Spells account.address address.bytes)
    (hmisspells : BlockReference.Misspells requested text) :
    Unfit (.balance account requested) (.invalidBlock text (.malformed fault))
  | method {request : CallRequest}
    (hunknown : ∀ method : Proxy.Method, method.name ≠ request.method) :
    Unfit (.call request) (.methodInvalid request.method)
  | parameters {request : CallRequest} {method : Proxy.Method} {reason : String}
    (hname : method.name = request.method)
    (hnone : ∀ meaning, ¬ Proxy.Denotes request.parameters method meaning) :
    Unfit (.call request) (.parametersInvalid request.method reason)

namespace Client

variable (client : Client)

theorem checked_balance (account : AccountIdentifier)
    (requested : Option PartialBlockIdentifier) :
    (∃ e, (Inquiry.balance account requested).Unfit e ∧
        client.begin (.balance account requested) = .finished (.error e)) ∨
      (∀ e, ¬ (Inquiry.balance account requested).Unfit e) ∧
        ∃ plan : Plan Response 1, client.begin (.balance account requested) = .planned plan := by
  rcases Balance.refused_or_denotes client account requested with ⟨fault, hmalformed, hbegin⟩ |
    ⟨address, text, fault, haccount, hmisspells, hbegin⟩ | ⟨address, reference, hdenotes⟩
  · exact Or.inl ⟨_, .account hmalformed, hbegin⟩
  · exact Or.inl ⟨_, .hash haccount hmisspells, hbegin⟩
  · obtain ⟨plan, hplan, -⟩ := Balance.exists_begin_of_denotes client hdenotes
    refine Or.inr ⟨fun e hunfit ↦ ?_, plan, hplan⟩
    cases hunfit with
    | account hmalformed => exact hmalformed address hdenotes.account
    | hash _ hmisspells => exact hmisspells.not_names hdenotes.block

theorem checked_call (request : CallRequest) :
    (∃ e, (Inquiry.call request).Unfit e ∧
        client.begin (.call request) = .finished (.error e)) ∨
      (∀ e, ¬ (Inquiry.call request).Unfit e) ∧
        ∃ (rounds : Nat) (plan : Plan Response rounds),
          client.begin (.call request) = .planned plan := by
  rcases Proxy.refused_or_denotes request with ⟨hunknown, hplan⟩ |
    ⟨method, reason, hname, hnone, hplan⟩ | ⟨method, meaning, hname, hdenotes⟩
  · exact Or.inl ⟨_, .method hunknown, by rw [begin, hplan]⟩
  · exact Or.inl ⟨_, .parameters hname hnone, by rw [begin, hplan]⟩
  · refine Or.inr ⟨fun e hunfit ↦ ?_, _, _, by rw [begin, Proxy.plan_of_denotes hname hdenotes]⟩
    cases hunfit with
    | method hunknown => exact hunknown method hname
    | parameters hother hnone =>
      cases Proxy.Method.name_injective (hother.trans hname.symm)
      exact hnone meaning hdenotes

/-- An inquiry is refused at once for what is unfit about it, or there is nothing unfit about it and
a plan for it. -/
theorem refused_or_planned (inquiry : Inquiry) :
    (∃ e, inquiry.Unfit e ∧ client.begin inquiry = .finished (.error e)) ∨
      (∀ e, ¬ inquiry.Unfit e) ∧
        ∃ (rounds : Nat) (plan : Plan Response rounds), client.begin inquiry = .planned plan := by
  cases inquiry with
  | balance account requested =>
    exact (checked_balance client account requested).imp_right fun ⟨hfit, hplan⟩ ↦ ⟨hfit, 1, hplan⟩
  | call request => exact checked_call client request
  | _ =>
    refine Or.inr ⟨fun e hunfit ↦ ?_, _, _, rfl⟩
    cases hunfit

/-- Whatever a client is asked, under whatever context and in whatever system: unless it is refused
at once for what is unfit about it, the first of cancellation, deadline and work decides its
result. -/
theorem decided_task {σ : Type} (context : Context) (inquiry : Inquiry) (s : System Response σ) :
    (∃ e, inquiry.Unfit e ∧ client.begin inquiry = .finished (.error e)) ∨
      (∀ e, ¬ inquiry.Unfit e) ∧
        ∃ (rounds : Nat) (plan : Plan Response rounds), client.begin inquiry = .planned plan ∧
          (s.spawn (client.task context inquiry)).Decided s.tasks.length context (span inquiry)
            (plan.Ends s.world.node.manner) := by
  rcases refused_or_planned client inquiry with hrefused | ⟨hfit, rounds, plan, hplan⟩
  · exact Or.inl hrefused
  · have hrequest : (s.spawn (client.task context inquiry)).HasRequest s.tasks.length context
        (span inquiry) (.planned plan) := by
      simp [System.HasRequest, System.spawn, task, hplan]
    exact Or.inr ⟨hfit, rounds, plan, hplan,
      System.decided_of_planned s.world.node.keeps_manner hrequest⟩

/-! ### An account without digits, and a block too late -/

namespace Sample

/-- A client whose first context has been cancelled. -/
def stopped : System Response Nat :=
  (Session.Sample.session 0 false fun _ ↦ 0).system.cancel ⟨[0]⟩

/-- A context that has been cancelled and whose time is over. -/
def late : Context := ⟨⟨[0]⟩, some 0⟩

/-- The latest block is asked for under that context. -/
def asked : System Response Nat :=
  stopped.spawn ((Session.Sample.settings 0 false).client.task late (.block none))

end Sample

/-- A balance of an account without digits is refused. A block under a context that has been
cancelled and whose time is over is canceled by its first poll, and nothing is sent. -/
theorem decided_task_sample :
    (∃ fault, (Session.Sample.settings 0 false).client.begin (.balance ⟨"0x"⟩ none) =
      .finished (.error (.invalidAccount "0x" (.malformed fault)))) ∧
    (Sample.asked.run [.poll 0]).HasRequest 0 Sample.late (span (.block none))
      (.finished (.error (.abandoned .canceled))) ∧
    (Sample.asked.run [.poll 0]).world.journal = [] := by
  constructor
  · have hmalformed (address : Address) : ¬ Hex.Spells "0x" address.bytes := by
      rintro ⟨mark, -, digits, hsplit, hdigits⟩
      have hlength := congrArg List.length hdigits
      have hshort := congrArg List.length hsplit
      rw [List.length_map, Hex.length_digits, address.length_eq] at hlength
      rw [List.length_append, show "0x".toList.length = 2 from rfl] at hshort
      omega
    rcases decided_task (Session.Sample.settings 0 false).client Sample.late (.balance ⟨"0x"⟩ none)
      Sample.stopped with ⟨e, hunfit, hbegin⟩ | ⟨hfit, -⟩
    · cases hunfit with
      | account _ => exact ⟨_, hbegin⟩
      | hash haccount _ => exact absurd haccount (hmalformed _)
    · exact absurd (.account hmalformed) (hfit (.invalidAccount "0x" (.malformed .oddLength)))
  · rcases decided_task (Session.Sample.settings 0 false).client Sample.late (.block none)
      Sample.stopped with ⟨e, hunfit, -⟩ | ⟨-, rounds, plan, hplan, hdecided⟩
    · cases hunfit
    · have hrequest : Sample.asked.HasRequest 0 Sample.late (span (.block none))
          (.planned plan) := by
        rw [System.HasRequest, ← hplan]
        rfl
      have hcancelled : Sample.asked.tokens.isCancelled Sample.late.token = true := by decide
      exact ⟨hdecided.at_once [] _ _ hrequest rfl (.canceled hcancelled) [],
        congrArg World.journal (hdecided.silent hcancelled [])⟩

end Client

end RollupLedger
