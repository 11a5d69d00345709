import RollupLedger.Proofs.Block.Faithful

/-!
# Blocks are unchanged by the wire

A client writes the block that it has assembled as JSON and reads it again, so that it hands out
what a reader of its JSON would find. Nothing is lost on the way, whatever the block holds
(`unchanged_by_wire`): the ledger's JSON is read back part by part, and none of the errors that a
request for a block comes to is that of the last reading.
-/

set_option autoImplicit false
set_option relaxedAutoImplicit false

namespace RollupLedger.Session

open BlockAssembly

/-- Every block is read again as it was written, with nothing passed over, and so rereading changes
nothing. A request for a block, in whatever round and whatever the node says, has a result that is
not the failure to reread the block. -/
theorem unchanged_by_wire :
    (∀ block : Ledger.Block, Ledger.Block.decode block.encode = pure block) ∧
      (∀ block : Ledger.Block, reread block = .ok block) ∧
      ∀ {client : Client} {σ : Type} {node : Responder σ} {session : Session σ},
        Reached client node session →
        ∀ (requested : Option Ledger.PartialBlockIdentifier) (limits : Limits)
          (inquiries : List Inquiry) {place : Nat}, inquiries[place]? = some (.block requested) →
        ∃ result, (session.ask limits inquiries).1.results[place]? = some (some result) ∧
          ∀ failure, result ≠ .error (.decode .assembled failure) := by
  refine ⟨Ledger.Block.inverts, reread_eq_ok, ?_⟩
  intro client σ node session hreached requested limits inquiries place hplace
  obtain ⟨result, xs, hresult, -, -, hcomes | ⟨why, rfl, -⟩⟩ :=
    exists_exchanges hreached limits inquiries hplace
  · refine ⟨result, hresult, ?_⟩
    obtain ⟨before, hbefore, rfl⟩ := Plan.comes_map hcomes
    rintro failure hfailed
    cases before with
    | ok block => cases hfailed
    | error e =>
      cases hfailed
      exact (sound_plan hbefore).avoids _ rfl trivial
  · exact ⟨_, hresult, nofun⟩

theorem unchanged_by_wire_sample :
    ∃ result, ((Sample.session 0 false fun _ ↦ 0).ask ⟨none, none⟩ [.block none]).1.results[0]? =
        some (some result) ∧ ∀ failure, result ≠ .error (.decode .assembled failure) :=
  unchanged_by_wire.2.2 (Sample.reached_session 0 false fun _ ↦ 0) none ⟨none, none⟩ [.block none]
    rfl

end RollupLedger.Session
