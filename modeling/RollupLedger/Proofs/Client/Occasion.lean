import RollupLedger.Proofs.Client.Rounds

/-!
# Inquiries that are not given up

An `Occasion` is a place in a round of inquiries that ended in time, in whatever session a client
has over a node. What is asked there has a result, to which it comes by exchanges of its own
(`Occasion.exists_brings`).
-/

set_option autoImplicit false
set_option relaxedAutoImplicit false

namespace RollupLedger

theorem Responder.map_request_converse {σ : Type} (node : Responder σ) (state : σ)
    (requests : List Request) :
    (node.converse state requests).1.map Exchange.request = requests := by
  induction requests generalizing state with
  | nil => rfl
  | cons request rest ih =>
    rw [converse, List.map_cons, ih]
    cases request <;> rfl

theorem Session.map_request_transcript {σ : Type} (session : Session σ) (limits : Limits)
    (inquiries : List Inquiry) :
    (session.transcript limits inquiries).map Exchange.request =
      sentRequests (session.ask limits inquiries).1.journal :=
  Responder.map_request_converse _ _ _

variable {σ : Type} {client : Client} {node : Responder σ} {inquiry : Inquiry}

/-- An inquiry in a round of a session that a client has over a node. The round was neither
cancelled nor beyond its time. -/
structure Occasion (client : Client) (node : Responder σ) (inquiry : Inquiry) where
  session : Session σ
  reached : Session.Reached client node session
  limits : Limits
  inquiries : List Inquiry
  place : Nat
  asked : inquiries[place]? = some inquiry
  live : ∀ time, limits.timeout = some time ∨ limits.cancelAfter = some time →
    (session.ask limits inquiries).1.time < session.system.world.now + time

namespace Occasion

/-- The first and only inquiry of a new client, without limits. -/
def sole (client : Client) (node : Responder σ) (state : σ) (inquiry : Inquiry) :
    Occasion client node inquiry where
  session := .new client node state
  reached := .new state
  limits := ⟨none, none⟩
  inquiries := [inquiry]
  place := 0
  asked := rfl
  live := by simp

/-- The result of what is asked. -/
def result? (occasion : Occasion client node inquiry) : Option (Except ClientError Response) :=
  ((occasion.session.ask occasion.limits occasion.inquiries).1.results[occasion.place]?).join

/-- What is asked has a result, by exchanges that are among those of the round. They are all that
was sent if nothing else was asked. -/
structure Brings (occasion : Occasion client node inquiry) (result : Except ClientError Response)
    (xs : List Exchange) : Prop where
  result : occasion.result? = some result
  among : xs.Sublist (occasion.session.transcript occasion.limits occasion.inquiries)
  alone : occasion.inquiries = [inquiry] →
    sentRequests (occasion.session.ask occasion.limits occasion.inquiries).1.journal =
      xs.map Exchange.request

/-- What is asked comes to its result, as a node of some manner allows. -/
theorem exists_brings {manner : Manner} (hkeeps : node.Keeps manner)
    (occasion : Occasion client node inquiry) :
    ∃ result xs, occasion.Brings result xs ∧ (client.begin inquiry).Comes xs result ∧
      ∀ x ∈ xs, manner.Allows x := by
  have hrests := Session.rests_of_reached occasion.reached
  obtain ⟨result, xs, hresult, hsub, halone, hcomes | ⟨why, -, hcut⟩⟩ :=
    Session.exists_exchanges occasion.reached occasion.limits occasion.inquiries occasion.asked
  · refine ⟨result, xs, ⟨by rw [result?, hresult]; rfl, hsub, fun hone ↦ ?_⟩, hcomes, fun x hx ↦ ?_⟩
    · rw [halone hone, Session.map_request_transcript]
    · exact Session.allows_transcript occasion.reached hkeeps _ _ x (hsub.subset hx)
  · rw [Session.verdict_drive hrests occasion.limits occasion.inquiries occasion.live] at hcut
    cases hcut

end Occasion

end RollupLedger
