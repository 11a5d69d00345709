import RollupLedger.Client.Settings
import RollupLedger.Proofs.Client.Occasion
import RollupLedger.Proofs.Client.Plans
import RollupLedger.Proofs.Proxy.Meaning
import RollupLedger.Proofs.Request.Steady

/-!
# What the proxy sends

A call through the proxy is refused before anything is sent if its method is not allowed or its
parameters have no meaning; otherwise one request is sent for the meaning (`Proxy.Goes`). For one
method, two requests send the same parameters exactly if theirs mean the same
(`Occasion.goes_of_call`).
-/

set_option autoImplicit false
set_option relaxedAutoImplicit false

namespace RollupLedger

open Ledger

namespace Proxy

theorem Method.ofName?_eq_some_iff {name : String} {method : Method} :
    ofName? name = some method ↔ method.name = name := by
  constructor
  · intro hfound
    exact beq_iff_eq.mp (List.find?_some (p := fun method : Method ↦ method.name == name) hfound)
  · rintro rfl
    cases method <;> decide

theorem Method.ofName?_eq_none_iff {name : String} :
    ofName? name = none ↔ ∀ method : Method, method.name ≠ name := by
  rw [Option.eq_none_iff_forall_ne_some]
  simp only [ne_eq, ofName?_eq_some_iff]

theorem Method.name_injective : Function.Injective name := by
  intro first second hsame
  have hfound := ofName?_eq_some_iff.mpr hsame
  rw [ofName?_eq_some_iff.mpr rfl] at hfound
  exact (Option.some.inj hfound).symm

variable {request : CallRequest} {method : Method} {meaning : Meaning}

/-- An estimate is never fixed, so nothing is lost by asking whether the method can be. -/
theorem isFixed_and_idempotent (hdenotes : Denotes request.parameters method meaning) :
    (meaning.isFixed && method.idempotent) = meaning.isFixed := by
  cases hdenotes with
  | estimate => rfl
  | _ => exact Bool.and_true _

/-! ### Plans -/

theorem plan_of_unknown (hunknown : ∀ method : Method, method.name ≠ request.method) :
    plan request = .error (.methodInvalid request.method) := by
  rw [plan, validate, Method.ofName?_eq_none_iff.mpr hunknown]
  rfl

theorem plan_of_not_denotes (hname : method.name = request.method)
    (hnone : ∀ meaning, ¬ Denotes request.parameters method meaning) :
    ∃ reason, plan request = .error (.parametersInvalid request.method reason) := by
  rw [plan, validate, Method.ofName?_eq_some_iff.mpr hname]
  simp only [validateFor_eq, ← hname]
  cases hread : read method request.parameters with
  | error failure => exact ⟨_, rfl⟩
  | ok found =>
    cases found with
    | none => exact ⟨_, rfl⟩
    | some meaning => exact absurd (denotes_iff_read.mpr hread) (hnone meaning)

/-- A call is refused for its method, or else for its parameters, or it means something. -/
theorem refused_or_denotes (request : CallRequest) :
    ((∀ method : Method, method.name ≠ request.method) ∧
        plan request = .error (.methodInvalid request.method)) ∨
      (∃ (method : Method) (reason : String), method.name = request.method ∧
        (∀ meaning, ¬ Denotes request.parameters method meaning) ∧
        plan request = .error (.parametersInvalid request.method reason)) ∨
      ∃ method meaning, Method.name method = request.method ∧
        Denotes request.parameters method meaning := by
  by_cases hknown : ∃ method : Method, method.name = request.method
  · obtain ⟨method, hname⟩ := hknown
    by_cases hmeant : ∃ meaning, Denotes request.parameters method meaning
    · obtain ⟨meaning, hdenotes⟩ := hmeant
      exact Or.inr (Or.inr ⟨method, meaning, hname, hdenotes⟩)
    · have hnone := not_exists.mp hmeant
      obtain ⟨reason, hplan⟩ := plan_of_not_denotes hname hnone
      exact Or.inr (Or.inl ⟨method, reason, hname, hnone, hplan⟩)
  · have hunknown := not_exists.mp hknown
    exact Or.inl ⟨hunknown, plan_of_unknown hunknown⟩

theorem validate_of_denotes (hname : method.name = request.method)
    (hdenotes : Denotes request.parameters method meaning) :
    validate request = .ok ⟨method, meaning.sent, meaning.isFixed⟩ := by
  rw [validate, Method.ofName?_eq_some_iff.mpr hname]
  simp only [validateFor_eq, denotes_iff_read.mp hdenotes]
  show Except.ok (⟨method, meaning.sent, meaning.isFixed && method.idempotent⟩ : Validated) = _
  rw [isFixed_and_idempotent hdenotes]

theorem plan_of_denotes (hname : method.name = request.method)
    (hdenotes : Denotes request.parameters method meaning) :
    plan request = .ok (.ask ⟨request.method, meaning.sent⟩ fun value ↦
      .done ((resultOf method value).map fun result ↦ ⟨result, meaning.isFixed⟩)) := by
  rw [plan, validate_of_denotes hname hdenotes, ← hname]
  rfl

/-! ### Requests -/

/-- The result that a reply makes. Whether it may be repeated depends on what was meant alone. -/
def answered (method : Method) (meaning : Meaning) : CallReply → Except ClientError Response
  | .ok value => (resultOf method value).map fun found ↦ .call ⟨found, meaning.isFixed⟩
  | .error message => .error (.transport method.name (.reported message))

/-- How a call through the proxy can go: what is exchanged, and the result. -/
inductive Goes (request : CallRequest) : List Exchange → Except ClientError Response → Prop
  | unknown (hunknown : ∀ method : Method, method.name ≠ request.method) :
      Goes request [] (.error (.methodInvalid request.method))
  | unfit {method : Method} {reason : String} (hname : method.name = request.method)
      (hnone : ∀ meaning, ¬ Denotes request.parameters method meaning) :
      Goes request [] (.error (.parametersInvalid request.method reason))
  | sent {method : Method} {meaning : Meaning} {reply : CallReply}
      (hname : method.name = request.method)
      (hdenotes : Denotes request.parameters method meaning) :
      Goes request [.call ⟨request.method, meaning.sent⟩ reply] (answered method meaning reply)

variable {client : Client} {xs : List Exchange} {result : Except ClientError Response}

theorem goes_of_error {e : ClientError} (hplan : plan request = .error e)
    (hcomes : (client.begin (.call request)).Comes xs result) : xs = [] ∧ result = .error e := by
  rw [Client.begin, hplan] at hcomes
  exact hcomes

theorem goes_of_denotes (hname : method.name = request.method)
    (hdenotes : Denotes request.parameters method meaning)
    (hcomes : (client.begin (.call request)).Comes xs result) : Goes request xs result := by
  have hsent (reply : CallReply) :
      Goes request [.call ⟨request.method, meaning.sent⟩ reply] (answered method meaning reply) :=
    .sent hname hdenotes
  rw [Client.begin, plan_of_denotes hname hdenotes] at hcomes
  obtain ⟨before, hbefore, rfl⟩ := Plan.comes_map hcomes
  rcases Plan.comes_ask hbefore with ⟨value, ys, rfl, hdone⟩ | ⟨message, rfl, rfl⟩
  · cases hdone
    have hanswered := hsent (.ok value)
    rw [answered] at hanswered
    cases hfound : resultOf method value with
    | ok found =>
      rw [hfound] at hanswered
      exact hanswered
    | error e =>
      rw [hfound] at hanswered
      exact hanswered
  · have hfailed := hsent (.error message)
    rw [answered, hname] at hfailed
    exact hfailed

theorem goes_of_comes (hcomes : (client.begin (.call request)).Comes xs result) :
    Goes request xs result := by
  rcases refused_or_denotes request with ⟨hunknown, hplan⟩ |
    ⟨method, reason, hname, hnone, hplan⟩ | ⟨method, meaning, hname, hdenotes⟩
  · obtain ⟨rfl, rfl⟩ := goes_of_error hplan hcomes
    exact .unknown hunknown
  · obtain ⟨rfl, rfl⟩ := goes_of_error hplan hcomes
    exact .unfit hname hnone
  · exact goes_of_denotes hname hdenotes hcomes

/-- Parameters with a meaning send it, and the reply to it makes the result. -/
theorem Goes.exists_reply (hgoes : Goes request xs result) (hname : method.name = request.method)
    (hdenotes : Denotes request.parameters method meaning) :
    ∃ reply, xs = [.call ⟨request.method, meaning.sent⟩ reply] ∧
      result = answered method meaning reply := by
  cases hgoes with
  | unknown hunknown => exact absurd hname (hunknown method)
  | unfit hother hnone =>
    cases Method.name_injective (hother.trans hname.symm)
    exact absurd hdenotes (hnone meaning)
  | @sent _ _ reply hother hmeant =>
    cases Method.name_injective (hother.trans hname.symm)
    cases hmeant.unique hdenotes
    exact ⟨reply, rfl, rfl⟩

end Proxy

section Occasions

variable {σ : Type} {client : Client} {node : Responder σ} {request : CallRequest}

open Proxy

/-- A call through the proxy is refused with nothing sent, or sends one request for what its
parameters mean. An answer may be repeated exactly if that is fixed. For one method, what is sent
depends on what is meant and tells it. -/
theorem Occasion.goes_of_call (occasion : Occasion client node (.call request)) :
    (∃ result xs, occasion.Brings result xs ∧ Goes request xs result) ∧
      ∀ method parameters others first second, Denotes parameters method first →
        Denotes others method second →
          (parameters = others → first = second) ∧ (first.sent = second.sent ↔ first = second) := by
  constructor
  · obtain ⟨result, xs, hbrings, hcomes, -⟩ := occasion.exists_brings node.keeps_manner
    exact ⟨result, xs, hbrings, goes_of_comes hcomes⟩
  · intro method parameters others first second hfirst hsecond
    refine ⟨?_, hfirst.eq_of_sent_eq hsecond, congrArg Meaning.sent⟩
    rintro rfl
    exact hfirst.unique hsecond

end Occasions

/-! ### Calls of a new client -/

namespace Proxy.Sample

open Wire

def client : Client := Settings.standard.client

/-- A call at the latest block. -/
def meaning : Meaning := .call .latest ⟨none, .zero 20, some 16, none, none, none⟩

/-- Only that call is answered, with no bytes. -/
def answer (c : Call) : CallReply :=
  if c = ⟨"eth_call", meaning.sent⟩ then .ok (encodeBytes []) else .error "nothing is known of this"

def node : Responder Unit where
  call c _ := (⟨answer c, 0⟩, ())
  batch cs _ := (⟨.ok (cs.map answer), 0⟩, ())
  query _ _ := (⟨.error "no endpoint", 0⟩, ())

theorem keeps_node : node.Keeps (.steady answer) :=
  ⟨fun _ _ ↦ rfl, fun _ _ ↦ rfl, fun _ _ ↦ trivial⟩

def occasion (request : CallRequest) : Occasion client node (.call request) :=
  .sole client node () (.call request)

def plain : CallRequest :=
  ⟨"eth_call", [("gas", .int 16), ("to", .str (FixedBytes.zero 20).hex)]⟩

/-- The same in other spellings, with a member that is null. -/
def spelled : CallRequest :=
  ⟨"eth_call", [("gas", .str "0b1_0000"), ("hash", .null),
    ("to", .arr ((FixedBytes.zero 20).bytes.map encodeByte))]⟩

theorem denotes_plain : Denotes plain.parameters .call meaning := by
  refine .call ?_ .absent .absent .latest .absent ?_ ?_ .absent .absent .absent
  · decide
  · exact .given (.exact (.text (Hex.spells_write _)))
  · exact .given (by decide) (isQuantity_int_iff.mpr rfl)

theorem denotes_spelled : Denotes spelled.parameters .call meaning := by
  have hspells : Numeral.Spells "0b1_0000" 16 :=
    ⟨['0', 'b'], 2, ['1', '_', '0', '0', '0', '0'], [1, 0, 0, 0, 0], by decide, rfl,
      ⟨by decide, by decide⟩, by decide⟩
  refine .call ?_ .absent .null .latest .absent ?_ ?_ .absent .absent .absent
  · decide
  · exact .given (.exact .items)
  · exact .given (by decide) (.text hspells)

/-- An array of 32 bytes and one more item, which is null. -/
def overfull : Json := .arr (List.replicate 32 (encodeByte 1) ++ [.null])

def receipt : CallRequest := ⟨"eth_getTransactionReceipt", [("tx_hash", overfull)]⟩

def ones : Hash := ⟨List.replicate 32 1, List.length_replicate⟩

theorem not_isFixed_overfull (hash : Hash) : ¬ IsFixed overfull hash := by
  intro hfixed
  have hlength := congrArg List.length (isBytes_arr_iff.mp hfixed)
  rw [List.length_map, hash.length_eq] at hlength
  exact absurd hlength (by decide)

theorem denotes_overfull : Denotes receipt.parameters .transactionReceipt (.receipt ones) := by
  have htaken : TakenAsFixed (.arr (ones.bytes.map encodeByte ++ [.null])) ones :=
    .overfull fun _ ↦ nofun
  rw [ones, List.map_replicate] at htaken
  exact .receipt (by decide) (.given htaken)

/-- A call that means the sample is sent and answered. -/
theorem brings_of_goes {request : CallRequest} {result : Except ClientError Response}
    {xs : List Exchange} (hname : request.method = "eth_call")
    (hdenotes : Denotes request.parameters .call meaning)
    (hbrings : (occasion request).Brings result xs) (hgoes : Goes request xs result) :
    (occasion request).Brings (.ok (.call ⟨[("data", encodeBytes [])], false⟩))
      [.call ⟨"eth_call", meaning.sent⟩ (.ok (encodeBytes []))] := by
  have hmethod : Method.call.name = request.method := hname.symm
  obtain ⟨reply, rfl, rfl⟩ := hgoes.exists_reply hmethod hdenotes
  rw [hname] at hbrings
  have hsaid : reply = answer ⟨"eth_call", meaning.sent⟩ :=
    Session.allows_transcript (occasion request).reached keeps_node _ _ _
      (hbrings.among.subset List.mem_cons_self)
  rw [hsaid, answer, if_pos rfl] at hbrings
  exact hbrings

end Proxy.Sample

/-- In both spellings the same call is sent, and it is answered. -/
theorem Occasion.goes_of_call_sample :
    (Proxy.Sample.occasion Proxy.Sample.plain).Brings
        (.ok (.call ⟨[("data", Wire.encodeBytes [])], false⟩))
        [.call ⟨"eth_call", Proxy.Sample.meaning.sent⟩ (.ok (Wire.encodeBytes []))] ∧
      (Proxy.Sample.occasion Proxy.Sample.spelled).Brings
        (.ok (.call ⟨[("data", Wire.encodeBytes [])], false⟩))
        [.call ⟨"eth_call", Proxy.Sample.meaning.sent⟩ (.ok (Wire.encodeBytes []))] := by
  constructor
  · obtain ⟨⟨result, xs, hbrings, hgoes⟩, -⟩ :=
      Occasion.goes_of_call (Proxy.Sample.occasion Proxy.Sample.plain)
    exact Proxy.Sample.brings_of_goes rfl Proxy.Sample.denotes_plain hbrings hgoes
  · obtain ⟨⟨result, xs, hbrings, hgoes⟩, -⟩ :=
      Occasion.goes_of_call (Proxy.Sample.occasion Proxy.Sample.spelled)
    exact Proxy.Sample.brings_of_goes rfl Proxy.Sample.denotes_spelled hbrings hgoes

/-- An array that holds more than a hash is sent as the hash. -/
theorem Occasion.sends_overfull :
    (∀ hash : Hash, ¬ Wire.IsFixed Proxy.Sample.overfull hash) ∧
      ∃ result reply, (Proxy.Sample.occasion Proxy.Sample.receipt).Brings result
        [.call ⟨"eth_getTransactionReceipt", .arr [Wire.encodeFixed Proxy.Sample.ones]⟩ reply] := by
  refine ⟨Proxy.Sample.not_isFixed_overfull, ?_⟩
  obtain ⟨result, xs, hbrings, hcomes, -⟩ :=
    (Proxy.Sample.occasion Proxy.Sample.receipt).exists_brings Proxy.Sample.node.keeps_manner
  obtain ⟨reply, rfl, -⟩ :=
    (Proxy.goes_of_comes hcomes).exists_reply rfl Proxy.Sample.denotes_overfull
  exact ⟨result, reply, hbrings⟩

end RollupLedger
