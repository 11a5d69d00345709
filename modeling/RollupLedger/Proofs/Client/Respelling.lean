import RollupLedger.Proofs.Client.Balance
import RollupLedger.Proofs.Json.Alike
import RollupLedger.Proofs.Wire.Values

/-!
# The spelling of numbers does not matter

A node may render a number as an integer or as a text, in one base or another, with digits of either
case, with zeros before them and underscores among them. The number that is read is the same
(`Quantity.alike_decode`), and so two replies to a query for a balance that differ only in how their
numbers are rendered come to the same result (`Occasion.same_result_of_respelled`).
-/

set_option autoImplicit false
set_option relaxedAutoImplicit false

namespace RollupLedger

open Ledger Wire Json

/-! ### Replies that differ in their numbers -/

namespace Wire

/-- Two renderings of one number. -/
def SameNumber (x y : Json) : Prop := ∃ n, IsQuantity x n ∧ IsQuantity y n

/-- Two quantities of the same number, whichever way it was rendered. -/
def Quantity.SameValue (p q : Quantity) : Prop := p.value = q.value

namespace AccountState

/-- Two accounts that differ only in how balance and count of transactions are rendered. -/
def Respelled : Json → Json → Prop :=
  RecordsAlike ["balance", "transactionCount", "code"] fun key x y ↦
    x = y ∨ (key = "balance" ∨ key = "transactionCount") ∧ SameNumber x y

structure SameValues (a b : AccountState) : Prop where
  balance : a.balance.SameValue b.balance
  transactionCount : a.transactionCount.SameValue b.transactionCount
  code : a.code = b.code

end AccountState

namespace BlockState

/-- Two blocks that differ only in how the number and those of the account are rendered. -/
def Respelled : Json → Json → Prop :=
  RecordsAlike ["hash", "number", "account"] fun key x y ↦
    x = y ∨ key = "number" ∧ SameNumber x y ∨ key = "account" ∧ AccountState.Respelled x y

structure SameValues (a b : BlockState) : Prop where
  hash : a.hash = b.hash
  number : a.number.SameValue b.number
  account : Option.Rel AccountState.SameValues a.account b.account

end BlockState

namespace BalanceReply

def RespelledData : Json → Json → Prop :=
  RecordsAlike ["block"] fun key x y ↦ x = y ∨ key = "block" ∧ BlockState.Respelled x y

/-- Two replies that differ only in how the numbers of block and account are rendered. -/
def Respelled : Json → Json → Prop :=
  RecordsAlike ["data", "errors"] fun key x y ↦ x = y ∨ key = "data" ∧ RespelledData x y

structure SameValues (a b : BalanceReply) : Prop where
  block : Option.Rel BlockState.SameValues a.block b.block
  errors : a.errors = b.errors

end BalanceReply

/-! ### They are read alike -/

namespace Quantity

/-- Nothing is passed over in reading a number. -/
theorem decode_eq_pure {json : Json} {quantity : Quantity} (hrun : decode.run json = .ok quantity) :
    decode json = pure quantity := by
  unfold Decoder.run decode at *
  split at hrun
  · cases hrun
    rfl
  · cases hrun
    rfl
  · cases hrun

/-- Every rendering of a number is read, as that number. -/
theorem exists_decode_eq {json : Json} {n : Word 256} (hnumber : IsQuantity json n) :
    ∃ quantity, decode json = pure quantity ∧ quantity.value = n := by
  obtain ⟨quantity, hrun, hvalue⟩ := (means_quantity json n).mpr hnumber
  exact ⟨quantity, decode_eq_pure hrun, hvalue⟩

theorem SameValue.refl (p : Quantity) : p.SameValue p := rfl

theorem SameValue.short? {p q : Quantity} (hsame : p.SameValue q) : p.short? = q.short? := by
  refine Option.ext fun n ↦ ?_
  rw [short?_eq_some_iff, short?_eq_some_iff, show p.value = q.value from hsame]

theorem alike_decode {x y : Json} (hsame : x = y ∨ SameNumber x y) :
    Decoding.Alike SameValue (decode x) (decode y) := by
  rcases hsame with rfl | ⟨n, hx, hy⟩
  · exact .refl SameValue.refl _
  · obtain ⟨p, hp, hpn⟩ := exists_decode_eq hx
    obtain ⟨q, hq, hqn⟩ := exists_decode_eq hy
    rw [hp, hq]
    exact Decoding.alike_pure (hpn.trans hqn.symm)

end Quantity

variable {x y : Json}

theorem AccountState.alike_decode (hrespelled : Respelled x y) :
    Decoding.Alike SameValues (decode x) (decode y) := by
  refine alike_record (fun _ ↦ ⟨rfl, rfl, rfl⟩) (fun s t hsame hmembers ↦ ?_) hrespelled
  have hbalance : Fields.ReadAlike Quantity.SameValue Quantity.decode s t "balance" :=
    Fields.readAlike_of_members hmembers fun _ _ hmember ↦
      Quantity.alike_decode (hmember.imp_right And.right)
  have hcount : Fields.ReadAlike Quantity.SameValue Quantity.decode s t "transactionCount" :=
    Fields.readAlike_of_members hmembers fun _ _ hmember ↦
      Quantity.alike_decode (hmember.imp_right And.right)
  have hcode : Fields.ReadAlike Eq decodeBytes s t "code" := by
    refine Fields.readAlike_of_members hmembers fun x y hmember ↦ ?_
    obtain rfl : x = y := hmember.resolve_right fun hnumber ↦ absurd hnumber.1 (by decide)
    exact .refl (fun _ ↦ rfl) _
  refine .seq hsame (.seq hsame (.map hsame (Fields.alike_required hbalance) ?_)
    (Fields.alike_required hcount)) (Fields.alike_required hcode)
  exact fun _ _ hbalance _ _ hcount _ _ hcode ↦ ⟨hbalance, hcount, hcode⟩

theorem AccountState.SameValues.refl (a : AccountState) : a.SameValues a := ⟨rfl, rfl, rfl⟩

theorem BlockState.SameValues.refl (a : BlockState) : a.SameValues a := by
  refine ⟨rfl, rfl, ?_⟩
  cases a.account with
  | none => exact .none
  | some account => exact .some (.refl account)

theorem BlockState.alike_decode (hrespelled : Respelled x y) :
    Decoding.Alike SameValues (decode x) (decode y) := by
  refine alike_record SameValues.refl (fun s t hsame hmembers ↦ ?_) hrespelled
  have hhash : Fields.ReadAlike Eq decodeHash s t "hash" := by
    refine Fields.readAlike_of_members hmembers fun x y hmember ↦ ?_
    obtain rfl : x = y := hmember.resolve_right fun hother ↦
      hother.elim (fun hnumber ↦ absurd hnumber.1 (by decide))
        fun haccount ↦ absurd haccount.1 (by decide)
    exact .refl (fun _ ↦ rfl) _
  have hnumber : Fields.ReadAlike Quantity.SameValue Quantity.decode s t "number" := by
    refine Fields.readAlike_of_members hmembers fun x y hmember ↦ Quantity.alike_decode ?_
    exact hmember.imp_right fun hother ↦ hother.elim And.right
      fun haccount ↦ absurd haccount.1 (by decide)
  have haccount : Fields.ReadAlike (Option.Rel AccountState.SameValues)
      (decodeNullable AccountState.decode) s t "account" := by
    refine Fields.readAlike_of_members hmembers fun x y hmember ↦ ?_
    have hrespelled : AccountState.Respelled x y := by
      rcases hmember with rfl | ⟨hkey, -⟩ | ⟨-, haccount⟩
      · exact .same x
      · exact absurd hkey (by decide)
      · exact haccount
    exact alike_nullable hrespelled.null_iff (AccountState.alike_decode hrespelled)
  refine .seq hsame (.seq hsame (.map hsame (Fields.alike_required hhash) ?_)
    (Fields.alike_required hnumber)) (Fields.alike_placed hsame haccount)
  exact fun _ _ hhash _ _ hnumber _ _ haccount ↦ ⟨hhash, hnumber, haccount⟩

theorem BalanceReply.SameValues.refl (a : BalanceReply) : a.SameValues a := by
  refine ⟨?_, rfl⟩
  cases a.block with
  | none => exact .none
  | some block => exact .some (.refl block)

theorem BalanceReply.alike_decodeData (hdata : RespelledData x y) :
    Decoding.Alike (Option.Rel BlockState.SameValues) (decodeData x) (decodeData y) := by
  refine alike_record (fun block ↦ ?_) (fun s t hsame hmembers ↦ ?_) hdata
  · cases block with
    | none => exact .none
    | some block => exact .some (.refl block)
  · refine Fields.alike_placed hsame (Fields.readAlike_of_members hmembers fun x y hmember ↦ ?_)
    have hrespelled : BlockState.Respelled x y := by
      rcases hmember with rfl | ⟨-, hblock⟩
      · exact .same x
      · exact hblock
    exact alike_nullable hrespelled.null_iff (BlockState.alike_decode hrespelled)

theorem BalanceReply.alike_decode (hrespelled : Respelled x y) :
    Decoding.Alike SameValues (decode x) (decode y) := by
  refine alike_record SameValues.refl (fun s t hsame hmembers ↦ ?_) hrespelled
  have hdata : Fields.ReadAlike (Option.Rel (Option.Rel BlockState.SameValues))
      (decodeNullable decodeData) s t "data" := by
    refine Fields.readAlike_of_members hmembers fun x y hmember ↦ ?_
    have hdata : RespelledData x y := by
      rcases hmember with rfl | ⟨-, hdata⟩
      · exact .same x
      · exact hdata
    exact alike_nullable hdata.null_iff (alike_decodeData hdata)
  have herrors : Fields.ReadAlike Eq (decodeList decodeError) s t "errors" := by
    refine Fields.readAlike_of_members hmembers fun x y hmember ↦ ?_
    obtain rfl : x = y := hmember.resolve_right fun hdata ↦ absurd hdata.1 (by decide)
    exact .refl (fun _ ↦ rfl) _
  refine .seq hsame (.map hsame (Fields.alike_optional hdata) ?_)
    (Fields.alike_withDefault herrors rfl)
  rintro _ _ hboth errors _ rfl
  refine ⟨?_, rfl⟩
  cases hboth with
  | none => exact .none
  | some hblock => exact hblock

end Wire

/-! ### They come to the same result -/

namespace Balance

section Results

variable (currency : Currency) (address : String) (requested : Option PartialBlockIdentifier)

theorem ofState_of_sameValues {a b : BlockState} (hsame : a.SameValues b) :
    ofState currency address requested a = ofState currency address requested b := by
  have haccount := hsame.account
  unfold ofState response
  rw [hsame.hash, hsame.number.short?]
  generalize a.account = first, b.account = second at haccount
  cases haccount with
  | none => rfl
  | @some held other hboth =>
    have hbalance : held.balance.value = other.balance.value := hboth.balance
    simp only [hboth.transactionCount.short?, hboth.code, hbalance]

theorem ofReply_of_sameValues {a b : BalanceReply} (hsame : a.SameValues b) :
    ofReply currency address requested a = ofReply currency address requested b := by
  have hblock := hsame.block
  unfold ofReply
  rw [hsame.errors]
  generalize a.block = first, b.block = second at hblock
  cases hblock with
  | none => rfl
  | some hboth =>
    cases b.errors with
    | nil => exact ofState_of_sameValues currency address requested hboth
    | cons message rest => rfl

/-- Two bodies that differ only in how the numbers of block and account are rendered. -/
def Respelled (body other : Except String String) : Prop :=
  body = other ∨ ∃ text rewritten x y, body = .ok text ∧ other = .ok rewritten ∧
    Json.read text = .ok x ∧ Json.read rewritten = .ok y ∧ BalanceReply.Respelled x y

theorem ofBody_of_respelled {body other : Except String String}
    (hrespelled : Respelled body other) :
    ofBody currency address requested body = ofBody currency address requested other := by
  rcases hrespelled with rfl | ⟨text, rewritten, x, y, rfl, rfl, hx, hy, hsame⟩
  · rfl
  · have halike := BalanceReply.alike_decode hsame
    simp only [ofBody, hx, hy, decodeAs, Decoder.run]
    generalize BalanceReply.decode x = first, BalanceReply.decode y = second at halike
    cases halike with
    | failed failure => rfl
    | decoded passed hvalues => exact ofReply_of_sameValues currency address requested hvalues

end Results

/-- A request for a balance is refused at once, or comes to what is made of one reply. -/
theorem cases_of_comes {client : Client} {account : AccountIdentifier}
    {requested : Option PartialBlockIdentifier} {xs : List Exchange}
    {result : Except ClientError Response}
    (hcomes : (client.begin (.balance account requested)).Comes xs result) :
    (∃ e, Balance.plan client account requested = .error e ∧ xs = [] ∧ result = .error e) ∨
      ∃ address reference body, readAccount account = .ok address ∧
        BlockReference.read requested = .ok reference ∧
        xs = [.query (document address reference) body] ∧
        result = (ofBody client.chain.currency account.address requested body).map .balance := by
  cases haccount : readAccount account with
  | error e =>
    rw [Client.begin, plan_of_account_error haccount] at hcomes
    exact Or.inl ⟨e, plan_of_account_error haccount, hcomes⟩
  | ok address =>
    cases hread : BlockReference.read requested with
    | error e =>
      exact Or.inl ⟨e, plan_of_read_error haccount hread, comes_of_error haccount hread hcomes⟩
    | ok reference =>
      obtain ⟨body, hxs, hresult⟩ := exists_reply_of_comes haccount hread hcomes
      exact Or.inr ⟨address, reference, body, rfl, rfl, hxs, hresult⟩

end Balance

/-- The renderings of a number are all read, and nothing else is read as that number. Of any two of
them all that is ever asked is the same: the number, and the word of 64 bits of it, which there is
if the number has one. So a request for a balance, in whatever rounds and of whatever nodes, comes
to the same result by two replies that differ only in how their numbers are rendered. -/
theorem Occasion.same_result_of_respelled {σ τ : Type} {client : Client} {node : Responder σ}
    {other : Responder τ} {account : AccountIdentifier} {requested : Option PartialBlockIdentifier}
    (first : Occasion client node (.balance account requested))
    (second : Occasion client other (.balance account requested)) :
    (∀ n x, (∃ quantity, Quantity.decode.run x = .ok quantity ∧ quantity.value = n) ↔
      IsQuantity x n) ∧
    (∀ n x y, IsQuantity x n → IsQuantity y n → ∃ p q, Quantity.decode.run x = .ok p ∧
      Quantity.decode.run y = .ok q ∧ p.value = n ∧ q.value = n ∧ p.short? = q.short? ∧
      (∀ m : Word 64, p.short? = some m ↔ m.toNat = n.toNat) ∧
      ((∃ m, p.short? = some m) ↔ n.toNat < 2 ^ 64)) ∧
    ∃ result xs held ys, first.Brings result xs ∧ second.Brings held ys ∧
      ((∃ e, xs = [] ∧ ys = [] ∧ result = .error e ∧ held = .error e) ∨
        ∃ document body reply, xs = [.query document body] ∧ ys = [.query document reply] ∧
          node.manner.Allows (.query document body) ∧ other.manner.Allows (.query document reply) ∧
          (Balance.Respelled body reply → result = held)) := by
  refine ⟨fun n x ↦ means_quantity x n, fun n x y hx hy ↦ ?_, ?_⟩
  · obtain ⟨p, hp, rfl⟩ := (means_quantity x n).mpr hx
    obtain ⟨q, hq, hvalue⟩ := (means_quantity y _).mpr hy
    have hsame : p.SameValue q := hvalue.symm
    exact ⟨p, q, hp, hq, rfl, hvalue, hsame.short?, fun _ ↦ Quantity.short?_eq_some_iff,
      Quantity.exists_short?_iff⟩
  · obtain ⟨result, xs, hresult, hcomes, hsaid⟩ := first.exists_brings node.keeps_manner
    obtain ⟨held, ys, hheld, hlikewise, htold⟩ := second.exists_brings other.keeps_manner
    refine ⟨result, xs, held, ys, hresult, hheld, ?_⟩
    rcases Balance.cases_of_comes hcomes with
      ⟨e, hplan, rfl, rfl⟩ | ⟨address, reference, body, haccount, hread, rfl, rfl⟩
    · rcases Balance.cases_of_comes hlikewise with
        ⟨_, hsame, rfl, rfl⟩ | ⟨_, _, _, haccount, hread, -⟩
      · cases hplan.symm.trans hsame
        exact Or.inl ⟨e, rfl, rfl, rfl, rfl⟩
      · cases hplan.symm.trans (Balance.plan_of_ok client haccount hread)
    · obtain ⟨reply, rfl, rfl⟩ := Balance.exists_reply_of_comes haccount hread hlikewise
      refine Or.inr ⟨_, body, reply, rfl, rfl, hsaid _ List.mem_cons_self,
        htold _ List.mem_cons_self, fun hrespelled ↦ ?_⟩
      rw [Balance.ofBody_of_respelled _ _ _ hrespelled]

/-! ### A reply in two renderings -/

namespace Occasion.Sample

open Flatten.Sample

/-- What the endpoint says of the account, with its numbers so rendered. -/
def rendered (number balance count : Json) : Json :=
  .obj [("data", .obj [("block", .obj [
    ("account", .obj [("balance", balance), ("code", .str "0x"), ("transactionCount", count)]),
    ("hash", .str (FixedBytes.zero 32).hex), ("number", number)])])]

def respelledText : String :=
  "\x7b\"data\": \x7b\"block\": \x7b\"hash\": \"" ++ (FixedBytes.zero 32).hex ++
    "\", \"number\": \"0x0_1\", \"account\": \x7b\"balance\": 5, " ++
    "\"transactionCount\": \"0B11\", \"code\": \"0x\"\x7d\x7d\x7d\x7d"

theorem read_graphText :
    Json.read graphText = .ok (rendered (.int 1) (.str "0x5") (.int 3)) :=
  eq_ok_of_any (by decide +kernel)

theorem read_respelledText :
    Json.read respelledText = .ok (rendered (.str "0x0_1") (.int 5) (.str "0B11")) :=
  eq_ok_of_any (by decide +kernel)

theorem isQuantity_text (text : String) (n : Word 256)
    (hreads : (quantity? 256 (.str text)) = some n) : IsQuantity (.str text) n := by
  refine (reads_quantity _ _).mp ?_
  rw [Decoder.run, decodeQuantity, hreads]
  rfl

theorem respelled_rendered : BalanceReply.Respelled (rendered (.int 1) (.str "0x5") (.int 3))
    (rendered (.str "0x0_1") (.int 5) (.str "0B11")) := by
  have hnumber : SameNumber (.int 1) (.str "0x0_1") :=
    ⟨1, isQuantity_int_iff.mpr (by decide), isQuantity_text _ _ (by decide)⟩
  have hbalance : SameNumber (.str "0x5") (.int 5) :=
    ⟨5, isQuantity_text _ _ (by decide), isQuantity_int_iff.mpr (by decide)⟩
  have hcount : SameNumber (.int 3) (.str "0B11") :=
    ⟨3, isQuantity_int_iff.mpr (by decide), isQuantity_text _ _ (by decide)⟩
  have haccount : AccountState.Respelled
      (.obj [("balance", .str "0x5"), ("code", .str "0x"), ("transactionCount", .int 3)])
      (.obj [("balance", .int 5), ("code", .str "0x"), ("transactionCount", .str "0B11")]) :=
    .obj (.cons ⟨rfl, Or.inr ⟨Or.inl rfl, hbalance⟩⟩ <| .cons ⟨rfl, Or.inl rfl⟩ <|
      .cons ⟨rfl, Or.inr ⟨Or.inr rfl, hcount⟩⟩ .nil)
  refine .obj (.cons ⟨rfl, Or.inr ⟨rfl, .obj (.cons ⟨rfl, Or.inr ⟨rfl, ?_⟩⟩ .nil)⟩⟩ .nil)
  exact .obj (.cons ⟨rfl, Or.inr (Or.inr ⟨rfl, haccount⟩)⟩ <| .cons ⟨rfl, Or.inl rfl⟩ <|
    .cons ⟨rfl, Or.inr (Or.inl ⟨rfl, hnumber⟩)⟩ .nil)

/-- The balance that the reply shows. -/
theorem exists_brings_balancing : ∃ response body, (balancing graphText).Brings (.ok response)
    [.query (Balance.document (holder 1) (.byHash (.zero 32))) body] := by
  obtain ⟨result, xs, hbrings, hcomes, hallows⟩ :=
    (balancing graphText).exists_brings (keeps_node graphText)
  obtain ⟨body, rfl, rfl⟩ := Balance.exists_reply_of_comes
    (Balance.readAccount_of_spells spells_account)
    (BlockReference.read_of_names names_requested) hcomes
  have hbody : body = graph graphText _ := hallows _ List.mem_cons_self
  have hagrees : BlockReference.Agrees requested 1 := by
    rintro _ ⟨⟩
    rfl
  rcases Balance.ofBody_of_resolves account requested resolves_requested with
    ⟨-, balance, hbalance, -⟩ | ⟨hdiffers, -⟩
  · rw [hbody, hbalance] at hbrings
    exact ⟨.balance balance, _, hbrings⟩
  · exact absurd hagrees hdiffers

end Occasion.Sample

/-- The number of the block as an integer and as a text of base sixteen with a zero and an
underscore, the balance the other way round, and the count of transactions in base two. -/
theorem Occasion.same_result_of_respelled_sample :
    IsQuantity (.int 1) 1 ∧ IsQuantity (.str "0x0_1") 1 ∧
    Balance.Respelled (.ok Sample.graphText) (.ok Sample.respelledText) ∧
    ∃ response, (Sample.balancing Sample.graphText).result? = some (.ok response) ∧
      (Sample.balancing Sample.respelledText).result? = some (.ok response) := by
  have hrespelled : Balance.Respelled (.ok Sample.graphText) (.ok Sample.respelledText) :=
    Or.inr ⟨_, _, _, _, rfl, rfl, Sample.read_graphText, Sample.read_respelledText,
      Sample.respelled_rendered⟩
  refine ⟨isQuantity_int_iff.mpr (by decide), Sample.isQuantity_text _ _ (by decide),
    hrespelled, ?_⟩
  obtain ⟨response, _, hresponse⟩ := Sample.exists_brings_balancing
  obtain ⟨-, -, result, xs, held, ys, hfirst, hsecond,
      ⟨e, -, -, rfl, -⟩ | ⟨document, body, reply, rfl, rfl, hallows, hallowed, hsame⟩⟩ :=
    same_result_of_respelled (Sample.balancing Sample.graphText)
      (Sample.balancing Sample.respelledText)
  · cases hresponse.result.symm.trans hfirst.result
  · cases (hresponse.alone rfl).symm.trans (hfirst.alone rfl)
    rw [Sample.eq_ok_of_allows hallows, Sample.eq_ok_of_allows hallowed] at hsame
    cases hsame hrespelled
    cases hresponse.result.symm.trans hfirst.result
    exact ⟨response, hfirst.result, hsecond.result⟩

end RollupLedger
