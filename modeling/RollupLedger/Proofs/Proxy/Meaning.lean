import RollupLedger.Client.Reference
import RollupLedger.Proofs.Json.Closed
import RollupLedger.Proofs.Json.Records
import RollupLedger.Proxy.Basic
import Mathlib.Data.Option.Basic

/-!
# What the parameters of a proxied method mean

The parameters of a method denote what is asked of the node (`Denotes`), in whatever way each value
is written. Parameters that denote something are sent as `Meaning.sent`, which is different for
different meanings of a method (`Denotes.eq_of_sent_eq`); all others are refused
(`validateFor_eq`).
-/

set_option autoImplicit false
set_option relaxedAutoImplicit false

namespace RollupLedger

/-! ### Writing is injective -/

namespace Wire

theorem encodeFixed_injective {size : Nat} :
    Function.Injective (encodeFixed : FixedBytes size → Json) := by
  intro first second hsame
  exact FixedBytes.ext (Hex.write_injective (Json.str.inj hsame))

theorem encodeBytes_injective : Function.Injective encodeBytes := by
  intro first second hsame
  exact Hex.write_injective (Json.str.inj hsame)

theorem encodeQuantity_injective {bits : Nat} :
    Function.Injective (encodeQuantity : Word bits → Json) := by
  intro first second hsame
  exact Word.ext (Numeral.hex_injective (Json.str.inj hsame))

end Wire

theorem Json.get?_ofMembers (members : Json.Members) (key : String) :
    (Json.ofMembers members).get? key = members.reverse.lookup key := by
  show (members.foldl (fun acc m ↦ insertMember m.1 m.2 acc) []).lookup key = _
  rw [lookup_foldl_insertMember, List.lookup_nil, Option.or_none]

namespace Proxy

open Json Wire

/-! ### Meanings -/

/-- A message to an account, as it is sent with a call. -/
@[ext]
structure Message where
  caller : Option Address
  callee : Address
  gas : Option (Word 256)
  gasPrice : Option (Word 256)
  value : Option (Word 256)
  data : Option Bytes

/-- What is asked of a node. -/
inductive Meaning where
  | block (index : Word 64) (details : Bool)
  | receipt (hash : Hash)
  | call (place : BlockReference) (message : Message)
  | estimate (message : Message)

/-- A call is placed at the block of an index or a hash, but not of both, or else at the latest. -/
inductive Places : Option (Word 64) → Option Hash → BlockReference → Prop
  | byNumber {index : Word 64} : Places (some index) none (.byNumber index)
  | byHash {hash : Hash} : Places none (some hash) (.byHash hash)
  | latest : Places none none .latest

/-- What the parameters of a method mean. There are no other keys than those of the method. -/
inductive Denotes (members : Members) : Method → Meaning → Prop
  | block {index : Word 64} {details : Bool}
      (hknown : Known ["index", "show_transaction_details"] members)
      (hindex : Required IsWord (members.lookup "index") index)
      (hdetails : Defaulted IsFlag false (members.lookup "show_transaction_details") details) :
      Denotes members .blockByNumber (.block index details)
  | receipt {hash : Hash}
      (hknown : Known ["tx_hash"] members)
      (hhash : Required TakenAsFixed (members.lookup "tx_hash") hash) :
      Denotes members .transactionReceipt (.receipt hash)
  | call {index : Option (Word 64)} {hash : Option Hash} {place : BlockReference}
      {message : Message}
      (hknown : Known ["index", "hash", "from", "to", "gas", "gas_price", "value", "data"] members)
      (hindex : Optionally IsWord (members.lookup "index") index)
      (hhash : Optionally TakenAsFixed (members.lookup "hash") hash)
      (hplace : Places index hash place)
      (hcaller : Optionally TakenAsFixed (members.lookup "from") message.caller)
      (hcallee : Required TakenAsFixed (members.lookup "to") message.callee)
      (hgas : Optionally IsQuantity (members.lookup "gas") message.gas)
      (hgasPrice : Optionally IsQuantity (members.lookup "gas_price") message.gasPrice)
      (hvalue : Optionally IsQuantity (members.lookup "value") message.value)
      (hdata : Optionally IsBytes (members.lookup "data") message.data) :
      Denotes members .call (.call place message)
  | estimate {caller callee : Address} {data : Option Bytes}
      (hknown : Known ["from", "to", "data"] members)
      (hcaller : Required TakenAsFixed (members.lookup "from") caller)
      (hcallee : Required TakenAsFixed (members.lookup "to") callee)
      (hdata : Optionally IsBytes (members.lookup "data") data) :
      Denotes members .estimateGas (.estimate ⟨some caller, callee, none, none, none, data⟩)

/-! ### What is sent -/

def Message.sent (message : Message) : Json :=
  .ofMembers <|
    Json.optional "from" encodeFixed message.caller ++ [("to", encodeFixed message.callee)] ++
    Json.optional "gas" encodeQuantity message.gas ++
    Json.optional "gasPrice" encodeQuantity message.gasPrice ++
    Json.optional "value" encodeQuantity message.value ++
    Json.optional "data" encodeBytes message.data

def sentPlace : BlockReference → Json
  | .byNumber index => blockNumberText index
  | .byHash hash => .ofMembers [("blockHash", encodeFixed hash)]
  | .latest => .str "latest"

namespace Meaning

/-- The parameters that are sent to the node. -/
def sent : Meaning → Json
  | block index details => .arr [blockNumberText index, .bool details]
  | receipt hash => .arr [encodeFixed hash]
  | call place message => .arr [message.sent, sentPlace place]
  | estimate message => .arr [message.sent]

/-- Whether what is asked for stays the same: a look-up, or a call at a block that is given. -/
def isFixed : Meaning → Bool
  | block _ _ => true
  | receipt _ => true
  | call place _ => place ≠ .latest
  | estimate _ => false

end Meaning

theorem blockNumberText_injective : Function.Injective blockNumberText := encodeQuantity_injective

theorem blockNumberText_ne_latest (index : Word 64) : blockNumberText index ≠ .str "latest" := by
  intro hsame
  have hhead : (Numeral.hex index.toNat).toList.head? = some '0' := by
    rw [Numeral.hex, String.toList_append]
    rfl
  rw [Json.str.inj hsame] at hhead
  cases hhead

theorem sentPlace_injective : Function.Injective sentPlace := by
  intro first second hsame
  match first, second with
  | .byNumber index, .byNumber other => exact congrArg _ (blockNumberText_injective hsame)
  | .byNumber index, .latest => exact absurd hsame (blockNumberText_ne_latest index)
  | .byNumber index, .byHash hash => cases hsame
  | .byHash hash, .byHash other =>
    have hhash : some (encodeFixed hash) = some (encodeFixed other) :=
      congrArg (Json.get? "blockHash") hsame
    exact congrArg _ (encodeFixed_injective (Option.some.inj hhash))
  | .byHash hash, .byNumber index => cases hsame
  | .byHash hash, .latest => cases hsame
  | .latest, .latest => rfl
  | .latest, .byNumber index => exact absurd hsame.symm (blockNumberText_ne_latest index)
  | .latest, .byHash hash => cases hsame

theorem Message.sent_injective : Function.Injective Message.sent := by
  intro first second hsame
  have hget (key : String) := congrArg (Json.get? key) hsame
  simp only [Message.sent, get?_ofMembers, List.reverse_append, reverse_optional,
    List.lookup_append, lookup_optional, List.reverse_singleton, lookup_cons_eq_ite] at hget
  have hcaller : first.caller.map encodeFixed = second.caller.map encodeFixed := by
    simpa using hget "from"
  have hcallee : encodeFixed first.callee = encodeFixed second.callee := by
    simpa using hget "to"
  have hgas : first.gas.map encodeQuantity = second.gas.map encodeQuantity := by
    simpa using hget "gas"
  have hgasPrice : first.gasPrice.map encodeQuantity = second.gasPrice.map encodeQuantity := by
    simpa using hget "gasPrice"
  have hvalue : first.value.map encodeQuantity = second.value.map encodeQuantity := by
    simpa using hget "value"
  have hdata : first.data.map encodeBytes = second.data.map encodeBytes := by
    simpa using hget "data"
  have hquantity : Function.Injective (Option.map (encodeQuantity : Word 256 → Json)) :=
    Option.map_injective encodeQuantity_injective
  exact Message.ext (Option.map_injective encodeFixed_injective hcaller)
    (encodeFixed_injective hcallee) (hquantity hgas) (hquantity hgasPrice) (hquantity hvalue)
    (Option.map_injective encodeBytes_injective hdata)

/-- For one method, different meanings are sent differently. -/
theorem Denotes.eq_of_sent_eq {members others : Members} {method : Method} {first second : Meaning}
    (hfirst : Denotes members method first) (hsecond : Denotes others method second)
    (hsame : first.sent = second.sent) : first = second := by
  cases hfirst with
  | @block index details =>
    cases hsecond with
    | @block other more =>
      obtain ⟨hindex, hdetails⟩ : blockNumberText index = blockNumberText other ∧
          details = more := by
        simpa [Meaning.sent] using hsame
      rw [blockNumberText_injective hindex, hdetails]
  | @receipt hash =>
    cases hsecond with
    | @receipt other =>
      have hhash : encodeFixed hash = encodeFixed other := by simpa [Meaning.sent] using hsame
      rw [encodeFixed_injective hhash]
  | @call _ _ place message =>
    cases hsecond with
    | @call _ _ other more =>
      obtain ⟨hmessage, hplace⟩ : message.sent = more.sent ∧ sentPlace place = sentPlace other := by
        simpa [Meaning.sent] using hsame
      rw [Message.sent_injective hmessage, sentPlace_injective hplace]
  | @estimate caller callee data =>
    cases hsecond with
    | @estimate other another more =>
      have hmessage : Message.sent ⟨some caller, callee, none, none, none, data⟩ =
          Message.sent ⟨some other, another, none, none, none, more⟩ := by
        simpa [Meaning.sent] using hsame
      rw [Message.sent_injective hmessage]

/-! ### What is read -/

section Read

variable {members : Members}

namespace BlockByNumber

def meaning (p : BlockByNumber) : Meaning := .block p.index p.showTransactionDetails

theorem run_decode {p : BlockByNumber} :
    decode.run (.obj members) = .ok p ↔
      Known ["index", "show_transaction_details"] members ∧
        Required IsWord (members.lookup "index") p.index ∧
        Defaulted IsFlag false (members.lookup "show_transaction_details")
          p.showTransactionDetails := by
  simp only [decode, run_record, Fields.gives_seq, Fields.gives_map,
    Fields.gives_required reads_word, Fields.gives_withDefault reads_flag]
  refine and_congr_right fun _ ↦ ?_
  constructor
  · rintro ⟨_, details, ⟨index, hindex, rfl⟩, hdetails, rfl⟩
    exact ⟨hindex, hdetails⟩
  · rintro ⟨hindex, hdetails⟩
    exact ⟨_, _, ⟨_, hindex, rfl⟩, hdetails, rfl⟩

theorem denotes_iff {meaning : Meaning} :
    Denotes members .blockByNumber meaning ↔
      ∃ p, decode.run (.obj members) = .ok p ∧ p.meaning = meaning := by
  simp only [run_decode]
  constructor
  · intro hdenotes
    cases hdenotes with
    | block hknown hindex hdetails => exact ⟨⟨_, _⟩, ⟨hknown, hindex, hdetails⟩, rfl⟩
  · rintro ⟨p, ⟨hknown, hindex, hdetails⟩, rfl⟩
    exact .block hknown hindex hdetails

end BlockByNumber

namespace TransactionReceipt

def meaning (p : TransactionReceipt) : Meaning := .receipt p.txHash

theorem run_decode {p : TransactionReceipt} :
    decode.run (.obj members) = .ok p ↔
      Known ["tx_hash"] members ∧
        Required TakenAsFixed (members.lookup "tx_hash") p.txHash := by
  simp only [decode, decodeHash, run_record, Fields.gives_map, Fields.gives_required reads_fixed]
  refine and_congr_right fun _ ↦ ?_
  constructor
  · rintro ⟨hash, hhash, rfl⟩
    exact hhash
  · intro hhash
    exact ⟨_, hhash, rfl⟩

theorem denotes_iff {meaning : Meaning} :
    Denotes members .transactionReceipt meaning ↔
      ∃ p, decode.run (.obj members) = .ok p ∧ p.meaning = meaning := by
  simp only [run_decode]
  constructor
  · intro hdenotes
    cases hdenotes with
    | receipt hknown hhash => exact ⟨⟨_⟩, ⟨hknown, hhash⟩, rfl⟩
  · rintro ⟨p, ⟨hknown, hhash⟩, rfl⟩
    exact .receipt hknown hhash

end TransactionReceipt

namespace CallParameters

def message (p : CallParameters) : Message where
  caller := p.caller
  callee := p.callee
  gas := p.gas.map Quantity.value
  gasPrice := p.gasPrice.map Quantity.value
  value := p.value.map Quantity.value
  data := p.data

def place? (p : CallParameters) : Option BlockReference :=
  match p.index, p.hash with
  | some _, some _ => none
  | some index, none => some (.byNumber index)
  | none, some hash => some (.byHash hash)
  | none, none => some .latest

def meaning? (p : CallParameters) : Option Meaning :=
  p.place?.map fun place ↦ .call place p.message

theorem places_iff {p : CallParameters} {place : BlockReference} :
    Places p.index p.hash place ↔ p.place? = some place := by
  obtain ⟨index, hash, _, _, _, _, _, _⟩ := p
  constructor
  · rintro ⟨⟩
    all_goals rfl
  · intro hplace
    cases index <;> cases hash <;> cases hplace
    · exact .latest
    · exact .byHash
    · exact .byNumber

theorem run_decode {p : CallParameters} :
    decode.run (.obj members) = .ok p ↔
      Known ["index", "hash", "from", "to", "gas", "gas_price", "value", "data"] members ∧
        Optionally IsWord (members.lookup "index") p.index ∧
        Optionally TakenAsFixed (members.lookup "hash") p.hash ∧
        Optionally TakenAsFixed (members.lookup "from") p.caller ∧
        Required TakenAsFixed (members.lookup "to") p.callee ∧
        (Fields.optional "gas" Quantity.decode).Gives members p.gas ∧
        (Fields.optional "gas_price" Quantity.decode).Gives members p.gasPrice ∧
        (Fields.optional "value" Quantity.decode).Gives members p.value ∧
        Optionally IsBytes (members.lookup "data") p.data := by
  simp only [decode, decodeHash, decodeAddress, run_record, Fields.gives_seq, Fields.gives_map,
    Fields.gives_optional reads_word, Fields.gives_optional reads_fixed,
    Fields.gives_optional reads_bytes, Fields.gives_required reads_fixed]
  refine and_congr_right fun _ ↦ ?_
  -- The fields are taken off from the last to the first, as they were put together.
  constructor
  · rintro ⟨_, _, ⟨_, _, ⟨_, _, ⟨_, _, ⟨_, _, ⟨_, _, ⟨_, _, ⟨_, hindex, rfl⟩, hhash, rfl⟩,
      hcaller, rfl⟩, hcallee, rfl⟩, hgas, rfl⟩, hgasPrice, rfl⟩, hvalue, rfl⟩, hdata, rfl⟩
    exact ⟨hindex, hhash, hcaller, hcallee, hgas, hgasPrice, hvalue, hdata⟩
  · rintro ⟨hindex, hhash, hcaller, hcallee, hgas, hgasPrice, hvalue, hdata⟩
    exact ⟨_, _, ⟨_, _, ⟨_, _, ⟨_, _, ⟨_, _, ⟨_, _, ⟨_, _, ⟨_, hindex, rfl⟩, hhash, rfl⟩,
      hcaller, rfl⟩, hcallee, rfl⟩, hgas, rfl⟩, hgasPrice, rfl⟩, hvalue, rfl⟩, hdata, rfl⟩

theorem denotes_iff {meaning : Meaning} :
    Denotes members .call meaning ↔
      ∃ p, decode.run (.obj members) = .ok p ∧ p.meaning? = some meaning := by
  simp only [run_decode]
  constructor
  · intro hdenotes
    cases hdenotes with
    | @call index hash place message hknown hindex hhash hplace hcaller hcallee hgas hgasPrice
        hvalue hdata =>
      obtain ⟨gas, hgas, hgas'⟩ := (Fields.exists_gives_optional means_quantity).mpr hgas
      obtain ⟨gasPrice, hgasPrice, hgasPrice'⟩ :=
        (Fields.exists_gives_optional means_quantity).mpr hgasPrice
      obtain ⟨value, hvalue, hvalue'⟩ := (Fields.exists_gives_optional means_quantity).mpr hvalue
      refine ⟨⟨index, hash, message.caller, message.callee, gas, gasPrice, value, message.data⟩,
        ⟨hknown, hindex, hhash, hcaller, hcallee, hgas, hgasPrice, hvalue, hdata⟩, ?_⟩
      rw [meaning?, places_iff.mp hplace, Option.map_some, CallParameters.message, hgas',
        hgasPrice', hvalue']
  · rintro ⟨p, ⟨hknown, hindex, hhash, hcaller, hcallee, hgas, hgasPrice, hvalue, hdata⟩, hmeaning⟩
    obtain ⟨place, hplace, rfl⟩ := Option.map_eq_some_iff.mp hmeaning
    exact .call hknown hindex hhash (places_iff.mpr hplace) hcaller hcallee
      ((Fields.exists_gives_optional means_quantity).mp ⟨_, hgas, rfl⟩)
      ((Fields.exists_gives_optional means_quantity).mp ⟨_, hgasPrice, rfl⟩)
      ((Fields.exists_gives_optional means_quantity).mp ⟨_, hvalue, rfl⟩) hdata

end CallParameters

namespace EstimateGas

def meaning (p : EstimateGas) : Meaning :=
  .estimate ⟨some p.caller, p.callee, none, none, none, p.data⟩

theorem run_decode {p : EstimateGas} :
    decode.run (.obj members) = .ok p ↔
      Known ["from", "to", "data"] members ∧
        Required TakenAsFixed (members.lookup "from") p.caller ∧
        Required TakenAsFixed (members.lookup "to") p.callee ∧
        Optionally IsBytes (members.lookup "data") p.data := by
  simp only [decode, decodeAddress, run_record, Fields.gives_seq, Fields.gives_map,
    Fields.gives_required reads_fixed, Fields.gives_optional reads_bytes]
  refine and_congr_right fun _ ↦ ?_
  constructor
  · rintro ⟨_, _, ⟨_, _, ⟨_, hcaller, rfl⟩, hcallee, rfl⟩, hdata, rfl⟩
    exact ⟨hcaller, hcallee, hdata⟩
  · rintro ⟨hcaller, hcallee, hdata⟩
    exact ⟨_, _, ⟨_, _, ⟨_, hcaller, rfl⟩, hcallee, rfl⟩, hdata, rfl⟩

theorem denotes_iff {meaning : Meaning} :
    Denotes members .estimateGas meaning ↔
      ∃ p, decode.run (.obj members) = .ok p ∧ p.meaning = meaning := by
  simp only [run_decode]
  constructor
  · intro hdenotes
    cases hdenotes with
    | estimate hknown hcaller hcallee hdata =>
      exact ⟨⟨_, _, _⟩, ⟨hknown, hcaller, hcallee, hdata⟩, rfl⟩
  · rintro ⟨p, ⟨hknown, hcaller, hcallee, hdata⟩, rfl⟩
    exact .estimate hknown hcaller hcallee hdata

end EstimateGas

/-- What the parameters of a method are read as. A call at two blocks has no meaning. -/
def read (method : Method) (members : Members) : Except DecodeFailure (Option Meaning) :=
  match method with
  | .blockByNumber => (BlockByNumber.decode.run (.obj members)).map fun p ↦ some p.meaning
  | .transactionReceipt =>
    (TransactionReceipt.decode.run (.obj members)).map fun p ↦ some p.meaning
  | .call => (CallParameters.decode.run (.obj members)).map CallParameters.meaning?
  | .estimateGas => (EstimateGas.decode.run (.obj members)).map fun p ↦ some p.meaning

theorem denotes_iff_read {method : Method} {meaning : Meaning} :
    Denotes members method meaning ↔ read method members = .ok (some meaning) := by
  cases method with
  | blockByNumber =>
    simp only [read, map_eq_ok_iff, Option.some_inj, BlockByNumber.denotes_iff]
  | transactionReceipt =>
    simp only [read, map_eq_ok_iff, Option.some_inj, TransactionReceipt.denotes_iff]
  | call => rw [read, map_eq_ok_iff, CallParameters.denotes_iff]
  | estimateGas => simp only [read, map_eq_ok_iff, Option.some_inj, EstimateGas.denotes_iff]

theorem Denotes.unique {method : Method} {first second : Meaning}
    (hfirst : Denotes members method first) (hsecond : Denotes members method second) :
    first = second := by
  rw [denotes_iff_read] at hfirst hsecond
  exact Option.some.inj (Except.ok.inj (hfirst.symm.trans hsecond))

end Read

/-! ### What is checked -/

theorem optional_map {α β : Type} (key : String) (write : β → Json) (f : α → β) (a : Option α) :
    Json.optional key write (a.map f) = Json.optional key (fun x ↦ write (f x)) a := by
  cases a with
  | none => rfl
  | some a => rfl

theorem CallParameters.sent_message (p : CallParameters) : p.message.sent = p.transaction := by
  simp only [Message.sent, message, optional_map]
  rfl

theorem CallParameters.block?_eq (p : CallParameters) : p.block? = p.place?.map sentPlace := by
  unfold block? place?
  cases p.index <;> cases p.hash <;> rfl

/-- A call is pinned unless it is placed at the latest block. -/
theorem CallParameters.isPinned_eq {p : CallParameters} {place : BlockReference}
    (hplace : p.place? = some place) : p.isPinned = decide (place ≠ .latest) := by
  unfold place? at hplace
  unfold isPinned
  cases hindex : p.index <;> cases hhash : p.hash <;> rw [hindex, hhash] at hplace <;> cases hplace
    <;> simp

/-- Parameters with a meaning are sent as it is sent; all others are refused. -/
theorem validateFor_eq (method : Method) (members : Members) :
    validateFor method members =
      match read method members with
      | .ok (some meaning) => .ok (meaning.sent, meaning.isFixed)
      | .ok none =>
        .error (.parametersInvalid method.name "at most one of `index` and `hash` may be given")
      | .error failure => .error (.parametersInvalid method.name failure.message) := by
  cases method with
  | blockByNumber =>
    rw [validateFor, readParameters, read]
    cases BlockByNumber.decode.run (.obj members) <;> rfl
  | transactionReceipt =>
    rw [validateFor, readParameters, read]
    cases TransactionReceipt.decode.run (.obj members) <;> rfl
  | call =>
    rw [validateFor, readParameters, read]
    cases CallParameters.decode.run (.obj members) with
    | error failure => rfl
    | ok p =>
      simp only [Except.mapError, Except.map, bind, Except.bind, CallParameters.meaning?,
        p.block?_eq]
      cases hplace : p.place? with
      | none => rfl
      | some place =>
        simp only [Option.map_some, p.isPinned_eq hplace, ← p.sent_message]
        rfl
  | estimateGas =>
    rw [validateFor, readParameters, read]
    cases EstimateGas.decode.run (.obj members) <;> rfl

end Proxy

end RollupLedger
