import RollupLedger.Proofs.Flatten.Charges
import Mathlib.Algebra.Order.Ring.Nat

/-!
# Operations are numbered and linked

Every operation of a flattened transaction bears the number of its place, and one that names another
names the debit of its own posting (`wellLinked_flatten`). A minting stands at the head, what a call
or the data fee gives stands right after what it takes, and what the execution fee gives adds up to
what it takes.

The proof goes through the postings. `Posting.Proper` has one constructor for each kind of posting
that a transaction is made of, and `exists_posting` finds the posting that an operation comes from,
with the operations of the postings before it and after it.
-/

set_option autoImplicit false
set_option relaxedAutoImplicit false

namespace RollupLedger

namespace Ledger.Operation

/-- The signed number that the amount of an operation is read as, if it has one. -/
def signed? (o : Operation) : Option Signed := o.amount.bind Amount.signed?

/-- Something is taken from the account. -/
def IsDebit (o : Operation) : Prop := ∃ value, o.signed? = some ⟨true, value⟩

/-- Something is given to the account. -/
def IsCredit (o : Operation) : Prop := ∃ value, o.signed? = some ⟨false, value⟩

/-- How much is taken or given. -/
def magnitude (o : Operation) : Nat := (o.signed?.map fun s ↦ s.magnitude.toNat).getD 0

end Ledger.Operation

namespace Flatten

open Ledger Trace Wire ExecutionFee

/-- What holds of the operation at a place of a list. Numbers have 64 bits, so they are those of the
places as far as that goes. Only a minting names no debit and is none. -/
structure WellLinked (operations : List Operation) (place : Nat) (o : Operation) : Prop where
  index : o.index = .wrap 64 place
  counted : place < 2 ^ 64 → o.index.toNat = place
  minted : o.type = .mint → place = 0
  linked : ∀ related, o.related = some related → ∃ before named, before < place ∧
    operations[before]? = some named ∧ related = [named.index] ∧
    (place < 2 ^ 64 → named.index.toNat < o.index.toNat) ∧
    named.related = none ∧ named.type = o.type ∧ named.status = o.status ∧
    (named.IsDebit ∧ o.IsCredit ∨ named.amount = none ∧ o.amount = none)
  adjacent : IsCallType o.type ∨ o.type = .l1Fee → o.IsCredit ∨ o.related ≠ none →
    ∃ before named, place = before + 1 ∧ operations[before]? = some named ∧
      o.related = some [named.index] ∧ named.magnitude = o.magnitude
  shared : o.type = .fee → o.IsDebit →
    sumOf Operation.magnitude
      (operations.filter fun c ↦ c.type == .fee && c.related == some [o.index]) = o.magnitude

/-! ### Kinds of postings -/

/-- A minting, what a call or the data fee moves to one account or to none, the execution fee with
its shares, and what is burned. -/
inductive Posting.Proper : Posting → Prop
  | minted (receiver : Side) : Proper ⟨.mint, none, none, [receiver]⟩
  | moved {type : OperationType} (htype : IsCallType type ∨ type = .l1Fee) (error : Option String)
    (payer : Side) (receiver : Option Address) :
    Proper ⟨type, error, some payer, receiver.toList.map (⟨·, payer.value⟩)⟩
  | shared (payer : Side) (shares : List Side) (hpaid : payer.value.toNat ≠ 0)
    (hshares : ∀ share ∈ shares, share.value.toNat ≠ 0)
    (hsum : sumOf (fun share ↦ share.value.toNat) shares = payer.value.toNat) :
    Proper ⟨.fee, none, some payer, shares⟩
  | burned (payer : Side) : Proper ⟨.burn, none, some payer, []⟩

theorem proper_framePosting? {frame : Frame} {error : Option String} {p : Posting}
    (hp : framePosting? frame error = some p) : p.Proper ∧ IsCallType p.type := by
  unfold framePosting? at hp
  cases htype : frame.kind.operationType? with
  | none => simp [htype] at hp
  | some type =>
    have hcall : IsCallType type := by
      unfold IsCallType
      cases hkind : frame.kind <;> rw [hkind] at htype <;> cases htype <;> simp
    simp only [htype] at hp
    split at hp
    · cases hp
    · cases hp
      exact ⟨.moved (Or.inl hcall) error ⟨frame.caller, frame.value⟩ frame.callee, hcall⟩

theorem proper_callPostings {arena : Arena} {succeeded : Bool} {p : Posting}
    (hp : p ∈ callPostings arena succeeded) : p.Proper ∧ IsCallType p.type := by
  unfold callPostings at hp
  obtain ⟨⟨node, error⟩, -, hposting⟩ := List.mem_filterMap.mp hp
  exact proper_framePosting? hposting

theorem mem_feePosting {type : OperationType} {payer : Address} {paid : Word 256}
    {credits : List Side} {p : Posting} (hp : p ∈ feePosting type payer paid credits) :
    paid.toNat ≠ 0 ∧
      p = ⟨type, none, some ⟨payer, paid⟩, credits.filter fun side ↦ !side.value.isZero⟩ := by
  unfold feePosting at hp
  by_cases hzero : paid.isZero = true
  · rw [if_pos hzero] at hp
    cases hp
  · rw [if_neg hzero, List.mem_singleton] at hp
    exact ⟨fun h ↦ hzero (Word.isZero_iff.mpr h), hp⟩

theorem sumOf_filter_isZero (sides : List Side) :
    sumOf (fun side ↦ side.value.toNat) (sides.filter fun side ↦ !side.value.isZero) =
      sumOf (fun side ↦ side.value.toNat) sides := by
  have hsplit := sumOf_filter_add (fun side : Side ↦ side.value.toNat)
    (fun side ↦ !side.value.isZero) sides
  have hzero : sumOf (fun side : Side ↦ side.value.toNat)
      (sides.filter fun side ↦ !!side.value.isZero) = 0 := by
    apply sumOf_eq_zero
    intro side hside
    have hside := (List.mem_filter.mp hside).2
    rw [Bool.not_not] at hside
    exact Word.isZero_iff.mp hside
  omega

/-- An execution fee whose shares make up the whole. -/
theorem proper_feePosting {payer : Address} {paid : Word 256} {credits : List Side}
    (hsum : sumOf (fun side ↦ side.value.toNat) credits = paid.toNat) {p : Posting}
    (hp : p ∈ feePosting .fee payer paid credits) : p.Proper := by
  obtain ⟨hpaid, rfl⟩ := mem_feePosting hp
  apply Posting.Proper.shared ⟨payer, paid⟩ _ hpaid
  · intro share hshare
    have hshare := (List.mem_filter.mp hshare).2
    rw [Bool.not_eq_true'] at hshare
    exact Word.isZero_eq_false_iff.mp hshare
  · rw [sumOf_filter_isZero]
    exact hsum

variable {t : SignedTransaction} {receipt : Receipt} {block : BlockContext} {chain : Chain}

theorem proper_executionPostings {p : Posting} (hp : p ∈ executionPostings t receipt block chain) :
    p.Proper := by
  have hparts := priority_add_base t receipt block
  unfold executionPostings at hp
  cases hvault : chain.baseFeeVault with
  | some vault =>
    simp only [hvault] at hp
    exact proper_feePosting (by simpa using hparts) hp
  | none =>
    simp only [hvault, List.mem_append] at hp
    rcases hp with hp | hp
    · exact proper_feePosting (by simp) hp
    · obtain ⟨-, rfl⟩ := mem_feePosting hp
      exact .burned _

theorem proper_dataFeePostings {fee : Option (Word 256)} {p : Posting}
    (hp : p ∈ dataFeePostings t chain fee) : p.Proper ∧ p.type = .l1Fee := by
  unfold dataFeePostings at hp
  cases fee with
  | none => cases hp
  | some fee =>
    obtain ⟨hpaid, rfl⟩ := mem_feePosting hp
    have hkept : [(⟨chain.l1FeeVault, fee⟩ : Side)].filter (fun side ↦ !side.value.isZero) =
        [⟨chain.l1FeeVault, fee⟩] := by
      simp [Word.isZero_eq_false_iff.mpr hpaid]
    rw [hkept]
    exact ⟨.moved (Or.inr rfl) none ⟨t.sender, fee⟩ (some chain.l1FeeVault), rfl⟩

/-- Postings after the minting: no other minting, and one execution fee at most. -/
structure Orderly (rest : List Posting) : Prop where
  proper : ∀ p ∈ rest, p.Proper
  unminted : ∀ p ∈ rest, p.type ≠ .mint
  single : rest.countP (fun p ↦ p.type == .fee) ≤ 1

theorem countP_executionPostings :
    (executionPostings t receipt block chain).countP (fun p ↦ p.type == .fee) ≤ 1 := by
  unfold executionPostings feePosting
  cases chain.baseFeeVault with
  | some vault =>
    simp only
    split <;> simp
  | none =>
    simp only
    split <;> split <;> simp

theorem orderly_fees {fees : List Posting} (hfees : feePostings t receipt block chain = .ok fees) :
    Orderly fees := by
  have htype (p : Posting) (hp : p ∈ fees) : p.type ≠ .mint := by
    rcases type_of_mem_feePostings hfees hp with htype | htype | htype <;> simp [htype]
  rcases feePostings_eq_ok hfees with ⟨-, rfl⟩ | ⟨-, fee, -, rfl⟩
  · exact ⟨by simp, htype, by simp⟩
  · refine ⟨?_, htype, ?_⟩
    · intro p hp
      rcases List.mem_append.mp hp with hp | hp
      · exact proper_executionPostings hp
      · exact (proper_dataFeePostings hp).1
    · have hdata : (dataFeePostings t chain fee).countP (fun p ↦ p.type == .fee) = 0 := by
        rw [List.countP_eq_zero]
        intro p hp
        simp [(proper_dataFeePostings hp).2]
      have hexecution := @countP_executionPostings t receipt block chain
      rw [List.countP_append, hdata]
      exact hexecution

theorem orderly_rest (arena : Arena) {fees : List Posting}
    (hfees : feePostings t receipt block chain = .ok fees) :
    Orderly (callPostings arena receipt.succeeded ++ fees) := by
  have horderly := orderly_fees hfees
  refine ⟨?_, ?_, ?_⟩
  · intro p hp
    rcases List.mem_append.mp hp with hp | hp
    · exact (proper_callPostings hp).1
    · exact horderly.proper p hp
  · intro p hp
    rcases List.mem_append.mp hp with hp | hp
    · have hcall := (proper_callPostings hp).2
      rintro htype
      simp [IsCallType, htype] at hcall
    · exact horderly.unminted p hp
  · have hcalls : (callPostings arena receipt.succeeded).countP (fun p ↦ p.type == .fee) = 0 := by
      rw [List.countP_eq_zero]
      intro p hp htype
      have hcall := (proper_callPostings hp).2
      simp [IsCallType, beq_iff_eq.mp htype] at hcall
    rw [List.countP_append, hcalls, Nat.zero_add]
    exact horderly.single

/-! ### The operations of a posting -/

section Operations

variable (p : Posting) (currency : Currency)

theorem getElem?_creditOperations (related : Option (List (Word 64))) (sides : List Side)
    (index k : Nat) :
    (p.creditOperations currency related index sides)[k]? =
      sides[k]?.map fun side ↦ p.operation currency (index + k) related side Amount.credit := by
  induction sides generalizing index k with
  | nil => rfl
  | cons side rest ih =>
    rw [Posting.creditOperations]
    cases k with
    | zero => rfl
    | succ k =>
      rw [List.getElem?_cons_succ, List.getElem?_cons_succ, ih, Nat.add_assoc, Nat.add_comm 1 k]

theorem operations_of_debit {p : Posting} {payer : Side} (hdebit : p.debit = some payer)
    (index : Nat) :
    p.operations currency index = p.operation currency index none payer Amount.debit ::
      p.creditOperations currency (some [.wrap 64 index]) (index + 1) p.credits := by
  rw [Posting.operations, hdebit]

variable (index : Nat) (related : Option (List (Word 64))) (side : Side)

theorem amount_operation_eq_none (hzero : side.value.toNat = 0)
    (render : Word 256 → Currency → Amount) :
    (p.operation currency index related side render).amount = none := by
  simp [Posting.operation, Word.nonzero?, Word.isZero_iff.mpr hzero]

theorem signed?_debitOperation (hvalue : side.value.toNat ≠ 0) :
    (p.operation currency index related side Amount.debit).signed? = some ⟨true, side.value⟩ := by
  have hzero := Word.isZero_eq_false_iff.mpr hvalue
  simp [Operation.signed?, Posting.operation, Word.nonzero?, hzero, Amount.signed?_debit hvalue]

theorem signed?_creditOperation (hvalue : side.value.toNat ≠ 0) :
    (p.operation currency index related side Amount.credit).signed? =
      some ⟨false, side.value⟩ := by
  have hzero := Word.isZero_eq_false_iff.mpr hvalue
  simp [Operation.signed?, Posting.operation, Word.nonzero?, hzero, Amount.signed?_credit]

theorem magnitude_debitOperation :
    (p.operation currency index related side Amount.debit).magnitude = side.value.toNat := by
  by_cases hzero : side.value.toNat = 0
  · have hamount := amount_operation_eq_none p currency index related side hzero Amount.debit
    simp [Operation.magnitude, Operation.signed?, hamount, hzero]
  · simp [Operation.magnitude, signed?_debitOperation p currency index related side hzero]

theorem magnitude_creditOperation :
    (p.operation currency index related side Amount.credit).magnitude = side.value.toNat := by
  by_cases hzero : side.value.toNat = 0
  · have hamount := amount_operation_eq_none p currency index related side hzero Amount.credit
    simp [Operation.magnitude, Operation.signed?, hamount, hzero]
  · simp [Operation.magnitude, signed?_creditOperation p currency index related side hzero]

theorem not_isCredit_debitOperation :
    ¬ (p.operation currency index related side Amount.debit).IsCredit := by
  rintro ⟨value, hvalue⟩
  by_cases hzero : side.value.toNat = 0
  · have hamount := amount_operation_eq_none p currency index related side hzero Amount.debit
    simp [Operation.signed?, hamount] at hvalue
  · simp [signed?_debitOperation p currency index related side hzero] at hvalue

theorem not_isDebit_creditOperation :
    ¬ (p.operation currency index related side Amount.credit).IsDebit := by
  rintro ⟨value, hvalue⟩
  by_cases hzero : side.value.toNat = 0
  · have hamount := amount_operation_eq_none p currency index related side hzero Amount.credit
    simp [Operation.signed?, hamount] at hvalue
  · simp [signed?_creditOperation p currency index related side hzero] at hvalue

/-- The credits of a posting add up to the values given. -/
theorem sumOf_magnitude_creditOperations (sides : List Side) :
    sumOf Operation.magnitude (p.creditOperations currency related index sides) =
      sumOf (fun side ↦ side.value.toNat) sides := by
  induction sides generalizing index with
  | nil => rfl
  | cons side rest ih =>
    rw [Posting.creditOperations, sumOf_cons, sumOf_cons, ih, magnitude_creditOperation]

theorem related_of_mem_creditOperations (sides : List Side) {o : Operation}
    (ho : o ∈ p.creditOperations currency related index sides) : o.related = related := by
  induction sides generalizing index with
  | nil => cases ho
  | cons side rest ih =>
    rw [Posting.creditOperations, List.mem_cons] at ho
    rcases ho with rfl | ho
    · rfl
    · exact ih (index + 1) ho

end Operations

/-! ### The posting of an operation -/

/-- The posting that an operation comes from, and its place among the operations of the posting. -/
theorem exists_posting (currency : Currency) {ps : List Posting} {start i : Nat} {o : Operation}
    (ho : (numbered currency start ps)[i]? = some o) :
    ∃ before p after k, ps = before ++ p :: after ∧
      i = (numbered currency start before).length + k ∧
      (p.operations currency (start + (numbered currency start before).length))[k]? = some o := by
  induction ps generalizing start i with
  | nil => simp [numbered] at ho
  | cons p rest ih =>
    rw [numbered] at ho
    by_cases hlt : i < (p.operations currency start).length
    · rw [List.getElem?_append_left hlt] at ho
      exact ⟨[], p, rest, i, rfl, by simp [numbered], by simpa [numbered] using ho⟩
    · have hle := Nat.le_of_not_lt hlt
      rw [List.getElem?_append_right hle] at ho
      obtain ⟨before, q, after, k, rfl, hplace, hk⟩ := ih ho
      refine ⟨p :: before, q, after, k, rfl, ?_, ?_⟩
      · rw [numbered, List.length_append]
        omega
      · rw [numbered, List.length_append, ← Nat.add_assoc]
        exact hk

/-! ### A posting among others

The operations of `p` in a list that starts at number zero, with the postings `before` and `after`
it. -/

section Around

variable {currency : Currency} {before after : List Posting} {p : Posting}

/-- The place of the first operation of a posting that follows others. -/
def placeAfter (currency : Currency) (before : List Posting) : Nat :=
  (numbered currency 0 before).length

theorem numbered_around :
    numbered currency 0 (before ++ p :: after) =
      numbered currency 0 before ++ (p.operations currency (placeAfter currency before) ++
        numbered currency (placeAfter currency before +
          (p.operations currency (placeAfter currency before)).length) after) := by
  rw [numbered_append, Nat.zero_add, numbered]
  rfl

/-- The debit of a posting stands at its place. -/
theorem getElem?_placeAfter {payer : Side} (hdebit : p.debit = some payer) :
    (numbered currency 0 (before ++ p :: after))[placeAfter currency before]? =
      some (p.operation currency (placeAfter currency before) none payer Amount.debit) := by
  have hplace : (numbered currency 0 before).length ≤ placeAfter currency before := Nat.le_refl _
  rw [numbered_around, List.getElem?_append_right hplace, operations_of_debit currency hdebit,
    placeAfter, Nat.sub_self]
  rfl

theorem filter_fee_numbered {ps : List Posting} (hother : ∀ q ∈ ps, q.type ≠ .fee) (start : Nat)
    (related : Option (List (Word 64))) :
    ((numbered currency start ps).filter fun c ↦ c.type == .fee && c.related == related) = [] := by
  rw [List.filter_eq_nil_iff]
  intro c hc hfee
  obtain ⟨q, hq, htype⟩ := exists_posting_of_mem_numbered currency ps start hc
  rw [Bool.and_eq_true, beq_iff_eq, htype] at hfee
  exact hother q hq hfee.1

/-- What names the debit of the only fee adds up to what its shares do. -/
theorem sumOf_magnitude_shares {payer : Side} (hdebit : p.debit = some payer) (hfee : p.type = .fee)
    (hbefore : ∀ q ∈ before, q.type ≠ .fee) (hafter : ∀ q ∈ after, q.type ≠ .fee) :
    sumOf Operation.magnitude ((numbered currency 0 (before ++ p :: after)).filter fun c ↦
      c.type == .fee && c.related == some [.wrap 64 (placeAfter currency before)]) =
        sumOf (fun side ↦ side.value.toNat) p.credits := by
  have hdebited : (p.operation currency (placeAfter currency before) none payer
      Amount.debit).related = none := rfl
  have hcredited : ((p.creditOperations currency (some [.wrap 64 (placeAfter currency before)])
      (placeAfter currency before + 1) p.credits).filter fun c ↦
        c.type == .fee && c.related == some [.wrap 64 (placeAfter currency before)]) =
      p.creditOperations currency (some [.wrap 64 (placeAfter currency before)])
        (placeAfter currency before + 1) p.credits := by
    rw [List.filter_eq_self]
    intro c hc
    have htype := type_of_mem_creditOperations currency p _ p.credits _ hc
    have hrelated := related_of_mem_creditOperations p currency _ _ p.credits hc
    simp [htype, hfee, hrelated]
  rw [numbered_around, List.filter_append, List.filter_append, filter_fee_numbered hbefore,
    filter_fee_numbered hafter, operations_of_debit currency hdebit, List.filter_cons_of_neg,
    hcredited, List.nil_append, List.append_nil, sumOf_magnitude_creditOperations]
  simp [hdebited]

theorem toNat_wrap_of_lt {place : Nat} (hplace : place < 2 ^ 64) :
    (Word.wrap 64 place).toNat = place :=
  Nat.mod_eq_of_lt hplace

/-- The credit of a minting that comes first. -/
theorem wellLinked_mint {receiver : Side} (operations : List Operation) :
    WellLinked operations 0
      ((⟨.mint, none, none, [receiver]⟩ : Posting).operation currency 0 none receiver
        Amount.credit) where
  index := rfl
  counted := toNat_wrap_of_lt
  minted := fun _ ↦ rfl
  linked := by
    intro related hrelated
    cases hrelated
  adjacent := by
    intro hcall
    simp [Posting.operation, IsCallType] at hcall
  shared := by
    intro hfee
    simp [Posting.operation] at hfee

/-- The debit of a posting that is no minting. -/
theorem wellLinked_debit {payer : Side} (hdebit : p.debit = some payer) (hmint : p.type ≠ .mint)
    (hshares : p.type = .fee → (∀ q ∈ before, q.type ≠ .fee) ∧ (∀ q ∈ after, q.type ≠ .fee) ∧
      sumOf (fun side ↦ side.value.toNat) p.credits = payer.value.toNat) :
    WellLinked (numbered currency 0 (before ++ p :: after)) (placeAfter currency before)
      (p.operation currency (placeAfter currency before) none payer Amount.debit) where
  index := rfl
  counted := toNat_wrap_of_lt
  minted := fun htype ↦ absurd htype hmint
  linked := by
    intro related hrelated
    cases hrelated
  adjacent := by
    intro _ hgiven
    rcases hgiven with hcredit | hrelated
    · exact absurd hcredit (not_isCredit_debitOperation p currency _ none payer)
    · exact absurd rfl hrelated
  shared := by
    intro hfee _
    obtain ⟨hbefore, hafter, hsum⟩ := hshares hfee
    rw [magnitude_debitOperation, ← hsum]
    exact sumOf_magnitude_shares hdebit hfee hbefore hafter

/-- A credit of a posting that is no minting, where nothing is given if and only if nothing is
taken. -/
theorem wellLinked_credit {payer share : Side} {k : Nat} (hdebit : p.debit = some payer)
    (hmint : p.type ≠ .mint) (hzero : share.value.toNat = 0 ↔ payer.value.toNat = 0)
    (hwhole : IsCallType p.type ∨ p.type = .l1Fee → k = 0 ∧ share.value = payer.value) :
    WellLinked (numbered currency 0 (before ++ p :: after)) (placeAfter currency before + (k + 1))
      (p.operation currency (placeAfter currency before + (k + 1))
        (some [.wrap 64 (placeAfter currency before)]) share Amount.credit) where
  index := rfl
  counted := toNat_wrap_of_lt
  minted := fun htype ↦ absurd htype hmint
  linked := by
    rintro related ⟨⟩
    refine ⟨_, _, by omega, getElem?_placeAfter hdebit, rfl, ?_, rfl, rfl, rfl, ?_⟩
    · intro hplace
      have hnamed : (Word.wrap 64 (placeAfter currency before)).toNat =
          placeAfter currency before := toNat_wrap_of_lt (by omega)
      have hnaming := toNat_wrap_of_lt hplace
      simp only [Posting.operation, hnamed, hnaming]
      omega
    · by_cases hpaid : payer.value.toNat = 0
      · exact Or.inr ⟨amount_operation_eq_none p currency _ _ _ hpaid _,
          amount_operation_eq_none p currency _ _ _ (hzero.mpr hpaid) _⟩
      · have hgiven : share.value.toNat ≠ 0 := fun hgiven ↦ hpaid (hzero.mp hgiven)
        exact Or.inl ⟨⟨_, signed?_debitOperation p currency _ _ _ hpaid⟩,
          ⟨_, signed?_creditOperation p currency _ _ _ hgiven⟩⟩
  adjacent := by
    intro htype _
    obtain ⟨rfl, hvalue⟩ := hwhole htype
    refine ⟨_, _, rfl, getElem?_placeAfter hdebit, rfl, ?_⟩
    rw [magnitude_debitOperation, magnitude_creditOperation, hvalue]
  shared := by
    intro _ hdebited
    exact absurd hdebited (not_isDebit_creditOperation p currency _ _ share)

/-- An operation of a posting with a debit is the debit or one of the credits. -/
theorem debit_or_credit {payer : Side} (hdebit : p.debit = some payer) {index k : Nat}
    {o : Operation} (ho : (p.operations currency index)[k]? = some o) :
    (k = 0 ∧ o = p.operation currency index none payer Amount.debit) ∨
      ∃ j share, k = j + 1 ∧ p.credits[j]? = some share ∧
        o = p.operation currency (index + (j + 1)) (some [.wrap 64 index]) share Amount.credit := by
  rw [operations_of_debit currency hdebit] at ho
  cases k with
  | zero => exact Or.inl ⟨rfl, (Option.some.inj ho).symm⟩
  | succ j =>
    rw [List.getElem?_cons_succ, getElem?_creditOperations, Option.map_eq_some_iff] at ho
    obtain ⟨share, hshare, rfl⟩ := ho
    refine Or.inr ⟨j, share, rfl, hshare, ?_⟩
    rw [Nat.add_assoc, Nat.add_comm 1 j]

/-- The operations of a posting are well linked if a minting comes first and an execution fee is the
only one. -/
theorem wellLinked_of_proper (hproper : p.Proper) (hfirst : p.type = .mint → before = [])
    (honly : p.type = .fee → (∀ q ∈ before, q.type ≠ .fee) ∧ ∀ q ∈ after, q.type ≠ .fee)
    {k : Nat} {o : Operation}
    (ho : (p.operations currency (placeAfter currency before))[k]? = some o) :
    WellLinked (numbered currency 0 (before ++ p :: after)) (placeAfter currency before + k) o := by
  cases hproper with
  | minted receiver =>
    obtain rfl := hfirst rfl
    cases k with
    | zero =>
      cases ho
      exact wellLinked_mint _
    | succ k => cases ho
  | moved htype error payer receiver =>
    have hmint : ∀ type, IsCallType type ∨ type = .l1Fee → type ≠ .mint ∧ type ≠ .fee := by
      rintro type (htype | rfl)
      · constructor <;> rintro rfl <;> simp [IsCallType] at htype
      · simp
    rcases debit_or_credit rfl ho with ⟨rfl, rfl⟩ | ⟨j, share, rfl, hshare, rfl⟩
    · exact wellLinked_debit rfl (hmint _ htype).1 fun hfee ↦ absurd hfee (hmint _ htype).2
    · have hwhole : j = 0 ∧ share.value = payer.value := by
        cases receiver with
        | none => cases hshare
        | some receiver =>
          cases j with
          | zero =>
            cases hshare
            exact ⟨rfl, rfl⟩
          | succ j => cases hshare
      exact wellLinked_credit rfl (hmint _ htype).1 (by rw [hwhole.2]) fun _ ↦ hwhole
  | shared payer shares hpaid hshares hsum =>
    have hcall : ¬ (IsCallType .fee ∨ OperationType.fee = .l1Fee) := by simp [IsCallType]
    rcases debit_or_credit rfl ho with ⟨rfl, rfl⟩ | ⟨j, share, rfl, hshare, rfl⟩
    · exact wellLinked_debit rfl (by simp) fun hfee ↦ ⟨(honly hfee).1, (honly hfee).2, hsum⟩
    · have hgiven := hshares share (List.mem_of_getElem? hshare)
      have hzero : share.value.toNat = 0 ↔ payer.value.toNat = 0 := by simp [hgiven, hpaid]
      exact wellLinked_credit rfl (by simp) hzero fun htype ↦ absurd htype hcall
  | burned payer =>
    rcases debit_or_credit rfl ho with ⟨rfl, rfl⟩ | ⟨j, share, rfl, hshare, rfl⟩
    · exact wellLinked_debit rfl (by simp) fun hfee ↦ nomatch hfee
    · cases hshare

end Around

theorem mintPostings_eq (t : SignedTransaction) :
    mintPostings t = [] ∨ ∃ receiver, mintPostings t = [⟨.mint, none, none, [receiver]⟩] := by
  unfold mintPostings
  split
  · exact Or.inr ⟨_, rfl⟩
  · exact Or.inl rfl

/-- Every posting of a transaction is of one of the kinds; a minting comes first, and the execution
fee is the only one. -/
theorem proper_of_split {rest before after : List Posting} {p : Posting} (horderly : Orderly rest)
    (hps : mintPostings t ++ rest = before ++ p :: after) :
    p.Proper ∧ (p.type = .mint → before = []) ∧
      (p.type = .fee → (∀ q ∈ before, q.type ≠ .fee) ∧ ∀ q ∈ after, q.type ≠ .fee) := by
  have hfees : (mintPostings t).countP (fun q ↦ q.type == .fee) = 0 := by
    rcases mintPostings_eq t with hmint | ⟨receiver, hmint⟩ <;> simp [hmint]
  have hcount := congrArg (List.countP fun q ↦ q.type == .fee) hps
  rw [List.countP_append, List.countP_append, List.countP_cons, hfees, Nat.zero_add] at hcount
  refine ⟨?_, ?_, ?_⟩
  · have hmem : p ∈ mintPostings t ++ rest := by simp [hps]
    rcases List.mem_append.mp hmem with hmem | hmem
    · rcases mintPostings_eq t with hmint | ⟨receiver, hmint⟩
      · simp [hmint] at hmem
      · rw [hmint, List.mem_singleton] at hmem
        rw [hmem]
        exact .minted receiver
    · exact horderly.proper p hmem
  · intro htype
    rcases mintPostings_eq t with hmint | ⟨receiver, hmint⟩
    · have hmem : p ∈ rest := by
        rw [hmint, List.nil_append] at hps
        simp [hps]
      exact absurd htype (horderly.unminted p hmem)
    · rw [hmint, List.singleton_append] at hps
      cases before with
      | nil => rfl
      | cons first before =>
        obtain ⟨-, rfl⟩ := List.cons.inj hps
        exact absurd htype (horderly.unminted p (by simp))
  · intro htype
    have hsingle := horderly.single
    rw [hcount, htype] at hsingle
    simp only [beq_self_eq_true, if_true] at hsingle
    have hbefore : before.countP (fun q ↦ q.type == .fee) = 0 := by omega
    have hafter : after.countP (fun q ↦ q.type == .fee) = 0 := by omega
    rw [List.countP_eq_zero] at hbefore hafter
    constructor
    · intro q hq hfee
      exact hbefore q hq (beq_iff_eq.mpr hfee)
    · intro q hq hfee
      exact hafter q hq (beq_iff_eq.mpr hfee)

/-- What names an operation is of its type, as long as no two places share a number. -/
theorem type_eq_of_related {operations : List Operation}
    (hlinked : ∀ place o, operations[place]? = some o → WellLinked operations place o)
    (hlength : operations.length ≤ 2 ^ 64) {place : Nat} {o c : Operation}
    (ho : operations[place]? = some o) (hc : c ∈ operations)
    (hrelated : c.related = some [o.index]) : c.type = o.type := by
  have htoNat (i : Nat) (x : Operation) (hx : operations[i]? = some x) : x.index.toNat = i := by
    obtain ⟨hlt, -⟩ := List.getElem?_eq_some_iff.mp hx
    exact (hlinked i x hx).counted (by omega)
  obtain ⟨i, hi⟩ := List.getElem?_of_mem hc
  obtain ⟨before, named, -, hnamed, hindex, -, -, htype, -⟩ := (hlinked i c hi).linked _ hrelated
  have hplace : place = before := by
    rw [← htoNat place o ho, ← htoNat before named hnamed, List.head_eq_of_cons_eq hindex]
  rw [hplace, hnamed, Option.some.injEq] at ho
  rw [← htype, ho]

/-- Every operation of a flattened transaction is numbered by its place and linked as its type
says, whatever the trace, and what names it is of its type. -/
theorem wellLinked_flatten {arena : Arena} {operations : List Operation}
    (hflat : flatten t receipt arena block chain = .ok operations) :
    (∀ place o, operations[place]? = some o → WellLinked operations place o) ∧
      (operations.length ≤ 2 ^ 64 → ∀ o ∈ operations, ∀ c ∈ operations,
        c.related = some [o.index] → c.type = o.type) := by
  have hlinked (place : Nat) (o : Operation) (ho : operations[place]? = some o) :
      WellLinked operations place o := by
    obtain ⟨fees, hfees, rfl⟩ := flatten_eq_ok hflat
    have horderly := orderly_rest arena hfees
    rw [List.append_assoc] at ho ⊢
    obtain ⟨before, p, after, k, hps, rfl, hk⟩ := exists_posting _ ho
    obtain ⟨hproper, hfirst, honly⟩ := proper_of_split horderly hps
    rw [Nat.zero_add] at hk
    rw [hps]
    exact wellLinked_of_proper hproper hfirst honly hk
  refine ⟨hlinked, ?_⟩
  intro hlength o ho c hc hrelated
  obtain ⟨place, hplace⟩ := List.getElem?_of_mem ho
  exact type_eq_of_related hlinked hlength hplace hc hrelated

/-- The operations of the sample, whose sender is minted to, whose calls fail in part and whose
fee has two shares. -/
theorem wellLinked_flatten_sample :
    ∃ arena operations, Arena.ofFrame Sample.trace = .ok arena ∧
      flatten Sample.transfer Sample.receipt arena Sample.block .standard = .ok operations ∧
      ∀ place o, operations[place]? = some o → WellLinked operations place o := by
  obtain ⟨arena, harena⟩ := Sample.arena_trace
  obtain ⟨operations, hflat⟩ := Sample.flatten_transfer arena
  exact ⟨arena, operations, harena, hflat, (wellLinked_flatten hflat).1⟩

end Flatten

end RollupLedger
