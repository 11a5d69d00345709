import RollupLedger.Flatten.Basic

/-!
# What a flattened transaction consists of

`flatten_eq_ok` takes a successful flattening apart into its postings, and `feePostings_eq_ok` the
postings of its fees into those for the execution and those for the data. The remaining statements
say how the operations of postings follow from the postings one by one.
-/

set_option autoImplicit false
set_option relaxedAutoImplicit false

namespace RollupLedger.Flatten

open Ledger Trace Wire

variable {t : SignedTransaction} {receipt : Receipt} {arena : Arena} {block : BlockContext}
  {chain : Chain}

/-- The operations of a flattening that succeeds are those of the minting, of the calls and of the
fees, numbered together. -/
theorem flatten_eq_ok {operations : List Operation}
    (hflat : flatten t receipt arena block chain = .ok operations) :
    ∃ fees, feePostings t receipt block chain = .ok fees ∧
      operations = numbered chain.currency 0
        (mintPostings t ++ callPostings arena receipt.succeeded ++ fees) := by
  unfold flatten postings at hflat
  by_cases hhash : receipt.transactionHash ≠ t.hash
  · simp [hhash, bind, Except.bind] at hflat
  · rw [if_neg hhash] at hflat
    cases hfees : feePostings t receipt block chain with
    | error e => simp [hfees, bind, Except.bind] at hflat
    | ok fees =>
      simp only [hfees, bind, Except.bind, pure, Except.pure, Except.ok.injEq] at hflat
      exact ⟨fees, rfl, hflat.symm⟩

/-- A deposit has no fees; any other transaction has those for its execution and, if it is charged
for its data, those for them. -/
theorem feePostings_eq_ok {fees : List Posting}
    (hfees : feePostings t receipt block chain = .ok fees) :
    (t.isDeposit = true ∧ fees = []) ∨
      (t.isDeposit = false ∧ ∃ fee, DataFee.assess t receipt block chain = .ok fee ∧
        fees = executionPostings t receipt block chain ++ dataFeePostings t chain fee) := by
  unfold feePostings at hfees
  cases hdeposit : t.isDeposit with
  | true =>
    rw [hdeposit, if_pos rfl, Except.ok.injEq] at hfees
    exact Or.inl ⟨rfl, hfees.symm⟩
  | false =>
    simp only [hdeposit, Bool.false_eq_true, if_false] at hfees
    cases hfee : DataFee.assess t receipt block chain with
    | error e => simp [hfee, bind, Except.bind] at hfees
    | ok fee =>
      simp only [hfee, bind, Except.bind, pure, Except.pure, Except.ok.injEq] at hfees
      exact Or.inr ⟨rfl, fee, rfl, hfees.symm⟩

/-! ### Operations from postings -/

variable (currency : Currency)

theorem numbered_append (first rest : List Posting) (index : Nat) :
    numbered currency index (first ++ rest) =
      numbered currency index first ++
        numbered currency (index + (numbered currency index first).length) rest := by
  induction first generalizing index with
  | nil => simp [numbered]
  | cons p others ih =>
    simp only [List.cons_append, numbered, ih, List.append_assoc, List.length_append]
    rw [Nat.add_assoc]

theorem type_of_mem_creditOperations (p : Posting) (related : Option (List (Word 64)))
    (sides : List Side) (index : Nat) {o : Operation}
    (ho : o ∈ p.creditOperations currency related index sides) : o.type = p.type := by
  induction sides generalizing index with
  | nil => simp [Posting.creditOperations] at ho
  | cons side rest ih =>
    rw [Posting.creditOperations, List.mem_cons] at ho
    rcases ho with rfl | ho
    · rfl
    · exact ih (index + 1) ho

theorem type_of_mem_operations (p : Posting) (index : Nat) {o : Operation}
    (ho : o ∈ p.operations currency index) : o.type = p.type := by
  unfold Posting.operations at ho
  cases hdebit : p.debit with
  | none =>
    simp only [hdebit] at ho
    exact type_of_mem_creditOperations currency p none p.credits index ho
  | some side =>
    simp only [hdebit, List.mem_cons] at ho
    rcases ho with rfl | ho
    · rfl
    · exact type_of_mem_creditOperations currency p _ p.credits (index + 1) ho

theorem exists_posting_of_mem_numbered (ps : List Posting) (index : Nat) {o : Operation}
    (ho : o ∈ numbered currency index ps) : ∃ p ∈ ps, o.type = p.type := by
  induction ps generalizing index with
  | nil => simp [numbered] at ho
  | cons p rest ih =>
    rw [numbered, List.mem_append] at ho
    rcases ho with ho | ho
    · exact ⟨p, List.mem_cons_self, type_of_mem_operations currency p index ho⟩
    · obtain ⟨q, hq, htype⟩ := ih _ ho
      exact ⟨q, List.mem_cons_of_mem p hq, htype⟩

/-! ### The types of fees -/

theorem type_of_mem_feePosting {type : OperationType} {payer : Address} {paid : Word 256}
    {credits : List Side} {p : Posting} (hp : p ∈ feePosting type payer paid credits) :
    p.type = type := by
  unfold feePosting at hp
  split at hp
  · simp at hp
  · rw [List.mem_singleton] at hp
    rw [hp]

/-- A posting among the fees is one that charges the execution, burns the base fee or charges the
data. -/
theorem exists_feePosting {fees : List Posting}
    (hfees : feePostings t receipt block chain = .ok fees) {p : Posting} (hp : p ∈ fees) :
    ∃ type payer paid credits, (type = .fee ∨ type = .burn ∨ type = .l1Fee) ∧
      p ∈ feePosting type payer paid credits := by
  rcases feePostings_eq_ok hfees with ⟨-, rfl⟩ | ⟨-, fee, -, rfl⟩
  · simp at hp
  · rcases List.mem_append.mp hp with hp | hp
    · unfold executionPostings at hp
      cases hvault : chain.baseFeeVault with
      | some vault =>
        simp only [hvault] at hp
        exact ⟨.fee, _, _, _, Or.inl rfl, hp⟩
      | none =>
        simp only [hvault, List.mem_append] at hp
        rcases hp with hp | hp
        · exact ⟨.fee, _, _, _, Or.inl rfl, hp⟩
        · exact ⟨.burn, _, _, _, Or.inr (Or.inl rfl), hp⟩
    · cases fee with
      | none => simp [dataFeePostings] at hp
      | some fee => exact ⟨.l1Fee, _, _, _, Or.inr (Or.inr rfl), hp⟩

theorem type_of_mem_feePostings {fees : List Posting}
    (hfees : feePostings t receipt block chain = .ok fees) {p : Posting} (hp : p ∈ fees) :
    p.type = .fee ∨ p.type = .burn ∨ p.type = .l1Fee := by
  obtain ⟨type, payer, paid, credits, htype, hp⟩ := exists_feePosting hfees hp
  rwa [type_of_mem_feePosting hp]

end RollupLedger.Flatten
