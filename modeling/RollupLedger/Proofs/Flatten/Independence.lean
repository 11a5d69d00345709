import RollupLedger.Proofs.Flatten.Links

/-!
# Fees do not depend on the execution

A transaction is flattened twice, with any two traces and with receipts that differ in nothing but
what they tell of the execution. Either both runs fail, for the same reason, or both end with the
same fees, whose numbers are apart by as much as the fees' places are (`fees_agree_of_alike`).

The fees come from the same postings. An operation of a list of postings depends on where their
numbering starts in its numbers alone (`exists_operationFrom`), so what precedes the fees moves them
and does nothing else to them.
-/

set_option autoImplicit false
set_option relaxedAutoImplicit false

namespace RollupLedger.Flatten

open Ledger Trace Wire

/-! ### What two runs share -/

/-- The receipts differ at most in the status, the logs and their filter, the address of a created
contract and the gas that the block has used so far. -/
def ChargedAlike (first second : Receipt) : Prop :=
  ∃ status logs logsBloom contractAddress cumulativeGasUsed, second =
    { first with
      status := status, logs := logs, logsBloom := logsBloom, contractAddress := contractAddress,
      cumulativeGasUsed := cumulativeGasUsed }

/-- The types of operations that charge a transaction. -/
def IsFeeType (type : OperationType) : Prop := type = .fee ∨ type = .burn ∨ type = .l1Fee

/-- The operations at one place among the fees of two runs that have `n` and `m` operations before
their fees. Numbers have 64 bits; as long as the places do, numbers and links are `m - n` apart. -/
structure Counterparts (n m place : Nat) (first second : Operation) : Prop where
  type : IsFeeType first.type ∧ second.type = first.type
  account : second.account = first.account
  amount : second.amount = first.amount
  status : first.status = .success ∧ second.status = .success
  metadata : first.metadata = none ∧ second.metadata = none
  index : first.index = .wrap 64 (n + place) ∧ second.index = .wrap 64 (m + place)
  related : (first.related = none ∧ second.related = none) ∨ ∃ debit < place,
    first.related = some [.wrap 64 (n + debit)] ∧ second.related = some [.wrap 64 (m + debit)]
  apart : n + place < 2 ^ 64 → m + place < 2 ^ 64 →
    (second.index.toNat : ℤ) - first.index.toNat = m - n ∧
      ∀ named other, first.related = some [named] → second.related = some [other] →
        (other.toNat : ℤ) - named.toNat = m - n

/-! ### Numbering from elsewhere -/

section Numbering

variable (currency : Currency)

/-- The number of operations of a posting. -/
def Posting.count (p : Posting) : Nat := p.debit.toList.length + p.credits.length

theorem length_creditOperations (p : Posting) (related : Option (List (Word 64)))
    (sides : List Side) (index : Nat) :
    (p.creditOperations currency related index sides).length = sides.length := by
  induction sides generalizing index with
  | nil => rfl
  | cons side rest ih => rw [Posting.creditOperations, List.length_cons, List.length_cons, ih]

theorem length_operations (p : Posting) (index : Nat) :
    (p.operations currency index).length = p.count := by
  unfold Posting.operations Posting.count
  cases p.debit with
  | none => simp [length_creditOperations]
  | some side => simp [length_creditOperations, Nat.add_comm]

theorem length_numbered (ps : List Posting) (index : Nat) :
    (numbered currency index ps).length = sumOf Posting.count ps := by
  induction ps generalizing index with
  | nil => rfl
  | cons p rest ih => rw [numbered, List.length_append, length_operations, ih, sumOf_cons]

/-- The operation at a place of a list that is numbered from `start` on. It names the debit at the
place `debit` of the list, if any. -/
def operationFrom (p : Posting) (side : Side) (render : Word 256 → Currency → Amount)
    (debit : Option Nat) (place start : Nat) : Operation :=
  p.operation currency (start + place) (debit.map fun d ↦ [.wrap 64 (start + d)]) side render

/-- A side of a posting makes an operation that names the debit or is it. -/
theorem exists_operationFrom_posting (p : Posting) {k : Nat} (hk : k < p.count) :
    ∃ side render debit, (∀ d ∈ debit, d < k) ∧
      ∀ index, (p.operations currency index)[k]? =
        some (operationFrom currency p side render debit k index) := by
  unfold Posting.operations
  cases hdebit : p.debit with
  | none =>
    have hlt : k < p.credits.length := by simpa [Posting.count, hdebit] using hk
    refine ⟨p.credits[k], Amount.credit, none, by simp, fun index ↦ ?_⟩
    simp only [getElem?_creditOperations, List.getElem?_eq_getElem hlt]
    rfl
  | some payer =>
    cases k with
    | zero => exact ⟨payer, Amount.debit, none, by simp, fun index ↦ rfl⟩
    | succ j =>
      have hlt : j < p.credits.length := by
        simp only [Posting.count, hdebit, Option.toList_some, List.length_singleton] at hk
        omega
      refine ⟨p.credits[j], Amount.credit, some 0, by simp, fun index ↦ ?_⟩
      simp only [List.getElem?_cons_succ, getElem?_creditOperations,
        List.getElem?_eq_getElem hlt, Option.map_some, operationFrom, Nat.add_zero,
        Nat.add_assoc, Nat.add_comm 1 j]

/-- At each place of a list of postings there is an operation of one of them, which is the same
wherever the numbering starts, but for the numbers. -/
theorem exists_operationFrom (ps : List Posting) {place : Nat}
    (hplace : place < sumOf Posting.count ps) :
    ∃ p ∈ ps, ∃ side render debit, (∀ d ∈ debit, d < place) ∧
      ∀ start, (numbered currency start ps)[place]? =
        some (operationFrom currency p side render debit place start) := by
  induction ps generalizing place with
  | nil => simp at hplace
  | cons p rest ih =>
    by_cases hlt : place < p.count
    · obtain ⟨side, render, debit, hbefore, hoperation⟩ :=
        exists_operationFrom_posting currency p hlt
      refine ⟨p, List.mem_cons_self, side, render, debit, hbefore, fun start ↦ ?_⟩
      have hfirst : place < (p.operations currency start).length := by
        rwa [length_operations]
      rw [numbered, List.getElem?_append_left hfirst, hoperation]
    · rw [sumOf_cons] at hplace
      -- The rest is numbered after `p`, which has as many operations wherever it starts.
      obtain ⟨j, rfl⟩ := Nat.exists_eq_add_of_le (Nat.le_of_not_lt hlt)
      have hrest : j < sumOf Posting.count rest := by omega
      obtain ⟨q, hq, side, render, debit, hbefore, hoperation⟩ := ih hrest
      refine ⟨q, List.mem_cons_of_mem p hq, side, render, debit.map (p.count + ·), ?_,
        fun start ↦ ?_⟩
      · intro d hd
        obtain ⟨e, he, rfl⟩ := Option.mem_map.mp hd
        have := hbefore e he
        omega
      · have hfirst : (p.operations currency start).length ≤ p.count + j := by
          rw [length_operations]
          omega
        rw [numbered, List.getElem?_append_right hfirst, length_operations, Nat.add_sub_cancel_left,
          hoperation, operationFrom, operationFrom, Option.map_map, Nat.add_assoc]
        simp only [Function.comp_def, Nat.add_assoc]

end Numbering

/-! ### The fees of two runs -/

section Runs

variable {t : SignedTransaction} {receipt : Receipt} {block : BlockContext} {chain : Chain}

/-- Nothing that tells of the execution is read for the fees. -/
theorem ChargedAlike.feePostings_eq {first second : Receipt} (halike : ChargedAlike first second)
    (t : SignedTransaction) (block : BlockContext) (chain : Chain) :
    feePostings t second block chain = feePostings t first block chain := by
  obtain ⟨status, logs, logsBloom, contractAddress, cumulativeGasUsed, rfl⟩ := halike
  rfl

theorem ChargedAlike.transactionHash_eq {first second : Receipt}
    (halike : ChargedAlike first second) : second.transactionHash = first.transactionHash := by
  obtain ⟨status, logs, logsBloom, contractAddress, cumulativeGasUsed, rfl⟩ := halike
  rfl

/-- Fees are charged successfully. -/
theorem error_of_mem_feePostings {fees : List Posting}
    (hfees : feePostings t receipt block chain = .ok fees) {p : Posting} (hp : p ∈ fees) :
    p.error = none := by
  obtain ⟨type, payer, paid, credits, -, hp⟩ := exists_feePosting hfees hp
  rw [(mem_feePosting hp).2]

/-- A transaction whose receipt is its own is flattened to the operations of its minting and calls
and then those of its fees. -/
theorem flatten_of_feePostings (hown : receipt.transactionHash = t.hash) (arena : Arena)
    {fees : List Posting} (hfees : feePostings t receipt block chain = .ok fees) :
    flatten t receipt arena block chain =
      .ok (numbered chain.currency 0 (mintPostings t ++ callPostings arena receipt.succeeded) ++
        numbered chain.currency
          (numbered chain.currency 0
            (mintPostings t ++ callPostings arena receipt.succeeded)).length fees) := by
  simp only [flatten, postings, hown, hfees, ne_eq, not_true_eq_false, if_false, bind, Except.bind,
    pure, Except.pure, numbered_append, Nat.zero_add]

/-- Neither the minting nor the calls are of a type of fee. -/
theorem not_isFeeType_of_mem (arena : Arena) (succeeded : Bool) {o : Operation}
    (ho : o ∈ numbered chain.currency 0 (mintPostings t ++ callPostings arena succeeded)) :
    ¬ IsFeeType o.type := by
  obtain ⟨p, hp, htype⟩ := exists_posting_of_mem_numbered chain.currency _ 0 ho
  rw [htype]
  rcases List.mem_append.mp hp with hp | hp
  · rcases mintPostings_eq t with hmint | ⟨receiver, hmint⟩
    · simp [hmint] at hp
    · rw [hmint, List.mem_singleton] at hp
      simp [hp, IsFeeType]
  · have hcall := (proper_callPostings hp).2
    rintro (hfee | hfee | hfee) <;> simp [IsCallType, hfee] at hcall

/-- The operations of one posting that charges, in two lists that are numbered from `n` and from `m`
on. -/
theorem counterparts_operationFrom {p : Posting} (htype : IsFeeType p.type)
    (herror : p.error = none) (currency : Currency) (side : Side)
    (render : Word 256 → Currency → Amount) {debit : Option Nat} {place : Nat}
    (hbefore : ∀ d ∈ debit, d < place) (n m : Nat) :
    Counterparts n m place (operationFrom currency p side render debit place n)
      (operationFrom currency p side render debit place m) where
  type := ⟨htype, rfl⟩
  account := rfl
  amount := rfl
  status := by simp [operationFrom, Posting.operation, herror]
  metadata := by simp [operationFrom, Posting.operation, herror]
  index := ⟨rfl, rfl⟩
  related := by
    cases debit with
    | none => exact Or.inl ⟨rfl, rfl⟩
    | some d => exact Or.inr ⟨d, hbefore d rfl, rfl, rfl⟩
  apart := by
    intro hn hm
    have happart {k : Nat} (hk : k ≤ place) :
        ((Word.wrap 64 (m + k)).toNat : ℤ) - (Word.wrap 64 (n + k)).toNat = m - n := by
      rw [toNat_wrap_of_lt (by omega), toNat_wrap_of_lt (by omega)]
      push_cast
      ring
    refine ⟨happart (Nat.le_refl place), ?_⟩
    intro named other hnamed hother
    cases debit with
    | none => cases hnamed
    | some d =>
      cases hnamed
      cases hother
      exact happart (Nat.le_of_lt (hbefore d rfl))

/-- The fees of a transaction do not depend on its execution. Whatever the traces are and whether or
not it succeeded, two runs fail with the same error, or both end with the same number of fees, which
correspond place by place, and have no fees before them. -/
theorem fees_agree_of_alike {first second : Receipt} (halike : ChargedAlike first second)
    (t : SignedTransaction) (trace other : Arena) (block : BlockContext) (chain : Chain) :
    (∃ error, flatten t first trace block chain = .error error ∧
      flatten t second other block chain = .error error) ∨
    ∃ before fees before' fees', flatten t first trace block chain = .ok (before ++ fees) ∧
      flatten t second other block chain = .ok (before' ++ fees') ∧
      (∀ o ∈ before ++ before', ¬ IsFeeType o.type) ∧ fees.length = fees'.length ∧
      ∀ place o o', fees[place]? = some o → fees'[place]? = some o' →
        Counterparts before.length before'.length place o o' := by
  have hpostings := halike.feePostings_eq t block chain
  have hhash := halike.transactionHash_eq
  by_cases hown : first.transactionHash = t.hash
  · have hown' : second.transactionHash = t.hash := hhash.trans hown
    cases hfees : feePostings t first block chain with
    | error error =>
      rw [hfees] at hpostings
      refine Or.inl ⟨error, ?_, ?_⟩
      · simp [flatten, postings, hown, hfees, bind, Except.bind]
      · simp [flatten, postings, hown', hpostings, bind, Except.bind]
    | ok fees =>
      rw [hfees] at hpostings
      refine Or.inr ⟨_, _, _, _, flatten_of_feePostings hown trace hfees,
        flatten_of_feePostings hown' other hpostings, ?_, ?_, ?_⟩
      · intro o ho
        rcases List.mem_append.mp ho with ho | ho
        · exact not_isFeeType_of_mem trace _ ho
        · exact not_isFeeType_of_mem other _ ho
      · rw [length_numbered, length_numbered]
      · intro place o o' ho ho'
        have hplace : place < sumOf Posting.count fees := by
          obtain ⟨hlt, -⟩ := List.getElem?_eq_some_iff.mp ho
          rwa [length_numbered] at hlt
        obtain ⟨p, hp, side, render, debit, hbefore, hoperation⟩ :=
          exists_operationFrom chain.currency fees hplace
        rw [hoperation, Option.some.injEq] at ho ho'
        subst ho ho'
        exact counterparts_operationFrom (type_of_mem_feePostings hfees hp)
          (error_of_mem_feePostings hfees hp) chain.currency side render hbefore _ _
  · refine Or.inl ⟨.receiptMismatch t.hash first.transactionHash, ?_, ?_⟩
    · simp [flatten, postings, hown, bind, Except.bind]
    · simp [flatten, postings, hhash, hown, bind, Except.bind]

end Runs

/-! ### A transaction that may have failed -/

namespace Sample

/-- A receipt of the sample that says it failed, after more gas in the block. -/
def failed : Receipt := { receipt with status := some 0, cumulativeGasUsed := 90 }

theorem chargedAlike_failed : ChargedAlike receipt failed := ⟨_, _, _, _, _, rfl⟩

end Sample

/-- Whether the sample made its calls or failed without a trace, it is charged alike. -/
theorem fees_agree_of_alike_failed :
    ChargedAlike Sample.receipt Sample.failed ∧
      ∃ arena before fees before' fees', Arena.ofFrame Sample.trace = .ok arena ∧
        flatten Sample.transfer Sample.receipt arena Sample.block .standard =
          .ok (before ++ fees) ∧
        flatten Sample.transfer Sample.failed ⟨[]⟩ Sample.block .standard =
          .ok (before' ++ fees') ∧
        fees.length = fees'.length ∧ ∀ place o o', fees[place]? = some o →
          fees'[place]? = some o' → Counterparts before.length before'.length place o o' := by
  obtain ⟨arena, harena⟩ := Sample.arena_trace
  obtain ⟨operations, hflat⟩ := Sample.flatten_transfer arena
  refine ⟨Sample.chargedAlike_failed, arena, ?_⟩
  rcases fees_agree_of_alike Sample.chargedAlike_failed Sample.transfer arena ⟨[]⟩ Sample.block
    .standard with
    ⟨error, hfirst, -⟩ | ⟨before, fees, before', fees', hfirst, hsecond, -, hrest⟩
  · cases hfirst.symm.trans hflat
  · exact ⟨before, fees, before', fees', harena, hfirst, hsecond, hrest⟩

end RollupLedger.Flatten
