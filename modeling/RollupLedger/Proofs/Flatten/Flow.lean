import RollupLedger.Proofs.Flatten.Walk
import RollupLedger.Proofs.Ledger.Reading
import Mathlib.Tactic.Ring

/-!
# How much value operations move

A selection of operations by type, status and account is weighed by the exact sum of the signed
amounts in it (`weight`). The weight of numbered postings is the sum of what each posting adds
(`weight_numbered`), and the amounts of numbered postings can all be read and are all in one
currency (`sound_of_mem_numbered`), so reading them gives that sum (`exists_readAmounts?_selected`).

For a selection of successful operations two kinds of posting are weighed once for all: those of the
visits of a walk (`flow_visits`), where only successful transfers count, and those of a fee
(`flow_feePosting`).
-/

set_option autoImplicit false
set_option relaxedAutoImplicit false

namespace RollupLedger.Flatten

open Ledger Trace Wire

/-- Which operations are weighed. -/
abbrev Selection := OperationType → OperationStatus → Option AccountIdentifier → Bool

variable (select : Selection)

def selected (operations : List Operation) : List Operation :=
  operations.filter fun o ↦ select o.type o.status o.account

/-- The exact sum of the signed amounts of the selected operations. -/
def weight (operations : List Operation) : Int :=
  ((selected select operations).map Operation.delta).sum

theorem weight_append (first rest : List Operation) :
    weight select (first ++ rest) = weight select first + weight select rest := by
  simp [weight, selected]

theorem weight_cons (o : Operation) (rest : List Operation) :
    weight select (o :: rest) =
      (if select o.type o.status o.account then o.delta else 0) + weight select rest := by
  unfold weight selected
  rw [List.filter_cons]
  split <;> simp

/-! ### Postings -/

namespace Posting

variable (p : Posting) (currency : Currency)

def status : OperationStatus := if p.error.isSome then .failure else .success

/-- The value of a side, if its operation is selected. -/
def share (side : Side) : Int :=
  if select p.type p.status (some (account side.account)) then side.value.toNat else 0

/-- What a posting adds to the weight. -/
def flow : Int :=
  (p.credits.map (p.share select)).sum - ((p.debit.map (p.share select)).getD 0)

theorem delta_credit (index : Nat) (related : Option (List (Word 64))) (side : Side) :
    (p.operation currency index related side Amount.credit).delta = side.value.toNat := by
  by_cases hzero : side.value.toNat = 0
  · simp [operation, Operation.delta, Word.nonzero?, Word.isZero, hzero]
  · simp [operation, Operation.delta, Word.nonzero?, Word.isZero, hzero, Amount.signed?_credit,
      Signed.toInt]

theorem delta_debit (index : Nat) (related : Option (List (Word 64))) (side : Side) :
    (p.operation currency index related side Amount.debit).delta = -side.value.toNat := by
  by_cases hzero : side.value.toNat = 0
  · simp [operation, Operation.delta, Word.nonzero?, Word.isZero, hzero]
  · simp [operation, Operation.delta, Word.nonzero?, Word.isZero, hzero,
      Amount.signed?_debit hzero, Signed.toInt]

theorem weight_creditOperations (related : Option (List (Word 64))) (sides : List Side)
    (index : Nat) :
    weight select (p.creditOperations currency related index sides) =
      (sides.map (p.share select)).sum := by
  induction sides generalizing index with
  | nil => rfl
  | cons side rest ih =>
    rw [creditOperations, weight_cons, ih, delta_credit]
    rfl

theorem weight_operations (index : Nat) :
    weight select (p.operations currency index) = p.flow select := by
  unfold operations flow
  cases hdebit : p.debit with
  | none => simp [weight_creditOperations]
  | some side =>
    have hside : (if select p.type p.status (some (account side.account)) then
        -(side.value.toNat : Int) else 0) = -p.share select side := by
      unfold share
      split <;> simp
    simp only [weight_cons, weight_creditOperations, delta_debit, Option.map_some,
      Option.getD_some]
    rw [Int.sub_eq_add_neg, Int.add_comm, ← hside]
    rfl

end Posting

variable (currency : Currency)

theorem weight_numbered (ps : List Posting) (index : Nat) :
    weight select (numbered currency index ps) = (ps.map (Posting.flow select)).sum := by
  induction ps generalizing index with
  | nil => rfl
  | cons p rest ih =>
    rw [numbered, weight_append, Posting.weight_operations, ih, List.map_cons, List.sum_cons]

/-! ### Every amount can be read -/

/-- A readable operation in the given currency. -/
def Sound (o : Operation) : Prop :=
  o.Readable ∧ ∀ amount, o.amount = some amount → amount.currency = currency

theorem sound_credit (p : Posting) (index : Nat) (related : Option (List (Word 64)))
    (side : Side) : Sound currency (p.operation currency index related side Amount.credit) := by
  refine ⟨fun amount hamount ↦ ?_, fun amount hamount ↦ ?_⟩ <;>
    obtain ⟨value, -, rfl⟩ := Option.map_eq_some_iff.mp hamount
  · rw [Amount.signed?_credit]
    rfl
  · rfl

theorem sound_debit (p : Posting) (index : Nat) (related : Option (List (Word 64)))
    (side : Side) : Sound currency (p.operation currency index related side Amount.debit) := by
  refine ⟨fun amount hamount ↦ ?_, fun amount hamount ↦ ?_⟩ <;>
    obtain ⟨value, hvalue, rfl⟩ := Option.map_eq_some_iff.mp hamount
  · have hnonzero : value.toNat ≠ 0 := by
      unfold Word.nonzero? at hvalue
      split at hvalue
      · cases hvalue
      · rename_i hzero
        cases hvalue
        simpa [Word.isZero] using hzero
    rw [Amount.signed?_debit hnonzero]
    rfl
  · rfl

theorem sound_of_mem_creditOperations (p : Posting) (related : Option (List (Word 64)))
    (sides : List Side) (index : Nat) {o : Operation}
    (ho : o ∈ p.creditOperations currency related index sides) : Sound currency o := by
  induction sides generalizing index with
  | nil => simp [Posting.creditOperations] at ho
  | cons side rest ih =>
    rw [Posting.creditOperations, List.mem_cons] at ho
    rcases ho with rfl | ho
    · exact sound_credit currency p index related side
    · exact ih (index + 1) ho

theorem sound_of_mem_numbered (ps : List Posting) (index : Nat) {o : Operation}
    (ho : o ∈ numbered currency index ps) : Sound currency o := by
  induction ps generalizing index with
  | nil => simp [numbered] at ho
  | cons p rest ih =>
    rw [numbered, List.mem_append] at ho
    rcases ho with ho | ho
    · unfold Posting.operations at ho
      cases hdebit : p.debit with
      | none =>
        simp only [hdebit] at ho
        exact sound_of_mem_creditOperations currency p none p.credits index ho
      | some side =>
        simp only [hdebit, List.mem_cons] at ho
        rcases ho with rfl | ho
        · exact sound_debit currency p index none side
        · exact sound_of_mem_creditOperations currency p _ p.credits (index + 1) ho
    · exact ih _ ho

/-- The amounts of the selected operations are read as numbers of the chain's currency that add up
to the sum of what the postings add. -/
theorem exists_readAmounts?_selected (ps : List Posting) (index : Nat) :
    ∃ entries, readAmounts?
        ((selected select (numbered currency index ps)).filterMap Operation.amount) =
        some entries ∧
      (entries.map fun e ↦ e.2.toInt).sum = (ps.map (Posting.flow select)).sum ∧
      ∀ e ∈ entries, e.1 = currency := by
  have hsound (o : Operation) (ho : o ∈ selected select (numbered currency index ps)) :
      Sound currency o :=
    sound_of_mem_numbered currency ps index (List.mem_filter.mp ho).1
  obtain ⟨entries, hread, hsum, hfrom⟩ := exists_readAmounts? _ fun o ho ↦ (hsound o ho).1
  refine ⟨entries, hread, ?_, fun e he ↦ ?_⟩
  · rw [hsum, ← weight_numbered select currency ps index]
    rfl
  · obtain ⟨o, ho, amount, hamount, hcurrency⟩ := hfrom e he
    rw [← hcurrency]
    exact (hsound o ho).2 amount hamount

/-! ### Visits -/

/-- The total value of the visits with a property that move value. -/
def movedBy (property : Visit → Bool) (visits : List Visit) : Nat :=
  ((visits.filter fun visit ↦ visit.transfers && property visit).map (·.value.toNat)).sum

theorem movedBy_cons (property : Visit → Bool) (visit : Visit) (rest : List Visit) :
    movedBy property (visit :: rest) =
      (if visit.transfers && property visit then visit.value.toNat else 0) +
        movedBy property rest := by
  unfold movedBy
  rw [List.filter_cons]
  split <;> simp

/-- The types that calls are reported as. -/
def IsCallType (type : OperationType) : Prop :=
  type = .call ∨ type = .create ∨ type = .create2 ∨ type = .destruct

theorem isCallType_of_reportedType? {kind : CallKind} {value : Word 256} {type : OperationType}
    (htype : reportedType? kind value = some type) : IsCallType type := by
  unfold IsCallType
  cases kind <;> simp [reportedType?] at htype <;> simp_all

section Visits

variable {select : Selection} {pick : Address → Bool}

/-- What a visit adds to the weight of a selection of successful calls: its value if its recipient
is picked, less its value if its caller is. -/
theorem flow_visitPosting? (hfailure : ∀ type holder, select type .failure holder = false)
    (hsuccess : ∀ type holder, IsCallType type →
      select type .success (some (account holder)) = pick holder)
    (visit : Visit) :
    ((visitPosting? visit).map (Posting.flow select)).getD 0 =
      (if visit.transfers && visit.body.callee.any pick then (visit.value.toNat : Int) else 0) -
        (if visit.transfers && pick visit.body.caller then (visit.value.toNat : Int) else 0) := by
  unfold visitPosting? Visit.frame?
  cases hkind : visit.kind? with
  | none => simp [Visit.transfers, hkind]
  | some kind =>
    simp only [Option.map_some, Option.bind_some, framePosting?_ofBody]
    cases htype : reportedType? kind visit.value with
    | none =>
      have hidle : visit.transfers = false ∨ visit.value.toNat = 0 := by
        cases kind <;> simp [reportedType?] at htype <;> simp [Visit.transfers, hkind, htype]
      rcases hidle with hidle | hidle <;> simp [hidle]
    | some type =>
      have htransfers : visit.transfers = visit.error.isNone := by
        cases kind <;> simp [reportedType?] at htype <;> simp [Visit.transfers, hkind]
      have hcall := isCallType_of_reportedType? htype
      simp only [Option.map_some, Option.getD_some, Posting.flow, htransfers]
      cases visit.error with
      | some error =>
        cases visit.body.callee <;> simp [Posting.share, Posting.status, hfailure]
      | none =>
        cases visit.body.callee <;> simp [Posting.share, Posting.status, hsuccess type _ hcall]

/-- What the visits of a walk add to the weight of a selection of successful calls. -/
theorem flow_visits (hfailure : ∀ type holder, select type .failure holder = false)
    (hsuccess : ∀ type holder, IsCallType type →
      select type .success (some (account holder)) = pick holder)
    (visits : List Visit) :
    ((visits.filterMap visitPosting?).map (Posting.flow select)).sum =
      movedBy (fun visit ↦ visit.body.callee.any pick) visits -
        movedBy (fun visit ↦ pick visit.body.caller) visits := by
  induction visits with
  | nil => rfl
  | cons visit rest ih =>
    have hhead := flow_visitPosting? hfailure hsuccess visit
    have hcons : (((visit :: rest).filterMap visitPosting?).map (Posting.flow select)).sum =
        ((visitPosting? visit).map (Posting.flow select)).getD 0 +
          ((rest.filterMap visitPosting?).map (Posting.flow select)).sum := by
      cases hposting : visitPosting? visit <;> simp [hposting]
    rw [hcons, hhead, ih, movedBy_cons, movedBy_cons]
    push_cast
    ring

end Visits

/-! ### Fees -/

/-- The value of a side of a successful posting, if its operation is selected. -/
def portion (type : OperationType) (side : Side) : Int :=
  if select type .success (some (account side.account)) then side.value.toNat else 0

theorem portion_of_value_eq_zero (type : OperationType) {side : Side}
    (hzero : side.value.toNat = 0) : portion select type side = 0 := by
  simp [portion, hzero]

theorem sum_portion_filter (type : OperationType) (credits : List Side) :
    ((credits.filter fun side ↦ !side.value.isZero).map (portion select type)).sum =
      (credits.map (portion select type)).sum := by
  induction credits with
  | nil => rfl
  | cons side rest ih =>
    by_cases hzero : side.value.toNat = 0
    · simp [Word.isZero_iff.mpr hzero, ih, portion_of_value_eq_zero select type hzero]
    · simp [Word.isZero_eq_false_iff.mpr hzero, ih]

/-- What a fee adds to the weight: the portions of those who are credited less that of the payer.
The credits of a fee of nothing are themselves of nothing. -/
theorem flow_feePosting (type : OperationType) (payer : Address) (paid : Word 256)
    (credits : List Side)
    (hcovered : paid.toNat = 0 → ∀ side ∈ credits, side.value.toNat = 0) :
    ((feePosting type payer paid credits).map (Posting.flow select)).sum =
      (credits.map (portion select type)).sum - portion select type ⟨payer, paid⟩ := by
  unfold feePosting
  by_cases hzero : paid.toNat = 0
  · have hnothing : (credits.map (portion select type)).sum = 0 := by
      refine List.sum_eq_zero fun share hshare ↦ ?_
      obtain ⟨side, hside, rfl⟩ := List.mem_map.mp hshare
      exact portion_of_value_eq_zero select type (hcovered hzero side hside)
    rw [hnothing, portion_of_value_eq_zero select type hzero]
    simp [Word.isZero_iff.mpr hzero]
  · rw [if_neg (by simpa [Word.isZero_iff] using hzero), List.map_singleton, List.sum_singleton,
      ← sum_portion_filter]
    rfl

end RollupLedger.Flatten
