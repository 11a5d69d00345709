import RollupLedger.Proofs.Gate.Custody
import RollupLedger.Request.World

/-!
# What is held, and how it changes hands

`Stake` gathers what someone has at the gate and with the node: tickets that are waited for,
admitted tickets with the traces that were asked for under them, and traces asked for without a
ticket.

`World.Step w w₁ mine mine₁` has one constructor for each thing that can happen to the world at
once: whoever had `mine` before has `mine₁` afterwards. A `World.Passage` is made of such steps, one
after another, each of them a step of a part of the stake. What every step preserves, whatever
others hold, a passage preserves (`World.Passage.preserves`); in particular the tickets of the gate
stay those of a stake (`World.Trade`), and the tickets of others stay admitted
(`World.Trade.isAdmitted`).
-/

set_option autoImplicit false
set_option relaxedAutoImplicit false

namespace RollupLedger

/-- A ticket that is waited for, an admitted ticket with the traces asked for under it, or traces
asked for without a ticket. -/
inductive Holding where
  | queued (claim : Admitted)
  | flown (claim : Admitted) (traces : Nat)
  | loose (traces : Nat)

namespace Holding

def queued? : Holding → Option Admitted
  | queued claim => some claim
  | _ => none

def flown? : Holding → Option Admitted
  | flown claim _ => some claim
  | _ => none

/-- The traces asked for. -/
def traces : Holding → Nat
  | queued _ => 0
  | flown _ traces => traces
  | loose traces => traces

/-- The units that traces may be asked for under. -/
def units : Holding → Nat
  | flown claim _ => claim.units
  | _ => 0

end Holding

/-- What belongs to someone. -/
@[ext] structure Stake where
  holdings : List Holding

namespace Stake

instance : EmptyCollection Stake := ⟨⟨[]⟩⟩

instance : Append Stake := ⟨fun a b ↦ ⟨a.holdings ++ b.holdings⟩⟩

@[simp] theorem holdings_empty : (∅ : Stake).holdings = [] := rfl

@[simp] theorem holdings_append (a b : Stake) : (a ++ b).holdings = a.holdings ++ b.holdings := rfl

/-- The tickets known to be admitted. -/
def flown (stake : Stake) : List Admitted := stake.holdings.filterMap Holding.flown?

/-- The tickets that are waited for. -/
def queued (stake : Stake) : List Admitted := stake.holdings.filterMap Holding.queued?

/-- The traces asked for. -/
def traces (stake : Stake) : Nat := sumOf Holding.traces stake.holdings

@[simp] theorem flown_empty : (∅ : Stake).flown = [] := rfl

@[simp] theorem queued_empty : (∅ : Stake).queued = [] := rfl

@[simp] theorem traces_empty : (∅ : Stake).traces = 0 := rfl

@[simp] theorem flown_append (a b : Stake) : (a ++ b).flown = a.flown ++ b.flown :=
  List.filterMap_append

@[simp] theorem queued_append (a b : Stake) : (a ++ b).queued = a.queued ++ b.queued :=
  List.filterMap_append

@[simp] theorem traces_append (a b : Stake) : (a ++ b).traces = a.traces + b.traces :=
  sumOf_append _ _ _

@[simp] theorem empty_append (a : Stake) : ∅ ++ a = a := by
  ext1
  simp

@[simp] theorem append_empty (a : Stake) : a ++ ∅ = a := by
  ext1
  simp

theorem append_assoc (a b c : Stake) : a ++ b ++ c = a ++ (b ++ c) := by
  ext1
  simp

def all (stakes : List Stake) : Stake := stakes.foldr (· ++ ·) ∅

@[simp] theorem all_nil : all [] = ∅ := rfl

@[simp] theorem all_cons (stake : Stake) (rest : List Stake) :
    all (stake :: rest) = stake ++ all rest := rfl

theorem all_append (first rest : List Stake) : all (first ++ rest) = all first ++ all rest := by
  induction first with
  | nil => simp
  | cons stake others ih => rw [List.cons_append, all_cons, all_cons, ih, append_assoc]

/-- The stake with given tickets and no traces. -/
def ofClaims (flown queued : List Admitted) : Stake :=
  ⟨flown.map (.flown · 0) ++ queued.map .queued⟩

theorem flown_ofClaims (flown queued : List Admitted) : (ofClaims flown queued).flown = flown := by
  simp [ofClaims, Stake.flown, List.filterMap_map, Function.comp_def, Holding.flown?]

theorem queued_ofClaims (flown queued : List Admitted) :
    (ofClaims flown queued).queued = queued := by
  simp [ofClaims, Stake.queued, List.filterMap_map, Function.comp_def, Holding.queued?]

theorem mem_flown_all {stakes : List Stake} {claim : Admitted} :
    claim ∈ (all stakes).flown ↔ ∃ stake ∈ stakes, claim ∈ stake.flown := by
  induction stakes with
  | nil => simp
  | cons stake rest ih => simp [ih]

theorem mem_queued_all {stakes : List Stake} {claim : Admitted} :
    claim ∈ (all stakes).queued ↔ ∃ stake ∈ stakes, claim ∈ stake.queued := by
  induction stakes with
  | nil => simp
  | cons stake rest ih => simp [ih]

theorem all_eq_empty {stakes : List Stake} (hstakes : ∀ stake ∈ stakes, stake = ∅) :
    all stakes = ∅ := by
  induction stakes with
  | nil => rfl
  | cons stake rest ih =>
    rw [all_cons, hstakes stake List.mem_cons_self, empty_append]
    exact ih fun other hother ↦ hstakes other (List.mem_cons_of_mem stake hother)

end Stake

/-- What a request on its way holds, with the units of its ticket. -/
def Flight.stake (units : Nat) (flight : Flight) : Stake :=
  match flight.ticket with
  | some ticket => ⟨[.flown ⟨ticket, units⟩ flight.traces]⟩
  | none => ⟨[.loose flight.traces]⟩

theorem Flight.queued_stake (units : Nat) (flight : Flight) : (flight.stake units).queued = [] := by
  unfold Flight.stake
  split <;> rfl

theorem Flight.traces_stake (units : Nat) (flight : Flight) :
    (flight.stake units).traces = flight.traces := by
  unfold Flight.stake
  split <;> exact Nat.add_zero _

/-! ### Steps of the world -/

namespace World

variable {σ : Type} {allowed : Nat → Nat → Prop} {capacity : Nat} {w w₁ w₂ : World σ}
  {mine mine₁ mine₂ yours yours₁ : Stake}

/-- Traces are asked for, without a ticket or under an admitted one, if they are allowed under its
units. -/
inductive Departs (allowed : Nat → Nat → Prop) (traces : Nat) : Stake → Stake → Prop
  | loose (hallowed : allowed traces 0) : Departs allowed traces ∅ ⟨[.loose traces]⟩
  | flown (claim : Admitted) (hallowed : allowed traces claim.units) :
    Departs allowed traces ⟨[.flown claim 0]⟩ ⟨[.flown claim traces]⟩

inductive Step (allowed : Nat → Nat → Prop) (capacity : Nat) :
    World σ → World σ → Stake → Stake → Prop
  | note (w : World σ) (block : Option String) (event : Event) :
    Step allowed capacity w (w.note block event) ∅ ∅
  | call (w : World σ) (block : Option String) (c : Call) {mine mine₁ : Stake}
    (hdeparts : Departs allowed (Request.call c).traces mine mine₁) :
    Step allowed capacity w (w.sendCall block c).2 mine mine₁
  | batch (w : World σ) (block : Option String) (cs : List Call) {mine mine₁ : Stake}
    (hdeparts : Departs allowed (Request.batch cs).traces mine mine₁) :
    Step allowed capacity w (w.sendBatch block cs).2 mine mine₁
  | query (w : World σ) (block : Option String) (document : String) {mine mine₁ : Stake}
    (hdeparts : Departs allowed (Request.query document).traces mine mine₁) :
    Step allowed capacity w (w.sendQuery block document).2 mine mine₁
  | acquire (w : World σ) (units : Nat) :
    Step allowed capacity w { w with gate := (w.gate.acquire units).2 } ∅
      ⟨[.queued ⟨(w.gate.acquire units).1, max 1 (min units capacity)⟩]⟩
  | grant (w : World σ) (claim : Admitted) (hadmitted : w.gate.isAdmitted claim.ticket = true) :
    Step allowed capacity w w ⟨[.queued claim]⟩ ⟨[.flown claim 0]⟩
  | release (w : World σ) (claim : Admitted) :
    Step allowed capacity w { w with gate := w.gate.release claim.ticket } ⟨[.queued claim]⟩ ∅
  | land (w : World σ) (flight : Flight) (units : Nat) :
    Step allowed capacity w (w.land flight) (flight.stake units) ∅

inductive Passage (allowed : Nat → Nat → Prop) (capacity : Nat) :
    World σ → World σ → Stake → Stake → Prop
  | refl (w : World σ) (mine : Stake) : Passage allowed capacity w w mine mine
  | step {w w₁ : World σ} {mine mine₁ : Stake} (hstep : Step allowed capacity w w₁ mine mine₁) :
    Passage allowed capacity w w₁ mine mine₁
  | trans {w w₁ w₂ : World σ} {mine mine₁ mine₂ : Stake}
    (hfirst : Passage allowed capacity w w₁ mine mine₁)
    (hthen : Passage allowed capacity w₁ w₂ mine₁ mine₂) : Passage allowed capacity w w₂ mine mine₂
  | right {w w₁ : World σ} {mine mine₁ : Stake}
    (hpassage : Passage allowed capacity w w₁ mine mine₁) (yours : Stake) :
    Passage allowed capacity w w₁ (mine ++ yours) (mine₁ ++ yours)
  | left {w w₁ : World σ} {mine mine₁ : Stake}
    (hpassage : Passage allowed capacity w w₁ mine mine₁) (yours : Stake) :
    Passage allowed capacity w w₁ (yours ++ mine) (yours ++ mine₁)

theorem Step.node (hstep : Step allowed capacity w w₁ mine mine₁) : w₁.node = w.node := by
  cases hstep <;> rfl

theorem Step.now (hstep : Step allowed capacity w w₁ mine mine₁) : w₁.now = w.now := by
  cases hstep <;> rfl

namespace Passage

/-- One passage after another, each with a stake of its own. -/
theorem append (hfirst : Passage allowed capacity w w₁ mine mine₁)
    (hthen : Passage allowed capacity w₁ w₂ yours yours₁) :
    Passage allowed capacity w w₂ (mine ++ yours) (mine₁ ++ yours₁) :=
  (hfirst.right yours).trans (hthen.left mine₁)

theorem node (hpassage : Passage allowed capacity w w₁ mine mine₁) : w₁.node = w.node := by
  induction hpassage with
  | refl w mine => rfl
  | step hstep => exact hstep.node
  | trans _ _ ihfirst ihthen => exact ihthen.trans ihfirst
  | right _ _ ih => exact ih
  | left _ _ ih => exact ih

theorem now (hpassage : Passage allowed capacity w w₁ mine mine₁) : w₁.now = w.now := by
  induction hpassage with
  | refl w mine => rfl
  | step hstep => exact hstep.now
  | trans _ _ ihfirst ihthen => exact ihthen.trans ihfirst
  | right _ _ ih => exact ih
  | left _ _ ih => exact ih

/-- What each step preserves of the world and all that is held, whatever others hold, a passage
preserves. -/
theorem preserves (holds : World σ → Stake → Prop)
    (hswap : ∀ w mine yours, holds w (mine ++ yours) → holds w (yours ++ mine))
    (hsteps : ∀ w w₁ mine mine₁, Step allowed capacity w w₁ mine mine₁ → ∀ others,
      holds w (mine ++ others) → holds w₁ (mine₁ ++ others))
    (hpassage : Passage allowed capacity w w₁ mine mine₁) (others : Stake)
    (hholds : holds w (mine ++ others)) : holds w₁ (mine₁ ++ others) := by
  induction hpassage generalizing others with
  | refl w mine => exact hholds
  | step hstep => exact hsteps _ _ _ _ hstep others hholds
  | trans _ _ ihfirst ihthen => exact ihthen others (ihfirst others hholds)
  | right _ yours ih =>
    rw [Stake.append_assoc] at hholds ⊢
    exact ih (yours ++ others) hholds
  | left _ yours ih =>
    rw [Stake.append_assoc] at hholds ⊢
    have hmine := hswap _ _ _ hholds
    rw [Stake.append_assoc] at hmine
    have hmine₁ := ih (others ++ yours) hmine
    rw [← Stake.append_assoc] at hmine₁
    exact hswap _ _ _ hmine₁

end Passage

/-! ### Trades of tickets -/

/-- The tickets of a gate of the given capacity are those of a stake. -/
def Holds (capacity : Nat) (w : World σ) (stake : Stake) : Prop :=
  w.gate.capacity = capacity ∧ w.gate.Custody stake.flown stake.queued

structure Trade (capacity : Nat) (w w₁ : World σ) (mine mine₁ : Stake) : Prop where
  node : w₁.node = w.node
  now : w₁.now = w.now
  holds : ∀ others : Stake, w.Holds capacity (mine ++ others) → w₁.Holds capacity (mine₁ ++ others)

theorem Holds.comm (hholds : w.Holds capacity (mine ++ yours)) :
    w.Holds capacity (yours ++ mine) := by
  unfold Holds at hholds ⊢
  rw [Stake.flown_append, Stake.queued_append] at hholds ⊢
  exact ⟨hholds.1, hholds.2.perm List.perm_append_comm List.perm_append_comm⟩

theorem Departs.flown_eq {traces : Nat} (hdeparts : Departs allowed traces mine mine₁) :
    mine₁.flown = mine.flown ∧ mine₁.queued = mine.queued := by
  cases hdeparts <;> exact ⟨rfl, rfl⟩

theorem Step.holds (hstep : Step allowed capacity w w₁ mine mine₁) (others : Stake)
    (hholds : w.Holds capacity (mine ++ others)) : w₁.Holds capacity (mine₁ ++ others) := by
  unfold Holds at hholds ⊢
  rw [Stake.flown_append, Stake.queued_append] at hholds ⊢
  cases hstep with
  | note block event => exact hholds
  | call block c hdeparts =>
    rw [hdeparts.flown_eq.1, hdeparts.flown_eq.2]
    exact hholds
  | batch block cs hdeparts =>
    rw [hdeparts.flown_eq.1, hdeparts.flown_eq.2]
    exact hholds
  | query block document hdeparts =>
    rw [hdeparts.flown_eq.1, hdeparts.flown_eq.2]
    exact hholds
  | acquire units =>
    obtain ⟨rfl, hcustody⟩ := hholds
    refine ⟨?_, hcustody.acquire units⟩
    simp only [Gate.acquire]
    split <;> rfl
  | grant claim hadmitted => exact ⟨hholds.1, hholds.2.grant hadmitted⟩
  | release claim => exact ⟨hholds.1, hholds.2.release⟩
  | land flight units =>
    unfold Flight.stake at hholds
    cases hticket : flight.ticket with
    | none =>
      rw [hticket] at hholds
      simp only [World.land, hticket]
      exact hholds
    | some ticket =>
      rw [hticket] at hholds
      have hforget : w.gate.Custody others.flown (⟨ticket, units⟩ :: others.queued) :=
        hholds.2.forget
      simp only [World.land, hticket]
      exact ⟨hholds.1, hforget.release⟩

theorem Passage.trade (hpassage : Passage allowed capacity w w₁ mine mine₁) :
    Trade capacity w w₁ mine mine₁ where
  node := hpassage.node
  now := hpassage.now
  holds := fun others hholds ↦ hpassage.preserves (Holds capacity)
    (fun _ _ _ hholds ↦ hholds.comm) (fun _ _ _ _ hstep ↦ hstep.holds) others hholds

/-- Admitted tickets of others stay admitted. -/
theorem Trade.isAdmitted (htrade : Trade capacity w w₁ mine mine₁) {others : Stake}
    (hholds : w.Holds capacity (mine ++ others)) {claim : Admitted}
    (hclaim : claim ∈ others.flown ++ others.queued)
    (hadmitted : w.gate.isAdmitted claim.ticket = true) :
    w₁.gate.isAdmitted claim.ticket = true := by
  rcases List.mem_append.mp hclaim with hflown | hqueued
  · have hholds₁ := htrade.holds others hholds
    have hmem : claim ∈ (mine₁ ++ others).flown := by simp [hflown]
    exact Gate.isAdmitted_iff.mpr ⟨claim, hholds₁.2.admitted claim hmem, rfl⟩
  · obtain ⟨before, after, hsplit⟩ := List.append_of_mem hqueued
    -- The ticket counts as known to be admitted.
    have hfront : (mine ++ others).queued.Perm (claim :: (mine.queued ++ (before ++ after))) := by
      rw [Stake.queued_append, hsplit, ← List.append_assoc, ← List.append_assoc]
      exact List.perm_middle
    have hknown :
        w.Holds capacity (mine ++ .ofClaims (claim :: others.flown) (before ++ after)) := by
      refine ⟨hholds.1, ?_⟩
      have hgranted := (hholds.2.perm (List.Perm.refl _) hfront).grant hadmitted
      rw [Stake.flown_append] at hgranted
      rw [Stake.flown_append, Stake.queued_append, Stake.flown_ofClaims, Stake.queued_ofClaims]
      exact hgranted.perm List.perm_middle.symm (List.Perm.refl _)
    have hmem :
        claim ∈ (mine₁ ++ Stake.ofClaims (claim :: others.flown) (before ++ after)).flown := by
      simp [Stake.flown_ofClaims]
    exact Gate.isAdmitted_iff.mpr ⟨claim, (htrade.holds _ hknown).2.admitted claim hmem, rfl⟩

end World

end RollupLedger
