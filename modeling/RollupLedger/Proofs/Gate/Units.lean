import RollupLedger.Gate

/-!
# The gate keeps its units

Whatever is asked of a gate and whatever is returned to it, the free units, those of admitted
tickets and those that waiting tickets have make up its capacity, and none are free while someone
waits. Only the head of the queue has units while it waits. This is `Gate.Sound`, which a new gate
has and which asking and releasing preserve.
-/

set_option autoImplicit false
set_option relaxedAutoImplicit false

namespace RollupLedger

/-- A waiter still needs units, and no more than there are. -/
structure Waiter.Fits (capacity : Nat) (waiter : Waiter) : Prop where
  needs_pos : 1 ≤ waiter.needs
  within : waiter.has + waiter.needs ≤ capacity

namespace Gate

/-- A queue of fitting waiters in which only the head has units. -/
def Lined (capacity : Nat) : List Waiter → Prop
  | [] => True
  | head :: rest => head.Fits capacity ∧ ∀ waiter ∈ rest, waiter.has = 0 ∧ waiter.Fits capacity

/-- The units that waiters have. -/
def reserved (queue : List Waiter) : Nat := sumOf Waiter.has queue

structure Sound (gate : Gate) : Prop where
  positive : 1 ≤ gate.capacity
  conserved : gate.available + gate.held + reserved gate.queue = gate.capacity
  unspent : gate.queue ≠ [] → gate.available = 0
  lined : Lined gate.capacity gate.queue

/-! ### Queues -/

variable {capacity : Nat}

theorem lined_of_forall {queue : List Waiter}
    (hqueue : ∀ waiter ∈ queue, waiter.has = 0 ∧ waiter.Fits capacity) : Lined capacity queue := by
  cases queue with
  | nil => trivial
  | cons head rest =>
    exact ⟨(hqueue head List.mem_cons_self).2, fun waiter hwaiter ↦
      hqueue waiter (List.mem_cons_of_mem head hwaiter)⟩

theorem fits_of_mem {queue : List Waiter} (hlined : Lined capacity queue) {waiter : Waiter}
    (hwaiter : waiter ∈ queue) : waiter.Fits capacity := by
  cases queue with
  | nil => cases hwaiter
  | cons head rest =>
    rcases List.mem_cons.mp hwaiter with rfl | hwaiter
    · exact hlined.1
    · exact (hlined.2 waiter hwaiter).2

theorem lined_filter {queue : List Waiter} (hlined : Lined capacity queue) (p : Waiter → Bool) :
    Lined capacity (queue.filter p) := by
  cases queue with
  | nil => trivial
  | cons head rest =>
    have hrest : ∀ waiter ∈ rest.filter p, waiter.has = 0 ∧ waiter.Fits capacity :=
      fun waiter hwaiter ↦ hlined.2 waiter (List.mem_filter.mp hwaiter).1
    rw [List.filter_cons]
    split
    · exact ⟨hlined.1, hrest⟩
    · exact lined_of_forall hrest

theorem lined_append_singleton {queue : List Waiter} (hlined : Lined capacity queue)
    {waiter : Waiter} (hfits : waiter.Fits capacity) (hhas : queue ≠ [] → waiter.has = 0) :
    Lined capacity (queue ++ [waiter]) := by
  cases queue with
  | nil => exact ⟨hfits, by simp⟩
  | cons head rest =>
    refine ⟨hlined.1, fun other hother ↦ ?_⟩
    rcases List.mem_append.mp hother with hother | hother
    · exact hlined.2 other hother
    · rw [List.mem_singleton.mp hother]
      exact ⟨hhas (List.cons_ne_nil _ _), hfits⟩

/-- Waiting tickets never have all units, so someone is admitted while anyone waits. -/
theorem reserved_lt {queue : List Waiter} (hlined : Lined capacity queue) (hqueue : queue ≠ []) :
    reserved queue < capacity := by
  cases queue with
  | nil => exact absurd rfl hqueue
  | cons head rest =>
    have hrest : reserved rest = 0 := sumOf_eq_zero fun waiter hwaiter ↦ (hlined.2 waiter hwaiter).1
    have hhead : reserved (head :: rest) = head.has + reserved rest := rfl
    have hneeds := hlined.1.needs_pos
    have hwithin := hlined.1.within
    omega

/-! ### Dealing units out -/

theorem deal_cons_of_le {units : Nat} {waiter : Waiter} {rest : List Waiter}
    (hle : waiter.needs ≤ units) :
    deal units (waiter :: rest) =
      (⟨waiter.ticket, waiter.has + waiter.needs⟩ :: (deal (units - waiter.needs) rest).1,
        (deal (units - waiter.needs) rest).2) := by
  rw [deal, if_pos hle]

theorem deal_cons_of_lt {units : Nat} {waiter : Waiter} {rest : List Waiter}
    (hlt : units < waiter.needs) :
    deal units (waiter :: rest) =
      ([], ⟨waiter.ticket, waiter.has + units, waiter.needs - units⟩ :: rest, 0) := by
  rw [deal, if_neg (Nat.not_le.mpr hlt)]

theorem units_deal (units : Nat) (queue : List Waiter) :
    sumOf Admitted.units (deal units queue).1 + reserved (deal units queue).2.1 +
      (deal units queue).2.2 = units + reserved queue := by
  induction queue generalizing units with
  | nil => simp [deal, reserved]
  | cons waiter rest ih =>
    have hcons (other : Waiter) : reserved (other :: rest) = other.has + reserved rest := rfl
    by_cases hle : waiter.needs ≤ units
    · have hrest := ih (units - waiter.needs)
      simp only [deal_cons_of_le hle, sumOf_cons, hcons]
      omega
    · rw [deal_cons_of_lt (Nat.not_le.mp hle), hcons, hcons]
      simp only [sumOf_nil]
      omega

theorem left_deal {units : Nat} {queue : List Waiter} (hwaiting : (deal units queue).2.1 ≠ []) :
    (deal units queue).2.2 = 0 := by
  induction queue generalizing units with
  | nil => exact absurd rfl hwaiting
  | cons waiter rest ih =>
    by_cases hle : waiter.needs ≤ units
    · rw [deal_cons_of_le hle] at hwaiting ⊢
      exact ih hwaiting
    · rw [deal_cons_of_lt (Nat.not_le.mp hle)]

theorem lined_deal {units : Nat} {queue : List Waiter} (hlined : Lined capacity queue) :
    Lined capacity (deal units queue).2.1 := by
  induction queue generalizing units with
  | nil => trivial
  | cons waiter rest ih =>
    by_cases hle : waiter.needs ≤ units
    · rw [deal_cons_of_le hle]
      exact ih (lined_of_forall hlined.2)
    · rw [deal_cons_of_lt (Nat.not_le.mp hle)]
      have hneeds := hlined.1.needs_pos
      have hwithin := hlined.1.within
      refine ⟨⟨?_, ?_⟩, hlined.2⟩ <;> simp only <;> omega

/-! ### Gates -/

theorem sound_new (capacity : Nat) : (new capacity).Sound where
  positive := Nat.le_max_left _ _
  conserved := rfl
  unspent := fun hqueue ↦ absurd rfl hqueue
  lined := trivial

/-- Units that are not with the gate are given to it. -/
theorem sound_give {gate : Gate} {units : Nat} (hpos : 1 ≤ gate.capacity)
    (hmissing : gate.available + units + gate.held + reserved gate.queue = gate.capacity)
    (hunspent : gate.queue ≠ [] → gate.available = 0) (hlined : Lined gate.capacity gate.queue) :
    (gate.give units).Sound where
  positive := hpos
  conserved := by
    have hunits := units_deal units gate.queue
    have hheld : (gate.give units).held =
        sumOf Admitted.units (deal units gate.queue).1 + gate.held := by
      simp [give, held]
    have havailable : (gate.give units).available =
        gate.available + (deal units gate.queue).2.2 := rfl
    have hqueue : (gate.give units).queue = (deal units gate.queue).2.1 := rfl
    have hcapacity : (gate.give units).capacity = gate.capacity := rfl
    rw [hheld, havailable, hqueue, hcapacity]
    omega
  unspent := by
    intro hwaiting
    have hqueue : gate.queue ≠ [] := fun hnil ↦ hwaiting (by simp [give, hnil, deal])
    have hleft : (deal units gate.queue).2.2 = 0 := left_deal hwaiting
    simp only [give]
    rw [hunspent hqueue, hleft]
  lined := lined_deal hlined

theorem sound_release {gate : Gate} (hsound : gate.Sound) (ticket : Nat) :
    (gate.release ticket).Sound := by
  refine sound_give hsound.positive ?_ ?_ (lined_filter hsound.lined _)
  · have hconserved := hsound.conserved
    have hheld := sumOf_filter_add Admitted.units (·.ticket == ticket) gate.admitted
    have hreserved := sumOf_filter_add Waiter.has (·.ticket == ticket) gate.queue
    simp only [held, reserved, unitsOf, bne] at hconserved ⊢
    omega
  · intro hqueue
    refine hsound.unspent fun hnil ↦ hqueue ?_
    simp [hnil]

theorem clampUnits_pos (gate : Gate) (units : Nat) : 1 ≤ gate.clampUnits units :=
  Nat.le_max_left _ _

theorem clampUnits_le {gate : Gate} (hsound : gate.Sound) (units : Nat) :
    gate.clampUnits units ≤ gate.capacity := by
  have := hsound.positive
  unfold clampUnits
  omega

theorem acquire_of_le {gate : Gate} {units : Nat} (hle : gate.clampUnits units ≤ gate.available) :
    (gate.acquire units).2 =
      { gate with
        nextTicket := gate.nextTicket + 1
        available := gate.available - gate.clampUnits units
        admitted := ⟨gate.nextTicket, gate.clampUnits units⟩ :: gate.admitted } := by
  simp [acquire, hle]

theorem acquire_of_lt {gate : Gate} {units : Nat} (hlt : gate.available < gate.clampUnits units) :
    (gate.acquire units).2 =
      { gate with
        nextTicket := gate.nextTicket + 1
        available := 0
        queue := gate.queue ++
          [⟨gate.nextTicket, gate.available, gate.clampUnits units - gate.available⟩] } := by
  simp [acquire, Nat.not_le.mpr hlt]

theorem acquire_ticket (gate : Gate) (units : Nat) :
    (gate.acquire units).1 = gate.nextTicket := by
  simp only [acquire]
  split <;> rfl

theorem nextTicket_acquire (gate : Gate) (units : Nat) :
    (gate.acquire units).2.nextTicket = gate.nextTicket + 1 := by
  simp only [acquire]
  split <;> rfl

theorem sound_acquire {gate : Gate} (hsound : gate.Sound) (units : Nat) :
    (gate.acquire units).2.Sound := by
  have hpos := clampUnits_pos gate units
  have hle := clampUnits_le hsound units
  have hconserved := hsound.conserved
  by_cases hfree : gate.clampUnits units ≤ gate.available
  · rw [acquire_of_le hfree]
    refine ⟨hsound.positive, ?_, fun hqueue ↦ ?_, hsound.lined⟩
    · simp only [held, sumOf_cons] at hconserved ⊢
      omega
    · have := hsound.unspent hqueue
      omega
  · have hlt := Nat.not_le.mp hfree
    rw [acquire_of_lt hlt]
    refine ⟨hsound.positive, ?_, fun _ ↦ rfl, lined_append_singleton hsound.lined ⟨?_, ?_⟩ ?_⟩
    · simp only [held, reserved, sumOf_append, sumOf_cons, sumOf_nil] at hconserved ⊢
      omega
    · simp only
      omega
    · simp only
      omega
    · exact hsound.unspent

end Gate

end RollupLedger
