import RollupLedger.Proofs.Gate.Units
import Mathlib.Data.List.Nodup
import Mathlib.Data.List.Perm.Subperm

/-!
# Who holds the tickets of the gate

`Gate.Custody gate flown queued` says that the tickets of a gate, each once and with the units that
it has or waits for, are those in two lists: `flown` are those of whoever knows to be admitted, and
`queued` are those of whoever has yet to look. Asking for units adds a ticket to the second list,
looking moves it to the first, and giving it up removes it. Everyone's tickets stand in the same
lists, so nobody's are touched by what others do.

Since the gate keeps its units, there is an admitted ticket whenever there is any
(`Custody.exists_isAdmitted`): the gate never waits for itself.
-/

set_option autoImplicit false
set_option relaxedAutoImplicit false

namespace RollupLedger

/-- What a waiting ticket will have when it is admitted. -/
def Waiter.claim (waiter : Waiter) : Admitted := ⟨waiter.ticket, waiter.has + waiter.needs⟩

namespace Gate

/-- All tickets, admitted or waiting. -/
def claims (gate : Gate) : List Admitted := gate.admitted ++ gate.queue.map Waiter.claim

structure Custody (gate : Gate) (flown queued : List Admitted) : Prop where
  sound : gate.Sound
  owned : gate.claims.Perm (flown ++ queued)
  distinct : ((flown ++ queued).map Admitted.ticket).Nodup
  below : ∀ claim ∈ flown ++ queued, claim.ticket < gate.nextTicket
  admitted : ∀ claim ∈ flown, claim ∈ gate.admitted

theorem isAdmitted_iff {gate : Gate} {ticket : Nat} :
    gate.isAdmitted ticket = true ↔ ∃ claim ∈ gate.admitted, claim.ticket = ticket := by
  simp [isAdmitted]

theorem custody_new (capacity : Nat) : (new capacity).Custody [] [] where
  sound := sound_new capacity
  owned := List.Perm.refl []
  distinct := List.nodup_nil
  below := by simp
  admitted := by simp

/-! ### What asking and returning does to tickets -/

theorem claims_deal (units : Nat) (queue : List Waiter) :
    (deal units queue).1 ++ (deal units queue).2.1.map Waiter.claim = queue.map Waiter.claim := by
  induction queue generalizing units with
  | nil => rfl
  | cons waiter rest ih =>
    by_cases hle : waiter.needs ≤ units
    · rw [deal_cons_of_le hle, List.cons_append, ih, List.map_cons]
      rfl
    · have hlt := Nat.not_le.mp hle
      have hclaim : waiter.has + units + (waiter.needs - units) = waiter.has + waiter.needs := by
        omega
      simp [deal_cons_of_lt hlt, Waiter.claim, hclaim]

theorem claims_give (gate : Gate) (units : Nat) : (gate.give units).claims.Perm gate.claims := by
  have hgive : (gate.give units).claims =
      (deal units gate.queue).1 ++ gate.admitted ++
        (deal units gate.queue).2.1.map Waiter.claim := rfl
  rw [hgive, claims, ← claims_deal units gate.queue, ← List.append_assoc]
  exact List.perm_append_comm.append_right _

theorem claims_release (gate : Gate) (ticket : Nat) :
    (gate.release ticket).claims.Perm (gate.claims.filter (·.ticket != ticket)) := by
  refine (claims_give _ _).trans (List.Perm.of_eq ?_)
  simp only [claims, List.filter_append, List.filter_map]
  rfl

theorem mem_admitted_release {gate : Gate} {ticket : Nat} {claim : Admitted}
    (hother : claim.ticket ≠ ticket) (hclaim : claim ∈ gate.admitted) :
    claim ∈ (gate.release ticket).admitted := by
  simp only [release, give, List.mem_append, List.mem_filter]
  exact Or.inr ⟨hclaim, by simpa using hother⟩

theorem claims_acquire (gate : Gate) (units : Nat) :
    (gate.acquire units).2.claims.Perm
      (⟨gate.nextTicket, gate.clampUnits units⟩ :: gate.claims) := by
  by_cases hle : gate.clampUnits units ≤ gate.available
  · rw [acquire_of_le hle]
    exact List.Perm.refl _
  · have hclaim : gate.available + (gate.clampUnits units - gate.available) =
        gate.clampUnits units := by omega
    rw [acquire_of_lt (Nat.not_le.mp hle)]
    simp only [claims, List.map_append, List.map_cons, List.map_nil, ← List.append_assoc,
      Waiter.claim, hclaim]
    exact List.perm_append_singleton _ _

theorem mem_admitted_acquire {gate : Gate} {claim : Admitted} (hclaim : claim ∈ gate.admitted)
    (units : Nat) : claim ∈ (gate.acquire units).2.admitted := by
  by_cases hle : gate.clampUnits units ≤ gate.available
  · rw [acquire_of_le hle]
    exact List.mem_cons_of_mem _ hclaim
  · rw [acquire_of_lt (Nat.not_le.mp hle)]
    exact hclaim

/-! ### Custody -/

namespace Custody

variable {gate : Gate} {flown flown' queued queued' : List Admitted} {claim : Admitted}

theorem perm (hcustody : gate.Custody flown queued) (hflown : flown.Perm flown')
    (hqueued : queued.Perm queued') : gate.Custody flown' queued' where
  sound := hcustody.sound
  owned := hcustody.owned.trans (hflown.append hqueued)
  distinct := ((hflown.append hqueued).map Admitted.ticket).nodup_iff.mp hcustody.distinct
  below := fun c hc ↦ hcustody.below c ((hflown.append hqueued).mem_iff.mpr hc)
  admitted := fun c hc ↦ hcustody.admitted c (hflown.mem_iff.mpr hc)

theorem mem_claims (hcustody : gate.Custody flown queued) :
    claim ∈ gate.claims ↔ claim ∈ flown ++ queued := hcustody.owned.mem_iff

/-- A ticket names one claim. -/
theorem eq_of_ticket_eq (hcustody : gate.Custody flown queued) {other : Admitted}
    (hclaim : claim ∈ flown ++ queued) (hother : other ∈ flown ++ queued)
    (hticket : claim.ticket = other.ticket) : claim = other :=
  List.inj_on_of_nodup_map hcustody.distinct hclaim hother hticket

theorem mem_admitted (hcustody : gate.Custody flown queued) (hclaim : claim ∈ flown ++ queued)
    (hadmitted : gate.isAdmitted claim.ticket = true) : claim ∈ gate.admitted := by
  obtain ⟨other, hother, hticket⟩ := isAdmitted_iff.mp hadmitted
  have hmem := hcustody.mem_claims.mp (List.mem_append_left _ hother)
  rwa [← hcustody.eq_of_ticket_eq hmem hclaim hticket]

/-- A ticket that is found to be admitted. -/
theorem grant (hcustody : gate.Custody flown (claim :: queued))
    (hadmitted : gate.isAdmitted claim.ticket = true) :
    gate.Custody (claim :: flown) queued where
  sound := hcustody.sound
  owned := hcustody.owned.trans List.perm_middle
  distinct := (List.perm_middle.map Admitted.ticket).nodup_iff.mp hcustody.distinct
  below := fun c hc ↦ hcustody.below c (List.perm_middle.mem_iff.mpr hc)
  admitted := by
    intro c hc
    rcases List.mem_cons.mp hc with rfl | hc
    · exact hcustody.mem_admitted (List.mem_append_right _ List.mem_cons_self) hadmitted
    · exact hcustody.admitted c hc

theorem forget (hcustody : gate.Custody (claim :: flown) queued) :
    gate.Custody flown (claim :: queued) where
  sound := hcustody.sound
  owned := hcustody.owned.trans List.perm_middle.symm
  distinct := (List.perm_middle.map Admitted.ticket).symm.nodup_iff.mp hcustody.distinct
  below := fun c hc ↦ hcustody.below c (List.perm_middle.mem_iff.mp hc)
  admitted := fun c hc ↦ hcustody.admitted c (List.mem_cons_of_mem claim hc)

theorem acquire (hcustody : gate.Custody flown queued) (units : Nat) :
    (gate.acquire units).2.Custody flown
      (⟨(gate.acquire units).1, gate.clampUnits units⟩ :: queued) := by
  rw [acquire_ticket]
  have hmiddle : (flown ++ ⟨gate.nextTicket, gate.clampUnits units⟩ :: queued).Perm
      (⟨gate.nextTicket, gate.clampUnits units⟩ :: (flown ++ queued)) := List.perm_middle
  refine ⟨sound_acquire hcustody.sound units, ?_, ?_, fun c hc ↦ ?_, fun c hc ↦ ?_⟩
  · exact (claims_acquire gate units).trans ((hcustody.owned.cons _).trans hmiddle.symm)
  · refine (hmiddle.map Admitted.ticket).nodup_iff.mpr ?_
    rw [List.map_cons, List.nodup_cons]
    refine ⟨fun hmem ↦ ?_, hcustody.distinct⟩
    obtain ⟨c, hc, hticket⟩ := List.mem_map.mp hmem
    exact Nat.ne_of_lt (hcustody.below c hc) hticket
  · rw [nextTicket_acquire]
    rcases List.mem_cons.mp (hmiddle.mem_iff.mp hc) with rfl | hc
    · exact Nat.lt_succ_self _
    · exact Nat.lt_succ_of_lt (hcustody.below c hc)
  · exact mem_admitted_acquire (hcustody.admitted c hc) units

/-- Giving up a ticket, whether it is admitted or not. -/
theorem release (hcustody : gate.Custody flown (claim :: queued)) :
    (gate.release claim.ticket).Custody flown queued := by
  have hmiddle : (flown ++ claim :: queued).Perm (claim :: (flown ++ queued)) := List.perm_middle
  have hdistinct := (hmiddle.map Admitted.ticket).nodup_iff.mp hcustody.distinct
  rw [List.map_cons, List.nodup_cons] at hdistinct
  have hother (c : Admitted) (hc : c ∈ flown ++ queued) : c.ticket ≠ claim.ticket := by
    intro hticket
    exact hdistinct.1 (hticket ▸ List.mem_map_of_mem hc)
  refine ⟨sound_release hcustody.sound claim.ticket, ?_, hdistinct.2, fun c hc ↦ ?_, fun c hc ↦ ?_⟩
  · refine (claims_release gate claim.ticket).trans
      (((hcustody.owned.trans hmiddle).filter _).trans (List.Perm.of_eq ?_))
    rw [List.filter_cons_of_neg (by simp), List.filter_eq_self]
    exact fun c hc ↦ bne_iff_ne.mpr (hother c hc)
  · exact hcustody.below c (hmiddle.mem_iff.mpr (List.mem_cons_of_mem claim hc))
  · exact mem_admitted_release (hother c (List.mem_append_left queued hc))
      (hcustody.admitted c hc)

/-- While anyone has a ticket, some ticket is admitted. -/
theorem exists_isAdmitted (hcustody : gate.Custody flown queued) (hsome : flown ++ queued ≠ []) :
    ∃ claim ∈ flown ++ queued, gate.isAdmitted claim.ticket = true := by
  cases hadmitted : gate.admitted with
  | nil =>
    have howned := hcustody.owned
    have hconserved := hcustody.sound.conserved
    have hqueue : gate.queue ≠ [] := by
      intro hnil
      rw [claims, hadmitted, hnil] at howned
      exact hsome howned.symm.eq_nil
    have hwaiting := reserved_lt hcustody.sound.lined hqueue
    rw [hcustody.sound.unspent hqueue, held, hadmitted, sumOf_nil] at hconserved
    omega
  | cons claim rest =>
    have hmem : claim ∈ gate.admitted := by simp [hadmitted]
    exact ⟨claim, hcustody.mem_claims.mp (List.mem_append_left _ hmem),
      isAdmitted_iff.mpr ⟨claim, hmem, rfl⟩⟩

/-! ### Units of whoever knows to be admitted -/

theorem flown_subperm (hcustody : gate.Custody flown queued) : flown.Subperm gate.admitted := by
  have hdistinct := hcustody.distinct
  rw [List.map_append] at hdistinct
  have hnodup : flown.Nodup := (List.Nodup.of_append_left hdistinct).of_map Admitted.ticket
  exact List.subperm_of_subset hnodup hcustody.admitted

theorem sumOf_flown_le (hcustody : gate.Custody flown queued) :
    sumOf Admitted.units flown ≤ gate.held := by
  obtain ⟨part, hperm, hsub⟩ := hcustody.flown_subperm
  rw [← sumOf_perm Admitted.units hperm]
  exact sumOf_sublist_le Admitted.units hsub

theorem held_le (hcustody : gate.Custody flown queued) : gate.held ≤ gate.capacity := by
  have hconserved := hcustody.sound.conserved
  omega

/-- Nobody asks for more units than there are. -/
theorem units_le (hcustody : gate.Custody flown queued) (hclaim : claim ∈ flown ++ queued) :
    claim.units ≤ gate.capacity := by
  rcases List.mem_append.mp (hcustody.mem_claims.mpr hclaim) with hadmitted | hwaiting
  · exact Nat.le_trans (le_sumOf_of_mem Admitted.units hadmitted) hcustody.held_le
  · obtain ⟨waiter, hwaiter, rfl⟩ := List.mem_map.mp hwaiting
    exact (fits_of_mem hcustody.sound.lined hwaiter).within

/-- Where nobody waits, the units that are not free are those of whoever knows to be admitted. -/
theorem available_add (hcustody : gate.Custody flown []) :
    gate.available + sumOf Admitted.units flown = gate.capacity := by
  have howned := hcustody.owned
  rw [List.append_nil] at howned
  have hlength := howned.length_eq
  have hle := hcustody.flown_subperm.length_le
  rw [claims, List.length_append, List.length_map] at hlength
  have hqueue : gate.queue = [] := List.length_eq_zero_iff.mp (by omega)
  rw [claims, hqueue, List.map_nil, List.append_nil] at howned
  have hconserved := hcustody.sound.conserved
  rw [held, sumOf_perm Admitted.units howned, hqueue] at hconserved
  exact hconserved

end Custody

end Gate

end RollupLedger
