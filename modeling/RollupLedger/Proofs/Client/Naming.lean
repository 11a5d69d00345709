import RollupLedger.Client.Reference
import RollupLedger.Proofs.Bytes.Spelling

/-!
# What a reference to a block means

A request names its block by a hash, else by a number, else it means the latest (`Names`). Every
request names a block or misspells its hash (`names_or_misspells`), and none does both. A number
beside a hash names nothing: it is the number that the block is expected to have (`Agrees`).
-/

set_option autoImplicit false
set_option relaxedAutoImplicit false

namespace RollupLedger

open Ledger

namespace BlockReference

variable {requested : Option PartialBlockIdentifier} {reference : BlockReference}

/-- What a request's block means: the block of a hash, however that is spelled, else of a number,
else the latest. -/
inductive Names : Option PartialBlockIdentifier → BlockReference → Prop
  | byHash {index : Option (Word 64)} {text : String} {hash : Hash}
    (hspells : Hex.Spells text hash.bytes) : Names (some ⟨index, some text⟩) (.byHash hash)
  | byNumber {index : Word 64} : Names (some ⟨some index, none⟩) (.byNumber index)
  | latest : Names (some ⟨none, none⟩) .latest
  | unnamed : Names none .latest

/-- The hash that is given spells no 32 bytes. -/
def Misspells (requested : Option PartialBlockIdentifier) (text : String) : Prop :=
  requested.bind PartialBlockIdentifier.hash = some text ∧
    ∀ hash : Hash, ¬ Hex.Spells text hash.bytes

theorem readHash_eq_ok_iff {text : String} {hash : Hash} :
    readHash text = .ok hash ↔ Hex.Spells text hash.bytes := by
  rw [← Hex.readFixed_eq_ok_iff, readHash]
  cases Hex.readFixed 32 text with
  | error fault => exact ⟨nofun, nofun⟩
  | ok other => rw [Except.mapError, Except.ok.injEq, Except.ok.injEq]

theorem read_of_names (hnames : Names requested reference) : read requested = .ok reference := by
  cases hnames with
  | byHash hspells =>
    rw [read, readHash_eq_ok_iff.mpr hspells]
    rfl
  | byNumber => rfl
  | latest => rfl
  | unnamed => rfl

theorem Names.unique {other : BlockReference} (hnames : Names requested reference)
    (hother : Names requested other) : reference = other :=
  Except.ok.inj ((read_of_names hnames).symm.trans (read_of_names hother))

theorem read_of_misspells {text : String} (hmisspells : Misspells requested text) :
    ∃ fault, read requested = .error (.invalidBlock text (.malformed fault)) := by
  obtain ⟨htext, hnone⟩ := hmisspells
  obtain ⟨⟨index, hash?⟩, rfl, hhash⟩ := Option.bind_eq_some_iff.mp htext
  simp only at hhash
  subst hhash
  cases hread : Hex.readFixed 32 text with
  | ok hash => exact absurd (Hex.readFixed_eq_ok_iff.mp hread) (hnone hash)
  | error fault =>
    refine ⟨fault, ?_⟩
    rw [read, readHash, hread]
    rfl

/-- Every request's block has a meaning, or its hash is misspelled. -/
theorem names_or_misspells (requested : Option PartialBlockIdentifier) :
    (∃ reference, Names requested reference) ∨ ∃ text, Misspells requested text := by
  match requested with
  | some ⟨index, some text⟩ =>
    by_cases hspells : ∃ hash : Hash, Hex.Spells text hash.bytes
    · obtain ⟨hash, hspells⟩ := hspells
      exact Or.inl ⟨_, .byHash hspells⟩
    · exact Or.inr ⟨text, rfl, fun hash hhash ↦ hspells ⟨hash, hhash⟩⟩
  | some ⟨some index, none⟩ => exact Or.inl ⟨_, .byNumber⟩
  | some ⟨none, none⟩ => exact Or.inl ⟨_, .latest⟩
  | none => exact Or.inl ⟨_, .unnamed⟩

/-- What is read is what the request names. -/
theorem names_of_read (hread : read requested = .ok reference) : Names requested reference := by
  rcases names_or_misspells requested with ⟨other, hnames⟩ | ⟨text, hmisspells⟩
  · cases (read_of_names hnames).symm.trans hread
    exact hnames
  · obtain ⟨fault, hrefused⟩ := read_of_misspells hmisspells
    cases hread.symm.trans hrefused

/-- What is misspelled names nothing. -/
theorem Misspells.not_names {text : String} (hmisspells : Misspells requested text) :
    ¬ Names requested reference := by
  intro hnames
  obtain ⟨fault, hrefused⟩ := read_of_misspells hmisspells
  cases (read_of_names hnames).symm.trans hrefused

/-- A number that is expected is the actual one. -/
def Agrees (requested : Option PartialBlockIdentifier) (actual : Word 64) : Prop :=
  ∀ index, requested.bind PartialBlockIdentifier.index = some index → index = actual

theorem check_of_agrees {actual : Word 64} (hagrees : Agrees requested actual) :
    check requested actual = .ok () := by
  unfold check expected?
  cases hindex : requested.bind PartialBlockIdentifier.index with
  | none => rfl
  | some index => exact if_pos (hagrees index hindex)

theorem check_of_not_agrees {actual : Word 64} (hdiffers : ¬ Agrees requested actual) :
    check requested actual = .error (.invalidBlock (describe requested) (.otherNumber actual)) := by
  unfold check expected?
  cases hindex : requested.bind PartialBlockIdentifier.index with
  | none => exact absurd (fun _ hsome ↦ nomatch hindex.symm.trans hsome) hdiffers
  | some index =>
    refine if_neg fun hsame ↦ hdiffers fun other hother ↦ ?_
    cases hindex.symm.trans hother
    exact hsame

end BlockReference

end RollupLedger
