import Mathlib.Data.List.Forall2
import Mathlib.Data.Option.Basic
import RollupLedger.Json.Decode

/-!
# Values that are read alike

Two decodings are alike if both fail in one way, or both find something and what they find is
related (`Decoding.Alike`). Of a record a reader sees only which keys come before which and what
becomes of each member, so that two records with the same keys are read alike if their members are,
one by one (`alike_record`).
-/

set_option autoImplicit false
set_option relaxedAutoImplicit false

namespace RollupLedger.Json

variable {α β γ δ : Type} {R : α → β → Prop} {S : γ → δ → Prop}

/-! ### Decodings -/

/-- The same failure, or related values after the same parts were passed over. -/
inductive Decoding.Alike (R : α → β → Prop) : Decoding α → Decoding β → Prop
  | failed (failure : DecodeFailure) : Alike R (.failed failure) (.failed failure)
  | decoded {a : α} {b : β} (passed : Option (List PathStep)) (hrelated : R a b) :
    Alike R (.decoded a passed) (.decoded b passed)

namespace Decoding

theorem Alike.refl {R : α → α → Prop} (hrefl : ∀ a, R a a) (x : Decoding α) : Alike R x x := by
  cases x with
  | failed failure => exact .failed failure
  | decoded a passed => exact .decoded passed (hrefl a)

theorem alike_pure {a : α} {b : β} (hrelated : R a b) : Alike R (pure a) (pure b) :=
  .decoded none hrelated

theorem Alike.bind {x : Decoding α} {y : Decoding β} {f : α → Decoding γ} {g : β → Decoding δ}
    (halike : Alike R x y) (hnext : ∀ a b, R a b → Alike S (f a) (g b)) :
    Alike S (x >>= f) (y >>= g) := by
  show Alike S (x.bind f) (y.bind g)
  cases halike with
  | failed failure => exact .failed failure
  | @decoded a b passed hrelated =>
    have hafter := hnext a b hrelated
    rw [Decoding.bind, Decoding.bind]
    generalize f a = next, g b = other at hafter ⊢
    cases hafter with
    | failed failure => exact .failed _
    | decoded later hlater => exact .decoded _ hlater

theorem Alike.map {x : Decoding α} {y : Decoding β} {f : α → γ} {g : β → δ} (halike : Alike R x y)
    (hmap : ∀ a b, R a b → S (f a) (g b)) : Alike S (f <$> x) (g <$> y) :=
  halike.bind fun _ _ hrelated ↦ alike_pure (hmap _ _ hrelated)

end Decoding

theorem decodeNullable_of_present {decode : Decoder α} {x : Json} (hx : x ≠ .null) :
    decodeNullable decode x = some <$> decode x := by
  cases x with
  | null => exact absurd rfl hx
  | _ => rfl

/-- What may be null is read alike if what is there is, and if neither or both are null. -/
theorem alike_nullable {decode : Decoder α} {x y : Json} {R : α → α → Prop}
    (hnull : x = .null ↔ y = .null) (halike : Decoding.Alike R (decode x) (decode y)) :
    Decoding.Alike (Option.Rel R) (decodeNullable decode x) (decodeNullable decode y) := by
  by_cases hx : x = .null
  · rw [hx, hnull.mp hx]
    exact .decoded none .none
  · rw [decodeNullable_of_present hx, decodeNullable_of_present (mt hnull.mpr hx)]
    exact halike.map fun _ _ hrelated ↦ .some hrelated

/-! ### Members of records -/

/-- Two sources are given in the same way and with the same keys in the same order. -/
structure Source.SameKeys (s t : Source) : Prop where
  keys : s.members.map Prod.fst = t.members.map Prod.fst
  positional : s.positional = t.positional

variable {s t : Source}

theorem Source.SameKeys.meetsFirst (hsame : s.SameKeys t) : s.meetsFirst = t.meetsFirst := by
  funext key other
  have hindex (members : Members) (key : String) :
      members.findIdx (·.1 == key) = (members.map Prod.fst).findIdx (· == key) := by
    rw [List.findIdx_map]
    rfl
  rw [Source.meetsFirst, Source.meetsFirst, hindex, hindex, hsame.keys, ← hindex, ← hindex]

theorem Source.SameKeys.flaw_earlier (hsame : s.SameKeys t) (a b : Flaw) :
    a.earlier s b = a.earlier t b := by
  rw [Flaw.earlier, Flaw.earlier, hsame.meetsFirst]

theorem Source.SameKeys.gap_earlier (hsame : s.SameKeys t) (a b : Option Gap) :
    Gap.earlier s a b = Gap.earlier t a b := by
  unfold Gap.earlier
  rw [hsame.meetsFirst]

theorem Source.SameKeys.precedes (hsame : s.SameKeys t) (gap : Gap) (flaw : Flaw) :
    gap.precedes s flaw = gap.precedes t flaw := by
  rw [Gap.precedes, Gap.precedes, hsame.meetsFirst]

/-- The same flaw, or related values, and the same gap. -/
inductive Survey.Alike (R : α → β → Prop) : Survey α → Survey β → Prop
  | flawed (flaw : Flaw) (gap : Option Gap) : Alike R ⟨.error flaw, gap⟩ ⟨.error flaw, gap⟩
  | made {a : α} {b : β} (gap : Option Gap) (hrelated : R a b) : Alike R ⟨.ok a, gap⟩ ⟨.ok b, gap⟩

namespace Survey

theorem Alike.ap (hsame : s.SameKeys t) {f : Survey (α → γ)} {g : Survey (β → δ)} {x : Survey α}
    {y : Survey β} (hfun : Alike (fun f g ↦ ∀ a b, R a b → S (f a) (g b)) f g)
    (harg : Alike R x y) : Alike S (f.ap s x) (g.ap t y) := by
  unfold Survey.ap
  cases hfun with
  | flawed flaw gap =>
    cases harg with
    | flawed other later =>
      simp only [hsame.flaw_earlier, hsame.gap_earlier]
      exact .flawed _ _
    | made later hrelated =>
      simp only [hsame.gap_earlier]
      exact .flawed _ _
  | made gap hboth =>
    cases harg with
    | flawed other later =>
      simp only [hsame.gap_earlier]
      exact .flawed _ _
    | made later hrelated =>
      simp only [hsame.gap_earlier]
      exact .made _ (hboth _ _ hrelated)

theorem Alike.conclude (hsame : s.SameKeys t) (step : String → PathStep)
    (report : Flaw → DecodeFailure) {x : Survey α} {y : Survey β} (halike : Alike R x y) :
    Decoding.Alike R (x.conclude s step report) (y.conclude t step report) := by
  unfold Survey.conclude
  cases halike with
  | flawed flaw gap =>
    simp only [hsame.precedes]
    split
    · exact .failed _
    · exact .failed _
  | made gap hrelated => exact .decoded _ hrelated

end Survey

/-- What some members of two sources make is alike. -/
def Fields.Alike (R : α → β → Prop) (s t : Source) (first : Fields α) (second : Fields β) : Prop :=
  Survey.Alike R (first s) (second t)

namespace Fields

theorem Alike.seq (hsame : s.SameKeys t) {f : Fields (α → γ)} {g : Fields (β → δ)} {x : Fields α}
    {y : Fields β} (hfun : Fields.Alike (fun f g ↦ ∀ a b, R a b → S (f a) (g b)) s t f g)
    (harg : Fields.Alike R s t x y) : Fields.Alike S s t (f <*> x) (g <*> y) :=
  Survey.Alike.ap hsame hfun harg

theorem Alike.map (hsame : s.SameKeys t) {f : α → γ} {g : β → δ} {x : Fields α} {y : Fields β}
    (harg : Fields.Alike R s t x y) (hmap : ∀ a b, R a b → S (f a) (g b)) :
    Fields.Alike S s t (f <$> x) (g <$> y) :=
  Survey.Alike.ap hsame (.made none hmap) harg

/-- The member with a key is in neither source, or is read alike in both. -/
def ReadAlike (R : α → α → Prop) (decode : Decoder α) (s t : Source) (key : String) : Prop :=
  (s.members.lookup key = none ∧ t.members.lookup key = none) ∨
    ∃ x y, s.members.lookup key = some x ∧ t.members.lookup key = some y ∧
      Decoding.Alike R (decode x) (decode y)

variable {R : α → α → Prop} {decode : Decoder α} {key : String}

theorem alike_field {absent : Source → Except Flaw α} (hread : ReadAlike R decode s t key)
    (habsent : Survey.Alike R ⟨absent s, none⟩ ⟨absent t, none⟩) :
    Fields.Alike R s t (field key decode absent) (field key decode absent) := by
  unfold Fields.Alike field
  rcases hread with ⟨hs, ht⟩ | ⟨x, y, hs, ht, halike⟩
  · rw [hs, ht]
    exact habsent
  · rw [hs, ht]
    simp only
    generalize decode x = first, decode y = second at halike
    cases halike with
    | failed failure => exact .flawed _ _
    | decoded passed hrelated => exact .made _ hrelated

theorem alike_required (hread : ReadAlike R decode s t key) :
    Fields.Alike R s t (required key decode) (required key decode) :=
  alike_field hread (.flawed _ _)

theorem alike_withDefault {default : α} (hread : ReadAlike R decode s t key)
    (hdefault : R default default) :
    Fields.Alike R s t (withDefault key default decode) (withDefault key default decode) :=
  alike_field hread (.made _ hdefault)

theorem alike_optional (hread : ReadAlike (Option.Rel R) (decodeNullable decode) s t key) :
    Fields.Alike (Option.Rel R) s t (optional key decode) (optional key decode) :=
  alike_withDefault hread .none

theorem alike_placed (hsame : s.SameKeys t)
    (hread : ReadAlike (Option.Rel R) (decodeNullable decode) s t key) :
    Fields.Alike (Option.Rel R) s t (placed key decode) (placed key decode) := by
  refine alike_field hread ?_
  rw [hsame.positional]
  split
  · exact .flawed _ _
  · exact .made _ .none

end Fields

/-! ### Records -/

variable {P : String → Json → Json → Prop}

/-- The members have the same keys and are related one by one. -/
def MembersAlike (P : String → Json → Json → Prop) : Members → Members → Prop :=
  List.Forall₂ fun m n ↦ m.1 = n.1 ∧ P m.1 m.2 n.2

theorem MembersAlike.keys {xs ys : Members} (halike : MembersAlike P xs ys) :
    xs.map Prod.fst = ys.map Prod.fst := by
  induction halike with
  | nil => rfl
  | cons hfirst _ ih => rw [List.map_cons, List.map_cons, hfirst.1, ih]

theorem MembersAlike.lookup {xs ys : Members} (halike : MembersAlike P xs ys) (key : String) :
    (xs.lookup key = none ∧ ys.lookup key = none) ∨
      ∃ x y, xs.lookup key = some x ∧ ys.lookup key = some y ∧ P key x y := by
  induction halike with
  | nil => exact Or.inl ⟨rfl, rfl⟩
  | @cons m n _ _ hfirst _ ih =>
    obtain ⟨name, x⟩ := m
    obtain ⟨_, y⟩ := n
    obtain ⟨rfl, hP⟩ := hfirst
    by_cases hkey : key = name
    · subst hkey
      exact Or.inr ⟨x, y, List.lookup_cons_self, List.lookup_cons_self, hP⟩
    · have hne : (key == name) = false := beq_eq_false_iff_ne.mpr hkey
      simpa only [List.lookup_cons, hne] using ih

/-- A member is read alike in two sources if that is so of whatever the relation allows at its key.
-/
theorem Fields.readAlike_of_members {decode : Decoder α} {R : α → α → Prop} {key : String}
    (hmembers : MembersAlike P s.members t.members)
    (hread : ∀ x y, P key x y → Decoding.Alike R (decode x) (decode y)) :
    ReadAlike R decode s t key := by
  rcases hmembers.lookup key with hneither | ⟨x, y, hx, hy, hP⟩
  · exact Or.inl hneither
  · exact Or.inr ⟨x, y, hx, hy, hread x y hP⟩

/-- Two records, both objects or both arrays of their members, that have the same members but for
what the relation allows at each key. -/
inductive RecordsAlike (names : List String) (P : String → Json → Json → Prop) : Json → Json → Prop
  | same (x : Json) : RecordsAlike names P x x
  | obj {xs ys : Members} (hmembers : MembersAlike P xs ys) :
    RecordsAlike names P (.obj xs) (.obj ys)
  | arr {xs ys : List Json} (hlength : xs.length = ys.length)
    (hmembers : MembersAlike P (names.zip xs) (names.zip ys)) :
    RecordsAlike names P (.arr xs) (.arr ys)

theorem RecordsAlike.null_iff {names : List String} {x y : Json}
    (halike : RecordsAlike names P x y) :
    x = .null ↔ y = .null := by
  cases halike with
  | same => exact Iff.rfl
  | obj => exact ⟨nofun, nofun⟩
  | arr => exact ⟨nofun, nofun⟩

/-- Two records are read alike if that is so of any two sources whose members are related. -/
theorem alike_record {names : List String} {fields : Fields α} {R : α → α → Prop}
    (hrefl : ∀ a, R a a)
    (hfields : ∀ s t : Source, s.SameKeys t → MembersAlike P s.members t.members →
      Fields.Alike R s t fields fields)
    {x y : Json} (halike : RecordsAlike names P x y) :
    Decoding.Alike R (record names fields false x) (record names fields false y) := by
  cases halike with
  | same => exact .refl hrefl _
  | obj hmembers =>
    have hsame : Source.SameKeys ⟨_, false⟩ ⟨_, false⟩ := ⟨hmembers.keys, rfl⟩
    exact (hfields _ _ hsame hmembers).conclude hsame _ _
  | @arr xs ys hlength hmembers =>
    have hsame : Source.SameKeys ⟨_, true⟩ ⟨_, true⟩ := ⟨hmembers.keys, rfl⟩
    show Decoding.Alike R (readArray names fields xs) (readArray names fields ys)
    rw [readArray, readArray, hlength]
    refine ((hfields _ _ hsame hmembers).conclude hsame _ _).bind fun a b hrelated ↦ ?_
    split
    · exact .failed _
    · exact Decoding.alike_pure hrelated

end RollupLedger.Json
