import RollupLedger.Proofs.Wire.Values

/-!
# What the members of a record stand for

A member of an object stands for a value that is required (`Required`), for one with a default
(`Defaulted`) or for one that may be missing (`Optionally`), and a field gives what its member
stands for. A closed record is read exactly if all its keys are known and its fields are read
(`run_record`). What holds of whatever the fields of a record make (`Fields.Always`) holds of
whatever the record is read as, in either form.
-/

set_option autoImplicit false
set_option relaxedAutoImplicit false

namespace RollupLedger.Json

variable {α β : Type}

/-! ### Members -/

section Members

variable {β : Type} (Is : Json → β → Prop)

inductive Required : Option Json → β → Prop
  | given {json : Json} {b : β} (his : Is json b) : Required (some json) b

inductive Defaulted (default : β) : Option Json → β → Prop
  | absent : Defaulted default none default
  | given {json : Json} {b : β} (his : Is json b) : Defaulted default (some json) b

/-- A member that may be absent or null. -/
inductive Optionally : Option Json → Option β → Prop
  | absent : Optionally none none
  | null : Optionally (some .null) none
  | given {json : Json} {b : β} (hpresent : json ≠ .null) (his : Is json b) :
      Optionally (some json) (some b)

variable {Is} {found : Option Json}

theorem required_iff {b : β} : Required Is found b ↔ ∃ json, found = some json ∧ Is json b := by
  constructor
  · rintro ⟨his⟩
    exact ⟨_, rfl, his⟩
  · rintro ⟨json, rfl, his⟩
    exact .given his

theorem defaulted_iff {default b : β} :
    Defaulted Is default found b ↔
      (found = none ∧ default = b) ∨ ∃ json, found = some json ∧ Is json b := by
  constructor
  · rintro (- | his)
    · exact Or.inl ⟨rfl, rfl⟩
    · exact Or.inr ⟨_, rfl, his⟩
  · rintro (⟨rfl, rfl⟩ | ⟨json, rfl, his⟩)
    · exact .absent
    · exact .given his

theorem optionally_iff {b : Option β} :
    Optionally Is found b ↔
      (found = none ∧ none = b) ∨ ∃ json, found = some json ∧
        ((json = .null ∧ none = b) ∨ json ≠ .null ∧ ∃ a, Is json a ∧ some a = b) := by
  constructor
  · rintro (- | - | ⟨hpresent, his⟩)
    · exact Or.inl ⟨rfl, rfl⟩
    · exact Or.inr ⟨_, rfl, Or.inl ⟨rfl, rfl⟩⟩
    · exact Or.inr ⟨_, rfl, Or.inr ⟨hpresent, _, his, rfl⟩⟩
  · rintro (⟨rfl, rfl⟩ | ⟨json, rfl, ⟨rfl, rfl⟩ | ⟨hpresent, a, his, rfl⟩⟩)
    · exact .absent
    · exact .null
    · exact .given hpresent his

end Members

/-! ### Fields -/

namespace Fields

/-- What the fields make of these members. -/
def Gives (fields : Fields α) (members : Members) (a : α) : Prop :=
  (fields ⟨members, false⟩).outcome = .ok a

variable {members : Members} {key : String} {decode : Decoder α} {Is : Json → α → Prop}

/-- Two parts of a record make something together if each of them does by itself. -/
theorem outcome_seq_eq_ok_iff {function : Fields (α → β)} {fields : Fields α} {source : Source}
    {b : β} :
    ((function <*> fields) source).outcome = .ok b ↔
      ∃ f a, (function source).outcome = .ok f ∧ (fields source).outcome = .ok a ∧ f a = b := by
  show ((function source).ap source (fields source)).outcome = .ok b ↔ _
  unfold Survey.ap
  cases (function source).outcome with
  | ok f =>
    cases (fields source).outcome with
    | ok a => simp
    | error flaw => simp
  | error flaw =>
    cases (fields source).outcome with
    | ok a => simp
    | error other => simp

theorem outcome_map_eq_ok_iff {f : α → β} {fields : Fields α} {source : Source} {b : β} :
    ((f <$> fields) source).outcome = .ok b ↔ ∃ a, (fields source).outcome = .ok a ∧ f a = b := by
  have hpure (g : α → β) : ((pure f : Fields (α → β)) source).outcome = .ok g ↔ f = g := by
    show (Except.ok f : Except Flaw (α → β)) = .ok g ↔ f = g
    rw [Except.ok.injEq]
  show (((pure f : Fields (α → β)) <*> fields) source).outcome = .ok b ↔ _
  simp only [outcome_seq_eq_ok_iff, hpure, exists_and_left, exists_eq_left']

theorem outcome_field_eq_ok_iff {absent : Source → Except Flaw α} {source : Source} {a : α} :
    (field key decode absent source).outcome = .ok a ↔
      (source.members.lookup key = none ∧ absent source = .ok a) ∨
        ∃ json, source.members.lookup key = some json ∧ decode.run json = .ok a := by
  unfold field Decoder.run
  cases source.members.lookup key with
  | none => simp
  | some json =>
    simp only [reduceCtorEq, false_and, false_or, Option.some.injEq, exists_eq_left']
    cases decode json with
    | decoded b passed =>
      show (Except.ok b : Except Flaw α) = .ok a ↔ (Except.ok b : Except DecodeFailure α) = .ok a
      rw [Except.ok.injEq, Except.ok.injEq]
    | failed failure => exact ⟨nofun, nofun⟩

theorem gives_seq {function : Fields (α → β)} {fields : Fields α} {b : β} :
    (function <*> fields).Gives members b ↔
      ∃ f a, function.Gives members f ∧ fields.Gives members a ∧ f a = b :=
  outcome_seq_eq_ok_iff

theorem gives_map {f : α → β} {fields : Fields α} {b : β} :
    (f <$> fields).Gives members b ↔ ∃ a, fields.Gives members a ∧ f a = b :=
  outcome_map_eq_ok_iff

theorem gives_field {absent : Source → Except Flaw α} {a : α} :
    (field key decode absent).Gives members a ↔
      (members.lookup key = none ∧ absent ⟨members, false⟩ = .ok a) ∨
        ∃ json, members.lookup key = some json ∧ decode.run json = .ok a :=
  outcome_field_eq_ok_iff

theorem gives_required (hreads : decode.Reads Is) {a : α} :
    (required key decode).Gives members a ↔ Required Is (members.lookup key) a := by
  simp only [required, gives_field, reduceCtorEq, and_false, false_or, hreads _ _, required_iff]

theorem gives_withDefault (hreads : decode.Reads Is) {default a : α} :
    (withDefault key default decode).Gives members a ↔
      Defaulted Is default (members.lookup key) a := by
  simp only [withDefault, gives_field, Except.ok.injEq, hreads _ _, defaulted_iff]

theorem run_decodeNullable {json : Json} {found : Option α} :
    (decodeNullable decode).run json = .ok found ↔
      (json = .null ∧ none = found) ∨
        json ≠ .null ∧ ∃ a, decode.run json = .ok a ∧ some a = found := by
  by_cases hnull : json = .null
  · subst hnull
    show (Except.ok none : Except DecodeFailure (Option α)) = .ok found ↔ _
    simp only [Except.ok.injEq, true_and, ne_eq, not_true_eq_false, false_and, or_false]
  · have hread : decodeNullable decode json = some <$> decode json := by
      cases json with
      | null => exact absurd rfl hnull
      | _ => rfl
    rw [Decoder.run, hread, Decoding.result_map_eq_ok_iff]
    simp only [hnull, false_and, ne_eq, not_false_eq_true, true_and, false_or, Decoder.run]

theorem gives_optional (hreads : decode.Reads Is) {a : Option α} :
    (optional key decode).Gives members a ↔ Optionally Is (members.lookup key) a := by
  simp only [optional, withDefault, gives_field, Except.ok.injEq, run_decodeNullable, hreads _ _,
    optionally_iff]

/-- Of an optional member that is read as something with a value, the value counts. -/
theorem exists_gives_optional {value : α → β} {Is : Json → β → Prop}
    (hmeans : decode.Means value Is) {b : Option β} :
    (∃ a, (optional key decode).Gives members a ∧ a.map value = b) ↔
      Optionally Is (members.lookup key) b := by
  simp only [optional, withDefault, gives_field, Except.ok.injEq, run_decodeNullable,
    optionally_iff, ← hmeans _ _]
  constructor
  · rintro ⟨a, ⟨hnone, rfl⟩ | ⟨json, hfound, ⟨hnull, rfl⟩ | ⟨hpresent, a, hread, rfl⟩⟩, rfl⟩
    · exact Or.inl ⟨hnone, rfl⟩
    · exact Or.inr ⟨json, hfound, Or.inl ⟨hnull, rfl⟩⟩
    · exact Or.inr ⟨json, hfound, Or.inr ⟨hpresent, value a, ⟨a, hread, rfl⟩, rfl⟩⟩
  · rintro (⟨hnone, rfl⟩ | ⟨json, hfound, ⟨hnull, rfl⟩ | ⟨hpresent, _, ⟨a, hread, rfl⟩, rfl⟩⟩)
    · exact ⟨none, Or.inl ⟨hnone, rfl⟩, rfl⟩
    · exact ⟨none, Or.inr ⟨json, hfound, Or.inl ⟨hnull, rfl⟩⟩, rfl⟩
    · exact ⟨some a, Or.inr ⟨json, hfound, Or.inr ⟨hpresent, a, hread, rfl⟩⟩, rfl⟩

/-! ### Properties of whatever is read -/

/-- Whatever the fields make, wherever they are read, has the property. -/
def Always (fields : Fields α) (P : α → Prop) : Prop :=
  ∀ source a, (fields source).outcome = .ok a → P a

theorem Always.seq {function : Fields (α → β)} {fields : Fields α} {Q : α → Prop} {P : β → Prop}
    (hfunction : function.Always fun f ↦ ∀ a, Q a → P (f a)) (hfields : fields.Always Q) :
    (function <*> fields).Always P := by
  intro source b hb
  obtain ⟨f, a, hf, ha, rfl⟩ := outcome_seq_eq_ok_iff.mp hb
  exact hfunction source f hf a (hfields source a ha)

theorem Always.seq_left {function : Fields (α → β)} {fields : Fields α} {P : β → Prop}
    (hfunction : function.Always fun f ↦ ∀ a, P (f a)) : (function <*> fields).Always P := by
  intro source b hb
  obtain ⟨f, a, hf, -, rfl⟩ := outcome_seq_eq_ok_iff.mp hb
  exact hfunction source f hf a

theorem always_map {f : α → β} {fields : Fields α} {P : β → Prop} (hf : ∀ a, P (f a)) :
    (f <$> fields).Always P := by
  intro source b hb
  obtain ⟨a, -, rfl⟩ := outcome_map_eq_ok_iff.mp hb
  exact hf a

/-- An optional member is none if it is null, whatever its decoder makes of null. -/
theorem always_optional {P : α → Prop}
    (hdecode : ∀ json a, json ≠ .null → decode.run json = .ok a → P a) :
    (optional key decode).Always fun found ↦ ∀ a ∈ found, P a := by
  rintro source _ hfound a rfl
  obtain ⟨-, hnone⟩ | ⟨json, -, hread⟩ := outcome_field_eq_ok_iff.mp hfound
  · cases hnone
  · obtain ⟨-, hnone⟩ | ⟨hpresent, b, hb, hsome⟩ := run_decodeNullable.mp hread
    · cases hnone
    · cases hsome
      exact hdecode json a hpresent hb

end Fields

/-! ### Records -/

/-- There are no other keys than these. -/
def Known (names : List String) (members : Members) : Prop := ∀ m ∈ members, m.1 ∈ names

instance (names : List String) (members : Members) : Decidable (Known names members) :=
  inferInstanceAs (Decidable (∀ m ∈ members, m.1 ∈ names))

theorem firstUnknown?_eq_none_iff {names : List String} {members : Members} :
    firstUnknown? names members = none ↔ Known names members := by
  unfold firstUnknown? Known
  simp only [Option.map_eq_none_iff, List.find?_eq_none, Bool.not_eq_true', List.contains_eq_mem,
    decide_eq_false_iff_not, not_not]

theorem Survey.result_conclude_eq_ok_iff {source : Source} {step : String → PathStep}
    {report : Flaw → DecodeFailure} {survey : Survey α} {a : α} :
    (survey.conclude source step report).result = .ok a ↔ survey.outcome = .ok a := by
  unfold conclude
  cases survey.outcome with
  | ok b =>
    show (Except.ok b : Except DecodeFailure α) = .ok a ↔ (Except.ok b : Except Flaw α) = .ok a
    rw [Except.ok.injEq, Except.ok.injEq]
  | error flaw =>
    simp only
    cases survey.gap.filter (·.precedes source flaw) with
    | none => exact ⟨nofun, nofun⟩
    | some gap => exact ⟨nofun, nofun⟩

/-- A flaw that is added leaves nothing that could be made. -/
theorem Survey.outcome_withFlaw_ne_ok {source : Source} {survey : Survey α} {flaw : Flaw} {a : α} :
    (survey.withFlaw source flaw).outcome ≠ .ok a := by
  unfold withFlaw
  cases survey.outcome with
  | ok b => exact nofun
  | error other => exact nofun

theorem run_record {names : List String} {fields : Fields α} {members : Members} {a : α} :
    (record names fields true).run (.obj members) = .ok a ↔
      Known names members ∧ fields.Gives members a := by
  rw [Decoder.run, record, readObject, Survey.result_conclude_eq_ok_iff]
  by_cases hknown : Known names members
  · simp only [if_true, firstUnknown?_eq_none_iff.mpr hknown]
    exact (and_iff_right hknown).symm
  · obtain ⟨flaw, hflaw⟩ := Option.ne_none_iff_exists'.mp
      (mt firstUnknown?_eq_none_iff.mp hknown)
    simp only [if_true, hflaw, hknown, false_and, iff_false]
    exact Survey.outcome_withFlaw_ne_ok

theorem Fields.Always.of_run_record {names : List String} {fields : Fields α} {closed : Bool}
    {P : α → Prop} {json : Json} {a : α} (halways : fields.Always P)
    (hread : (record names fields closed).run json = .ok a) : P a := by
  cases json with
  | obj members =>
    rw [Decoder.run, record, readObject, Survey.result_conclude_eq_ok_iff] at hread
    split at hread
    · exact absurd hread Survey.outcome_withFlaw_ne_ok
    · exact halways _ _ hread
  | arr items =>
    rw [Decoder.run, record, readArray, Decoding.result_bind_eq_ok_iff] at hread
    obtain ⟨b, hb, hrest⟩ := hread
    rw [Survey.result_conclude_eq_ok_iff] at hb
    split at hrest
    · cases hrest
    · cases hrest
      exact halways _ _ hb
  | _ => cases hread

end RollupLedger.Json
