import RollupLedger.Wire.Scalar

/-!
# Records are read back

The member of an object with a given key is the last one written under it
(`lookup_foldl_insertMember`). A record whose members are there and can be read is read as what they
make (`record_obj`), and one in two parts as what these make (`splitRecord_obj`); `Fields.Finds`
says so of some of its members at a time. `Decoder.Inverts` says that whatever an encoder writes is
read again, and `Decoder.Settles` that this is so of whatever was read before, so that a second pass
changes nothing.
-/

set_option autoImplicit false
set_option relaxedAutoImplicit false

namespace RollupLedger.Json

variable {α β : Type}

/-! ### The members of an object -/

theorem lookup_cons_eq_ite (key : String) (value : Json) (rest : Members) (wanted : String) :
    List.lookup wanted ((key, value) :: rest) =
      if wanted = key then some value else rest.lookup wanted := by
  rw [List.lookup_cons]
  by_cases hwanted : wanted = key
  · simp [hwanted]
  · rw [if_neg hwanted, beq_eq_false_iff_ne.mpr hwanted]

theorem lookup_insertMember (key : String) (value : Json) (members : Members) (wanted : String) :
    (insertMember key value members).lookup wanted =
      if wanted = key then some value else members.lookup wanted := by
  induction members with
  | nil => exact lookup_cons_eq_ite key value [] wanted
  | cons head rest ih =>
    obtain ⟨k, v⟩ := head
    rw [insertMember]
    split
    · exact lookup_cons_eq_ite key value _ wanted
    · split
      · rename_i hsame
        subst hsame
        simp only [lookup_cons_eq_ite]
        split <;> rfl
      · rename_i hother
        simp only [lookup_cons_eq_ite, ih]
        by_cases hwanted : wanted = key
        · subst hwanted
          rw [if_neg hother, if_pos rfl, if_pos rfl]
        · rw [if_neg hwanted, if_neg hwanted]

/-- Of the members put into an object one after another, the last one with a key counts. -/
theorem lookup_foldl_insertMember (members before : Members) (wanted : String) :
    (members.foldl (fun acc m ↦ insertMember m.1 m.2 acc) before).lookup wanted =
      (members.reverse.lookup wanted).or (before.lookup wanted) := by
  induction members generalizing before with
  | nil => rfl
  | cons head rest ih =>
    rw [List.foldl_cons, ih, lookup_insertMember, List.reverse_cons, List.lookup_append,
      Option.or_assoc, lookup_cons_eq_ite]
    split <;> rfl

theorem reverse_optional (key : String) (write : α → Json) (a : Option α) :
    (Json.optional key write a).reverse = Json.optional key write a := by
  cases a <;> rfl

theorem lookup_optional (key : String) (write : α → Json) (a : Option α) (wanted : String) :
    (Json.optional key write a).lookup wanted = if wanted = key then a.map write else none := by
  cases a with
  | none =>
    rw [Option.map_none, ite_self]
    rfl
  | some a => exact lookup_cons_eq_ite key (write a) [] wanted

/-! ### What is written is read again -/

/-- Whatever the encoder writes, the decoder reads as what was written, with nothing passed over. -/
def Decoder.Inverts (decode : Decoder α) (encode : α → Json) : Prop :=
  ∀ a, decode (encode a) = pure a

theorem Decoder.Inverts.run_encode {decode : Decoder α} {encode : α → Json}
    (hinverts : decode.Inverts encode) (a : α) : decode.run (encode a) = .ok a := by
  rw [run, hinverts a, Decoding.result_pure]

/-- Reads a value and writes what it was read as. -/
def Decoder.rewrite (decode : Decoder α) (encode : α → Json) (json : Json) :
    Except DecodeFailure Json :=
  encode <$> decode.run json

/-- Each thing that is read has one written form, which further passes leave as it is. -/
structure Decoder.Settles (decode : Decoder α) (encode : α → Json) : Prop where
  /-- Whatever the decoder reads, it reads again from what the encoder writes of it. -/
  again : ∀ json a, decode.run json = .ok a → decode.run (encode a) = .ok a
  /-- Whatever one pass has written, another one writes again. -/
  unchanged : ∀ json written, decode.rewrite encode json = .ok written →
    decode.rewrite encode written = .ok written

theorem Decoder.Settles.of_again {decode : Decoder α} {encode : α → Json}
    (hagain : ∀ json a, decode.run json = .ok a → decode.run (encode a) = .ok a) :
    decode.Settles encode := by
  refine ⟨hagain, fun json written hpass ↦ ?_⟩
  rw [rewrite] at hpass
  cases hread : decode.run json with
  | error failure =>
    rw [hread] at hpass
    cases hpass
  | ok a =>
    rw [hread] at hpass
    cases hpass
    rw [rewrite, hagain json a hread]
    rfl

theorem Decoder.Inverts.settles {decode : Decoder α} {encode : α → Json}
    (hinverts : decode.Inverts encode) : decode.Settles encode :=
  .of_again fun _ a _ ↦ hinverts.run_encode a

/-- A text or a number or an object, but not null. -/
def NeverNull (encode : α → Json) : Prop := ∀ a, encode a ≠ .null

theorem inverts_string : decodeString.Inverts Json.str := fun _ ↦ rfl

theorem inverts_members : decodeMembers.Inverts Json.obj := fun _ ↦ rfl

theorem inverts_word (bits : Nat) : (decodeWord bits).Inverts Wire.encodeWord := by
  intro word
  have hword : Word.ofNat? bits word.toNat = some word := dif_pos word.isLt
  have hread : (if (word.toNat : Int) < 0 then none
      else Word.ofNat? bits (word.toNat : Int).toNat) = some word := by
    rw [if_neg (by omega), Int.toNat_natCast, hword]
  simp only [Wire.encodeWord, decodeWord, hread]

theorem inverts_int64 : decodeInt64.Inverts fun n ↦ .int n.toInt := by
  intro n
  have hrange : Int64.minValue.toInt ≤ n.toInt ∧ n.toInt ≤ Int64.maxValue.toInt :=
    ⟨n.minValue_le_toInt, n.toInt_le⟩
  simp only [decodeInt64]
  rw [if_pos hrange, Int64.ofInt_toInt]

variable {decode : Decoder α} {encode : α → Json}

theorem decodeItems_map (hinverts : decode.Inverts encode) (index : Nat) (items : List α) :
    decodeItems decode index (items.map encode) = pure items := by
  induction items generalizing index with
  | nil => rfl
  | cons a rest ih =>
    rw [List.map_cons, decodeItems, hinverts a, Decoding.under_pure, Decoding.pure_bind, ih,
      Decoding.pure_bind]

theorem inverts_list (hinverts : decode.Inverts encode) :
    (decodeList decode).Inverts (Wire.encodeList encode) :=
  decodeItems_map hinverts 0

theorem decodeNullable_of_ne_null {value : Json} (hvalue : value ≠ .null) {a : α}
    (hread : decode value = pure a) : decodeNullable decode value = pure (some a) := by
  cases value with
  | null => exact absurd rfl hvalue
  | _ =>
    simp only [decodeNullable]
    rw [hread]
    rfl

/-! ### Records -/

namespace Fields

/-- Among these members the fields are all found and make a value, with nothing passed over. -/
def Finds (fields : Fields α) (members : Members) (a : α) : Prop :=
  fields ⟨members, false⟩ = ⟨.ok a, none⟩

variable {members : Members} {key : String}

theorem Finds.seq {function : Fields (α → β)} {fields : Fields α} {f : α → β} {a : α}
    (hfunction : function.Finds members f) (hfields : fields.Finds members a) :
    (function <*> fields).Finds members (f a) := by
  change (function ⟨members, false⟩).ap _ (fields ⟨members, false⟩) = _
  rw [hfunction, hfields]
  rfl

theorem finds_map {fields : Fields α} {a : α} (f : α → β) (hfields : fields.Finds members a) :
    (f <$> fields).Finds members (f a) :=
  Finds.seq (show (pure f : Fields (α → β)).Finds members f from rfl) hfields

theorem finds_required (hinverts : decode.Inverts encode) {a : α}
    (hmember : members.lookup key = some (encode a)) :
    (required key decode).Finds members a := by
  simp only [Finds, required, field, hmember, hinverts a]
  rfl

theorem finds_withDefault (hinverts : decode.Inverts encode) (default : α) {a : α}
    (hmember : members.lookup key = some (encode a)) :
    (withDefault key default decode).Finds members a := by
  simp only [Finds, withDefault, field, hmember, hinverts a]
  rfl

theorem finds_optional_of_ne_null (hinverts : decode.Inverts encode) {a : Option α}
    (hnull : ∀ b, a = some b → encode b ≠ .null) (hmember : members.lookup key = a.map encode) :
    (optional key decode).Finds members a := by
  cases a with
  | none => simp only [Finds, optional, withDefault, field, hmember, Option.map_none]
  | some a =>
    simp only [Finds, optional, withDefault, field, hmember, Option.map_some,
      decodeNullable_of_ne_null (hnull a rfl) (hinverts a)]
    rfl

theorem finds_optional (hinverts : decode.Inverts encode) (hnull : NeverNull encode) {a : Option α}
    (hmember : members.lookup key = a.map encode) :
    (optional key decode).Finds members a :=
  finds_optional_of_ne_null hinverts (fun b _ ↦ hnull b) hmember

/-- A member that is written as null for none. -/
theorem finds_orNull (hinverts : decode.Inverts encode) (hnull : NeverNull encode) {a : Option α}
    (hmember : members.lookup key = some (orNull encode a)) :
    (optional key decode).Finds members a := by
  cases a with
  | none =>
    simp only [Finds, optional, withDefault, field, hmember, orNull, decodeNullable]
    rfl
  | some a => exact finds_optional hinverts hnull hmember

end Fields

variable {members : Members} {fields : Fields α} {a : α}

theorem readObject_of_finds {names : List String} (hfinds : fields.Finds members a) :
    readObject names false fields members = pure a := by
  simp only [readObject, Bool.false_eq_true, if_false]
  rw [hfinds]
  rfl

theorem record_obj {names : List String} (hfinds : fields.Finds members a) :
    record names fields false (.obj members) = pure a :=
  readObject_of_finds hfinds

theorem splitRecord_obj {γ : Type} {join : α → β → γ} {inner : Fields β} {b : β}
    (houter : fields.Finds members a) (hinner : inner.Finds members b) :
    splitRecord join fields inner (.obj members) = pure (join a b) := by
  rw [splitRecord, readObject_of_finds houter, Decoding.pure_bind, readObject_of_finds hinner]
  rfl

end RollupLedger.Json
