import RollupLedger.Proofs.Bytes.Spelling
import RollupLedger.Proofs.Numeral.Spelling
import RollupLedger.Proofs.Optional
import RollupLedger.Wire.Quantity

/-!
# What scalars in JSON stand for

For each kind of scalar, the JSON values that stand for one are stated without a reader: integers,
texts that spell a numeral or bytes, and arrays of bytes. The readers of scalars find exactly what
these relations say (`Decoder.Reads`).
-/

set_option autoImplicit false
set_option relaxedAutoImplicit false

namespace RollupLedger

namespace Json

variable {α β : Type}

/-- The reader finds what the relation says, and nothing else. -/
def Decoder.Reads (decode : Decoder α) (Is : Json → α → Prop) : Prop :=
  ∀ json a, decode.run json = .ok a ↔ Is json a

/-- The reader finds something with a value that the relation says, and nothing else. -/
def Decoder.Means (decode : Decoder α) (value : α → β) (Is : Json → β → Prop) : Prop :=
  ∀ json b, (∃ a, decode.run json = .ok a ∧ value a = b) ↔ Is json b

/-! ### Decodings with a result -/

namespace Decoding

theorem result_bind_eq_ok_iff {x : Decoding α} {next : α → Decoding β} {b : β} :
    (x >>= next).result = .ok b ↔ ∃ a, x.result = .ok a ∧ (next a).result = .ok b := by
  show (x.bind next).result = .ok b ↔ _
  cases x with
  | failed failure =>
    constructor
    · intro h
      cases h
    · rintro ⟨a, ha, -⟩
      cases ha
  | decoded a passed =>
    rw [bind]
    simp only [result, Except.ok.injEq, exists_eq_left']
    cases next a with
    | failed failure =>
      constructor
      · intro h
        cases h
      · intro h
        cases h
    | decoded c later => exact Iff.rfl

theorem result_map_eq_ok_iff {x : Decoding α} {f : α → β} {b : β} :
    (f <$> x).result = .ok b ↔ ∃ a, x.result = .ok a ∧ f a = b := by
  show (x >>= fun a ↦ pure (f a)).result = .ok b ↔ _
  simp only [result_bind_eq_ok_iff, result_pure, Except.ok.injEq]

theorem result_under_eq_ok_iff {x : Decoding α} {step : PathStep} {a : α} :
    (x.under step).result = .ok a ↔ x.result = .ok a := by
  cases x with
  | failed failure => exact ⟨nofun, nofun⟩
  | decoded b passed => exact Iff.rfl

end Decoding

theorem decodeItems_eq_ok_iff {decode : Decoder α} {encode : α → Json}
    (hreads : decode.Reads fun json a ↦ json = encode a) {index : Nat}
    {items : List Json} {as : List α} :
    (decodeItems decode index items).result = .ok as ↔ items = as.map encode := by
  induction items generalizing index as with
  | nil =>
    rw [decodeItems, Decoding.result_pure, Except.ok.injEq, eq_comm, List.nil_eq,
      List.map_eq_nil_iff]
  | cons item rest ih =>
    simp only [decodeItems, Decoding.result_bind_eq_ok_iff, Decoding.result_under_eq_ok_iff, ih,
      Decoding.result_pure, Except.ok.injEq]
    constructor
    · rintro ⟨a, ha, others, rfl, rfl⟩
      rw [(hreads item a).mp ha, List.map_cons]
    · intro hitems
      obtain ⟨a, others, rfl, hitem, hrest⟩ := List.map_eq_cons_iff.mp hitems.symm
      exact ⟨a, (hreads item a).mpr hitem.symm, others, hrest.symm, rfl⟩

end Json

namespace Wire

open Json

variable {bits size : Nat}

/-! ### Words and flags -/

def IsWord (json : Json) (word : Word bits) : Prop := json = .int word.toNat

def IsFlag (json : Json) (flag : Bool) : Prop := json = .bool flag

theorem natural_eq_some_iff {n : Int} {word : Word bits} :
    (if n < 0 then none else Word.ofNat? bits n.toNat) = some word ↔ n = word.toNat := by
  split_ifs with hneg
  · constructor
    · intro h
      cases h
    · intro h
      omega
  · rw [Word.ofNat?_eq_some_iff]
    omega

theorem reads_word : (decodeWord bits).Reads IsWord := by
  intro json word
  unfold Decoder.run IsWord
  cases json with
  | int n =>
    rw [decodeWord, Json.int.injEq, ← natural_eq_some_iff]
    split
    · rename_i other hother
      rw [hother, Decoding.result_pure, Except.ok.injEq, Option.some_inj]
    · rename_i hnone
      rw [hnone]
      exact ⟨nofun, nofun⟩
  | _ => exact ⟨nofun, nofun⟩

theorem reads_flag : decodeBool.Reads IsFlag := by
  intro json flag
  unfold Decoder.run IsFlag
  cases json with
  | bool b => rw [decodeBool, Decoding.result_pure, Except.ok.injEq, Json.bool.injEq]
  | _ => exact ⟨nofun, nofun⟩

/-! ### Quantities -/

/-- A number is an integer, or a text that spells it. -/
inductive IsQuantity : Json → Word 256 → Prop
  | number {word : Word 256} : IsQuantity (.int word.toNat) word
  | text {text : String} {word : Word 256} (hspells : Numeral.Spells text word.toNat) :
      IsQuantity (.str text) word

theorem isQuantity_int_iff {n : Int} {word : Word 256} :
    IsQuantity (.int n) word ↔ n = word.toNat := by
  constructor
  · rintro ⟨⟩
    rfl
  · rintro rfl
    exact .number

theorem reads_quantity : (decodeQuantity 256).Reads IsQuantity := by
  intro json word
  have hread : (decodeQuantity 256).run json = .ok word ↔ quantity? 256 json = some word := by
    unfold Decoder.run decodeQuantity
    split
    · rename_i other hother
      rw [hother, Decoding.result_pure, Except.ok.injEq, Option.some_inj]
    · rename_i hnone
      rw [hnone]
      exact ⟨nofun, nofun⟩
  rw [hread]
  cases json with
  | int n =>
    rw [quantity?, natural_eq_some_iff, isQuantity_int_iff]
  | str text =>
    rw [quantity?, Numeral.quantity?_eq_some_iff]
    constructor
    · exact .text
    · rintro ⟨⟩
      assumption
  | _ => exact ⟨nofun, nofun⟩

/-- Of a quantity that could be read in either way only the number counts. -/
theorem means_quantity : Quantity.decode.Means Quantity.value IsQuantity := by
  intro json word
  have hword (short : Word 64) (hshort : (decodeWord 64).run json = .ok short) :
      short.widen = word ↔ IsQuantity json word := by
    rw [show json = .int short.toNat from (reads_word json short).mp hshort, isQuantity_int_iff]
    constructor
    · rintro rfl
      rfl
    · intro hsame
      exact Word.ext (Int.ofNat_inj.mp hsame)
  unfold Decoder.run Quantity.decode
  split
  · rename_i short hshort
    rw [← hword short hshort]
    simp only [Decoding.result_pure, Except.ok.injEq, exists_eq_left', Quantity.value]
  · rename_i fault big hfault hbig
    rw [← reads_quantity json word, hbig]
    simp only [Decoding.result_pure, Except.ok.injEq, exists_eq_left', Quantity.value]
  · rename_i fault other hfault hother
    rw [← reads_quantity json word, hother]
    constructor
    · rintro ⟨a, ha, -⟩
      cases ha
    · intro h
      cases h

/-! ### Bytes -/

def encodeByte (byte : UInt8) : Json := .int byte.toNat

/-- Bytes are a text that spells them, or the array of them. -/
inductive IsBytes : Json → Bytes → Prop
  | text {text : String} {bytes : Bytes} (hspells : Hex.Spells text bytes) :
      IsBytes (.str text) bytes
  | items {bytes : Bytes} : IsBytes (.arr (bytes.map encodeByte)) bytes

theorem isBytes_arr_iff {items : List Json} {bytes : Bytes} :
    IsBytes (.arr items) bytes ↔ items = bytes.map encodeByte := by
  constructor
  · rintro ⟨⟩
    rfl
  · rintro rfl
    exact .items

/-- A fixed number of bytes, with nothing else after them. -/
def IsFixed (json : Json) (fixed : FixedBytes size) : Prop := IsBytes json fixed.bytes

/-- What is taken for a fixed number of bytes: also the array of them with one more item that is no
byte. -/
inductive TakenAsFixed : Json → FixedBytes size → Prop
  | exact {json : Json} {fixed : FixedBytes size} (hfixed : IsFixed json fixed) :
      TakenAsFixed json fixed
  | overfull {fixed : FixedBytes size} {next : Json} (hnext : ∀ byte, next ≠ encodeByte byte) :
      TakenAsFixed (.arr (fixed.bytes.map encodeByte ++ [next])) fixed

theorem reads_byte : decodeByte.Reads fun json byte ↦ json = encodeByte byte := by
  intro json byte
  show ((fun word : Word 8 ↦ UInt8.ofNat word.toNat) <$> decodeWord 8 json).result = .ok byte ↔ _
  rw [Decoding.result_map_eq_ok_iff]
  constructor
  · rintro ⟨word, hword, rfl⟩
    have hsmall : word.toNat < UInt8.size := word.isLt
    rw [(reads_word json word).mp hword, encodeByte, UInt8.toNat_ofNat_of_lt' hsmall]
  · rintro rfl
    have hword : IsWord (encodeByte byte) (⟨byte.toNat, byte.toNat_lt⟩ : Word 8) := rfl
    exact ⟨_, (reads_word _ _).mpr hword, UInt8.ofNat_toNat⟩

theorem reads_bytes : decodeBytes.Reads IsBytes := by
  intro json bytes
  unfold Decoder.run
  cases json with
  | str text =>
    rw [decodeBytes]
    constructor
    · intro hread
      split at hread
      · rename_i same hsame
        cases hread
        exact .text (Hex.read_eq_ok_iff.mp hsame)
      · cases hread
    · rintro ⟨hspells⟩
      rw [Hex.read_eq_ok_iff.mpr hspells]
      rfl
  | arr items => rw [decodeBytes, decodeItems_eq_ok_iff reads_byte, isBytes_arr_iff]
  | _ => exact ⟨nofun, nofun⟩

theorem exists_failed_iff {json : Json} :
    (∃ failure, decodeByte json = .failed failure) ↔ ∀ byte, json ≠ encodeByte byte := by
  have hread (byte : UInt8) : (decodeByte json).result = .ok byte ↔ json = encodeByte byte :=
    reads_byte json byte
  cases hjson : decodeByte json with
  | failed failure =>
    refine ⟨fun _ byte hbyte ↦ ?_, fun _ ↦ ⟨failure, rfl⟩⟩
    have hok := (hread byte).mpr hbyte
    rw [hjson] at hok
    cases hok
  | decoded byte passed =>
    refine ⟨nofun, fun hnone ↦ absurd ((hread byte).mp ?_) (hnone byte)⟩
    rw [hjson]
    rfl

/-- What stands after a fixed number of bytes in an array that is read as them. -/
def Trails (rest : List Json) : Prop :=
  rest = [] ∨ ∃ next, (∀ byte, next ≠ encodeByte byte) ∧ rest = [next]

theorem fixedItems_iff {items : List Json} {bytes : Bytes} (hlength : bytes.length = size) :
    (items.take size = bytes.map encodeByte ∧ Trails (items.drop size)) ↔
      items = bytes.map encodeByte ∨
        ∃ next, (∀ byte, next ≠ encodeByte byte) ∧ items = bytes.map encodeByte ++ [next] := by
  have hsize : (bytes.map encodeByte).length = size := by rw [List.length_map, hlength]
  have hsplit (rest : List Json) :
      (items.take size = bytes.map encodeByte ∧ items.drop size = rest) ↔
        items = bytes.map encodeByte ++ rest := by
    constructor
    · rintro ⟨htake, hdrop⟩
      rw [← htake, ← hdrop, List.take_append_drop]
    · rintro rfl
      exact ⟨List.take_left' hsize, List.drop_left' hsize⟩
  rw [Trails, and_or_left, hsplit, List.append_nil]
  refine or_congr_right ?_
  simp only [← hsplit]
  constructor
  · rintro ⟨htake, next, hnext, hdrop⟩
    exact ⟨next, hnext, htake, hdrop⟩
  · rintro ⟨next, hnext, htake, hdrop⟩
    exact ⟨htake, next, hnext, hdrop⟩

/-- A reader of a fixed number of bytes passes over one more item that is no byte. -/
theorem decodeFixedItems_eq_ok_iff {items : List Json} {fixed : FixedBytes size} :
    (decodeFixedItems size items).result = .ok fixed ↔
      items.take size = fixed.bytes.map encodeByte ∧ Trails (items.drop size) := by
  rw [decodeFixedItems, Decoding.result_bind_eq_ok_iff]
  simp only [decodeItems_eq_ok_iff reads_byte]
  constructor
  · rintro ⟨bytes, htake, hread⟩
    split at hread
    · cases hread
    · rename_i same hsame hdrop
      cases hread
      rw [← FixedBytes.ofBytes?_eq_some_iff.mp hsame]
      exact ⟨htake, Or.inl hdrop⟩
    · rename_i same next rest hsame hdrop
      split at hread
      · cases hread
      · rename_i failure hfailure
        cases rest with
        | nil =>
          cases hread
          rw [← FixedBytes.ofBytes?_eq_some_iff.mp hsame]
          exact ⟨htake, Or.inr ⟨next, exists_failed_iff.mp ⟨failure, hfailure⟩, hdrop⟩⟩
        | cons another others => cases hread
  · rintro ⟨htake, htrails⟩
    refine ⟨fixed.bytes, htake, ?_⟩
    rw [FixedBytes.ofBytes?_bytes]
    rcases htrails with hnone | ⟨next, hnext, hone⟩
    · rw [hnone]
      rfl
    · obtain ⟨failure, hfailure⟩ := exists_failed_iff.mpr hnext
      simp only [hone, hfailure]
      rfl

theorem reads_fixed : (decodeFixed size).Reads TakenAsFixed := by
  intro json fixed
  unfold Decoder.run
  cases json with
  | str text =>
    rw [decodeFixed]
    constructor
    · intro hread
      split at hread
      · rename_i same hsame
        cases hread
        exact .exact (.text (Hex.readFixed_eq_ok_iff.mp hsame))
      · cases hread
    · rintro ⟨⟨hspells⟩⟩
      rw [Hex.readFixed_eq_ok_iff.mpr hspells]
      rfl
  | arr items =>
    rw [decodeFixed, decodeFixedItems_eq_ok_iff, fixedItems_iff fixed.length_eq]
    constructor
    · rintro (rfl | ⟨next, hnext, rfl⟩)
      · exact .exact .items
      · exact .overfull hnext
    · rintro (⟨⟨⟩⟩ | hnext)
      · exact Or.inl rfl
      · exact Or.inr ⟨_, hnext, rfl⟩
  | _ =>
    refine ⟨nofun, ?_⟩
    rintro ⟨⟨⟩⟩

end Wire

end RollupLedger
