import RollupLedger.Proofs.Bytes.Address
import RollupLedger.Proofs.Numeral.Spelling
import Mathlib.Data.List.Induction

/-!
# Spellings of byte strings

A text spells bytes if, after an optional mark, it has their digits in either case (`Hex.Spells`).
The readers accept the spellings and nothing else, and read them as what they spell
(`Hex.read_eq_ok_iff`, `Hex.readFixed_eq_ok_iff`). They work on the bytes of the text's encoding,
which are those of its characters as long as these are ASCII.
-/

set_option autoImplicit false
set_option relaxedAutoImplicit false

namespace RollupLedger

/-! ### Texts as bytes -/

theorem loop_toList (array : ByteArray) (index : Nat) (read : List UInt8) :
    ByteArray.toList.loop array index read = read.reverse ++ array.data.toList.drop index := by
  induction index, read using ByteArray.toList.loop.induct array with
  | case1 index read hindex ih =>
    have hlength : index < array.data.toList.length := by
      rw [Array.length_toList]
      exact hindex
    have hget : array.get! index = array.data.toList[index] := by
      cases array with
      | mk data => exact getElem!_pos data index hindex
    rw [ByteArray.toList.loop.eq_def, if_pos hindex, ih, List.reverse_cons, List.append_assoc,
      List.drop_eq_getElem_cons hlength, hget]
    rfl
  | case2 index read hindex =>
    have hlength : array.data.toList.length ≤ index := by
      rw [Array.length_toList]
      exact Nat.le_of_not_lt hindex
    rw [ByteArray.toList.loop.eq_def, if_neg hindex, List.drop_eq_nil_of_le hlength,
      List.append_nil]

theorem toList_toUTF8 (text : String) :
    text.toUTF8.toList = text.toList.flatMap String.utf8EncodeChar := by
  rw [String.toUTF8_eq_toByteArray, ← String.utf8Encode_toList, ByteArray.toList, loop_toList,
    List.utf8Encode, List.data_toByteArray]
  rfl

/-- The byte of an ASCII character. -/
def byteOf (c : Char) : UInt8 := UInt8.ofNat c.toNat

theorem toNat_byteOf {c : Char} (hc : c.toNat < 128) : (byteOf c).toNat = c.toNat :=
  UInt8.toNat_ofNat_of_lt' (Nat.lt_trans hc (by decide))

theorem charOf_byteOf {c : Char} (hc : c.toNat < 128) : Char.ofNat (byteOf c).toNat = c := by
  rw [toNat_byteOf hc, Char.ofNat_toNat]

theorem eq_of_map_byteOf {first second : List Char} (hfirst : ∀ c ∈ first, c.toNat < 128)
    (hsecond : ∀ c ∈ second, c.toNat < 128) (hbytes : first.map byteOf = second.map byteOf) :
    first = second := by
  have hback (cs : List Char) (hcs : ∀ c ∈ cs, c.toNat < 128) :
      (cs.map byteOf).map (fun b ↦ Char.ofNat b.toNat) = cs := by
    rw [List.map_map]
    exact (List.map_congr_left fun c hc ↦ charOf_byteOf (hcs c hc)).trans (List.map_id cs)
  rw [← hback first hfirst, hbytes, hback second hsecond]

theorem utf8EncodeChar_of_lt {c : Char} (hc : c.toNat < 128) :
    String.utf8EncodeChar c = [byteOf c] := by
  have hle : c.val.toNat ≤ 127 := Nat.le_of_lt_succ hc
  simp only [String.utf8EncodeChar, if_pos hle]
  rfl

theorem exists_high_of_le {c : Char} (hc : 128 ≤ c.toNat) :
    ∃ b ∈ String.utf8EncodeChar c, 128 ≤ b.toNat := by
  have hle : ¬ c.val.toNat ≤ 127 := Nat.not_le.mpr hc
  simp only [String.utf8EncodeChar, if_neg hle]
  split
  · refine ⟨_, List.mem_cons_self, ?_⟩
    rw [UInt8.toNat_ofNat']
    omega
  · split
    · refine ⟨_, List.mem_cons_self, ?_⟩
      rw [UInt8.toNat_ofNat']
      omega
    · refine ⟨_, List.mem_cons_self, ?_⟩
      rw [UInt8.toNat_ofNat']
      omega

/-- ASCII characters are their bytes. -/
theorem flatMap_utf8EncodeChar {cs : List Char} (hcs : ∀ c ∈ cs, c.toNat < 128) :
    cs.flatMap String.utf8EncodeChar = cs.map byteOf := by
  induction cs with
  | nil => rfl
  | cons c rest ih =>
    obtain ⟨hc, hrest⟩ := List.forall_mem_cons.mp hcs
    rw [List.flatMap_cons, utf8EncodeChar_of_lt hc, ih hrest]
    rfl

theorem lt_of_flatMap_utf8EncodeChar {cs : List Char}
    (hbytes : ∀ b ∈ cs.flatMap String.utf8EncodeChar, b.toNat < 128) : ∀ c ∈ cs, c.toNat < 128 := by
  intro c hc
  by_contra hhigh
  obtain ⟨b, hb, hle⟩ := exists_high_of_le (Nat.le_of_not_lt hhigh)
  exact absurd (hbytes b (List.mem_flatMap.mpr ⟨c, hc, hb⟩)) (Nat.not_lt.mpr hle)

theorem FixedBytes.ofBytes?_eq_some_iff {size : Nat} {bytes : Bytes} {fixed : FixedBytes size} :
    ofBytes? size bytes = some fixed ↔ bytes = fixed.bytes := by
  constructor
  · intro hbytes
    unfold ofBytes? at hbytes
    split at hbytes
    · cases hbytes
      rfl
    · cases hbytes
  · rintro rfl
    exact ofBytes?_bytes fixed

namespace Hex

/-! ### Digits -/

theorem toNat_ofNat : ∀ n < 256, (Char.ofNat n).toNat = n := by
  decide +kernel

theorem lt_of_digit?_eq_some {b : UInt8} {d : Nat} (hd : digit? b = some d) :
    d < 16 ∧ b.toNat < 128 := by
  obtain ⟨hlower, hsmall⟩ := (Numeral.digit?_eq_some_iff (Nat.le_refl 16)).mp hd
  have hascii := Numeral.lt_of_toLower_eq hsmall hlower
  rw [toNat_ofNat b.toNat b.toNat_lt] at hascii
  exact ⟨hsmall, hascii⟩

theorem digit?_byteOf {c : Char} {d : Nat} (hc : c.toNat < 128) (hd : d < 16) :
    digit? (byteOf c) = some d ↔ c.toLower = digitOf d := by
  rw [digit?, charOf_byteOf hc, Numeral.digit?_eq_some_iff (Nat.le_refl 16)]
  exact and_iff_left hd

/-- The byte of two digits. -/
theorem pair_ofNat {high low : Nat} (hhigh : high < 16) (hlow : low < 16) :
    pair (UInt8.ofNat (high * 16 + low)) = [digitOf high, digitOf low] := by
  have hbyte : high * 16 + low < UInt8.size := by
    have hsize : UInt8.size = 256 := rfl
    omega
  have hnat : (UInt8.ofNat (high * 16 + low)).toNat = high * 16 + low :=
    UInt8.toNat_ofNat_of_lt' hbyte
  have hdiv : (high * 16 + low) / 16 = high := by omega
  have hmod : (high * 16 + low) % 16 = low := by omega
  rw [pair, hnat, hdiv, hmod]

theorem ofNat_halves (b : UInt8) : UInt8.ofNat (b.toNat / 16 * 16 + b.toNat % 16) = b := by
  rw [Nat.div_add_mod', UInt8.ofNat_toNat]

theorem lt_of_readPairs {position : Nat} {text bytes : Bytes}
    (hread : readPairs position text = .ok bytes) : ∀ b ∈ text, b.toNat < 128 := by
  induction text using List.twoStepInduction generalizing position bytes with
  | nil => exact nofun
  | singleton a => cases hread
  | cons_cons a b rest ih =>
    rw [readPairs] at hread
    split at hread
    · cases hread
    · rename_i ha
      split at hread
      · cases hread
      · rename_i hb
        cases hrest : readPairs (position + 2) rest with
        | error fault =>
          rw [hrest] at hread
          cases hread
        | ok others =>
          refine List.forall_mem_cons.mpr ⟨(lt_of_digit?_eq_some ha).2, ?_⟩
          exact List.forall_mem_cons.mpr ⟨(lt_of_digit?_eq_some hb).2, ih hrest⟩

/-- Pairs of digits are read as the bytes whose digits they are, in either case. -/
theorem readPairs_eq_ok_iff {position : Nat} {cs : List Char} {bytes : Bytes}
    (hcs : ∀ c ∈ cs, c.toNat < 128) :
    readPairs position (cs.map byteOf) = .ok bytes ↔ cs.map Char.toLower = digits bytes := by
  induction cs using List.twoStepInduction generalizing position bytes with
  | nil =>
    cases bytes with
    | nil => exact ⟨fun _ ↦ rfl, fun _ ↦ rfl⟩
    | cons b others => exact ⟨nofun, nofun⟩
  | singleton c =>
    refine ⟨nofun, fun hdigits ↦ ?_⟩
    have hlength := congrArg List.length hdigits
    rw [length_digits, List.length_map, List.length_singleton] at hlength
    omega
  | cons_cons a b rest ih =>
    obtain ⟨ha, hothers⟩ := List.forall_mem_cons.mp hcs
    obtain ⟨hb, hrest⟩ := List.forall_mem_cons.mp hothers
    rw [List.map_cons, List.map_cons, List.map_cons, List.map_cons, readPairs]
    constructor
    · intro hread
      split at hread
      · cases hread
      · rename_i high hhigh
        split at hread
        · cases hread
        · rename_i low hlow
          cases hread₁ : readPairs (position + 2) (rest.map byteOf) with
          | error fault =>
            rw [hread₁] at hread
            cases hread
          | ok others =>
            rw [hread₁] at hread
            cases hread
            have hsmall := (lt_of_digit?_eq_some hhigh).1
            have hsmall' := (lt_of_digit?_eq_some hlow).1
            rw [digits_cons, pair_ofNat hsmall hsmall', (digit?_byteOf ha hsmall).mp hhigh,
              (digit?_byteOf hb hsmall').mp hlow, (ih hrest).mp hread₁]
            rfl
    · intro hdigits
      cases bytes with
      | nil => cases hdigits
      | cons byte others =>
        have hbyte := byte.toNat_lt
        rw [digits_cons, pair] at hdigits
        simp only [List.cons_append, List.nil_append, List.cons.injEq] at hdigits
        obtain ⟨hhigh, hlow, hdigits⟩ := hdigits
        rw [(digit?_byteOf ha (by omega)).mpr hhigh, (digit?_byteOf hb (by omega)).mpr hlow]
        simp only [(ih hrest).mpr hdigits]
        exact congrArg (fun b ↦ Except.ok (b :: others)) (ofNat_halves byte)

/-! ### Spellings -/

/-- What may stand before the digits. -/
def marks : List (List Char) := [[], ['0', 'x'], ['0', 'X']]

/-- A text is made of the digits of a byte string, in either case, after an optional mark. -/
def Spells (text : String) (bytes : Bytes) : Prop :=
  ∃ mark ∈ marks, ∃ body, text.toList = mark ++ body ∧ body.map Char.toLower = digits bytes

theorem lt_of_toLower_mem_digits {c : Char} {bytes : Bytes} (hc : c.toLower ∈ digits bytes) :
    c.toNat < 128 := by
  obtain ⟨n, hn, hdigit⟩ := exists_digitOf_of_mem_digits hc
  exact Numeral.lt_of_toLower_eq hn hdigit

theorem lt_of_map_toLower {body : List Char} {bytes : Bytes}
    (hbody : body.map Char.toLower = digits bytes) : ∀ c ∈ body, c.toNat < 128 :=
  fun _ hc ↦ lt_of_toLower_mem_digits (hbody ▸ List.mem_map_of_mem hc)

/-- The letter of a mark is no digit. -/
theorem ne_letter_of_digit : ∀ n < 128, ∀ d < 16,
    (Char.ofNat n).toLower = digitOf d → n ≠ 0x78 ∧ n ≠ 0x58 := by
  decide +kernel

theorem lt_of_mem_marks : ∀ mark ∈ marks, ∀ c ∈ mark, c.toNat < 128 := by
  simp only [marks, List.forall_mem_cons, List.not_mem_nil, false_implies, implies_true, and_true,
    true_and]
  decide

theorem length_of_mem_marks : ∀ mark ∈ marks, mark.length % 2 = 0 := by
  decide

/-- What is taken off a text before its digits is a mark. -/
theorem exists_mark (text : Bytes) : ∃ mark ∈ marks, text = mark.map byteOf ++ strip text := by
  unfold strip
  split
  · exact ⟨['0', 'x'], by decide, rfl⟩
  · exact ⟨['0', 'X'], by decide, rfl⟩
  · exact ⟨[], by decide, rfl⟩

theorem strip_of_digits {body : List Char} {bytes : Bytes}
    (hbody : body.map Char.toLower = digits bytes) :
    strip (body.map byteOf) = body.map byteOf := by
  have hletter (first second : Char) (rest : List Char) (hsplit : body = first :: second :: rest) :
      byteOf second ≠ 0x78 ∧ byteOf second ≠ 0x58 := by
    have hmem : second ∈ body := by simp [hsplit]
    have hlt := lt_of_map_toLower hbody second hmem
    obtain ⟨n, hn, hdigit⟩ :=
      exists_digitOf_of_mem_digits (hbody ▸ List.mem_map_of_mem (f := Char.toLower) hmem)
    have hne := ne_letter_of_digit second.toNat hlt n hn
    rw [Char.ofNat_toNat, ← toNat_byteOf hlt] at hne
    refine ⟨fun hx ↦ (hne hdigit).1 ?_, fun hx ↦ (hne hdigit).2 ?_⟩ <;> rw [hx] <;> rfl
  match body, hletter with
  | [], _ => rfl
  | [_], _ =>
    simp only [List.map_cons, List.map_nil]
    unfold strip
    split <;> simp_all
  | first :: second :: rest, hletter =>
    obtain ⟨hx, hX⟩ := hletter first second rest rfl
    rw [List.map_cons, List.map_cons]
    unfold strip
    split
    · simp_all
    · simp_all
    · rfl

/-- Digits after a mark are what is left when the mark is taken off. -/
theorem strip_of_mark {mark body : List Char} {bytes : Bytes} (hmark : mark ∈ marks)
    (hbody : body.map Char.toLower = digits bytes) :
    strip ((mark ++ body).map byteOf) = body.map byteOf := by
  simp only [marks, List.mem_cons, List.not_mem_nil, or_false] at hmark
  rcases hmark with rfl | rfl | rfl
  · exact strip_of_digits hbody
  · rfl
  · rfl

/-- What a text spells is read from the bytes of its encoding, whose number is even. -/
theorem readPairs_of_spells {text : String} {bytes : Bytes} (hspells : Spells text bytes) :
    text.toUTF8.toList.length % 2 = 0 ∧
      (strip text.toUTF8.toList).length = 2 * bytes.length ∧
      readPairs 0 (strip text.toUTF8.toList) = .ok bytes := by
  obtain ⟨mark, hmark, body, htext, hbody⟩ := hspells
  have hdigits := lt_of_map_toLower hbody
  have hascii : ∀ c ∈ mark ++ body, c.toNat < 128 :=
    List.forall_mem_append.mpr ⟨lt_of_mem_marks mark hmark, hdigits⟩
  have hlength : body.length = 2 * bytes.length := by
    rw [← length_digits, ← hbody, List.length_map]
  rw [toList_toUTF8, htext, flatMap_utf8EncodeChar hascii, strip_of_mark hmark hbody]
  refine ⟨?_, ?_, (readPairs_eq_ok_iff hdigits).mpr hbody⟩
  · have heven := length_of_mem_marks mark hmark
    rw [List.length_map, List.length_append, hlength]
    omega
  · rw [List.length_map, hlength]

/-- A text whose bytes are read has the digits of what they are read as. -/
theorem spells_of_readPairs {text : String} {bytes : Bytes}
    (hread : readPairs 0 (strip text.toUTF8.toList) = .ok bytes) : Spells text bytes := by
  obtain ⟨mark, hmark, hwhole⟩ := exists_mark text.toUTF8.toList
  have hbytes : ∀ b ∈ text.toUTF8.toList, b.toNat < 128 := by
    rw [hwhole]
    refine List.forall_mem_append.mpr ⟨fun b hb ↦ ?_, lt_of_readPairs hread⟩
    obtain ⟨c, hc, rfl⟩ := List.mem_map.mp hb
    have hlt := lt_of_mem_marks mark hmark c hc
    rwa [toNat_byteOf hlt]
  rw [toList_toUTF8] at hbytes
  have hascii := lt_of_flatMap_utf8EncodeChar hbytes
  rw [toList_toUTF8, flatMap_utf8EncodeChar hascii] at hwhole hread
  obtain ⟨before, body, htext, hbefore, hbody⟩ := List.map_eq_append_iff.mp hwhole
  rw [htext, List.forall_mem_append] at hascii
  rw [eq_of_map_byteOf hascii.1 (lt_of_mem_marks mark hmark) hbefore] at htext
  rw [← hbody] at hread
  exact ⟨mark, hmark, body, htext, (readPairs_eq_ok_iff hascii.2).mp hread⟩

/-- Texts are read as the bytes that they spell. -/
theorem read_eq_ok_iff {text : String} {bytes : Bytes} :
    read text = .ok bytes ↔ Spells text bytes := by
  constructor
  · intro hread
    simp only [read] at hread
    split at hread
    · cases hread
    · exact spells_of_readPairs hread
  · intro hspells
    obtain ⟨heven, -, hread⟩ := readPairs_of_spells hspells
    rw [read, if_neg (by omega), hread]

theorem readFixed_eq_ok_iff {size : Nat} {text : String} {fixed : FixedBytes size} :
    readFixed size text = .ok fixed ↔ Spells text fixed.bytes := by
  constructor
  · intro hread
    simp only [readFixed] at hread
    split at hread
    · cases hread
    · split at hread
      · split at hread
        · cases hread
        · rename_i bytes hbytes
          split at hread
          · rename_i same hsame
            cases hread
            rw [← FixedBytes.ofBytes?_eq_some_iff.mp hsame]
            exact spells_of_readPairs hbytes
          · cases hread
      · cases hread
  · intro hspells
    obtain ⟨heven, hlength, hread⟩ := readPairs_of_spells hspells
    rw [fixed.length_eq] at hlength
    simp only [readFixed]
    rw [if_neg (by omega), if_pos hlength, hread]
    simp only [FixedBytes.ofBytes?_bytes]

/-- A text spells at most one byte string. -/
theorem Spells.unique {text : String} {first second : Bytes} (hfirst : Spells text first)
    (hsecond : Spells text second) : first = second := by
  have hread := (read_eq_ok_iff.mpr hfirst).symm.trans (read_eq_ok_iff.mpr hsecond)
  exact Except.ok.inj hread

/-- What is written spells what it was written from. -/
theorem spells_write (bytes : Bytes) : Spells (write bytes) bytes := by
  refine ⟨['0', 'x'], by decide, digits bytes, String.toList_ofList, ?_⟩
  refine (List.map_congr_left fun c hc ↦ ?_).trans (List.map_id _)
  obtain ⟨n, hn, rfl⟩ := exists_digitOf_of_mem_digits hc
  exact toLower_digitOf hn

theorem write_injective : Function.Injective write := fun first second hwrite ↦
  (spells_write first).unique (hwrite ▸ spells_write second)

end Hex

end RollupLedger
