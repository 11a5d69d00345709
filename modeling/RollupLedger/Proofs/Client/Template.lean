import RollupLedger.Client.Balance
import RollupLedger.Proofs.Client.Naming
import RollupLedger.Proofs.Ledger.Reading
import RollupLedger.Proofs.Lists
import RollupLedger.Proofs.Numeral.Decimal

/-!
# The document that asks for a balance

A document is a template that is filled with the checksummed form of an address and with a clause
for a block (`Balance.Fills`). There is one way to fill it (`Balance.Fills.unique`), and it tells
the address and the block that it was filled for (`Balance.document_injective`).
-/

set_option autoImplicit false
set_option relaxedAutoImplicit false

namespace RollupLedger

open Ledger

/-! ### What the document is filled with -/

/-- The form of an address that EIP-55 prescribes: a letter is in the upper case exactly if the
digest of the lower-case digits has a half-byte of at least eight at its place. -/
def Address.IsChecksummed (address : Address) (shown : String) : Prop :=
  ∃ digits : List Char, shown = "0x" ++ String.ofList digits ∧
    digits.map Char.toLower = Hex.digits address.bytes ∧
    digits.Forall₂ (fun c mark ↦ c.isUpper ↔ c.isAlpha ∧ 8 ≤ mark)
      ((halves (Keccak.digest ((Hex.digits address.bytes).map byteOf)).bytes).take 40)

/-- The clause for a block: nothing for the latest one, else its number in as few decimal digits as
there can be, or the 64 lower-case digits of its hash. -/
inductive BlockReference.IsClause : BlockReference → String → Prop
  | latest : IsClause .latest ""
  | byNumber {number : Word 64} {numeral : List Char}
    (hminimal : Numeral.IsMinimal numeral number.toNat) :
    IsClause (.byNumber number) ("number: " ++ String.ofList numeral)
  | byHash {hash : Hash} {digits : List Char} (hlength : digits.length = 64)
    (hlower : ∀ c ∈ digits, c ∈ "0123456789abcdef".toList)
    (hspells : Hex.Spells (String.ofList digits) hash.bytes) :
    IsClause (.byHash hash) ("hash: \"0x" ++ String.ofList digits ++ "\"")

/-- A document is the template, filled for an address and a block. -/
def Balance.Fills (address : Address) (reference : BlockReference) (document : String) : Prop :=
  ∃ clause shown, reference.IsClause clause ∧ address.IsChecksummed shown ∧
    document = "\x7b block(" ++ clause ++ ") \x7b hash number account(address: \"" ++ shown ++
      "\") \x7b balance transactionCount code \x7d \x7d \x7d"

namespace Hex

theorem isUpper_digitOf : ∀ n < 16, (digitOf n).isUpper = false ∧
    (digitOf n).toUpper.isUpper = (digitOf n).toUpper.isAlpha := by
  decide

theorem digitOf_mem_lower : ∀ n < 16, digitOf n ∈ "0123456789abcdef".toList := by
  decide

theorem spells_digits (bytes : Bytes) : Spells (String.ofList (digits bytes)) bytes := by
  refine ⟨[], by decide, digits bytes, String.toList_ofList, ?_⟩
  refine (List.map_congr_left fun c hc ↦ ?_).trans (List.map_id _)
  obtain ⟨n, hn, rfl⟩ := exists_digitOf_of_mem_digits hc
  exact toLower_digitOf hn

theorem toList_toUTF8_digits (bytes : Bytes) :
    (String.ofList (digits bytes)).toUTF8.toList = (digits bytes).map byteOf := by
  rw [toList_toUTF8, String.toList_ofList, flatMap_utf8EncodeChar]
  intro c hc
  obtain ⟨n, hn, rfl⟩ := exists_digitOf_of_mem_digits hc
  exact Numeral.toNat_digitChar_lt n hn

end Hex

theorem Address.forall₂_zipWith (digits : List Char) (marks : List Nat)
    (hdigits : ∀ c ∈ digits, ∃ n < 16, c = Hex.digitOf n) (hmarks : digits.length ≤ marks.length) :
    (List.zipWith (fun c mark ↦ if 8 ≤ mark then c.toUpper else c) digits marks).Forall₂
      (fun c mark ↦ c.isUpper ↔ c.isAlpha ∧ 8 ≤ mark) (marks.take digits.length) := by
  induction digits generalizing marks with
  | nil => exact .nil
  | cons c rest ih =>
    cases marks with
    | nil => simp at hmarks
    | cons mark others =>
      obtain ⟨n, hn, rfl⟩ := hdigits c List.mem_cons_self
      obtain ⟨hlower, hupper⟩ := Hex.isUpper_digitOf n hn
      have hrest := ih others (fun d hd ↦ hdigits d (List.mem_cons_of_mem _ hd))
        (Nat.le_of_succ_le_succ hmarks)
      refine .cons ?_ hrest
      by_cases hmark : 8 ≤ mark
      · simp [hmark, hupper]
      · simp [hmark, hlower]

theorem Address.isChecksummed_checksummed (address : Address) :
    address.IsChecksummed address.checksummed := by
  have hdigits (c : Char) (hc : c ∈ Hex.digits address.bytes) := Hex.exists_digitOf_of_mem_digits hc
  have hlength : (Hex.digits address.bytes).length = 40 := by
    rw [Hex.length_digits, address.length_eq]
  have hmarks : (Hex.digits address.bytes).length ≤
      (halves (Keccak.digest ((Hex.digits address.bytes).map byteOf)).bytes).length := by
    rw [hlength, length_halves, FixedBytes.length_eq]
    decide
  refine ⟨_, ?_, map_toLower_zipWith _ _ hdigits hmarks, ?_⟩
  · rw [checksummed, Hex.toList_toUTF8_digits, ← String.toList_inj, String.toList_append]
    simp only [String.toList_ofList]
    rfl
  · rw [← hlength]
    exact forall₂_zipWith _ _ hdigits hmarks

theorem BlockReference.isClause_clause (reference : BlockReference) :
    reference.IsClause (Balance.clause reference) := by
  cases reference with
  | latest => exact .latest
  | byNumber number =>
    rw [Balance.clause, ← String.ofList_toList (s := number.toDecimal), Amount.toList_toDecimal]
    exact .byNumber (Numeral.isMinimal_toDigits _)
  | byHash hash =>
    have hclause : Balance.clause (.byHash hash) =
        "hash: \"0x" ++ String.ofList (Hex.digits hash.bytes) ++ "\"" := by
      rw [← String.toList_inj]
      simp only [Balance.clause, FixedBytes.hex, Hex.write, String.toList_append,
        String.toList_ofList]
      rfl
    rw [hclause]
    refine .byHash ?_ (fun c hc ↦ ?_) (Hex.spells_digits _)
    · rw [Hex.length_digits, hash.length_eq]
    · obtain ⟨n, hn, rfl⟩ := Hex.exists_digitOf_of_mem_digits hc
      exact Hex.digitOf_mem_lower n hn

/-! ### There is one way to fill it -/

namespace Hex

/-- A character that is a digit in either case is told by the digit and by its case. -/
theorem eq_of_toLower_digitOf : ∀ n < 128, ∀ d < 16, (Char.ofNat n).toLower = digitOf d →
    (Char.ofNat n).isAlpha = (digitOf d).isAlpha ∧
      Char.ofNat n = if (Char.ofNat n).isUpper then (digitOf d).toUpper else digitOf d := by
  decide +kernel

theorem eq_of_toLower_eq {c other : Char} {d : Nat} (hd : d < 16) (hc : c.toLower = digitOf d)
    (hother : other.toLower = digitOf d) {P : Prop} (hcase : c.isUpper ↔ c.isAlpha ∧ P)
    (hlike : other.isUpper ↔ other.isAlpha ∧ P) : c = other := by
  have hchar {c : Char} (hc : c.toLower = digitOf d) := by
    have hbelow := eq_of_toLower_digitOf c.toNat (Numeral.lt_of_toLower_eq hd hc) d hd
    rw [Char.ofNat_toNat] at hbelow
    exact hbelow hc
  obtain ⟨halpha, hfirst⟩ := hchar hc
  obtain ⟨halpha', hsecond⟩ := hchar hother
  have hupper : c.isUpper = other.isUpper := by
    rw [Bool.eq_iff_iff, hcase, hlike, halpha, halpha']
  rw [hfirst, hsecond, hupper]

/-- Digits with the same marks for their cases are the same. -/
theorem eq_of_forall₂_case {cs others : List Char} {marks : List Nat}
    (hdigits : ∀ c ∈ cs, ∃ d < 16, c.toLower = digitOf d)
    (hlower : cs.map Char.toLower = others.map Char.toLower)
    (hcase : cs.Forall₂ (fun c mark ↦ c.isUpper ↔ c.isAlpha ∧ 8 ≤ mark) marks)
    (hlike : others.Forall₂ (fun c mark ↦ c.isUpper ↔ c.isAlpha ∧ 8 ≤ mark) marks) :
    cs = others := by
  induction hcase generalizing others with
  | nil =>
    cases hlike
    rfl
  | cons hfirst _ ih =>
    cases hlike with
    | cons hother hrest =>
      obtain ⟨⟨d, hd, hc⟩, hdigits⟩ := List.forall_mem_cons.mp hdigits
      rw [List.map_cons, List.map_cons, List.cons.injEq] at hlower
      rw [eq_of_toLower_eq hd hc (hlower.1.symm.trans hc) hfirst hother,
        ih hdigits hlower.2 hrest]

/-- Lower-case digits without a mark spell bytes only as their digits. -/
theorem eq_digits_of_spells {cs : List Char} {bytes : Bytes}
    (hlength : cs.length = 2 * bytes.length) (hlower : ∀ c ∈ cs, c ∈ "0123456789abcdef".toList)
    (hspells : Spells (String.ofList cs) bytes) : cs = digits bytes := by
  obtain ⟨mark, -, body, hsplit, hbody⟩ := hspells
  rw [String.toList_ofList] at hsplit
  have hshort : mark = [] := by
    have hdigits := congrArg List.length hbody
    rw [List.length_map, length_digits] at hdigits
    rw [hsplit, List.length_append] at hlength
    exact List.eq_nil_of_length_eq_zero (by omega)
  rw [hshort, List.nil_append] at hsplit
  have hstays : "0123456789abcdef".toList.map Char.toLower = "0123456789abcdef".toList.map id := by
    decide
  rw [← hbody, ← hsplit,
    List.map_congr_left fun c hc ↦ List.map_inj_left.mp hstays c (hlower c hc), List.map_id]

end Hex

theorem Address.IsChecksummed.unique {address : Address} {shown other : String}
    (hshown : address.IsChecksummed shown) (hother : address.IsChecksummed other) :
    shown = other := by
  obtain ⟨digits, rfl, hlower, hcase⟩ := hshown
  obtain ⟨digits', rfl, hlower', hlike⟩ := hother
  have hdigits : ∀ c ∈ digits, ∃ d < 16, c.toLower = Hex.digitOf d := fun c hc ↦
    Hex.exists_digitOf_of_mem_digits (hlower ▸ List.mem_map_of_mem hc)
  rw [Hex.eq_of_forall₂_case hdigits (hlower.trans hlower'.symm) hcase hlike]

theorem BlockReference.IsClause.unique {reference : BlockReference} {clause other : String}
    (hclause : reference.IsClause clause) (hother : reference.IsClause other) :
    clause = other := by
  cases hclause with
  | latest =>
    cases hother
    rfl
  | byNumber hminimal =>
    cases hother with
    | byNumber hlike => rw [hminimal.eq_toDigits, hlike.eq_toDigits]
  | @byHash hash _ hlength hlower hspells =>
    cases hother with
    | byHash hlength' hlower' hspells' =>
      have hsize : 64 = 2 * hash.bytes.length := by rw [hash.length_eq]
      rw [Hex.eq_digits_of_spells (hlength.trans hsize) hlower hspells,
        Hex.eq_digits_of_spells (hlength'.trans hsize) hlower' hspells']

namespace Balance

theorem Fills.unique {address : Address} {reference : BlockReference} {document other : String}
    (hfills : Fills address reference document) (hother : Fills address reference other) :
    document = other := by
  obtain ⟨clause, shown, hclause, hshown, rfl⟩ := hfills
  obtain ⟨clause', shown', hclause', hshown', rfl⟩ := hother
  rw [hclause.unique hclause', hshown.unique hshown']

theorem fills_document (address : Address) (reference : BlockReference) :
    Fills address reference (document address reference) :=
  ⟨_, _, reference.isClause_clause, address.isChecksummed_checksummed, rfl⟩

/-! ### What the document tells -/

/-- The kind of a reference is told by the first character of its clause. -/
theorem head?_clause (reference : BlockReference) :
    (clause reference).toList.head? =
      match reference with
      | .latest => none
      | .byNumber _ => some 'n'
      | .byHash _ => some 'h' := by
  cases reference <;> simp [clause]

theorem clause_injective : Function.Injective clause := by
  intro first second hclause
  have hhead := congrArg (fun text ↦ text.toList.head?) hclause
  simp only [head?_clause] at hhead
  have hchars := congrArg String.toList hclause
  cases first with
  | latest =>
    cases second with
    | latest => rfl
    | _ => cases hhead
  | byNumber number =>
    cases second with
    | byNumber other =>
      simp only [clause, String.toList_append, List.append_right_inj, Amount.toList_toDecimal]
        at hchars
      have hdenoted := congrArg (Nat.ofDigitChars 10 · 0) hchars
      simp only [Nat.ofDigitChars_ten_toDigits] at hdenoted
      rw [Word.ext hdenoted]
    | _ => cases hhead
  | byHash hash =>
    cases second with
    | byHash other =>
      simp only [clause, String.toList_append, List.append_left_inj, List.append_right_inj,
        String.toList_inj] at hchars
      rw [FixedBytes.ext (Hex.write_injective hchars)]
    | _ => cases hhead

/-- A clause ends where the template goes on. -/
theorem not_mem_clause (reference : BlockReference) : ')' ∉ (clause reference).toList := by
  intro hmem
  cases reference with
  | latest => cases hmem
  | byNumber number =>
    rw [clause, String.toList_append, Amount.toList_toDecimal] at hmem
    rcases List.mem_append.mp hmem with hmem | hmem
    · revert hmem
      decide
    · exact absurd (Nat.isDigit_of_mem_toDigits (by decide) (by decide) hmem) (by decide)
  | byHash hash =>
    have hdigits : ')' ∉ Hex.digits hash.bytes := fun hdigit ↦ by
      obtain ⟨n, hn, heq⟩ := Hex.exists_digitOf_of_mem_digits hdigit
      exact absurd (heq ▸ Hex.digitOf_mem_lower n hn) (by decide)
    revert hmem
    simp [clause, FixedBytes.hex, Hex.write, hdigits]

/-- A document tells which address and which block it was made for. -/
theorem document_injective {address other : Address} {reference another : BlockReference}
    (hsame : document address reference = document other another) :
    address = other ∧ reference = another := by
  have hmiddle : ") \x7b hash number account(address: \"".toList =
      ')' :: " \x7b hash number account(address: \"".toList := by
    simp
  have hchars := congrArg String.toList hsame
  simp only [document, String.toList_append, List.append_assoc, List.append_right_inj, hmiddle,
    List.cons_append] at hchars
  obtain ⟨hclause, hrest⟩ :=
    append_cons_inj (not_mem_clause reference) (not_mem_clause another) hchars
  rw [List.append_right_inj, List.append_left_inj] at hrest
  exact ⟨Address.checksummed_injective (String.toList_inj.mp hrest),
    clause_injective (String.toList_inj.mp hclause)⟩

end Balance

end RollupLedger
